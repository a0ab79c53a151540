import FlowBindings.ObjectModel.Literal
import FlowBindings.ObjectModel.Naming

/-!
# Types of the object model

A property has a public type, which its accessors show, and a private one, in which
it may be kept. For both there are expressions that read a value from a buffer,
write it, give a default and feed it to a hash. They may differ between versions;
what is said for a version goes before what is said for all.

Expressions are texts with places for the name of the value, its length and the
version.
-/

namespace FlowBindings.ObjectModel

open Text

/-- The expressions for values of a type; an empty one counts as none. -/
structure Operations where
  read : Option String := none
  write : Option String := none
  /-- Gives a value where none is set. -/
  default : Option String := none
  funnel : Option String := none
  deriving DecidableEq, Repr

structure FieldType where
  pub : String
  priv : String
  /-- The expressions by version, or for all, and by whether they are for the public
  type. -/
  operations : Table (Option Int × Bool) Operations
  deriving DecidableEq, Repr

namespace FieldType

variable (t : FieldType) (v : Version) (name pub : String)

def plain : FieldType := ⟨pub, pub, []⟩

def stored (priv : String) : FieldType := ⟨pub, priv, []⟩

def withOps (o : Operations) (version : Option Int := none)
    (isPublic : Option Bool := none) : FieldType :=
  let sides := isPublic.elim [false, true] fun b => [b]
  { t with operations := sides.foldl (fun ops side => ops.set (version, side) o) t.operations }

def side (isPublic : Bool) : String := if isPublic then t.pub else t.priv

def hasPrivate : Bool := t.pub ≠ t.priv

def primitive? (isPublic : Bool := true) : Option Primitive :=
  Primitive.ofName? (t.side isPublic)

def isPrimitive (isPublic : Bool := true) : Bool := (t.primitive? isPublic).isSome

def isArray (isPublic : Bool := true) : Bool := endsWith (t.side isPublic) "[]"

/-- A value of the type as it stands in the code: a literal if the type is primitive,
and the value itself otherwise. -/
def formatValue (v : Value) (isPublic : Bool := true) : Outcome Value :=
  match t.primitive? isPublic with
  | some p => do pure (.text (← Literal.ofValue p v).render)
  | none => pure v

/-- The expression for a version: what is said for the version, else for all
versions, else the one given. -/
def operation (pick : Operations → Option String) (v : Version) (isPublic : Bool)
    (otherwise : String) : String :=
  let said (version : Option Int) : Option String :=
    ((t.operations.get? (version, isPublic)).bind pick).filter (!·.isEmpty)
  ((said (some v.wire)).or (said none)).getD otherwise

def fillPlaces (places : List (String × String)) (s : String) : String :=
  places.foldl (fun s (name, value) => Text.replace s ("$" ++ name) value) s

def remainingLength : String := "length - (bb.readerIndex() - start)"

def readOp (isPublic : Bool := true) (length : String := remainingLength) :
    String :=
  fillPlaces [("length", length), ("version", v.digits)]
    (t.operation (·.read) v isPublic ("ChannelUtilsVer$version.read" ++ t.pub ++ "(bb)"))

def skipOp (length : String := remainingLength) : String :=
  t.readOp v true length

def writeOp (isPublic : Bool := true) : String :=
  fillPlaces [("name", name), ("version", v.digits)]
    (t.operation (·.write) v isPublic ("ChannelUtilsVer$version.write" ++ t.pub ++ "(bb, $name)"))

def defaultOp (isPublic : Bool := true) : Outcome String := do
  let zero ← if t.isPrimitive then do pure (← t.formatValue (.int 0)).shown else pure "null"
  pure (fillPlaces [("version", v.digits)] (t.operation (·.default) v isPublic zero))

def funnelOp (isPublic : Bool := true) : String :=
  let otherwise :=
    if t.isPrimitive isPublic then "sink.put" ++ upperFirst (t.side isPublic) ++ "($name)"
    else "$name.putTo(sink)"
  fillPlaces [("name", name), ("version", v.digits)] (t.operation (·.funnel) v isPublic otherwise)

/-! ## Families of types -/

def ofEnum (isSet : Bool := false) : FieldType :=
  let serializer := name ++ "SerializerVer$version"
  (plain (if isSet then "Set<" ++ name ++ ">" else name)).withOps
    { read := some (serializer ++ ".readFrom(bb)")
      write := some (serializer ++ ".writeTo(bb, $name)")
      default := some (if isSet then "ImmutableSet.<" ++ name ++ ">of()" else "null")
      funnel := some (serializer ++ ".putTo($name, sink)") }

def listOf (priv element reader : String) : FieldType :=
  (stored pub priv).withOps
    { read := some ("ChannelUtils.readList(bb, $length, " ++ reader ++ ")")
      write := some "ChannelUtils.writeList(bb, $name)"
      default := some ("ImmutableList.<" ++ element ++ ">of()")
      funnel := some "FunnelUtils.putList($name, sink)" }

def ofList (element : String) : FieldType :=
  let pub := "List<" ++ element ++ ">"
  listOf pub pub element (element ++ "Ver$version.READER")

def ofFixedText (length : String) : FieldType :=
  (plain "String").withOps
    { read := some ("ChannelUtils.readFixedLengthString(bb, " ++ length ++ ")")
      write := some ("ChannelUtils.writeFixedLengthString(bb, $name, " ++ length ++ ")")
      default := some "\"\""
      funnel := some "sink.putUnencodedChars($name)" }

def matchField (value : String := "?") : FieldType := plain ("MatchField<" ++ value ++ ">")

def statField (value : String := "?") : FieldType := plain ("StatField<" ++ value ++ ">")

def oxm (value : String := "?") : FieldType := plain ("OFOxm<" ++ value ++ ">")

def oxs (value : String := "?") : FieldType := plain ("OFOxs<" ++ value ++ ">")

end FieldType

end FlowBindings.ObjectModel
