import FlowBindings.ObjectModel.FieldType
import FlowBindings.Value.Call
import FlowBindings.Value.Key
import FlowBindings.Value.Read

/-!
# Types given by a description

A type of the object model as a record describes it, with expressions of any kind. An
expression that is no text is only noticed when it is used.
-/

namespace FlowBindings.ObjectModel

open Value

def anyVersion : Int := 18446744073709551615

def operationParameters : List Parameter :=
  [("version", some (int anyVersion)), ("read", some null), ("write", some null),
   ("default", some null), ("funnel", some null)]

def describeOperations (args : List Value) : Outcome String := do
  let (values, _, _) ← (Parameters.mk operationParameters false false).bind args []
  match values with
  | [version, read, write, default, funnel] =>
    pure ("[Version: " ++ toString (← version.asInt) ++ ", Read: '" ++ read.shown ++ "', Write: '"
      ++ write.shown ++ "', Default: '" ++ default.shown ++ "', Funnel: '" ++ funnel.shown ++ "' ]")
  | _ => throw (.wrongKind "argument")

structure TypeSpec where
  pub : Value
  priv : Value
  /-- The expressions, by version and side. -/
  operations : Table (Key × Key) (Table String Value) := []

namespace TypeSpec

def sides : Option Value → List Value
  | none => [bool false, bool true]
  | some side => [side]

variable (t : TypeSpec) (v : Option Version) (isPublic : Bool) (name : String)

def addOperations (v : Value) : Outcome TypeSpec := do
  let fields ← match v with
    | record fields => pure fields
    | _ => throw (.wrongKind "record")
  let (values, _, _) ←
    (Parameters.mk operationParameters false false).bind [] (Table.erase fields "pub_type")
  let given := (operationParameters.map (·.1)).zip values
  let version ← (values.head?.getD null).key
  (sides (Table.get? fields "pub_type")).foldlM (fun t side => do
    pure { t with operations := t.operations.set (version, ← side.key) given }) t

/-- The type that a record describes: its public and private type, and the expressions
given for versions and sides. -/
def ofValue (v : Value) : Outcome TypeSpec := do
  let pub ← v.entry "pub"
  let priv := match v.field? "priv" with
    | some null | none => pub
    | some p => p
  let t ← (← ((v.field? "ops").getD (list [])).elements).foldlM addOperations ⟨pub, priv, []⟩
  pure ((v.field? "set_priv").elim t fun p => { t with priv := p })

def side : Value := if isPublic then t.pub else t.priv

def primitive? : Outcome (Option Primitive) := do
  match ← (t.side isPublic).key with
  | .text name => pure (Primitive.ofName? name)
  | _ => pure none

def isArray : Outcome Bool :=
  match t.pub with
  | text s => pure (Text.endsWith s "[]")
  | _ => throw (.noProperty "endswith")

/-- The expression for a version: what is said for the version, else for all versions, else
the one given. -/
def operation (v : Option Version) (isPublic : Bool)
    (places : List (String × String)) (otherwise : String) : Outcome String := do
  let v ← orFault v (.noProperty "dotless_version")
  let said (version : Int) : Option Value :=
    ((t.operations.get? (.number version, .number (if isPublic then 1 else 0))).bind
      fun given => Table.get? given name).filter isTrue
  match ((said v.wire).or (said anyVersion)).getD (text otherwise) with
  | text s => pure (FieldType.fillPlaces (places ++ [("version", v.digits)]) s)
  | _ => throw (.noProperty "replace")

def readOp (length : String := FieldType.remainingLength) : Outcome String :=
  t.operation "read" v isPublic [("length", length)] ("ChannelUtilsVer$version.read" ++ t.pub.shown ++ "(bb)")

def writeOp : Outcome String :=
  t.operation "write" v isPublic [("name", name)]
    ("ChannelUtilsVer$version.write" ++ t.pub.shown ++ "(bb, $name)")

def defaultOp : Outcome String := do
  let zero ← match ← t.primitive? true with
    | some p => do pure (← Literal.ofValue p (int 0)).render
    | none => pure "null"
  t.operation "default" v isPublic [] zero

def funnelOp : Outcome String := do
  let otherwise := match ← t.primitive? isPublic with
    | some p => "sink.put" ++ upperFirst p.name ++ "($name)"
    | none => "$name.putTo(sink)"
  t.operation "funnel" v isPublic [("name", name)] otherwise

/-- A type with its expressions for a version. Without a version there are no expressions. -/
def inspect : Outcome Value := do
  let both (name : String) (f : Bool → Outcome String) : List (String × Value) :=
    [(name ++ "_pub", answer text (f true)), (name ++ "_priv", answer text (f false))]
  pure (record ([("public_type", t.pub), ("priv_type", t.priv), ("has_priv", bool !(t.pub.equal t.priv)),
    ("is_primitive", bool (← t.primitive? true).isSome), ("is_array", bool (← t.isArray))]
    ++ both "read" (t.readOp v ·) ++ both "read_len" (t.readOp v · "LEN") ++ both "write" (t.writeOp v · "NAME")
    ++ both "default" (t.defaultOp v ·) ++ both "funnel" (t.funnelOp v · "NAME")
    ++ [("skip", answer text (t.readOp v true))]))

end TypeSpec

def describeEnum (name isSet : Value) : Outcome FieldType :=
  if isSet.isTrue then pure (.ofEnum name.shown true)
  else
    match name with
    | text s => pure (.ofEnum s)
    | list _ | record _ => throw (.wrongKind "name")
    | _ => throw (.noProperty "endswith")

def describeFamily (family : String → FieldType) : List Value → Outcome FieldType
  | [] => pure (family "?")
  | [name] => pure (family name.shown)
  | _ => throw (.wrongKind "argument")

end FlowBindings.ObjectModel
