import FlowBindings.ObjectModel.Interface
import FlowBindings.TestData

/-!
# The object model

The object model of a protocol: its interfaces, the classes that implement them in
each version, and the factories that make objects. Interfaces are found by name;
where two have one name, the first stands for both.
-/

namespace FlowBindings.ObjectModel

open Text

structure Library where
  model : Model
  versions : List Version
  interfaces : List Interface
  /-- The enums, or the reason why there are none. -/
  enums : Outcome (List EnumType)

/-- A class that implements an interface in one version. -/
structure Implementation where
  interface : Interface
  version : Version
  source : Class

namespace Library

def omittedInterfaces : List String := ["OFUint8", "OFUint32"]

def build (m : Model) (targets : List Version) : Outcome Library := do
  let all ← m.unified.classes.mapM (Interface.build m.unified)
  let versions := targets.eraseDups
  pure
    { model := m, versions
      interfaces := all.filter fun i => !omittedInterfaces.contains i.name
      enums := enumsOf m versions }

variable (l : Library) (i : Interface)

def interface? (name : String) : Option Interface :=
  l.interfaces.find? fun i => eraseParameters i.name = eraseParameters name

def enum (name : String) : Outcome EnumType := do
  orFault ((← l.enums).find? (·.name = name)) (.noEntry name)

/-! ## Interfaces -/

def above? : Option Interface :=
  (i.parent.filter (!·.isEmpty)).bind l.interface?

/-- Whether an interface is another one or lies below it, as far as `fuel` steps
tell. -/
def isBelow (l : Library) (i : Interface) (other : Option Interface) : (fuel : Nat) → Bool
  | 0 => false
  | n + 1 =>
    other.any (·.source.name = i.source.name)
      || (l.above? i).any fun up => l.isBelow up other n

def isInstanceOf (other : Option Interface) : Bool :=
  l.isBelow i other (l.interfaces.length + 1)

def isUniversal : Bool := i.versions.length = l.versions.length

def requestParents : List String :=
  if l.model.unified.isMessage i.source.name && !i.isVirtual then
    if endsWith i.name "Request" then
      let reply := dropLast 7 i.name ++ "Reply"
      if (l.interface? reply).isSome then ["OFRequest<" ++ reply ++ ">"] else []
    else if i.name = "OFBundleCtrlMsg" then ["OFRequest<OFBundleCtrlMsg>"]
    else []
  else []

def parents : List String :=
  "OFObject" :: ((i.parent.filter (!·.isEmpty)).toList ++ l.requestParents i)

/-- Whether builders have a method that sets a property, as far as `fuel` steps tell:
it may be set here or in an interface above. -/
def needsSetterWithin (l : Library) (i : Interface) (p : Property) : (fuel : Nat) → Outcome Bool
  | 0 => pure false
  | n + 1 => do
    if i.isWriteable p then return true
    match l.above? i with
    | none => pure false
    | some up =>
      match ← up.property? p.name with
      | some q => l.needsSetterWithin up q n
      | none => pure false

def needsSetter (p : Property) : Outcome Bool :=
  l.needsSetterWithin i p (l.interfaces.length + 1)

/-! ## Entries of matches and statistics -/

/-- An entry of a match or of statistics. -/
structure EntryKind where
  type : String
  constant : String
  isMasked : Bool
  deriving DecidableEq, Repr

def entries (above : String) : Outcome (Table String EntryKind) :=
  (l.interfaces.filter (·.source.isSubclassOf above)).foldlM (fun t i => do
    let value ← orFault (← i.property? "value") (.noProperty "java_type")
    let unmasked := trimTail i.source.name "_masked"
    pure (t.set i.name
      { type := value.type.pub
        constant := upper (trimLead unmasked (above ++ "_"))
        isMasked := endsWith i.source.name "_masked" })) []

def matchEntries : Outcome (Table String EntryKind) := l.entries "of_oxm"

def statEntries : Outcome (Table String EntryKind) := l.entries "of_oxs"

end Library

def Interface.implementation (i : Interface) (v : Version) : Outcome Implementation := do
  pure ⟨i, v, ← orFault (i.source.versions.get? v) (.noEntry v.dotted)⟩

def Interface.implementations (i : Interface) : List Implementation :=
  i.source.versions.map fun (v, c) => ⟨i, v, c⟩

def Library.classes (l : Library) : List Implementation := l.interfaces.flatMap (·.implementations)

end FlowBindings.ObjectModel
