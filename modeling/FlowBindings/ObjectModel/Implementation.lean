import FlowBindings.ObjectModel.Library

/-!
# Classes

A class implements an interface in one version. Its members are those of the class
on the wire, padding and lengths included, and the derived properties of its
version. The value of a property may be fixed: by the declaration, because it is the
version, or because it is the length of a class whose objects all have one.
-/

namespace FlowBindings.ObjectModel

open Text

namespace Implementation

variable (c : Implementation) (l : Library) (p : Property)

def name : String := c.interface.name ++ "Ver" ++ c.version.digits

def variableName : String := lowerFirst (dropFirst 2 c.name)

def constantName : String := Interface.constantNameOf c.source.name

def packageOf (v : Version) : String := basePackage ++ ".ver" ++ v.digits

def package : String := packageOf c.version

def isVirtual : Bool := c.source.isVirtual

def isFixedLength : Bool := c.source.isFixedLength && !c.isVirtual

def minLength : Nat := c.source.baseLength

def length : Outcome Nat :=
  if c.isFixedLength then pure c.minLength
  else throw (.refused ("No fixed length for class " ++ c.name ++ ", version " ++ c.version.dotted))

def align : Outcome Int :=
  match c.source.params.get? "align" with
  | none => pure 0
  | some text =>
    orFault (readInt? 10 text)
      (.badValue ("invalid literal for int() with base 10: " ++ Text.quoted text))

def lengthIncludesAlign : Bool :=
  c.source.params.get? "length_includes_align" = some "True"

def isGenerated : Bool :=
  startsWith c.interface.name "OFMatchV" || startsWith c.interface.name "OFStatV"
    || c.name ≠ "OFTableModVer10"

/-! ## Members -/

def wireParts (u : Unified) (c : Implementation) : List Part :=
  c.source.members.map fun
    | .pad length _ => .pad length
    | .field f => .property (.ofField u c.source.name f)

def reports (u : Unified) (c : Implementation) : List String :=
  c.source.fields.filterMap (Property.report? u c.source.name)

def entryParts (interface : String) (entries : Outcome (Table String Library.EntryKind))
    (field enum : String) (fieldType : String → FieldType) (known : List Property) :
    Outcome (List Property) := do
  match known.find? (!·.name.isEmpty) with
  | some first =>
    let entry ← orFault ((← entries).get? interface) (.noEntry interface)
    pure [{ name := field, type := fieldType first.type.pub, value := some (enum ++ "." ++ entry.constant) },
      { name := "masked", type := .boolean, value := some (if entry.isMasked then "true" else "false") }]
  | none =>
    pure [{ name := field, type := fieldType "?", value := some "null" },
      { name := "masked", type := .boolean, value := some "false" }]

def versionConstant (v : Version) : String := "OFVersion.OF_" ++ v.digits

def parts (c : Implementation) : Outcome (List Part) := do
  let wire := c.wireParts l.model.unified
  let known := wire.filterMap Part.property?
  let own ←
    if c.source.isSubclassOf "of_oxm" then
      entryParts c.interface.name l.matchEntries "matchField" "MatchField" (.matchField ·) known
    else if c.source.isSubclassOf "of_oxs" then
      entryParts c.interface.name l.statEntries "statField" "StatField" (.statField ·) known
    else pure []
  let version :=
    if known.any (·.name = "version") then []
    else [{ name := "version", type := .protocolVersion, value := some (versionConstant c.version) }]
  pure (wire ++ (own ++ version).map .property)

def properties (c : Implementation) : Outcome (List Property) := do
  pure ((← c.parts l).filterMap Part.property?)

def property? (c : Implementation) (name : String) : Outcome (Option Property) := do
  pure ((← c.properties l).find? (·.name = name))

def dataProperties (c : Implementation) : Outcome (List Property) := do
  pure ((← c.properties l).filter (·.isData))

/-! ## Values -/

def namesLength : Bool := p.name = "length" || p.name = "len"

def isFixed : Bool :=
  p.isVirtual || p.isDeclared || p.name = "version" || (namesLength p && c.isFixedLength)

def declaredValue (isPublic : Bool) : Outcome Value := do
  let value ← orFault (p.field.bind (·.fixedValue?)) (.noProperty "value")
  p.type.formatValue (.nat value) isPublic

def value : Outcome Value :=
  if p.isVirtual then pure (.opt .text p.value)
  else if p.name = "version" then pure (.nat c.version.wire)
  else if namesLength p then do pure (.nat (← c.length))
  else declaredValue p true

def privateValue : Outcome Value :=
  if p.isVirtual then pure (.opt .text p.value)
  else if p.name = "version" then p.type.formatValue (.nat c.version.wire) false
  else if namesLength p then do p.type.formatValue (.nat (← c.length)) false
  else declaredValue p false

/-- The value of a property, by the name of the constant if its type is an enum that
has one. -/
def namedValue (c : Implementation) (p : Property) : Outcome Value :=
  if p.name = "version" then pure (.text (versionConstant c.version))
  else
    match l.enum p.type.pub with
    | .error (.noEntry _) => c.value p
    | .error e => throw e
    | .ok e => do
      let value ← c.value p
      match e.constantWith c.version value with
      | .ok constant => pure (.text (e.name ++ "." ++ constant.name))
      | .error _ => pure value

def defaultName : String :=
  if c.isFixed p then p.constantName else "DEFAULT_" ++ p.constantName

def defaultValue (c : Implementation) (p : Property) : Outcome Value := do
  if c.isFixed p then c.namedValue l p
  else
    let text ← p.type.defaultOp c.version
    pure (if text = "null" then .null else .text text)

/-! ## Relations -/

def subclasses (c : Implementation) : List Implementation :=
  l.classes.filter fun d => d.version = c.version && d.source.superclass? = some c.source.name

end Implementation

/-! ## Unit tests -/

/-- A test of a class with the data of a file. -/
structure UnitTest where
  tested : Implementation
  file : String
  name : String

namespace UnitTest

def stem (c : Implementation) : String := "of" ++ c.version.digits ++ "/" ++ dropFirst 3 c.source.name

def first (c : Implementation) : UnitTest := ⟨c, stem c ++ ".data", c.name ++ "Test"⟩

def labelRegex : Regex := .ofText {} ".*__(.*).data"

/-- The further tests of a class: each is named for the label of its file, or
numbered if the file has none. -/
def further (c : Implementation) (number : Nat) : List String → List UnitTest
  | [] => []
  | file :: rest =>
    match (labelRegex.matchStart? file).bind (·.group? 1) with
    | some label => ⟨c, file, c.name ++ capsName label ++ "Test"⟩ :: further c number rest
    | none => ⟨c, file, c.name ++ toString number ++ "Test"⟩ :: further c (number + 1) rest

def all (data : Directory) (c : Implementation) : List UnitTest :=
  (if data.contains (first c).file then [first c] else [])
    ++ further c 1 (data.glob (stem c ++ "__*.data"))

end UnitTest

end FlowBindings.ObjectModel
