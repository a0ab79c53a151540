import FlowBindings.ObjectModel.EnumType
import FlowBindings.ObjectModel.Property

/-!
# Interfaces

For each class of the unified protocol there is an interface, which all versions
share. Its properties are those of all versions, without lengths and padding; a
property must have the same type in every version.

Entries of matches and statistics know the type of their values, requests for
statistics the type of their replies: their interfaces have type parameters.
-/

namespace FlowBindings.ObjectModel

open Text

structure Interface where
  source : Unified.Class
  name : String
  package : String
  /-- The interface it extends, or an empty text if there is none; no text at all if
  it would be the interface itself. -/
  parent : Option String
  parameter : Option String
  /-- Its properties, or the reason why versions do not agree on them. -/
  properties : Outcome (List Property)

namespace Interface

variable (i : Interface) (u : Unified) (name : String) (c : Unified.Class) (p : Property)

def variableNameOf : Outcome String :=
  if name.length < 3 then throw .noElement else pure (lowerFirst (dropFirst 2 name))

def variableName : String := lowerFirst (dropFirst 2 i.name)

def titleName : String := upperFirst i.variableName

def constantNameOf : String := Text.replace (upper name) "OF_" ""

def constantName : String := constantNameOf i.source.name

def versions : List Version := i.source.versions.keys

/-- Whether an interface only stands for others: some always do, and those whose
classes do in all versions. -/
def isVirtual : Bool :=
  ["OFOxm", "OFInstruction", "OFFlowMod", "OFBsnVport", "OFOxs"].contains i.name
    || i.source.versions.all fun (_, c) => c.isVirtual

def declaration (type : String := "?") : String :=
  if (i.parameter.getD "").isEmpty then i.name else i.name ++ "<" ++ type ++ ">"

def typeVariable : String := if (i.parameter.getD "").isEmpty then "" else "<T>"

def property? : Outcome (Option Property) := do
  pure ((← i.properties).find? (·.name = name))

def readOnly : Table String (List String) :=
  [("OFOxm", ["typeLen"]), ("OFOxs", ["typeLen"]), ("OFAction", ["type"]), ("OFInstruction", ["type"]),
   ("OFFlowMod", ["command"]), ("OFExperimenter", ["data", "subtype"]),
   ("OFActionExperimenter", ["data"]), ("OFBsnTlv", ["type"])]

def isWriteable : Bool :=
  p.isData && !((readOnly.get? i.name).getD []).contains p.name

def writeable : Outcome (List Property) := do
  pure ((← i.properties).filter i.isWriteable)

def isUniversal : Bool :=
  p.isVirtual || i.source.versions.all fun (_, c) => (c.field? p.fieldName).isSome

/-- Whether the value of a property is fixed. A length cannot tell, for an interface
has none. -/
def isFixed : Outcome Bool :=
  if p.isVirtual || p.isDeclared || p.name = "version" then pure true
  else if p.name = "length" || p.name = "len" then throw (.noProperty "is_fixed_length")
  else pure false

/-! ## Properties -/

def omittedProperties : Table String (List String) :=
  [("OFExperimenter", ["data", "subtype"]), ("OFActionExperimenter", ["data"]),
   ("OFExperimenterStatsRequest", ["data", "subtype"]),
   ("OFExperimenterStatsReply", ["data", "subtype"]), ("OFInstructionExperimenter", ["data"])]

def shownFields (c : Class) : List Field :=
  c.fields.filter fun f => match f.role with
    | .length => false
    | .fieldLength _ => false
    | _ => true

def addProperty (interface : String) (v : Version) (known : Table String (Version × Property))
    (added : Field × Property) : Outcome (Table String (Version × Property)) :=
  let (f, p) := added
  match known.get? f.name with
  | none => pure (known.set f.name (v, p))
  | some (w, q) =>
    if q.type.pub = p.type.pub then pure known
    else throw (.refused ("Error constructing interface " ++ interface
      ++ ": type signatures do not match up between versions.\n Member Name: " ++ q.name
      ++ "\n Existing: Version=" ++ w.dotted ++ ", Java=" ++ q.type.pub
      ++ ", IR=" ++ q.field.elim "" (·.type) ++ "\n New:      Version=" ++ v.dotted
      ++ ", Java=" ++ p.type.pub ++ ", IR=" ++ f.type))

def fieldProperties : Outcome (List Property) := do
  let known : Table String (Version × Property) ← c.versions.foldlM (fun known (v, versionClass) =>
    (shownFields versionClass).foldlM (fun known f =>
      addProperty name v known (f, .ofField u c.name f)) known) []
  let omitted := (omittedProperties.get? name).getD []
  pure ((known.values.map (·.2)).filter fun p => !omitted.contains p.name)

/-- The derived properties of an entry of a match or of statistics, which needs the
property that holds its value. -/
def entryProperties (family field : String) (fieldType entryType : String → FieldType)
    (known : List Property) : Outcome (List Property) := do
  let value ← orFault (known.find? (·.name = "value")) (.noProperty "java_type")
  let mask := if known.any (·.name = "mask") then [] else [{ name := "mask", type := value.type }]
  pure ([{ name := field, type := fieldType value.type.pub },
    { name := "masked", type := .boolean },
    { name := "canonical", type := entryType value.type.pub, family := some family }] ++ mask)

def derivedProperties (known : List Property) :
    Outcome (List Property) := do
  let own ←
    if name = "OFOxm" then
      pure [{ name := "value", type := .parameter }, { name := "mask", type := .parameter },
        { name := "matchField", type := .matchField "T" }, { name := "masked", type := .boolean },
        { name := "canonical", type := .oxm "T" }]
    else if name = "OFOxs" then
      pure [{ name := "value", type := .parameter }, { name := "statField", type := .statField "T" }]
    else if c.isSubclassOf "of_oxm" then
      entryProperties "OFOxm" "matchField" (.matchField ·) (.oxm ·) known
    else if c.isSubclassOf "of_oxs" then
      entryProperties "OFOxs" "statField" (.statField ·) (.oxs ·) known
    else if name = "OFErrorMsg" then pure [{ name := "data", type := .errorCause }]
    else pure []
  let version :=
    if known.any (·.name = "version") then []
    else [{ name := "version", type := .protocolVersion }]
  pure (own ++ version)

def propertiesOf : Outcome (List Property) := do
  let known ← fieldProperties u name c
  pure (known ++ (← derivedProperties name c known))

/-- What there is to report about the types of fields, up to the first whose type the
versions before do not have, and whether there is none such. -/
def reportsThrough (u : Unified) (interface className : String) :
    Table String (Version × Property) → List (Version × Field) → List String × Bool
  | _, [] => ([], true)
  | known, (v, f) :: rest =>
    let here := (Property.report? u className f).toList
    match addProperty interface v known (f, .ofField u className f) with
    | .error _ => (here, false)
    | .ok known =>
      let (more, agrees) := reportsThrough u interface className known rest
      (here ++ more, agrees)

/-- What there is to report about the properties of the interface for a class, and whether
its versions agree on them. -/
def reports : List String × Bool :=
  reportsThrough u (className c.name) c.name []
    (c.versions.flatMap fun (v, versionClass) => (shownFields versionClass).map (v, ·))

/-! ## Place in the hierarchy -/

def familyPackages : List (String × String) :=
  [("of_action", "action"), ("of_action_id", "actionid"), ("of_instruction", "instruction"),
   ("of_instruction_id", "instructionid"), ("of_oxm", "oxm"), ("of_oxs", "oxs"),
   ("of_meter_band", "meterband"), ("of_queue_prop", "queueprop"), ("of_bsn_tlv", "bsntlv")]

def packageOf (c : Class) : String :=
  if c.isSubclassOf "of_error_msg" then basePackage ++ ".errormsg"
  else (familyPackages.find? fun (above, _) => c.isInstanceOf above).elim basePackage
    fun (_, name) => basePackage ++ "." ++ name

def superName (c : Class) : String :=
  if startsWith c.name "of_match_" then "Match"
  else if startsWith c.name "of_stat_" then "Stat"
  else c.superclass?.elim "" className

def isTypedByValue : Bool :=
  !(["OFStatsRequest", "OFOxm", "OFOxs"].contains name) && !c.isSubclassOf "of_stats_request"
    && (u.isInstanceOf c.name "of_oxm" || u.isInstanceOf c.name "of_oxs")

def placement (properties : Outcome (List Property)) :
    Outcome (Option String × Option String) :=
  let entry (family : String) : Outcome (Option String × Option String) := do
    let value := (← properties).find? (·.name = "value")
    pure (some (family ++ value.elim "" fun p => "<" ++ p.type.pub ++ ">"), none)
  if name = "OFStatsRequest" then pure (some "OFMessage", some "T extends OFStatsReply")
  else if c.isSubclassOf "of_stats_request" then
    let reply := if endsWith name "Request" then dropLast 7 name ++ "Reply" else name
    pure (some (superName c.toClass ++ "<" ++ (if c.isVirtual then "T" else reply) ++ ">"),
      some (if c.isVirtual then "T extends " ++ reply else ""))
  else if name = "OFOxm" || name = "OFOxs" then pure (none, some "T extends OFValueType<T>")
  else if u.isInstanceOf c.name "of_oxm" then entry "OFOxm"
  else if u.isInstanceOf c.name "of_oxs" then entry "OFOxs"
  else pure (some (superName c.toClass), none)

def build : Outcome Interface := do
  let name := className c.name
  let _ ← variableNameOf name
  let properties := propertiesOf u name c
  let (parent, parameter) ← placement u name c properties
  pure
    { source := c, name, package := packageOf c.toClass
      parent := parent.filter (· ≠ name), parameter, properties }

end Interface

end FlowBindings.ObjectModel
