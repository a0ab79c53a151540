import FlowBindings.Loci.Identifier
import FlowBindings.Loci.MatchField
import FlowBindings.Loci.Record
import FlowBindings.Unified.Kind

/-!
# The catalog

Everything the C library is generated from. The catalog is built from a model
in one pass over its versions: the records of the classes, their lengths, the
identifiers of the enums, the families of classes below a virtual one, and the
fields of the match. Every class finally gets a number by which the library's
tables are indexed: messages first, lists last.
-/

namespace FlowBindings.Loci

/-- What the C library is generated from. -/
structure Catalog where
  model : Model
  targets : List Version
  matchFields : MatchFields
  identifiers : Identifiers
  /-- The classes below each virtual class that extends no other, sorted. -/
  families : Table String (List String)
  /-- The least length of each class, by class and wire number. Lists have
  length 0. -/
  baseLengths : Table (String × Nat) Nat
  /-- The classes whose objects all have the same length, by class and wire
  number. -/
  fixedLengths : List (String × Nat)
  /-- The members without fixed offset, by class and member, each with the
  member before it. -/
  followers : Table (String × String) String
  records : Records
  messages : List String
  /-- The names of classes that are neither messages nor lists, sorted. -/
  nonMessages : List String
  lists : List String
  deriving Repr, Inhabited

/-- The pass over a version's classes: their names in order, their members, and
what is collected beside them. -/
structure VersionClasses where
  /-- Names in order; a name may occur more than once. -/
  order : List String
  members : Table String (List Slot)
  deriving Repr

namespace Catalog

variable (c : Catalog) (name : String) (p : Protocol) (wire : Nat) (m : Model)

/-- The type of a field as the C library sees it: a list class for a list, the
wire type for an enum that declares one. -/
def slotType (type : String) : String :=
  if WireType.isList type then (WireForm.listNames type).1 ++ "_t"
  else
    match (p.enum? type).bind fun e => e.params.get? "wire_type" with
    | some declared => declared.getD type
    | none => type

def slot (f : Field) : Slot where
  type := slotType p f.type
  name := f.name
  offset := (f.offset.map Int.ofNat).getD (-1)

def listClasses : List String :=
  (p.classes.flatMap fun c => c.fields.filterMap fun f =>
    if f.role = .data && WireType.isList f.type then some (WireForm.listNames f.type).1
    else none).eraseDups

def versionClasses : VersionClasses :=
  let lists := listClasses p
  { order := p.classes.map (·.name) ++ lists
    members := Table.ofPairs
      (p.classes.map (fun c => (c.name, c.fields.map (slot p))) ++ lists.map fun l => (l, [])) }

def lengthsOf (v : Version) (p : Protocol) : List ((String × Nat) × Nat) :=
  p.classes.map (fun c => ((c.name, v.wire), c.baseLength))

def addEnums (ids : Identifiers) (v : Version) (p : Protocol) : Identifiers :=
  p.enums.foldl (fun ids e => e.entries.foldl (fun ids x =>
    ids.add (Identifier.ofConstant x.name) x.name e.name x.value v.wire) ids) ids

def addToFamily (families : Table String (List String)) (c : Class) :
    Outcome (Table String (List String)) :=
  match c.inheritanceRoot? with
  | none => pure families
  | some root =>
    if root = c.name || root = "of_header" then pure families
    else do
      let known ← families.need root
      pure (families.set root (if known.contains c.name then known else known ++ [c.name]))

def sortNames (names : List String) : List String :=
  names.mergeSort fun a b => a ≤ b

def buildFamilies : Outcome (Table String (List String)) := do
  let roots := m.unified.classes.filter fun c => c.isVirtual && c.superclass?.isNone
  let start : Table String (List String) := roots.map fun c => (c.name, [])
  let families ← m.protocols.values.foldlM (fun t p => p.classes.foldlM addToFamily t) start
  pure (families.map fun (root, names) => (root, sortNames names))

/-- Add the members of a class that have no fixed offset, with the member
before each. All versions must have the same member there. -/
def addFollowers (v : Version) (cls : String) :
    Option Field → Table (String × String) String → List Field →
    Outcome (Table (String × String) String)
  | _, known, [] => pure known
  | before, known, f :: rest =>
    if f.offset.isSome then addFollowers v cls (some f) known rest
    else do
      let before ← orFault before (.noProperty "name")
      match known.get? (cls, f.name) with
      | some old =>
        if old ≠ before.name then
          throw (.refused ("Error: special offset changed: version=" ++ v.dotted ++ " cls="
            ++ cls ++ " member=" ++ f.name ++ " old=" ++ old ++ " new=" ++ before.name))
      | none => pure ()
      addFollowers v cls (some f) (known.set (cls, f.name) before.name) rest

def buildFollowers : Outcome (Table (String × String) String) :=
  m.protocols.foldlM (fun t (v, p) => p.classes.foldlM (fun t c =>
    addFollowers v c.name none t c.fields) t) []

def addVersion (records : Records) (v : Version) (p : Protocol) : Outcome Records :=
  let classes := versionClasses p
  classes.order.foldlM (fun records name =>
    match Records.add records v.wire name ((classes.members.get? name).getD []) with
    | (records, true) => pure records
    | (_, false) => throw (.exit 1 [] "")) records

def buildRecords : Outcome Records :=
  let newestFirst := m.protocols.mergeSort fun a b => b.1.wire ≤ a.1.wire
  newestFirst.foldlM (fun records (v, p) => addVersion records v p) []

def isMessageRecord (r : Record) : Bool := r.union.has "xid"

def build (targets : List Version) : Outcome Catalog := do
  let matchFields ← MatchFields.build m.unified
  let families ← buildFamilies m
  let followers ← buildFollowers m
  let records ← buildRecords m
  let (messages, others) := records.partition fun (_, r) => isMessageRecord r
  let (lists, nonMessages) := others.partition fun (name, _) => WireType.isListClass name
  let listLengths := m.protocols.flatMap fun (v, p) =>
    (listClasses p).map fun l => ((l, v.wire), 0)
  pure
    { model := m
      targets := targets
      matchFields := matchFields
      identifiers := m.protocols.foldl (fun ids (v, p) => addEnums ids v p) .empty
      families := families
      baseLengths := Table.ofPairs
        (m.protocols.flatMap (fun (v, p) => lengthsOf v p) ++ listLengths)
      fixedLengths := m.protocols.flatMap fun (v, p) =>
        (p.classes.filter (·.isFixedLength)).map fun c => (c.name, v.wire)
      followers := followers
      records := records
      messages := sortNames (messages.map (·.1))
      nonMessages := sortNames (nonMessages.map (·.1))
      lists := sortNames (lists.map (·.1)) }

/-! ## Questions -/

def wires : List Nat := c.targets.map Version.wire

def classes : List String := c.messages ++ c.nonMessages ++ c.lists

def objectIds : Table String Nat :=
  c.classes.zipIdx 1

def record : Outcome Record := c.records.need name

def isMessage : Outcome Bool := do
  pure (isMessageRecord (← c.record name))

def inVersion : Bool :=
  c.baseLengths.has (name, wire)

/-- Whether objects of a class differ in length. Of the match, only the third
form does. -/
def isVariable : Bool :=
  if name = "of_match" then wire = 3 else !c.fixedLengths.contains (name, wire)

def isVirtual : Outcome Bool :=
  if WireType.isListClass name then pure true
  else do pure (← orFault (c.model.unified.class? name) (.noProperty "virtual")).isVirtual

def isRoot : Bool := c.families.has name

def isObjectType (type : String) : Bool :=
  c.records.has (Text.trimTail type "_t")

def instanceName (above : String) : Outcome String :=
  if Text.startsWith name (above ++ "_") then pure (Text.dropFirst (above.length + 1) name)
  else throw (.assertion "")

/-- The classes of a family a version defines, each with the part of its name
behind the root's. -/
def subclasses (root : String) (wire : Nat) : Outcome (List (String × String)) :=
  match c.families.get? root with
  | none => pure []
  | some names => (names.filter (c.inVersion · wire)).mapM fun name => do
    pure (← instanceName name root, name)

def memberType (member : String) : Outcome String := do
  let u ← (← c.record name).union.need member
  pure (if Text.endsWith u.type "_t" then u.type else u.type ++ "_t")

def versionConstant : Outcome String :=
  match c.targets.find? (·.wire = wire) with
  | some v => pure (v.constant "OF_VERSION_")
  | none => throw (.noEntry (toString wire))

/-- The members of a class in a version, and the types of those with accessors,
each once. -/
def memberTypes :
    Outcome (List Slot × List String) := do
  let members := (← c.record name).members wire
  let types := (members.filter fun m => !WireForm.isMaintained m.name).map (·.type)
  pure (members, types.eraseDups)

def isFlowMod : Bool :=
  ["of_flow_mod", "of_flow_modify", "of_flow_add", "of_flow_delete", "of_flow_modify_strict",
   "of_flow_delete_strict"].contains name

def isTypeLength : Bool :=
  match (c.model.unified.class? name).map (·.fields) with
  | some (a :: b :: _) =>
    (a.role = .discriminator || a.isFixed) && b.role = .length && a.type = "uint16_t"
      && b.type = "uint16_t"
  | _ => false

def isLengthFirst : Bool :=
  match (c.model.unified.class? name).map (·.fields) with
  | some (a :: _) => a.role = .length && a.type = "uint16_t"
  | _ => false

end Catalog

end FlowBindings.Loci
