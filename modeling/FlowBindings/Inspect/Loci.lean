import FlowBindings.Loci.WireTypes
import FlowBindings.Value.Read

/-!
# Looking into the catalog of the C library

The tables of the catalog, each under a name of its own.
-/

namespace FlowBindings.Loci

open Value

def Slot.inspect (m : Slot) : Value :=
  record [("m_type", m.type), ("name", m.name), ("offset", m.offset)]

def Record.inspect (r : Record) : List (String × Value) :=
  ("union", named (fun u => record [("m_type", u.type), ("memid", u.rank)]) r.union) ::
    r.layouts.map fun (wire, layout) => (toString wire, match layout with
      | .own ms => record [("members", each Slot.inspect ms)]
      | .sameAs w => record [("use_version", w)])

def byWire {α : Type} (f : α → Value) (t : Table Nat α) : Value :=
  pairs nat f (t.mergeSort fun a b => a.1 ≤ b.1)

def Identifier.inspect (i : Identifier) : Value :=
  record [("common_value", i.common), ("ofp_group", i.group), ("ofp_name", i.constant),
    ("values_by_version", byWire int i.values)]

def Metadata.inspect (m : Metadata) : Value :=
  record [("kind", "ClassMetadata"), ("name", m.name), ("wire_length_get", render m.lengthGet),
    ("wire_length_set", render m.lengthSet), ("wire_type_get", render m.typeGet),
    ("wire_type_set", render m.typeSet)]

def MatchField.inspect (f : MatchField) : Value :=
  let bit (key : String) (t : Table String Nat) := ((t.get? f.name).map fun n => (key, nat n)).toList
  record ([("m_type", text f.type), ("name", text f.name), ("order", nat f.rank)] ++
    bit "v1_wc_shift" ignoreBitsV10 ++ bit "v2_wc_shift" ignoreBitsV11)

def byTwoKeys {κ α : Type} (le : κ → κ → Bool) (xs : List ((String × κ) × α)) :
    List ((String × κ) × α) :=
  xs.mergeSort fun a b => a.1.1 < b.1.1 || (a.1.1 = b.1.1 && le a.1.2 b.1.2)

def WrittenTypes.inspect (t : WrittenTypes) : Value :=
  list [t.className, each (fun (fields, versions) => list
    [each (fun f => list [f.name, opt nat f.offset, f.length, f.value]) fields,
     each version versions]) t.cases]

def Dispatch.inspect (className : String) (ds : List Dispatch) : Outcome Value := do
  let versions ← ds.mapM fun d => do
    let f ← Class.needDiscriminator d.source
    pure (list [Value.version d.version, f.name,
      each (fun t => list [t.className, t.value, t.isVirtual]) d.targets])
  pure (list [className, list versions])

namespace Catalog

/-- The wire number that a value is; no version has the number zero, which all other values
stand for. -/
def wireOf (v : Value) : Nat := v.asNat.toOption.getD 0

def inspectLength (c : Catalog) (type : String) (version : Value) : Outcome Int := do
  let type ← typeIn type (wireOf version)
  orFault (c.knownLength? type (wireOf version)) (unknownLength type version.shown)

/-- What a class has in a version, where the other entries of its record may be asked for by
mistake: they are no layouts. -/
def inspectVersion {α : Type} (f : String → Nat → Outcome α) (name : String) (version : Value) :
    Outcome α := do
  let answer ← f name (wireOf version)
  match version with
  | .text "union" => throw (.noEntry "members")
  | .text "object_id" | .list _ | .record _ => throw (.wrongKind "version")
  | _ => pure answer

def inspect (c : Catalog) : List (String × Value) :=
  let names (f : Version → String) := byWire text (c.targets.map fun v => (v.wire, f v))
  let twoKeys {κ : Type} (f : κ → Value) (k : String × κ) := list [k.1, f k.2]
  let fixed := c.fixedLengths.map fun k => (k, ())
  [("wire_ver_map", names (·.constant "OF_VERSION_")),
   ("short_version_names", names (·.constant "OF_")),
   ("of_version_range", each nat c.wires), ("target_version_list", each nat c.wires),
   ("ordered_messages", texts c.messages), ("ordered_non_messages", texts c.nonMessages),
   ("ordered_list_objects", texts c.lists), ("standard_class_order", texts c.classes),
   ("all_class_order", texts c.classes),
   ("ordered_members", named (texts ·.order) c.records),
   ("base_length", pairs (twoKeys nat) nat (byTwoKeys (· ≤ ·) c.baseLengths)),
   ("is_fixed_length", each (twoKeys nat ·.1) (byTwoKeys (· ≤ ·) fixed)),
   ("special_offsets", pairs (twoKeys text) text (byTwoKeys (· ≤ ·) c.followers)),
   ("object_id", nat (c.classes.length + 1)),
   ("unified", Value.record (c.records.map fun (name, r) => (name, Value.record (r.inspect ++
     ((c.objectIds.get? name).map fun i => ("object_id", nat i)).toList)))),
   ("identifiers", named Identifier.inspect c.identifiers.byName),
   ("identifiers_by_group", named texts c.identifiers.groups),
   ("inheritance_map", named texts c.families),
   ("match_members", named MatchField.inspect c.matchFields.byName),
   ("match_keys", byWire texts c.matchFields.perVersion),
   ("match_keys_sorted", texts (c.matchFields.sorted.map (·.name))),
   ("class_metadata", each Metadata.inspect c.metadata)]

end Catalog

end FlowBindings.Loci
