import FlowBindings.Loci.Catalog

/-!
# Wire functions of classes

Some classes carry their own length or type on the wire. The C library has a
table of the functions that read and write them, `NULL` where a class has none.
-/

namespace FlowBindings.Loci

/-- The functions that read and write an object's length and type. -/
structure Metadata where
  name : String
  lengthGet : Option String
  lengthSet : Option String
  /-- Finds the class of an object from its type. -/
  typeGet : Option String
  typeSet : Option String
  deriving DecidableEq, Repr

namespace Metadata

def render (function : Option String) : String := function.getD "NULL"

def specialLengths : List String :=
  ["of_packet_queue", "of_meter_stats", "of_port_desc", "of_port_stats_entry",
   "of_queue_stats_entry", "of_queue_desc"]

def lengthFunctions (c : Catalog) (u : Unified.Class) : Option String × Option String :=
  let both (name : String) := (some (name ++ "_get"), some (name ++ "_set"))
  if u.isMessage then both "of_object_message_wire_length"
  else if u.isOxm then (some "of_oxm_wire_length_get", none)
  else if specialLengths.contains u.name then both (u.name ++ "_wire_length")
  else if c.isTypeLength u.name then both "of_tlv16_wire_length"
  else if c.isLengthFirst u.name then both "of_u16_len_wire_length"
  else (none, none)

def ofClass (c : Catalog) (u : Unified.Class) : Metadata :=
  let (get, set) := lengthFunctions c u
  { name := u.name
    lengthGet := get
    lengthSet := set
    typeGet := (u.inheritanceRoot?.filter (· ≠ "of_header")).map (· ++ "_wire_object_id_get")
    typeSet := if !u.isVirtual && u.hasFixedFields then some (u.name ++ "_push_wire_types")
      else none }

end Metadata

def Catalog.metadata (c : Catalog) : List Metadata :=
  c.model.unified.classes.map (Metadata.ofClass c)

def Catalog.metadataOf (c : Catalog) (name : String) : Outcome Metadata :=
  orFault ((c.model.unified.class? name).map (Metadata.ofClass c)) (.noEntry name)

end FlowBindings.Loci
