import FlowBindings.Loci.Catalog
import FlowBindings.Text.Form

/-!
# Length tables

The C library looks up the fixed part of an object's length by version and
number. There is one row per class in the order of the numbers; row 0 stands for
objects of no class.
-/

namespace FlowBindings.Loci

open Text

namespace Catalog

variable (c : Catalog)

/-- The fixed length of a class in a version; nothing if the version has not got
the class. -/
def fixedLength? (className : String) (wire : Nat) : Option Nat :=
  c.baseLengths.get? (className, wire)

structure LengthRow where
  id : Nat
  className : String
  length : Option Nat
  deriving DecidableEq, Repr

def lengthRows (wire : Nat) : List LengthRow :=
  c.objectIds.map fun (name, id) => ⟨id, name, c.fixedLength? name wire⟩

def LengthRow.render (last : Nat) (r : LengthRow) : String :=
  let value := (r.length.map toString).getD "-1" ++ when (r.id ≠ last) ","
  "    " ++ padRight 5 value ++ " /* " ++ toString r.id ++ ": " ++ r.className ++ " */\n"

def lengthTable (wire : Nat) : String :=
  form [("1", toString wire)] r"

static const int
ωfixed_len_v«1»[ΩCOUNT] = {
	-1,   /* of_object is not instantiable */
"
  ++ each (c.lengthRows wire) (LengthRow.render c.classes.length)
  ++ "\x7d;\n"

/-- The names of the tables in the order in which the outer table lists them,
behind its first entry. -/
def outerTable : List String :=
  c.wires.map fun w => "of_object_fixed_len_v" ++ toString w

def lengthTables : String :=
  block r"

¶An array with the number of bytes in the fixed length part
 * of each OF object
 */
"
  ++ each c.wires c.lengthTable
  ++ block r"

¶Unified map of fixed length part of each object
 */
const int *const ωfixed_len[νARRAY_MAX] = {
	NULL,
"
  ++ each c.outerTable (fun name => "    " ++ name ++ ",\n")
  ++ "\n\x7d;\n"

end Catalog

def wireFunctionDeclarations : String := block r"

/§
 * Wire type/length functions.
 §/

extern void ωmessage_wire_length_get(ωt *obj, int *bytes);
extern void ωmessage_wire_length_set(ωt *obj, int bytes);

extern void of_oxm_wire_length_get(ωt *obj, int *bytes);

extern void of_tlv16_wire_length_get(ωt *obj, int *bytes);
extern void of_tlv16_wire_length_set(ωt *obj, int bytes);

/* Wire length is uint16 at front of structure */
extern void of_u16_len_wire_length_get(ωt *obj, int *bytes);
extern void of_u16_len_wire_length_set(ωt *obj, int bytes);

δOF_OXM_LENGTH_GET(hdr) (((hdr) & 0xff) + 4)
δOF_OXM_LENGTH_SET(hdr, val)						 \
	(hdr) = ((hdr) & 0xffffff00) + (((val) - 4) & 0xff)

extern void of_packet_queue_wire_length_get(ωt *obj, int *bytes);
extern void of_packet_queue_wire_length_set(ωt *obj, int bytes);

extern void of_list_meter_band_stats_wire_length_get(ωt *obj,
													int *bytes);
extern void of_meter_stats_wire_length_get(ωt *obj, int *bytes);
extern void of_meter_stats_wire_length_set(ωt *obj, int bytes);

extern void of_port_desc_wire_length_get(ωt *obj, int *bytes);
extern void of_port_desc_wire_length_set(ωt *obj, int bytes);

extern void of_port_stats_entry_wire_length_get(ωt *obj, int *bytes);
extern void of_port_stats_entry_wire_length_set(ωt *obj, int bytes);

extern void of_queue_stats_entry_wire_length_get(ωt *obj, int *bytes);
extern void of_queue_stats_entry_wire_length_set(ωt *obj, int bytes);

extern void of_queue_desc_wire_length_get(ωt *obj, int *bytes);
extern void of_queue_desc_wire_length_set(ωt *obj, int bytes);

"

end FlowBindings.Loci
