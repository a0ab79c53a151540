import FlowBindings.Loci.Notice
import FlowBindings.Loci.Test.Scalar

/-!
# Printing objects

The C library prints objects in two ways: it dumps them for a developer, one
member a line with its type, or shows them on one line for a log. Both ways have
a function per class and version, and a table by version and number through
which objects of any class are printed.
-/

namespace FlowBindings.Loci

open Text

inductive Output where
  /-- For a developer, one member a line. -/
  | dump
  /-- For a log, on one line. -/
  | log
  deriving DecidableEq, Repr

namespace Output

def verb : Output → String
  | dump => "dump"
  | log => "show"

def holes (o : Output) : List (String × String) :=
  [("verb", o.verb), ("Verb", capitalize o.verb), ("VERB", upper o.verb),
   ("doing", o.verb ++ "ing"),
   ("kind", match o with
     | dump => "a dump"
     | log => "a human-readable dump")]

def addresses : List String := ["arp_tpa", "arp_spa", "nw_addr", "dst"]

def hexMembers : List (String × String) :=
  [("uint8_t", "icmpv6_code"), ("uint8_t", "mpls_tc"), ("uint16_t", "eth_type"),
   ("uint8_t", "ip_dscp"), ("uint64_t", "metadata"), ("uint16_t", "ingress_tpid"),
   ("uint16_t", "egress_tpid"), ("uint32_t", "xid"), ("uint16_t", "flags"),
   ("uint32_t", "experimenter"), ("uint32_t", "mask"), ("uint8_t", "report_mirror_ports"),
   ("uint64_t", "datapath_id"), ("uint32_t", "capabilities"), ("uint32_t", "actions"),
   ("uint64_t", "cookie"), ("uint8_t", "reason"), ("uint32_t", "role"), ("uint32_t", "config"),
   ("uint32_t", "advertise"), ("uint32_t", "advertised"), ("uint32_t", "supported"),
   ("uint32_t", "peer"), ("uint64_t", "cookie_mask"), ("uint32_t", "reserved"),
   ("uint16_t", "ethertype"), ("uint64_t", "metadata_mask"), ("uint32_t", "instructions"),
   ("uint32_t", "write_actions"), ("uint32_t", "apply_actions"), ("uint32_t", "types"),
   ("uint32_t", "actions_all"), ("uint32_t", "actions_select"),
   ("uint32_t", "actions_indirect"), ("uint32_t", "actions_ff"), ("uint64_t", "generation_id"),
   ("uint16_t", "value_mask"), ("uint32_t", "value_mask"), ("uint8_t", "value_mask"),
   ("uint64_t", "value_mask"), ("uint64_t", "write_setfields"), ("uint64_t", "apply_setfields"),
   ("uint64_t", "metadata_match"), ("uint64_t", "metadata_write"),
   ("uint32_t", "packet_in_mask_equal_master"), ("uint32_t", "packet_in_mask_slave"),
   ("uint32_t", "port_status_mask_equal_master"), ("uint32_t", "port_status_mask_slave"),
   ("uint32_t", "flow_removed_mask_equal_master"), ("uint32_t", "flow_removed_mask_slave"),
   ("uint32_t", "band_types"), ("uint16_t", "bsn_tcp_flags"), ("uint8_t", "bsn_l2_cache_hit")]

def emitter (o : Output) (member type : String) : String :=
  let short := WireForm.shortNameOf type
  match o with
  | dump => "LOCI_DUMP_" ++ short
  | log => "LOCI_SHOW_" ++
    (if type = "uint32_t" && addresses.contains member then "ipv4"
    else if hexMembers.contains (type, member) then replace short "u" "x"
    else short)

def printValue : Output → String
  | dump => block r#"

	«cls»_«m_name»_get(obj, &«v_name»);
	out += writer(cookie, "  «m_name» («m_type»):  ");
	out += «emitter»(κ«v_name»);
	out += writer(cookie, "\n");
"#
  | log => block r#"

	«cls»_«m_name»_get(obj, &«v_name»);
	out += writer(cookie, "«m_name»=");
	out += «emitter»(κ«v_name»);
	out += writer(cookie, " ");
"#

def printList : Output → String
  | dump => block r#"

	out += writer(cookie, "List of «elt_type»\n");
	«cls»_«m_name»_bind(obj, &«v_name»);
	«u_type»_ITER(&«v_name», &elt, rv) {
		ωdump(κ(ωt *)&elt);
	}
"#
  | log => block r#"

	out += writer(cookie, "«elt_type»={ ");
	«cls»_«m_name»_bind(obj, &«v_name»);
	«u_type»_ITER(&«v_name», &elt, rv) {
		ωshow(κ(ωt *)&elt);
	}
	out += writer(cookie, "} ");
"#

def printField : Output → String
  | dump => block r#"

	if (OF_MATCH_MASK_«ku»_ACTIVE_TEST(match)) {
		out += writer(cookie, "  «key» («m_type») active: Value ");
		out += «emitter»(κmatch->fields.«key»);
		out += writer(cookie, "\n	Mask ");
		out += «emitter»(κmatch->masks.«key»);
		out += writer(cookie, "\n");
	}
"#
  | log => block r#"

	if (OF_MATCH_MASK_«ku»_ACTIVE_TEST(match)) {
		out += writer(cookie, "«key» active=");
		out += «emitter»(κmatch->fields.«key»);
		out += writer(cookie, "/");
		out += «emitter»(κmatch->masks.«key»);
		out += writer(cookie, " ");
	}
"#

end Output

namespace Catalog

open Test

variable (c : Catalog) (o : Output)

def isPrinted (name : String) (wire : Nat) : Outcome Bool := do
  if c.inVersion name wire then do pure !(← c.isVirtual name) else pure false

def printFunction (name : String) (wire : Nat) : Outcome String := do
  pure (name ++ "_" ++ (← c.versionConstant wire) ++ "_" ++ o.verb)

def outputHeader : Outcome String := do
  let functions ← c.eachVersionClass c.classes fun wire name => do
    if ← c.isPrinted name wire then
      pure ("int " ++ (← c.printFunction o name wire)
        ++ "(loci_writer_f writer, void* cookie, of_object_t *obj);\n")
    else pure ""
  pure (notice ++ form (o.holes ++ [("formats", formatMacros)]) r"

/**
 *
 * AUTOMATICALLY GENERATED FILE.  Edits will be lost on regen.
 *
 * Header file for object «doing».
 */

¶«Verb»  object declarations
 *
 * Routines that emit «kind» of each object.
 *
 */

#if !defined(_LOCI_OBJ_«VERB»_H_)
δ_LOCI_OBJ_«VERB»_H_

θloci.h>
#include <stdio.h>

«formats»

¶«Verb» any OF object.
 */
int ω«verb»(loci_writer_f writer, void* cookie, ωt* obj);






"
    ++ functions
    ++ fill o.holes "\n#endif /* _LOCI_OBJ_«VERB»_H_ */\n")

def printVariable (type : String) : Outcome String := do
  let declared := "    " ++ type ++ " " ++ (← variableOf type) ++ ";\n"
  pure (if WireForm.isScalar type || ["of_match_t", "of_octets_t"].contains type then declared
    else "\n" ++ declared
      ++ when (WireType.isListClass type) "    of_object_t elt;\n    int rv;\n")

def printMember (cls : String) (m : Slot) : Outcome String := do
  let holes := o.holes ++ [("cls", cls), ("m_name", m.name), ("m_type", m.type),
    ("v_name", ← variableOf m.type), ("emitter", o.emitter m.name m.type),
    ("elt_type", WireForm.entryClass m.type), ("u_type", upper (dropLast 2 m.type))]
  pure (if WireForm.isScalar m.type || ["of_match_t", "of_octets_t"].contains m.type then
      fill holes o.printValue
    else if WireType.isListClass m.type then fill holes o.printList
    else
      form holes r"

	«cls»_«m_name»_bind(obj, &«v_name»);
	out += ω«verb»(κ&«v_name»);
")

def printDefinition (cls : String) (wire : Nat) :
    Outcome String := do
  let (members, types) ← c.memberTypes cls wire
  let holes := o.holes ++ [("cls", cls), ("function", ← c.printFunction o cls wire)]
  let declared ← types.mapM printVariable
  let printed ← (members.filter fun m => !WireForm.isMaintained m.name).mapM
    (printMember o cls)
  pure (form holes r"

int
«function»(loci_writer_f writer, void* cookie, ωt *obj)
{
	int out = 0;
"
    ++ concat declared
    ++ when (o = .dump) (form holes r#"

	out += writer(cookie, "Object of type «cls»\n");
"#)
    ++ concat printed
    ++ block r"

	ρout;
}
")

/-- A version's table of printing functions, by the number of the class. Entry 0
stands for objects of no class. -/
def outputTable (wire : Nat) : Outcome (List String) := do
  let unknown := "unknown_" ++ o.verb
  let entries ← c.classes.mapM fun name => do
    if ← c.isPrinted name wire then c.printFunction o name wire else pure unknown
  pure (unknown :: entries)

def renderTable (wire : Nat) (table : List String) : String :=
  fill (("version", toString wire) :: o.holes)
    "\nstatic const loci_obj_«verb»_f «verb»_funs_v«version»[OF_OBJECT_COUNT] = \x7b\n"
  ++ each (table.take 1) (fun f => "    " ++ f ++ ", /* of_object, not a valid specific type */\n")
  ++ join ",\n" ((table.drop 1).map ("    " ++ ·)) ++ when (1 < table.length) "\n"
  ++ "\x7d;\n\n"

def printMatch : String :=
  form o.holes r"

¶Log a match entry
 */
int
loci_«verb»_match(loci_writer_f writer, void* cookie, μt *match)
{
	int out = 0;
"
  ++ when (o = .dump) "\n    out += writer(cookie, \"Match obj, version %d.\\n\", match->version);\n"
  ++ each c.matchFields.byName (fun (key, f) =>
    fill [("key", key), ("ku", upper key), ("emitter", o.emitter key f.type), ("m_type", f.type)]
      o.printField)
  ++ block r"

	ρout;
}
"

def outputSource : Outcome String := do
  let functions ← c.eachVersionClass c.classes fun wire name => do
    if ← c.isPrinted name wire then c.printDefinition o name wire else pure ""
  let tables ← c.wires.mapM fun wire => do pure (renderTable o wire (← c.outputTable o wire))
  pure (notice ++ form o.holes r#"

/**
 *
 * AUTOMATICALLY GENERATED FILE.  Edits will be lost on regen.
 *
 * Source file for object «doing».
 *
 */

δDISABLE_WARN_UNUSED_RESULT
θloci.h>
θloci_«verb».h>
θloci_obj_«verb».h>

static int
unknown_«verb»(loci_writer_f writer, void* cookie, ωt *obj)
{
	ρwriter(cookie, "Unable to print object of type %d, version %d\n",
						 obj->object_id, obj->version);
}
"#
    ++ functions
    ++ c.printMatch o
    ++ concat tables
    ++ fill o.holes "\nstatic const loci_obj_«verb»_f *const «verb»_funs[] = \x7b\n"
    ++ each c.wires (fun wire =>
      fill (("v", toString wire) :: o.holes) "    [«v»] = «verb»_funs_v«v»,\n")
    ++ "\x7d;\n"
    ++ form o.holes r#"

int
ω«verb»(loci_writer_f writer, void* cookie, ωt *obj)
{
	if ((obj->object_id > 0) && (obj->object_id < ΩCOUNT)) {
		if (νOKAY(obj->version)) {
			ρ«verb»_funs[obj->version][obj->object_id](κ(ωt *)obj);
		} else {
			ρwriter(cookie, "Bad version %d\n", obj->version);
		}
	}
	ρwriter(cookie, "Bad object id %d\n", obj->object_id);
}
"#)

end Catalog

end FlowBindings.Loci
