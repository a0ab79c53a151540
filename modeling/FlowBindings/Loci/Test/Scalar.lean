import FlowBindings.Loci.Accessor

/-!
# Scalar members in tests

The tests of the C library fill the members of an object that are handled by
value with a running number and check them afterwards. This module tells which
members take part, how variables for them are called, and writes the functions
that fill and check them.
-/

namespace FlowBindings.Loci.Test

open Text

def integerTypes : List String :=
  ["uint8_t", "uint16_t", "uint32_t", "uint64_t", "of_port_no_t", "of_fm_cmd_t", "of_wc_bmap_t",
   "of_match_bmap_t", "of_ipv4_t"]

def stringTypes : List String :=
  ["of_port_name_t", "of_table_name_t", "uint128_t", "of_desc_str_t", "of_serial_num_t",
   "of_mac_addr_t", "of_ipv6_t", "of_bitmap_128_t", "of_checksum_128_t", "of_str64_t",
   "of_bitmap_512_t"]

def fillableTypes : List String := integerTypes ++ stringTypes

def variableNames : Table String String :=
  [("uint8_t", "val8"), ("uint16_t", "val16"), ("uint32_t", "val32"), ("uint64_t", "val64"),
   ("uint128_t", "val128"), ("of_ipv4_t", "ipv4"), ("of_port_no_t", "port_no"),
   ("of_fm_cmd_t", "fm_cmd"), ("of_wc_bmap_t", "wc_bmap"), ("of_match_bmap_t", "match_bmap"),
   ("of_port_name_t", "port_name"), ("of_table_name_t", "table_name"),
   ("of_desc_str_t", "desc_str"), ("of_serial_num_t", "ser_num"), ("of_str64_t", "str64"),
   ("of_mac_addr_t", "mac_addr"), ("of_ipv6_t", "ipv6"), ("of_octets_t", "octets"),
   ("of_meter_features_t", "features"), ("of_match_t", "match"), ("of_oxm_t", "oxm"),
   ("of_bsn_vport_t", "bsn_vport"), ("of_table_desc_t", "table_desc"),
   ("of_bsn_vport_q_in_q_t", "vport"), ("of_bitmap_128_t", "bitmap_128"),
   ("of_bitmap_512_t", "bitmap_512"), ("of_checksum_128_t", "checksum_128")]

def variableOf (type : String) : Outcome String :=
  if startsWith type "of_list_" then pure "list"
  else
    match WireForm.mixed.get? type with
    | some m => pure m.shortName
    | none => variableNames.need type

/-- How the remarks end on functions that fill an object and that check one. -/
def remarkHoles : Table String String :=
  let remark param value := form [("param", param), ("value", value)] r"
πobj Pointer to an object to «param»
πvalue «value»
 * @returns The value after increments for this object's values
 */
"
  [("fills", remark "populate" "The seed value to use in populating the object"),
   ("checks", remark "check" "Starting value for checking")]

/-- Where an object of a virtual class is embedded, the class of which one is
put there. -/
def embedded : Table String String :=
  [("of_oxm_t", "of_oxm_eth_type"), ("of_bsn_vport_t", "of_bsn_vport_q_in_q")]

end FlowBindings.Loci.Test

namespace FlowBindings.Loci.Catalog

open Text
open Loci.Test

variable (c : Catalog) (cls : String)

/-- Whether a member takes no part in the tests: only data members of types that
can be filled do. -/
def isUntested (member type : String) : Bool :=
  match (c.model.unified.class? cls).bind (·.field? member) with
  | some f => f.role ≠ .data || WireForm.isMaintained member || !fillableTypes.contains type
  | none => true

def isFilled (m : Slot) : Bool :=
  WireForm.isScalar m.type && !c.isUntested cls m.name m.type

/-- The members of a class in a version, and the types of those filled by
value, each once. -/
def scalarTypes (wire : Nat) :
    Outcome (List Slot × List String) := do
  let members := (← c.record cls).members wire
  pure (members, ((members.filter (c.isFilled cls)).map (·.type)).eraseDups)

def declarations (types : List String) : Outcome String := do
  concat <$> types.mapM fun t => do pure ("    " ++ t ++ " " ++ (← variableOf t) ++ ";\n")

def scalarFunctions (wire : Nat) : Outcome String := do
  let (members, types) ← c.scalarTypes cls wire
  let version ← c.versionConstant wire
  let holes := remarkHoles ++ [("cls", cls), ("v_name", version)]
  let declared ← declarations types
  let filled := members.filter (c.isFilled cls)
  let steps ← filled.mapM fun m => do
    pure [("cls", cls), ("m_name", m.name), ("u_type", upper m.type),
      ("v_name", ← variableOf m.type)]
  pure (form holes r"

¶Populate the scalar values in obj of type «cls»,
 * version «v_name»
«fills»int «cls»_«v_name»_populate_scalars(
	«cls»_t *obj, int value) {
"
    ++ declared
    ++ each steps (fun step => form step r"

	VAR_«u_type»_INIT(«v_name», value);
	«cls»_«m_name»_set(obj, «v_name»);
	value += 1;
")
    ++ form holes r"

	ρvalue;
}

¶Check scalar values in obj of type «cls»,
 * version «v_name»
«checks»int «cls»_«v_name»_check_scalars(
	«cls»_t *obj, int value) {
"
    ++ declared
    ++ each steps (fun step => form step r"

	«cls»_«m_name»_get(obj, &«v_name»);
	τVAR_«u_type»_CHECK(«v_name», value));
	value += 1;
")
    ++ block r"

	ρvalue;
}

")

def eachVersionClass (names : List String) (f : Nat → String → Outcome String) :
    Outcome String := do
  let parts ← c.wires.mapM fun wire => do pure (concat (← names.mapM (f wire)))
  pure (concat parts)

def allScalarFunctions : Outcome String :=
  c.eachVersionClass c.classes fun wire name => do
    if ← c.isVirtual name then pure "" else c.scalarFunctions name wire

end FlowBindings.Loci.Catalog
