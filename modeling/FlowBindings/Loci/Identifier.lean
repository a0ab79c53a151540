import FlowBindings.Fault

/-!
# Identifiers

The constants of the protocol's enums become identifiers of the C library. An
identifier has a name of its own, made from the constant's by replacing the
specification's abbreviations, and one value per version that defines it.

Several constants may get one name, for instance when a constant was renamed
from one version to the next. The identifier then carries the values of all of
them, and the first value met is the one it has where no version is asked for.
-/

namespace FlowBindings.Loci

structure Identifier where
  /-- Its value in each version that defines it, by wire number. -/
  values : Table Nat Int
  common : Int
  constant : String
  group : String
  deriving DecidableEq, Repr

namespace Identifier

/-! ## Names -/

/-- How abbreviations at the beginning of a constant's name are spelled out. An
abbreviation that extends another one stands before it. -/
def spellings : List (String × String) :=
  [("OFP_MAX_TABLE_NAME_LEN", "OF_MAX_TABLE_NAME_LEN"),
   ("OFP_MAX_PORT_NAME_LEN", "OF_MAX_PORT_NAME_LEN"),
   ("OFP_TCP_PORT", "OF_TCP_PORT"), ("OFP_SSL_PORT", "OF_SSL_PORT"),
   ("OFP_ETH_ALEN", "OF_ETH_ALEN"),
   ("OFP_DEFAULT_MISS_SEND_LEN", "OF_DEFAULT_MISS_SEND_LEN"),
   ("OFP_VLAN_NONE", "OF_VLAN_UNTAGGED"),
   ("OFP_DL_TYPE_ETH2_CUTOFF", "OF_DL_TYPE_ETH2_CUTOFF"),
   ("OFP_DL_TYPE_NOT_ETH_TYPE", "OF_DL_TYPE_NOT_ETH_TYPE"),
   ("OFP_FLOW_PERMANENT", "OF_FLOW_PERMANENT"),
   ("OFP_DEFAULT_PRIORITY", "OF_DEFAULT_PRIORITY"), ("DESC_STR_LEN", "OF_DESC_STR_LEN"),
   ("SERIAL_NUM_LEN", "OF_SERIAL_NUM_LEN"), ("OFPQ_ALL", "OF_QUEUE_ALL"),
   ("OFPQ_MIN_RATE_UNCFG", "OF_QUEUE_MIN_RATE_UNCFG"),
   ("OFPQ_MAX_RATE_UNCFG", "OF_QUEUE_MAX_RATE_UNCFG"),
   ("OFP_NO_BUFFER", "OF_BUFFER_ID_NO_BUFFER"), ("OFPP_MAX", "OF_PORT_NUMBER_MAX"),
   ("OFPP_TABLE", "OF_PORT_DEST_USE_TABLE"), ("OFPP_ANY", "OF_PORT_DEST_WILDCARD"),
   ("OFPTC_", "OF_TABLE_CONFIG_"), ("OFPIEH_", "OF_IPV6_EXT_HDR_FLAG_"),
   ("OFPMBT_", "OF_METER_BAND_TYPE_"), ("OFPMC_", "OF_METER_MOD_COMMAND_"),
   ("OFPMF_", "OF_METER_FLAG_"), ("OFPTFFC_", "OF_TABLE_REQUEST_FAILED_"),
   ("OFPMMFC_", "OF_METER_MOD_FAILED_"), ("OFPPR_", "OF_PORT_CHANGE_REASON_"),
   ("OFPPMFC_", "OF_PORT_MOD_FAILED_"), ("OFPP_", "OF_PORT_DEST_"),
   ("OFPRRFC_", "OF_ROLE_REQUEST_FAILED_"), ("OFPRR_", "OF_FLOW_REMOVED_REASON_"),
   ("OFPR_", "OF_PACKET_IN_REASON_"), ("OFPC_FRAG_", "OF_CONFIG_FRAG_"),
   ("OFPC_INVALID_", "OF_CONFIG_INVALID_"), ("OFPCML_", "OF_CONTROLLER_PKT_"),
   ("OFPCR_ROLE_", "OF_CONTROLLER_ROLE_"), ("OFPC_", "OF_CAPABILITIES_FLAG_"),
   ("OFPPC_", "OF_PORT_CONFIG_FLAG_"), ("OFPPS_", "OF_PORT_STATE_FLAG_"),
   ("OFPPF_", "OF_PORT_FEATURE_FLAG_"), ("OFPTT_", "OF_TABLE_"), ("OFPT_", "OF_OBJ_TYPE_"),
   ("OFPMT_", "OF_MATCH_TYPE_"), ("OFPM_", "OF_METER_"), ("OFPXMC_", "OF_OXM_CLASS_"),
   ("OFPVID_", "OF_VLAN_TAG_"), ("OFPGC_", "OF_GROUP_MOD_COMMAND_"),
   ("OFPGT_", "OF_GROUP_TYPE_"), ("OFPG_", "OF_GROUP_"), ("OFPET_", "OF_ERROR_TYPE_"),
   ("OFPFC_", "OF_FLOW_MOD_COMMAND_"), ("OFPHFC_", "OF_HELLO_FAILED_"),
   ("OFPBRC_", "OF_REQUEST_FAILED_"), ("OFPBAC_", "OF_ACTION_FAILED_"),
   ("OFPBIC_", "OF_INSTRUCTION_FAILED_"), ("OFPBMC_", "OF_MATCH_FAILED_"),
   ("OFPGMFC_", "OF_GROUP_MOD_FAILED_"), ("OFPTMFC_", "OF_TABLE_MOD_FAILED_"),
   ("OFPFMFC_", "OF_FLOW_MOD_FAILED_"), ("OFPQOFC_", "OF_QUEUE_OP_FAILED_"),
   ("OFPSCFC_", "OF_SWITCH_CONFIG_FAILED_"), ("OFPQCFC_", "OF_SWITCH_CONFIG_FAILED_"),
   ("OFPAT_", "OF_ACTION_TYPE_"), ("OFPFW_", "OF_FLOW_WC_V1_"), ("OFPFF_", "OF_FLOW_MOD_FLAG_"),
   ("OFPST_", "OF_STATS_TYPE_"), ("OFPSF_", "OF_STATS_REPLY_FLAG_"),
   ("OFPQT_", "OF_QUEUE_PROPERTY_"), ("OFPIT_", "OF_INSTRUCTION_TYPE_"),
   ("OFPGFC_", "OF_GROUP_CAPABILITIES_"), ("OFPMP_", "OF_MULTIPART_"),
   ("OFPMPF_", "OF_MULTIPART_FLAG_"), ("OFPTFPT_", "OF_TABLE_FEATURE_"),
   ("OFPHET", "OF_HELLO_ELEM_TYPE_"), ("NX_ROLE_", "OF_NICIRA_CONTROLLER_ROLE_")]

/-- The identifier's name for a constant: the first abbreviation it begins with
is spelled out, wherever it occurs in the name. -/
def ofConstant (name : String) : String :=
  match spellings.find? fun (short, _) => Text.startsWith name short with
  | some (short, long) => Text.replace name short long
  | none => name

def nonFlags : List String :=
  ["OF_CONFIG_FRAG_NORMAL", "OF_FLOW_MOD_FAILED_BAD_FLAGS", "OF_SWITCH_CONFIG_FAILED_BAD_FLAGS",
   "OF_PORT_STATE_FLAG_STP_LISTEN", "OF_TABLE_CONFIG_TABLE_MISS_CONTROLLER"]

/-- Whether an identifier of this name is a bit of a flag word: its name says
so or begins like a configuration bit, and it is not one of the exceptions. -/
def isFlagName (name : String) : Bool :=
  !nonFlags.any (Text.startsWith name ·) &&
    (Text.contains name "FLAG" || Text.startsWith name "OF_CONFIG_"
      || Text.startsWith name "OF_TABLE_CONFIG_")

/-- Whether the identifier has its common value in each of the versions that
defines it. -/
def agreesOn (i : Identifier) (wires : List Nat) : Bool :=
  wires.all fun w => (i.values.get? w).all (· = i.common)

end Identifier

/-! ## Tables of identifiers -/

/-- The identifiers of all versions, and the groups they belong to. -/
structure Identifiers where
  byName : Table String Identifier
  /-- The names that belong to an enum, in the order in which they were met. -/
  groups : Table String (List String)
  deriving Repr, Inhabited

namespace Identifiers

def empty : Identifiers := ⟨[], []⟩

/-- Add a constant's value in a version. A name met before keeps its group in
the listing; it takes the constant's name and enum as its own unless the
constant is a port number. -/
def add (ids : Identifiers) (name constant group : String) (value : Int) (wire : Nat) :
    Identifiers :=
  match ids.byName.get? name with
  | some i =>
    let renamed := if Text.startsWith constant "OFPP_" then i
      else { i with constant := constant, group := group }
    { ids with
      byName := ids.byName.set name { renamed with values := i.values.set wire value } }
  | none =>
    { byName := ids.byName ++ [(name, ⟨[(wire, value)], value, constant, group⟩)]
      groups := ids.groups.update group [] (· ++ [name]) }

end Identifiers

end FlowBindings.Loci
