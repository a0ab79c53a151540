import FlowBindings.Model
import FlowBindings.Protocol.Exact
import FlowBindings.Text.Form

/-!
# Fields of the dissector

The dissector shows every member of every class as a field. A field has a type, a base
in which its numbers are shown, and a table of names if its values are constants of an
enum. An enum is found by the type of the member or, where the member is declared as a
number, by its class and name.

A type that the dissector does not know is shown as bytes, and reported.
-/

namespace FlowBindings.Dissector

open Text

structure Style where
  type : String
  base : String
  names : String
  deriving DecidableEq, Repr

/-- A field that is shown. -/
structure Field where
  /-- Its full name: version, class and member. -/
  fullName : String
  name : String
  style : Style
  deriving DecidableEq, Repr

/-! ## Tables -/

def types : Table String String :=
  [("char", "int8"), ("uint8_t", "uint8"), ("uint16_t", "uint16"), ("uint32_t", "uint32"),
   ("uint64_t", "uint64"), ("of_mac_addr_t", "ether"), ("of_ipv4_t", "ipv4"), ("of_ipv6_t", "ipv6"),
   ("of_port_name_t", "stringz"), ("of_table_name_t", "stringz"), ("of_desc_str_t", "stringz"),
   ("of_serial_num_t", "stringz"), ("of_str64_t", "stringz"), ("of_octets_t", "bytes"),
   ("of_port_no_t", "uint32"), ("of_port_desc_t", "stringz"), ("of_table_desc_t", "stringz"),
   ("of_bsn_vport_t", "bytes"), ("of_bsn_vport_q_in_q_t", "bytes"), ("of_fm_cmd_t", "uint16"),
   ("of_wc_bmap_t", "uint64"), ("of_match_bmap_t", "uint64"), ("of_match_t", "bytes"),
   ("of_stat_t", "bytes"), ("of_oxm_t", "bytes"), ("of_oxs_t", "bytes"),
   ("of_meter_features_t", "bytes"), ("of_bitmap_128_t", "bytes"),
   ("of_controller_uri_t", "stringz")]

def bases : Table String String :=
  [("char", "DEC"), ("uint8_t", "DEC"), ("uint16_t", "DEC"), ("uint32_t", "DEC"),
   ("uint64_t", "DEC"), ("of_mac_addr_t", "NONE"), ("of_ipv4_t", "NONE"), ("of_ipv6_t", "NONE"),
   ("of_port_name_t", "NONE"), ("of_table_name_t", "NONE"), ("of_desc_str_t", "NONE"),
   ("of_serial_num_t", "NONE"), ("of_str64_t", "NONE"), ("of_octets_t", "NONE"),
   ("of_port_no_t", "DEC"), ("of_port_desc_t", "NONE"), ("of_bsn_vport_t", "NONE"),
   ("of_bsn_vport_q_in_q_t", "NONE"), ("of_fm_cmd_t", "DEC"), ("of_wc_bmap_t", "HEX"),
   ("of_match_bmap_t", "HEX"), ("of_match_t", "NONE"), ("of_stat_t", "NONE"), ("of_oxm_t", "NONE"),
   ("of_oxs_t", "NONE"), ("of_meter_features_t", "NONE"), ("of_bitmap_128_t", "NONE")]

def namedBases : Table String String :=
  [("eth_type", "HEX"), ("cookie", "HEX"), ("datapath_id", "HEX")]

def statsMessages : List String :=
  ["of_stats_request", "of_stats_reply"]
    ++ ["flow", "desc", "queue", "port", "table", "port_desc", "meter", "meter_features",
      "meter_config", "group", "group_features", "group_desc", "aggregate"].map
        (fun kind => "of_" ++ kind ++ "_stats_request")
    ++ ["flow", "desc", "queue", "port", "table", "port_desc", "aggregate"].map
        fun kind => "of_" ++ kind ++ "_stats_reply"

/-- The enums of members that are declared as numbers, by class and name. -/
def memberEnums : Table (String × String) String :=
  (["of_flow_mod", "of_error_msg", "of_port_mod", "of_hello", "of_features_request",
      "of_features_reply", "of_barrier_request", "of_barrier_reply", "of_echo_request",
      "of_echo_reply", "of_flow_delete", "of_flow_add", "of_port_status", "of_group_mod",
      "of_packet_out", "of_packet_in", "of_async_get_request"] ++ statsMessages).map
      (fun c => ((c, "type"), "ofp_type"))
    ++ statsMessages.map (fun c => ((c, "stats_type"), "ofp_stats_type"))
    ++ ["set_nw_ttl", "set_field", "output", "group", "id"].map
      (fun kind => (("of_action_" ++ kind, "type"), "ofp_action_type"))
    ++ ["apply", "write"].map
      (fun kind => (("of_instruction_" ++ kind ++ "_actions", "type"), "ofp_instruction_type"))
    ++ [(("of_stats_request", "flags"), "ofp_stats_request_flags"),
      (("of_stats_reply", "flags"), "ofp_stats_reply_flags"),
      (("of_flow_mod", "table_id"), "ofp_table"),
      (("of_flow_mod", "_command"), "ofp_flow_mod_command"),
      (("of_flow_mod", "out_port"), "ofp_port"), (("of_flow_mod", "out_group"), "ofp_group"),
      (("of_error_msg", "err_type"), "ofp_error_type"), (("of_match_v3", "type"), "ofp_match_type"),
      (("of_stat_v6", "type"), "ofp_stat_type"), (("of_group_mod", "group_type"), "ofp_group_type"),
      (("of_group_mod", "command"), "ofp_group_mod_command"),
      (("of_group_mod", "group_id"), "ofp_group"),
      (("of_packet_in", "reason"), "ofp_packet_in_reason")]

def packetClasses : List String :=
  ["of_packet_in", "of_packet_out", "of_bsn_pdu_tx_request", "of_bsn_pdu_rx_request"]

def messageClasses : List String :=
  ["of_error_msg", "of_hello_failed_error_msg", "of_bad_request_error_msg",
   "of_bad_action_error_msg", "of_bad_instruction_error_msg", "of_bad_match_error_msg",
   "of_flow_mod_failed_error_msg", "of_group_mod_failed_error_msg", "of_port_mod_failed_error_msg",
   "of_table_mod_failed_error_msg", "of_queue_op_failed_error_msg",
   "of_switch_config_failed_error_msg", "of_role_request_failed_error_msg",
   "of_meter_mod_failed_error_msg", "of_table_features_failed_error_msg", "of_bundle_add_msg"]

/-! ## Styles -/

variable (m : Model) (p : Protocol) (className name type : String) (v : Version)

def enumOf? : Option Enum :=
  (p.enum? type).or ((memberEnums.get? (className, name)).bind p.enum?)

def plainType : String := (types.get? type).getD "bytes"

/-- The base of a field that holds no constants. The bases of single fields are looked
for by type and found by name. -/
def plainBase : Outcome String :=
  if namedBases.has type then orFault (namedBases.get? name) (.noEntry name)
  else pure ((bases.get? type).getD "NONE")

def styleIn : Outcome Style :=
  if startsWith type "list" then pure ⟨"bytes", "NONE", "nil"⟩
  else
    match enumOf? p className name type with
    | some e =>
      pure ⟨"uint32", if e.isBitmask then "HEX" else "DEC",
        "enum_v" ++ toString p.version.wire ++ "_" ++ e.name⟩
    | none => do pure ⟨plainType type, ← plainBase name type, "nil"⟩

def style (className name type : String) : Outcome Style := do
  if startsWith type "list" then return ⟨"bytes", "NONE", "nil"⟩
  styleIn (← orFault (m.protocol? v) (.noEntry v.dotted)) className name type

def reportsIn : List String :=
  if startsWith type "list" || (enumOf? p className name type).isSome then []
  else
    (if types.has type then [] else ["WARN missing oftype_to_wireshark_type for " ++ type])
      ++ (if namedBases.has type || bases.has type then []
        else ["WARN missing oftype_to_base for " ++ type])

def reports (className name type : String) : List String :=
  (m.protocol? v).elim [] fun p => reportsIn p className name type

/-! ## All fields -/

def fullName (className name : String) : String :=
  "of" ++ v.digits ++ "." ++ dropFirst 3 className ++ "." ++ name

def members : List (Protocol × Class × FlowBindings.Field) :=
  m.protocols.flatMap fun (_, p) => p.classes.flatMap fun c => c.fields.map fun f => (p, c, f)

def fieldFor : Protocol × Class × FlowBindings.Field → Outcome Field
  | (p, c, f) => do
    pure ⟨fullName p.version c.name f.name, f.name, ← styleIn p c.name f.name f.type⟩

/-- The fields that are shown, one for each member. -/
def fields : Outcome (List Field) := (members m).mapM fieldFor

/-- What there is to report about the fields of members, up to the first member that has
none. -/
def reportsThrough : List (Protocol × Class × FlowBindings.Field) → List String
  | [] => []
  | (p, c, f) :: rest =>
    reportsIn p c.name f.name f.type
      ++ (match fieldFor (p, c, f) with
        | .ok _ => reportsThrough rest
        | .error _ => [])

def fieldReports : List String := reportsThrough (members m)

def reader (c : Class) (f : FlowBindings.Field) : String :=
  match (p.enum? f.type).bind fun e => e.params.get? "wire_type" with
  | some type => "read_" ++ type.getD ""
  | none =>
    if f.name = "data" && packetClasses.contains c.name then "read_ethernet"
    else if f.name = "data" && messageClasses.contains c.name then "read_openflow"
    else "read_" ++ Text.replace (Text.replace f.type ")" "") "(" "_"

end FlowBindings.Dissector
