import FlowBindings.ObjectModel.FieldType

/-!
# The table of types

The types that properties have: by the type of the field on the wire, and for single
fields of single classes by class and field. Most are small value classes that know
how to read and write themselves with a fixed number of bytes.
-/

namespace FlowBindings.ObjectModel.FieldType

/-! ## Shapes -/

variable (pub unit priv : String)

def wired (read write : String) (default : Option String := none) : FieldType :=
  (plain pub).withOps { read := some read, write := some write, default := default }

def sized (default : Option String) : FieldType :=
  wired pub (pub ++ ".read" ++ unit ++ "(bb)") ("$name.write" ++ unit ++ "(bb)")
    (default.map fun d => pub ++ "." ++ d)

def object (reader : String) : FieldType :=
  wired pub (reader ++ ".READER.readFrom(bb)") "$name.writeTo(bb)"

def unsigned (wrapper unit : String) : FieldType :=
  ((stored pub priv).withOps
      { read := some (wrapper ++ ".f(bb.read" ++ unit ++ "())")
        write := some ("bb.write" ++ unit ++ "(" ++ wrapper ++ ".t($name))") } none (some true)).withOps
    { read := some ("bb.read" ++ unit ++ "()"), write := some ("bb.write" ++ unit ++ "($name)") }
    none (some false)

def boxed : FieldType :=
  wired pub (pub ++ ".of(bb.read" ++ unit ++ "())") ("bb.write" ++ unit ++ "($name.getRaw())")
    (some (pub ++ ".ZERO"))

def unitOps : Operations :=
  { read := some ("bb.read" ++ unit ++ "()"), write := some ("bb.write" ++ unit ++ "($name)") }

def kept (unit : String) : FieldType := (stored pub priv).withOps (unitOps unit)

def shortEnum (name : String) : FieldType :=
  { ofEnum name with priv := "short" }.withOps (unitOps "Short") none (some false)

def values (element : String) : FieldType := listOf pub priv element (element ++ ".READER")

/-! ## Numbers and texts -/

def u8 : FieldType := unsigned "short" "byte" "U8" "Byte"

def u16 : FieldType := unsigned "int" "short" "U16" "Short"

def u32 : FieldType := unsigned "long" "int" "U32" "Int"

def u64 : FieldType :=
  ((stored "U64" "long").withOps
      { read := some "U64.ofRaw(bb.readLong())", write := some "bb.writeLong($name.getValue())"
        default := some "U64.ZERO" } none (some true)).withOps (unitOps "Long") none (some false)

def u128 : FieldType := sized "U128" "16Bytes" (some "ZERO")

def u8Object : FieldType := boxed "U8" "Byte"

def u16Object : FieldType := boxed "U16" "Short"

def u32Object : FieldType := boxed "U32" "Int"

def octets : FieldType :=
  (plain "byte[]").withOps
    { read := some "ChannelUtils.readBytes(bb, $length)", write := some "bb.writeBytes($name)"
      default := some "new byte[0]", funnel := some "sink.putBytes($name)" }

def variableText : FieldType :=
  (plain "String").withOps
    { read := some "ChannelUtils.readFixedLengthString(bb, $length)"
      write := some "ChannelUtils.writeFixedLengthString(bb, $name, $name.length())"
      default := some "\"\"", funnel := some "sink.putUnencodedChars($name)" }

def boolean : FieldType :=
  (stored "boolean" "byte").withOps
    { read := some "(bb.readByte() != 0)", write := some "bb.writeByte($name ? 1 : 0)"
      default := some "false" }

def booleanObject : FieldType :=
  wired "OFBooleanValue" "OFBooleanValue.of(bb.readByte() != 0)" "bb.writeByte($name.getInt())"
    (some "OFBooleanValue.FALSE")

/-! ## Ports, groups and tables -/

def port : FieldType :=
  ((plain "OFPort").withOps
      { read := some "OFPort.read2Bytes(bb)", write := some "$name.write2Bytes(bb)"
        default := some "OFPort.ANY" } (some 1)).withOps
    { read := some "OFPort.read4Bytes(bb)", write := some "$name.write4Bytes(bb)"
      default := some "OFPort.ANY" }

def matchPort : FieldType :=
  (plain "OFPort").withOps
    { read := some "OFPort.read2Bytes(bb)", write := some "$name.write2Bytes(bb)"
      default := some "OFPort.ZERO" } (some 1)

def group : FieldType := sized "OFGroup" "4Bytes" (some "ALL")

def anyGroup : FieldType := sized "OFGroup" "4Bytes" (some "ANY")

def tableId : FieldType := sized "TableId" "Byte" (some "ALL")

def firstTableId : FieldType := sized "TableId" "Byte" (some "ZERO")

def genTableId : FieldType := sized "GenTableId" "2Bytes" none

def bundleId : FieldType := sized "BundleId" "4Bytes" none

def bufferId : FieldType :=
  wired "OFBufferId" "OFBufferId.of(bb.readInt())" "bb.writeInt($name.getInt())"
    (some "OFBufferId.NO_BUFFER")

def datapathId : FieldType :=
  wired "DatapathId" "DatapathId.of(bb.readLong())" "bb.writeLong($name.getLong())"
    (some "DatapathId.NONE")

def classId : FieldType := sized "ClassId" "4Bytes" (some "NONE")

def userField : FieldType := sized "UDF" "4Bytes" (some "ZERO")

/-! ## Headers of packets -/

def macAddress : FieldType := sized "MacAddress" "6Bytes" (some "NONE")

def ipv4 : FieldType := sized "IPv4Address" "4Bytes" (some "NONE")

def ipv6 : FieldType := sized "IPv6Address" "16Bytes" (some "NONE")

def transportPort : FieldType := sized "TransportPort" "2Bytes" (some "NONE")

def etherType : FieldType := sized "EthType" "2Bytes" (some "NONE")

def vlan : FieldType := sized "VlanVid" "2Bytes" (some "ZERO")

def vlanMatch : FieldType :=
  let early : Operations :=
    { read := some "OFVlanVidMatch.read2BytesOF10(bb)", write := some "$name.write2BytesOF10(bb)"
      default := some "OFVlanVidMatch.NONE" }
  (((plain "OFVlanVidMatch").withOps early (some 1)).withOps early (some 2)).withOps
    { read := some "OFVlanVidMatch.read2Bytes(bb)", write := some "$name.write2Bytes(bb)"
      default := some "OFVlanVidMatch.NONE" }

def vlanPriority : FieldType := sized "VlanPcp" "Byte" (some "NONE")

def dscp : FieldType := sized "IpDscp" "Byte" (some "NONE")

def ecn : FieldType := sized "IpEcn" "Byte" (some "NONE")

def ipProtocol : FieldType := sized "IpProtocol" "Byte" (some "NONE")

/-! ## Matches and messages -/

def matchObject : FieldType :=
  wired "Match" "ChannelUtilsVer$version.readOFMatch(bb)" "$name.writeTo(bb)"
    (some "OFFactoryVer$version.MATCH_WILDCARD_ALL")

def wildcards (default : Option String) : FieldType :=
  wired "int" "bb.readInt()" "bb.writeInt($name)" default

def message : FieldType := object "OFMessage" "OFMessageVer$version"

def protocolVersion : FieldType := kept "OFVersion" "byte" "Byte"

def messageType : FieldType := kept "OFType" "byte" "Byte"

def actionType : FieldType := shortEnum "OFActionType"

def instructionType : FieldType := shortEnum "OFInstructionType"

def actionTypeSet : FieldType :=
  (plain "Set<OFActionType>").withOps
    { read := some "ChannelUtilsVer10.readSupportedActions(bb)"
      write := some "ChannelUtilsVer10.writeSupportedActions(bb, $name)"
      default := some "ImmutableSet.<OFActionType>of()"
      funnel := some "ChannelUtilsVer10.putSupportedActionsTo($name, sink)" }

def errorCause : FieldType :=
  wired "OFErrorCauseData" "OFErrorCauseData.read(bb, $length, OFVersion.OF_$version)"
    "$name.writeTo(bb)" (some "OFErrorCauseData.NONE")

def groupCommand : FieldType := kept "OFGroupModCommand" "short" "Short"

def flowCommand : FieldType :=
  ((stored "OFFlowModCommand" "short").withOps (unitOps "Short") (some 1)).withOps (unitOps "Byte")

def errorType : FieldType := kept "OFErrorType" "short" "Short"

def statsType : FieldType := kept "OFStatsType" "short" "Short"

def portSpeed : FieldType := plain "PortSpeed"

def auxId : FieldType := sized "OFAuxId" "Byte" (some "MAIN")

def parameter : FieldType := plain "T"

/-! ## Tables -/

def byWireType : Table String FieldType :=
  [("uint8_t", u8), ("uint16_t", u16), ("uint32_t", u32), ("uint64_t", u64), ("uint128_t", u128),
   ("of_port_no_t", port), ("list(of_action_t)", ofList "OFAction"),
   ("list(of_instruction_t)", ofList "OFInstruction"), ("list(of_bucket_t)", ofList "OFBucket"),
   ("list(of_port_desc_t)", ofList "OFPortDesc"), ("list(of_packet_queue_t)", ofList "OFPacketQueue"),
   ("list(of_uint64_t)", values "List<U64>" "int[]" "U64"),
   ("list(of_uint32_t)", values "List<U32>" "int[]" "U32"),
   ("list(of_uint16_t)", values "List<U16>" "short[]" "U16"),
   ("list(of_uint8_t)", values "List<U8>" "List<U8>" "U8"),
   ("list(of_oxm_t)", wired "OFOxmList" "OFOxmList.readFrom(bb, $length, OFOxmVer$version.READER)"
     "$name.writeTo(bb)" (some "OFOxmList.EMPTY")),
   ("list(of_oxs_t)", wired "OFOxsList" "OFOxsList.readFrom(bb, $length, OFOxsVer15.READER)"
     "$name.writeTo(bb)" (some "OFOxsList.EMPTY")),
   ("list(of_ipv4_t)", values "List<IPv4Address>" "List<IPv4Address>" "IPv4Address"),
   ("list(of_ipv6_t)", values "List<IPv46ddress>" "List<IPv46ddress>" "IPv6Address"),
   ("of_octets_t", octets), ("of_match_t", matchObject),
   ("of_stat_t", wired "Stat" "ChannelUtilsVer$version.readOFStat(bb)" "$name.writeTo(bb)"),
   ("of_controller_uri_t", sized "OFConnectionIndex" "4Bytes" none), ("of_fm_cmd_t", flowCommand),
   ("of_mac_addr_t", macAddress), ("of_port_desc_t", object "OFPortDesc" "OFPortDescVer$version"),
   ("of_desc_str_t", ofFixedText "256"), ("of_serial_num_t", ofFixedText "32"),
   ("of_port_name_t", ofFixedText "16"), ("of_table_name_t", ofFixedText "32"),
   ("of_str64_t", ofFixedText "64"), ("of_ipv4_t", ipv4), ("of_ipv6_t", ipv6),
   ("of_wc_bmap_t", wildcards (some "OFFlowWildcardsSerializerVer$version.ALL_VAL")),
   ("of_oxm_t", object "OFOxm<?>" "OFOxmVer$version"), ("of_oxs_t", object "OFOxs<?>" "OFOxsVer15"),
   ("of_meter_features_t", object "OFMeterFeatures" "OFMeterFeaturesVer$version"),
   ("of_bitmap_128_t", sized "OFBitMask128" "16Bytes" (some "NONE")),
   ("of_bitmap_512_t", sized "OFBitMask512" "64Bytes" (some "NONE")), ("of_checksum_128_t", u128),
   ("of_bsn_vport_t", object "OFBsnVport" "OFBsnVportVer$version"),
   ("of_table_desc_t", object "OFTableDesc" "OFTableDescVer$version"),
   ("of_controller_status_entry_t", object "OFControllerStatusEntry" "OFControllerStatusEntryVer$version"),
   ("of_time_t", object "OFTime" "OFTimeVer$version"), ("of_header_t", message)]

def byMatchField : Table String FieldType :=
  [("tcp_src", transportPort), ("tcp_dst", transportPort), ("udp_src", transportPort),
   ("udp_dst", transportPort), ("sctp_src", transportPort), ("sctp_dst", transportPort),
   ("eth_type", etherType), ("vlan_vid", vlanMatch), ("vlan_pcp", vlanPriority), ("ip_dscp", dscp),
   ("ip_ecn", ecn), ("ip_proto", ipProtocol), ("icmpv4_type", sized "ICMPv4Type" "Byte" (some "NONE")),
   ("icmpv4_code", sized "ICMPv4Code" "Byte" (some "NONE")),
   ("arp_op", sized "ArpOpcode" "2Bytes" (some "NONE")), ("arp_spa", ipv4), ("arp_tpa", ipv4),
   ("ipv6_flabel", sized "IPv6FlowLabel" "4Bytes" (some "NONE")),
   ("metadata", sized "OFMetadata" "8Bytes" (some "NONE")), ("icmpv6_code", u8Object),
   ("icmpv6_type", u8Object), ("mpls_label", u32Object), ("mpls_tc", u8Object),
   ("mpls_bos", booleanObject), ("ipv6_exthdr", u16Object), ("pbb_uca", booleanObject),
   ("tcp_flags", u16Object), ("ovs_tcp_flags", u16Object), ("actset_output", port),
   ("packet_type", sized "PacketType" "4Bytes" none),
   ("bsn_in_ports_128", sized "OFBitMask128" "16Bytes" (some "NONE")),
   ("bsn_in_ports_512", sized "OFBitMask512" "64Bytes" (some "NONE")),
   ("bsn_lag_id", sized "LagId" "4Bytes" (some "NONE")), ("bsn_vrf", sized "VRF" "4Bytes" (some "ZERO")),
   ("bsn_global_vrf_allowed", booleanObject), ("bsn_l3_interface_class_id", classId),
   ("bsn_l3_src_class_id", classId), ("bsn_l3_dst_class_id", classId),
   ("bsn_egr_port_group_id", classId), ("bsn_ingress_port_group_id", classId),
   ("bsn_udf0", userField), ("bsn_udf1", userField), ("bsn_udf2", userField), ("bsn_udf3", userField),
   ("bsn_udf4", userField), ("bsn_udf5", userField), ("bsn_udf6", userField), ("bsn_udf7", userField),
   ("bsn_tcp_flags", u16Object), ("bsn_vlan_xlate_port_group_id", classId),
   ("bsn_l2_cache_hit", booleanObject), ("bsn_vxlan_network_id", sized "VxlanNI" "4Bytes" (some "ZERO")),
   ("bsn_inner_eth_dst", macAddress), ("bsn_inner_eth_src", macAddress),
   ("bsn_inner_vlan_vid", vlanMatch), ("bsn_vfi", sized "VFI" "2Bytes" (some "ZERO")),
   ("bsn_ip_fragmentation", booleanObject), ("bsn_ifp_class_id", classId),
   ("conn_tracking_state", u32Object), ("conn_tracking_zone", u16Object),
   ("conn_tracking_mark", u32Object), ("conn_tracking_label", u128),
   ("conn_tracking_nw_proto", u8Object), ("conn_tracking_nw_src", u32Object),
   ("conn_tracking_nw_dst", u32Object), ("conn_tracking_ipv6_src", ipv6),
   ("conn_tracking_ipv6_dst", ipv6), ("conn_tracking_tp_src", transportPort),
   ("conn_tracking_tp_dst", transportPort)]

def bySingleField : Table String (Table String FieldType) :=
  [("of_packet_in", [("data", octets), ("reason", ofEnum "OFPacketInReason")]),
   ("of_oxs_byte_count", [("value", u64)]), ("of_oxs_duration", [("value", u64)]),
   ("of_oxs_flow_count", [("value", u32Object)]), ("of_oxs_idle_time", [("value", u64)]),
   ("of_oxs_packet_count", [("value", u64)]), ("of_table_stats_entry", [("wildcards", wildcards none)]),
   ("of_match_v1", [("vlan_vid", vlanMatch), ("vlan_pcp", vlanPriority), ("eth_type", etherType),
     ("ip_dscp", dscp), ("ip_proto", ipProtocol), ("tcp_src", transportPort),
     ("tcp_dst", transportPort), ("in_port", matchPort)]),
   ("of_bsn_set_l2_table_request", [("l2_table_enable", boolean)]),
   ("of_bsn_set_l2_table_reply", [("l2_table_enable", boolean)]),
   ("of_bsn_set_pktin_suppression_request", [("enabled", boolean)]),
   ("of_bsn_controller_connection", [("auxiliary_id", auxId)]),
   ("of_flow_stats_request", [("out_group", group)]),
   ("of_aggregate_stats_request", [("out_group", anyGroup)]),
   ("of_action_bsn_mirror", [("dest_port", port)]), ("of_action_push_mpls", [("ethertype", etherType)]),
   ("of_action_push_pbb", [("ethertype", etherType)]), ("of_action_push_vlan", [("ethertype", etherType)]),
   ("of_action_pop_mpls", [("ethertype", etherType)]), ("of_action_set_nw_dst", [("nw_addr", ipv4)]),
   ("of_action_set_nw_ecn", [("nw_ecn", ecn)]), ("of_action_set_nw_src", [("nw_addr", ipv4)]),
   ("of_action_set_tp_dst", [("tp_port", transportPort)]),
   ("of_action_set_tp_src", [("tp_port", transportPort)]),
   ("of_action_set_vlan_pcp", [("vlan_pcp", vlanPriority)]),
   ("of_action_set_vlan_vid", [("vlan_vid", vlan)]), ("of_group_mod", [("command", groupCommand)]),
   ("of_group_add", [("command", groupCommand)]), ("of_group_modify", [("command", groupCommand)]),
   ("of_group_delete", [("command", groupCommand)]),
   ("of_group_insert_bucket", [("command", groupCommand)]),
   ("of_group_remove_bucket", [("command", groupCommand)]), ("of_bucket", [("watch_group", group)]),
   ("of_bsn_tlv_vlan_vid", [("value", vlan)]),
   ("of_bsn_table_set_buckets_size", [("table_id", tableId)]),
   ("of_bsn_gentable_entry_add", [("table_id", genTableId)]), ("of_bsn_log", [("data", variableText)]),
   ("of_features_reply", [("auxiliary_id", auxId)]), ("of_bundle_add_msg", [("data", message)]),
   ("of_flow_lightweight_stats_request", [("out_group", group)])]

/-- The type of a field that has one of its own. The value of a match field and its
mask have the same. -/
def ofSingleField? (className field : String) : Option FieldType :=
  if Text.startsWith className "of_oxm_" then
    let name := Text.dropFirst 7 className
    let unmasked := Text.trimTail name "_masked"
    if field = "value" || (field = "value_mask" && unmasked ≠ name) then byMatchField.get? unmasked
    else none
  else (bySingleField.get? className).bind (·.get? field)

end FlowBindings.ObjectModel.FieldType
