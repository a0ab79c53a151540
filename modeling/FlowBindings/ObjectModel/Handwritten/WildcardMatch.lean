import FlowBindings.Text.Form

/-!
# The match with wildcards

The match of the first version is a structure with bits that say which of its fields
count. Fields that do not count are cleared, so that matches that say the same are
equal.
-/

namespace FlowBindings.ObjectModel.Source.Handwritten

open Text

def wildcardBits : String := block r#"
	ψALL = ((1 << 22) - 1);

	ψIN_PORT = 1 << 0; /* Switch input port. */
	ψDL_VLAN = 1 << 1; /* VLAN id. */
	ψDL_SRC = 1 << 2; /* Ethernet source address. */
	ψDL_DST = 1 << 3; /*
													* Ethernet destination
													* address.
													*/
	ψDL_TYPE = 1 << 4; /* Ethernet frame type. */
	ψNW_PROTO = 1 << 5; /* IP protocol. */
	ψTP_SRC = 1 << 6; /* TCP/UDP source port. */
	ψTP_DST = 1 << 7; /* TCP/UDP destination port. */

	/*
	 * IP source address wildcard bit count. 0 is exact match, 1 ignores the
	 * LSB, 2 ignores the 2 least-significant bits, ..., 32 and higher wildcard
	 * the entire field. This is the *opposite* of the usual convention where
	 * e.g. /24 indicates that 8 bits (not 24 bits) are wildcarded.
	 */
	ψNW_SRC_SHIFT = 8;
	ψNW_SRC_BITS = 6;
	ψNW_SRC_MASK = ((1 << OFPFW_NW_SRC_BITS) - 1) << OFPFW_NW_SRC_SHIFT;
	ψNW_SRC_ALL = 32 << OFPFW_NW_SRC_SHIFT;

	/* IP destination address wildcard bit count. Same format as source. */
	ψNW_DST_SHIFT = 14;
	ψNW_DST_BITS = 6;
	ψNW_DST_MASK = ((1 << OFPFW_NW_DST_BITS) - 1) << OFPFW_NW_DST_SHIFT;
	ψNW_DST_ALL = 32 << OFPFW_NW_DST_SHIFT;

	ψDL_VLAN_PCP = 1 << 20; /* VLAN priority. */
	ψNW_TOS = 1 << 21; /* IP ToS (DSCP field, 6bits) */

"#

/-- A field of a match with wildcards: the value it is read from, and the wildcard that
says whether it counts. -/
structure WildcardField where
  id : String
  value : String
  wildcard : String

def WildcardField.isAddress (f : WildcardField) : Bool := f.wildcard ∈ ["Src", "Dst"]

def wildcardFields : List WildcardField :=
  [⟨"IN_PORT", "inPort", "IN_PORT"⟩,
   ⟨"ETH_DST", "ethDst", "DL_DST"⟩,
   ⟨"ETH_SRC", "ethSrc", "DL_SRC"⟩,
   ⟨"ETH_TYPE", "ethType", "DL_TYPE"⟩,
   ⟨"VLAN_VID", "vlanVid", "DL_VLAN"⟩,
   ⟨"VLAN_PCP", "vlanPcp", "DL_VLAN_PCP"⟩,
   ⟨"ARP_OP", "ArpOpcode.of(ipProto.getIpProtocolNumber())", "NW_PROTO"⟩,
   ⟨"ARP_SPA", "ipv4Src", "Src"⟩,
   ⟨"ARP_TPA", "ipv4Dst", "Dst"⟩,
   ⟨"IP_DSCP", "ipDscp", "NW_TOS"⟩,
   ⟨"IP_PROTO", "ipProto", "NW_PROTO"⟩,
   ⟨"IPV4_SRC", "ipv4Src", "Src"⟩,
   ⟨"IPV4_DST", "ipv4Dst", "Dst"⟩,
   ⟨"TCP_SRC", "tcpSrc", "TP_SRC"⟩,
   ⟨"TCP_DST", "tcpDst", "TP_DST"⟩,
   ⟨"UDP_SRC", "tcpSrc", "TP_SRC"⟩,
   ⟨"UDP_DST", "tcpDst", "TP_DST"⟩,
   ⟨"SCTP_SRC", "tcpSrc", "TP_SRC"⟩,
   ⟨"SCTP_DST", "tcpDst", "TP_DST"⟩,
   ⟨"ICMPV4_TYPE", "ICMPv4Type.of((short) tcpSrc.getPort())", "TP_SRC"⟩,
   ⟨"ICMPV4_CODE", "ICMPv4Code.of((short) tcpDst.getPort())", "TP_DST"⟩]

def wildcardFieldsReordered : List WildcardField :=
  let isLate f := startsWith (WildcardField.id f) "IPV4"
  wildcardFields.filter (fun f => !isLate f) ++ wildcardFields.filter isLate

def fieldCases (ids : List String) : String :=
  each ids fun id => "            case " ++ id ++ ":\n"

variable (inBuilder : Bool)

/-- The case that takes the value of a field. A builder sets the two cases of control
messages a column to the left. -/
def valueCase (f : WildcardField) : String :=
  let label := fieldCases [f.id]
  (if inBuilder && startsWith f.id "ICMP" then dropFirst 1 label else label)
    ++ form [("value", f.value)] r"
				result = «value»;
				break;
"

/-- The case that compares the wildcard of a field: its bit, or the length of its mask. -/
def wildcardCase (bit length : String) (f : WildcardField) : String :=
  fieldCases [f.id] ++ form [("name", f.wildcard), ("bit", bit), ("length", length)]
    (if f.isAddress then r"
				ρthis.getIpv4«name»CidrMaskLen() «length»;
"
    else r"
				ρ(this.wildcards & OFPFW_«name») «bit»;
")

/-- What a match answers where the prerequisites of a field are not met. A builder does
not look at them. -/
def unlessRequired (answer : String) : String :=
  when (!inBuilder) <| form [("answer", answer)] r"
		if (!field.arePrerequisitesOK(this))
			ρ«answer»;
"

def refuseField (how : String) : String := form [("how", how)] r#"
			default:
				throw new υ("OFMatch does not support «how» on field " + field.getName());
"#

def supportsField (name : String) (ids : List String) : String :=
  form [("name", name), ("cases", fieldCases ids)] r"
	χpublic boolean «name»(MatchField<?> field) {
		switch (field.id) {
«cases»				ρtrue;
			default:
				ρfalse;
		}
	}

"

def maskLength (name bits : String) : String := form [("name", name), ("bits", bits)] r"
	/**
	 * Parse this match's wildcard fields and ρthe number of significant
	 * bits in the IP destination field. NOTE: this returns the number of bits
	 * that are fixed, i.e., like CIDR, not the number of bits that are free
	 * like OpenFlow encodes.
	 *
	 * @ρA number between 0 (matches all IPs) and 32 (exact match)
	 */
	public int getIpv4«name»CidrMaskLen() {
		ρMath.max(32 - ((wildcards & OFPFW_NW_«bits»_MASK) >> OFPFW_NW_«bits»_SHIFT),
						0);
	}

"

def wildcardLook : String :=
  let ordered (xs : List String) := if inBuilder then xs.reverse else xs
  let blank := when (!inBuilder) "\n"
  block r#"
	@SuppressWarnings("unchecked")
	χφ F get(MatchField<F> field)
			throws υ {
		if (isFullyWildcarded(field))
			ρnull;
"#
  ++ unlessRequired inBuilder "null" ++ block r"

		Object result;
		switch (field.id) {
"
  ++ each wildcardFields (valueCase inBuilder) ++ block r"
			// NOT SUPPORTED:
"
  ++ refuseField "matching" ++ block r#"
		}
		ρ(F)result;
	}

	@SuppressWarnings("unchecked")
	χφ Masked<F> getMasked(MatchField<F> field)
			throws υ {
		if (!isPartiallyMasked(field))
			ρnull;
"#
  ++ unlessRequired inBuilder "null" ++ block r"
		Object result;
		switch (field.id) {
"
  ++ fieldCases (ordered ["ARP_SPA", "IPV4_SRC"]) ++ block r"
				int srcBitMask = (-1) << (32 - getIpv4SrcCidrMaskLen());
				result = IPv4AddressWithMask.of(ipv4Src, IPv4Address.of(srcBitMask));
				break;
"
  ++ fieldCases (ordered ["ARP_TPA", "IPV4_DST"]) ++ when inBuilder (block r"
				int dstMaskedBits = Math.min(32, (wildcards & OFPFW_NW_DST_MASK) >> OFPFW_NW_DST_SHIFT);
")
  ++ block r"
				int dstBitMask = (-1) << (32 - getIpv4DstCidrMaskLen());

				result = IPv4AddressWithMask.of(ipv4Dst, IPv4Address.of(dstBitMask));
				break;
"
  ++ refuseField "masked matching" ++ block r"
		}
		ρ(Masked<F>)result;
	}

"
  ++ supportsField "supports" (wildcardFields.map (·.id))
  ++ supportsField "supportsMasked" ["ARP_SPA", "ARP_TPA", "IPV4_SRC", "IPV4_DST"] ++ block r"
	χpublic boolean isExact(MatchField<?> field) {
"
  ++ unlessRequired inBuilder "false" ++ blank ++ block r"
		switch (field.id) {
"
  ++ each wildcardFields (wildcardCase "== 0" ">= 32") ++ refuseField "matching" ++ block r"
		}
	}

"
  ++ maskLength "Dst" "DST" ++ maskLength "Src" "SRC" ++ block r"

	χpublic boolean isFullyWildcarded(MatchField<?> field) {
"
  ++ unlessRequired inBuilder "true" ++ blank ++ block r"
		switch (field.id) {
"
  ++ each wildcardFieldsReordered (wildcardCase "!= 0" "<= 0") ++ refuseField "matching" ++ block r"
		}
	}

	χpublic boolean isPartiallyMasked(MatchField<?> field) {
"
  ++ unlessRequired inBuilder "false" ++ blank ++ block r"
		switch (field.id) {
			case ARP_SPA:
			case IPV4_SRC:
				int srcCidrLen = getIpv4SrcCidrMaskLen();
				ρsrcCidrLen > 0 && srcCidrLen < 32;
			case ARP_TPA:
			case IPV4_DST:
				int dstCidrLen = getIpv4DstCidrMaskLen();
				ρdstCidrLen > 0 && dstCidrLen < 32;
"
  ++ (if inBuilder then refuseField "masked matching" else block r"
			default:
				ρfalse;
")
  ++ block r"
		}
	}

"

def countsUnless (wildcard id : String) : String := form [("wildcard", wildcard), ("id", id)] r"
		if ((wildcards & OFPFW_«wildcard») == 0)
			builder.add(MatchField.«id»);
"

/-- The field that counts where a condition holds, which depends on the value of a variable;
other values of it are refused. -/
def countsBy (condition var type what : String) (fields : List (String × String)) : String :=
  form [("condition", condition)] r"
		if («condition») {
"
  ++ "            " ++ each fields (fun (value, id) =>
    form [("var", var), ("type", type), ("value", value), ("id", id)] r"
if («var» == «type».«value») {
				builder.add(MatchField.«id»);
			} else ")
  ++ form [("var", var), ("what", what)] r#"
{
				throw new υ(
						"Unsupported «what» " + «var»);
			}
		}
"#

def countingFields : String :=
  let byFrame condition what arp ip := countsBy condition "ethType" "EthType"
    ("Ethertype for matching on " ++ what) [("ARP", arp), ("IPv4", ip)]
  let byPacket side what message :=
    countsBy ("(wildcards & OFPFW_TP_" ++ side ++ ") == 0") "ipProto" "IpProtocol"
      ("IP protocol for matching on " ++ what ++ " port")
      [("UDP", "UDP_" ++ side), ("TCP", "TCP_" ++ side), ("SCTP", "SCTP_" ++ side), ("ICMP", message)]
  let address side :=
    "((wildcards & OFPFW_NW_" ++ side ++ "_MASK) >> OFPFW_NW_" ++ side ++ "_SHIFT) < 32"
  block r"
	χpublic Iterable<MatchField<?>> getMatchFields() {
		ImmutableList.Builder<MatchField<?>> builder = ImmutableList.builder();
"
  ++ countsUnless "IN_PORT" "IN_PORT" ++ countsUnless "DL_VLAN" "VLAN_VID"
  ++ countsUnless "DL_SRC" "ETH_SRC" ++ countsUnless "DL_DST" "ETH_DST"
  ++ countsUnless "DL_TYPE" "ETH_TYPE"
  ++ byFrame "(wildcards & OFPFW_NW_PROTO) == 0" "network protocol" "ARP_OP" "IP_PROTO"
  ++ byPacket "SRC" "source" "ICMPV4_TYPE" ++ byPacket "DST" "destination" "ICMPV4_CODE"
  ++ byFrame (address "SRC") "source IP" "ARP_SPA" "IPV4_SRC"
  ++ byFrame (address "DST") "destination IP" "ARP_TPA" "IPV4_DST"
  ++ countsUnless "DL_VLAN_PCP" "VLAN_PCP" ++ countsUnless "NW_TOS" "IP_DSCP" ++ block r"
		ρbuilder.build();
	}
"

def wildcardMatch : String := wildcardBits ++ wildcardLook false ++ countingFields

/-- A case of setting or clearing fields: the call of a setter, and the wildcard that
changes with it. -/
structure FieldWrite where
  ids : List String
  call : String
  wildcard : String

def FieldWrite.text (change : String) (w : FieldWrite) : String :=
  fieldCases w.ids ++ form [("call", w.call), ("change", change), ("wildcard", w.wildcard)] r"
				set«call»
				wildcards «change»OFPFW_«wildcard»;
				break;
"

def exactWrites : List FieldWrite :=
  [⟨["ETH_DST"], "EthDst((MacAddress) value);", "DL_DST"⟩,
   ⟨["ETH_SRC"], "EthSrc((MacAddress) value);", "DL_SRC"⟩,
   ⟨["ETH_TYPE"], "EthType((EthType) value);", "DL_TYPE"⟩,
   ⟨["ICMPV4_CODE"], "TcpDst(TransportPort.of(((ICMPv4Code)value).getCode()));", "TP_DST"⟩,
   ⟨["ICMPV4_TYPE"], "TcpSrc(TransportPort.of(((ICMPv4Type)value).getType()));", "TP_SRC"⟩,
   ⟨["IN_PORT"], "InPort((OFPort) value);", "IN_PORT"⟩,
   ⟨["ARP_OP"], "IpProto(IpProtocol.of((short)((ArpOpcode)value).getOpcode()));", "NW_PROTO"⟩,
   ⟨["ARP_TPA", "IPV4_DST"], "Ipv4Dst((IPv4Address) value);", "NW_DST_MASK"⟩,
   ⟨["ARP_SPA", "IPV4_SRC"], "Ipv4Src((IPv4Address) value);", "NW_SRC_MASK"⟩,
   ⟨["IP_DSCP"], "IpDscp((IpDscp) value);", "NW_TOS"⟩,
   ⟨["IP_PROTO"], "IpProto((IpProtocol) value);", "NW_PROTO"⟩,
   ⟨["SCTP_DST"], "TcpDst((TransportPort) value);", "TP_DST"⟩,
   ⟨["SCTP_SRC"], "TcpSrc((TransportPort) value);", "TP_SRC"⟩,
   ⟨["TCP_DST"], "TcpDst((TransportPort) value);", "TP_DST"⟩,
   ⟨["TCP_SRC"], "TcpSrc((TransportPort) value);", "TP_SRC"⟩,
   ⟨["UDP_DST"], "TcpDst((TransportPort) value);", "TP_DST"⟩,
   ⟨["UDP_SRC"], "TcpSrc((TransportPort) value);", "TP_SRC"⟩,
   ⟨["VLAN_PCP"], "VlanPcp((VlanPcp) value);", "DL_VLAN_PCP"⟩,
   ⟨["VLAN_VID"], "VlanVid((OFVlanVidMatch) value);", "DL_VLAN"⟩]

def clearingWrites : List FieldWrite :=
  [⟨["ETH_DST"], "EthDst(MacAddress.NONE);", "DL_DST"⟩,
   ⟨["ETH_SRC"], "EthSrc(MacAddress.NONE);", "DL_SRC"⟩,
   ⟨["ETH_TYPE"], "EthType(EthType.NONE);", "DL_TYPE"⟩,
   ⟨["ICMPV4_CODE", "TCP_DST", "UDP_DST", "SCTP_DST"], "TcpDst(TransportPort.NONE);", "TP_DST"⟩,
   ⟨["ICMPV4_TYPE", "TCP_SRC", "UDP_SRC", "SCTP_SRC"], "TcpSrc(TransportPort.NONE);", "TP_SRC"⟩,
   ⟨["IN_PORT"], "InPort(OFPort.of(0)); // NOTE: not 'NONE' -- that is 0xFF for ports", "IN_PORT"⟩,
   ⟨["ARP_TPA", "IPV4_DST"], "Ipv4Dst(IPv4Address.NONE);", "NW_DST_MASK"⟩,
   ⟨["ARP_SPA", "IPV4_SRC"], "Ipv4Src(IPv4Address.NONE);", "NW_SRC_MASK"⟩,
   ⟨["IP_DSCP"], "IpDscp(IpDscp.NONE);", "NW_TOS"⟩,
   ⟨["IP_PROTO"], "IpProto(IpProtocol.NONE);", "NW_PROTO"⟩,
   ⟨["VLAN_PCP"], "VlanPcp(VlanPcp.NONE);", "DL_VLAN_PCP"⟩,
   ⟨["VLAN_VID"], "VlanVid(OFVlanVidMatch.NONE);", "DL_VLAN"⟩]

def wildcardChange (wildcards : String) : String :=
  form [("wildcards", wildcards)] r"
	private final void initWildcards() {
		if(!wildcardsSet) {
			wildcards = «wildcards»;
			wildcardsSet = true;
		}
	}

	χφ Match.Builder setExact(MatchField<F> field,
			F value) {
		initWildcards();
		Object val = value;
		switch (field.id) {
"
  ++ each exactWrites (FieldWrite.text "&= ~") ++ block r#"
			default:
				throw new υ(
						"OFMatch does not support matching on field " + field.getName());
		}
		ρthis;
	}

	χφ Match.Builder setMasked(MatchField<F> field,
			F value, F mask) {
		initWildcards();
		switch (field.id) {
			case ARP_SPA:
			case ARP_TPA:
			case IPV4_DST:
			case IPV4_SRC:
				Object valObj = value;
				Object masObj = mask;
				IPv4Address ip = ((IPv4Address)valObj);
				int maskval = ((IPv4Address)masObj).getInt();
				if (Integer.bitCount(~maskval + 1) != 1)
					throw new υ("OFMatch only supports CIDR masks for IPv4");
				int maskLen = 32 - Integer.bitCount(maskval);
				switch(field.id) {
					case ARP_TPA:
					case IPV4_DST:
						setIpv4Dst(ip);
						wildcards = (wildcards &~OFPFW_NW_DST_MASK) | (maskLen << OFPFW_NW_DST_SHIFT);
						break;
					case ARP_SPA:
					case IPV4_SRC:
						setIpv4Src(ip);
						wildcards = (wildcards &~OFPFW_NW_SRC_MASK) | (maskLen << OFPFW_NW_SRC_SHIFT);
						break;
					default:
						// Cannot really get here
						break;
				}
				break;
			default:
				throw new υ("OFMatch does not support masked matching on field " + field.getName());
		}
		ρthis;
	}

	χφ Match.Builder setMasked(MatchField<F> field, Masked<F> valueWithMask)
																   throws υ {
		ρthis.setMasked(field, valueWithMask.getValue(), valueWithMask.getMask());
	}

	χφ Match.Builder wildcard(MatchField<F> field) {
		initWildcards();
		switch (field.id) {
"#
  ++ each clearingWrites (FieldWrite.text "|= ") ++ refuseField "matching" ++ block r"
		}
		ρthis;
	}
"

def wildcardMatchBuilder (hasParent : Bool) : String :=
  indented 4 (wildcardLook true
    ++ wildcardChange (if hasParent then "parentMessage.wildcards" else "OFPFW_ALL"))

def fullMasks : String :=
  each [("src", "SRC"), ("dst", "DST")] fun (side, bits) => form [("side", side), ("bits", bits)] r"
				// normalize 32-63 ipv4 «side» 'mask' to a full bitmask
				if((wildcards & OFPFW_NW_«bits»_ALL) != 0)
					wildcards |= OFPFW_NW_«bits»_MASK;

"

def normalizeWildcards : String := block r"
			// normalize match fields according to current OpenVSwitch behavior. When prerequisites for a field are not met
			// e.g., eth_type is not set to 0x800, OVS sets the value of corresponding ignored fields (e.g.,
			// ip_src, tcp_dst) to 0, and sets the wildcard bit to 1.
			if(ethType.equals(EthType.IPv4)) {
				// IP
				if(ipProto.equals(IpProtocol.TCP) || ipProto.equals(IpProtocol.UDP) || ipProto.equals(IpProtocol.ICMP)) {
					// fully speced, wildcards and all values are fine
"
  ++ indented 4 fullMasks ++ block r"
				} else {
"
  ++ indented 4 fullMasks ++ block r"
					// not TCP/UDP/ICMP -> Clear TP wildcards for the wire
					wildcards |= (OFPFW_TP_SRC | OFPFW_TP_DST);
					tcpSrc = TransportPort.NONE;
					tcpDst = TransportPort.NONE;
				}
			} else if (ethType.equals(EthType.ARP)) {
"
  ++ fullMasks ++ block r"
				// ARP: clear NW_TOS / TP wildcards for the wire
				wildcards |= ( OFPFW_NW_TOS | OFPFW_TP_SRC | OFPFW_TP_DST);
				ipDscp = IpDscp.NONE;
				tcpSrc = TransportPort.NONE;
				tcpDst = TransportPort.NONE;
			} else {
				// not even IP. Clear NW/TP wildcards for the wire
				wildcards |= ( OFPFW_NW_TOS | OFPFW_NW_PROTO | OFPFW_NW_SRC_MASK | OFPFW_NW_DST_MASK | OFPFW_TP_SRC | OFPFW_TP_DST);
				ipDscp = IpDscp.NONE;
				ipProto = IpProtocol.NONE;
				ipv4Src = IPv4Address.NONE;
				ipv4Dst = IPv4Address.NONE;
				tcpSrc = TransportPort.NONE;
				tcpDst = TransportPort.NONE;
			}
"

end FlowBindings.ObjectModel.Source.Handwritten
