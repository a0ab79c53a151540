import FlowBindings.Loci.Catalog
import FlowBindings.Loci.Notice

/-!
# Lengths that the C library computes

Some parts of a message have a length that only the message itself tells, above
all matches and what follows them. The internal header of the C library has
macros that find these lengths and offsets. They rest on the fixed lengths of a
few classes, and on those lengths being the same from one version to the next.
-/

namespace FlowBindings.Loci

open Text

/-- The fixed lengths that the internal header rests on. -/
structure KeyLengths where
  /-- A flow modification, version 1.2. -/
  flowModify : Nat
  /-- A packet coming in, version 1.2. -/
  packetIn : Nat
  /-- A packet coming in, version 1.3. -/
  packetInLater : Nat
  /-- The statistics of a flow, version 1.2. -/
  flowStats : Nat
  /-- The match of version 1.0. -/
  matchV10 : Nat
  /-- The match of version 1.1. -/
  matchV11 : Nat
  deriving DecidableEq, Repr

/-- The fixed lengths that the internal header rests on. Packets coming in must
have the same length in versions 1.3 and 1.4, because the macros do not tell these
versions apart. -/
def Catalog.keyLengths (c : Catalog) : Outcome KeyLengths := do
  let length (name : String) (v : Version) : Outcome Nat := c.baseLengths.need (name, v.wire)
  let flowModify ← length "of_flow_modify" .v12
  let packetIn ← length "of_packet_in" .v12
  let packetInLater ← length "of_packet_in" .v13
  if packetInLater ≠ (← length "of_packet_in" .v14) then throw (.assertion "")
  pure { flowModify, packetIn, packetInLater
         flowStats := ← length "of_flow_stats_entry" .v12
         matchV10 := ← length "of_match_v1" .v10
         matchV11 := ← length "of_match_v2" .v11 }

def KeyLengths.header (l : KeyLengths) : String :=
  notice ++ form [("flow_mod", toString l.flowModify), ("packet_in", toString l.packetIn),
    ("packet_in_1_3", toString l.packetInLater), ("flow_stats", toString l.flowStats),
    ("match1", toString l.matchV10), ("match2", toString l.matchV11)] r#"

/******************************************************************************
 *
 *  /module/src/loci_int.h
 *
 *  loci Internal Header
 *
 *****************************************************************************/
#ifndef __LOCI_INT_H__
δ__LOCI_INT_H__

θloci.h>

#if __GNUC__ > 4 || (__GNUC__ == 4 && __GNUC_MINOR__ >= 5)
δUNREACHABLE() __builtin_unreachable()
#else
δUNREACHABLE()
#endif

/§
 * Special case macros for calculating variable lengths and offsets
 §/

¶Get a u16 directly from an offset in an object's wire buffer
πobj An ωt object
πoffset Base offset of the uint16 relative to the object
 *
 */

σint
ωu16_get(ωt *obj, int offset) {
	uint16_t val16;

	βu16_get(obj->wbuf,
		obj->obj_offset + offset, &val16);

	ρ(int)val16;
}

¶Set a u16 directly at an offset in an object's wire buffer
πobj An ωt object
πoffset Base offset of the uint16 relative to the object
πval The value to store
 *
 */

σvoid
ωu16_set(ωt *obj, int offset, int value) {
	uint16_t val16;

	val16 = (uint16_t)value;
	βu16_set(obj->wbuf,
		obj->obj_offset + offset, val16);
}

¶Get length of an object with a TLV header with uint16_t
πobj An object with a match member
πoffset The wire offset of the start of the object
 *
 * The length field follows the type field.
 */

δ_TLV16_LEN(obj, offset) \
	(ωu16_get((ωt *)(obj), (offset) + 2))

¶Get length of an object that is the "rest" of the object
πobj An object with a match member
πoffset The wire offset of the start of the object
 *
 */

δ_END_LEN(obj, offset) ((obj)->length - (offset))

¶Offset of the action_len member in a packet-out object
 */

δ_PACKET_OUT_ACTION_LEN_OFFSET(obj) \
	(((obj)->version == ν1_0) ? 14 : 16)

¶Get length of the action list object in a packet_out object
πobj An object of type of_packet_out
 */

δ_PACKET_OUT_ACTION_LEN(obj) \
	(ωu16_get((ωt *)(obj), _PACKET_OUT_ACTION_LEN_OFFSET(obj)))

¶Set length of the action list object in a packet_out object
πobj An object of type of_packet_out
 */

δ_PACKET_OUT_ACTION_LEN_SET(obj, len) \
	(ωu16_set((ωt *)(obj), _PACKET_OUT_ACTION_LEN_OFFSET(obj), len))

/*
 * Match structs in 1.2 come at the end of the fixed length part
 * of structures.  They add 8 bytes to the minimal length of the
 * message, but are also variable length.  This means that the
 * type/length offsets are 8 bytes back from the end of the fixed
 * length part of the object.  The right way to handle this is to
 * expose the offset of the match member more explicitly.  For now,
 * we make the calculation as described here.
 */

/* 1.2 min length of match is 8 bytes */
δ_MATCH_MIN_LENGTH_V3 8

¶The offset of a 1.2 match object relative to fixed length of obj
 */
δ_MATCH_OFFSET_V3(fixed_obj_len) \
	((fixed_obj_len) - _MATCH_MIN_LENGTH_V3)

¶The "extra" length beyond the minimal 8 bytes of a match struct
 * in an object
 */
δ_MATCH_EXTRA_LENGTH_V3(obj, fixed_obj_len) \
	(OF_MATCH_BYTES(_TLV16_LEN(obj, _MATCH_OFFSET_V3(fixed_obj_len))) - \
	 _MATCH_MIN_LENGTH_V3)

¶The offset of an object following a match object for 1.2
 */
δ_OFFSET_FOLLOWING_MATCH_V3(obj, fixed_obj_len) \
	((fixed_obj_len) + _MATCH_EXTRA_LENGTH_V3(obj, fixed_obj_len))

¶Get length of a match object from its wire representation
πobj An object with a match member
πmatch_offset The wire offset of the match object.
 *
 * See above; for 1.2,
 * The match length is raw bytes but the actual space it takes
 * up is padded for alignment to 64-bits
 */
δ_WIRE_MATCH_LEN(obj, match_offset) \
	(((obj)->version == ν1_0) ? «match1» : \
	 (((obj)->version == ν1_1) ? «match2» : \
	  _TLV16_LEN(obj, match_offset)))

δ_WIRE_LEN_MIN 4

/*
 * Wrapper function for match len.  There are cases where the wire buffer
 * has not been set with the proper minimum length.  In this case, the
 * wire match len is interpretted as its minimum length, 4 bytes.
 */

σint
wire_match_len(ωt *obj, int match_offset) {
	int len;

	len = _WIRE_MATCH_LEN(obj, match_offset);

	ρ(len == 0) ? _WIRE_LEN_MIN : len;
}

δ_WIRE_MATCH_PADDED_LEN(obj, match_offset) \
	OF_MATCH_BYTES(wire_match_len((ωt *)(obj), (match_offset)))

¶Macro to calculate variable offset of instructions member in flow mod
πobj An object of some type of flow modify/add/delete
 *
 * Get length of preceding match object and add to fixed length
 * Applies only to version 1.2
 */

δ_FLOW_MOD_INSTRUCTIONS_OFFSET(obj) \
	_OFFSET_FOLLOWING_MATCH_V3(obj, «flow_mod»)

/* The different flavors of flow mod all use the above */
δ_FLOW_ADD_INSTRUCTIONS_OFFSET(obj) \
	_FLOW_MOD_INSTRUCTIONS_OFFSET(obj)
δ_FLOW_MODIFY_INSTRUCTIONS_OFFSET(obj) \
	_FLOW_MOD_INSTRUCTIONS_OFFSET(obj)
δ_FLOW_MODIFY_STRICT_INSTRUCTIONS_OFFSET(obj) \
	_FLOW_MOD_INSTRUCTIONS_OFFSET(obj)
δ_FLOW_DELETE_INSTRUCTIONS_OFFSET(obj) \
	_FLOW_MOD_INSTRUCTIONS_OFFSET(obj)
δ_FLOW_DELETE_STRICT_INSTRUCTIONS_OFFSET(obj) \
	_FLOW_MOD_INSTRUCTIONS_OFFSET(obj)

¶Macro to calculate variable offset of instructions member in flow stats
πobj An object of type of_flow_mod_t
 *
 * Get length of preceding match object and add to fixed length
 * Applies only to version 1.2 and 1.3
 */

δ_FLOW_STATS_ENTRY_INSTRUCTIONS_OFFSET(obj) \
	_OFFSET_FOLLOWING_MATCH_V3(obj, «flow_stats»)

¶Macro to calculate variable offset of data (packet) member in packet_in
πobj An object of type of_packet_in_t
 *
 * Get length of preceding match object and add to fixed length
 * Applies only to version 1.2+
 * There are 2 bytes of padding between the match and data. The
 * _OFFSET_FOLLOWING_MATCH_V3 macro assumes the match is at the end of the
 * fixed length, so we need to subtract 2 from the fixed length we pass and
 * then add 2 to the resulting offset.
 */

δ_PACKET_IN_DATA_OFFSET(obj) \
	(_OFFSET_FOLLOWING_MATCH_V3((obj), (obj)->version == ν1_2 ? \
(«packet_in» - 2) : («packet_in_1_3» - 2)) + 2)

¶Macro to calculate variable offset of data (packet) member in packet_out
πobj An object of type of_packet_out_t
 *
 * Find the length in the actions_len variable and add to the fixed len
 * Applies only to version 1.2 and 1.3
 */

δ_PACKET_OUT_DATA_OFFSET(obj) (_PACKET_OUT_ACTION_LEN(obj) + \
	 ωfixed_len[(obj)->version][OF_PACKET_OUT])

¶Macro to map port numbers that changed across versions
πport The port_no_t variable holding the value
πver The OpenFlow version from which the value was extracted
 */
δOF_PORT_NO_VALUE_CHECK(port, ver) \
	if (((ver) == ν1_0) && ((port) > 0xff00)) (port) += 0xffff0000

¶Macro to detect if an object ID falls in the "flow mod" family of objects
 * This includes add, modify, modify_strict, delete and delete_strict
 */
δIS_FLOW_MOD_SUBTYPE(object_id)				 \
	(((object_id) == OF_FLOW_MODIFY) ||				\
	 ((object_id) == OF_FLOW_MODIFY_STRICT) ||		 \
	 ((object_id) == OF_FLOW_DELETE) ||				\
	 ((object_id) == OF_FLOW_DELETE_STRICT) ||		 \
	 ((object_id) == OF_FLOW_ADD))

¶Macro to calculate variable offset of value member in of_bsn_gentable_entry_add
πobj An object of type of_bsn_gentable_entry_add_t
 */

δ_BSN_GENTABLE_ENTRY_ADD_VALUE_OFFSET(obj) \
	(ωu16_get(obj, 18) + \
		ωfixed_len[(obj)->version][OF_BSN_GENTABLE_ENTRY_ADD])

δ_BSN_GENTABLE_ENTRY_DESC_STATS_ENTRY_VALUE_OFFSET(obj) \
	(ωu16_get(obj, 2) + \
		ωfixed_len[(obj)->version][OF_BSN_GENTABLE_ENTRY_DESC_STATS_ENTRY])

δ_BSN_GENTABLE_ENTRY_STATS_ENTRY_STATS_OFFSET(obj) \
	(ωu16_get(obj, 2) + \
		ωfixed_len[(obj)->version][OF_BSN_GENTABLE_ENTRY_STATS_ENTRY])

#endif /* __LOCI_INT_H__ */
"#

def Catalog.internalHeader (c : Catalog) : Outcome String :=
  KeyLengths.header <$> c.keyLengths

end FlowBindings.Loci
