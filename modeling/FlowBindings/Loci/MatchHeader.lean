import FlowBindings.Loci.Catalog
import FlowBindings.Loci.Notice

/-!
# The match in C

The match of the C library is a structure with a field and a mask for every
match field of any version. This module writes its declaration, the macros that
test and set fields, and the functions that compare matches.
-/

namespace FlowBindings.Loci

open Text

namespace MatchFields

variable (fields : MatchFields)

def ofV10 : List String := (fields.perVersion.get? 1).getD []

def ofV11 : List String := (fields.perVersion.get? 2).getD []

def bitMacros (wire key : String) (bit : Nat) : String :=
  form [("v", wire), ("ku", upper key), ("val", toString bit)] r"

δOF_MATCH_V«v»_WC_«ku»_SHIFT «val»
δOF_MATCH_V«v»_WC_«ku»_MASK (1 << «val»)
δOF_MATCH_V«v»_WC_«ku»_SET(wc) ((wc) |= (1 << «val»))
δOF_MATCH_V«v»_WC_«ku»_CLEAR(wc) ((wc) &= ~(1 << «val»))
δOF_MATCH_V«v»_WC_«ku»_TEST(wc) ((wc) & (1 << «val»))
"

def ignoreMacros : Outcome String := do
  let v10 ← fields.ofV10.mapM fun key => do
    let _ ← fields.byName.need key
    pure (match MatchField.ignoreBitsV10.get? key with
      | none => ""
      | some bit =>
        let holes := [("ku", upper key), ("val", toString bit)]
        if ["ipv4_src", "ipv4_dst"].contains key then
          form holes r"

δOF_MATCH_V1_WC_«ku»_SHIFT «val»
δOF_MATCH_V1_WC_«ku»_MASK (0x3f << «val»)
δOF_MATCH_V1_WC_«ku»_CLEAR(wc) ((wc) &= ~(0x3f << «val»))
δOF_MATCH_V1_WC_«ku»_SET(wc, value) do {   \
		OF_MATCH_V1_WC_«ku»_CLEAR(wc); \
		((wc) |= (((value) & 0x3f) << «val»)); \
	} while (0)
δOF_MATCH_V1_WC_«ku»_TEST(wc) ((wc) & (0x3f << «val»))
δOF_MATCH_V1_WC_«ku»_GET(wc) (((wc) >> «val») & 0x3f)
"
        else bitMacros "1" key bit)
  let v11 ← (Catalog.sortNames fields.ofV11).mapM fun key => do
    let _ ← fields.byName.need key
    pure (match MatchField.ignoreBitsV11.get? key with
      | none => ""
      | some bit => bitMacros "2" key bit)
  pure (block r"


¶Definitions for wildcard macros for ν1_0
 */

"
    ++ concat v10
    ++ block r"


¶Definitions for wildcard macros for ν1_1
 */
"
    ++ concat v11)

def structDeclaration : String :=
  block r"
/* Unified, flat OpenFlow match structure based on OF 1.2 */
typedef struct μfields_s {
	/* Version 1.2 is used for field names */
"
  ++ each fields.sorted (fun f => "    " ++ padRight 20 f.type ++ " " ++ f.name ++ ";\n")
  ++ block r#"

} μfields_t;

¶@brief The LOCI match structure.
 */

typedef struct μs {
	of_version_t version;
	μfields_t fields;
	μfields_t masks;
} μt;

/*
 * AND 'len' bytes starting from 'value' with the corresponding byte in
 * 'mask'.
 */
σvoid
of_memmask(void *value, const void *mask, size_t len)
{
	int i;
	uint8_t *v = value;
	const uint8_t *m = mask;

	for (i = 0; i < len; i++) {
		v[i] &= m[i];
	}
}

¶@brief Map from mask to OF 1.0 wildcard
 */

extern int of_ip_mask_to_index(uint32_t mask);

¶@brief Map from OF 1.0 wildcard to mask
 */

extern uint32_t of_ip_index_to_mask(int index);

¶The signalling of an untagged packet varies by OF version.
 * Use this macro to set the field value.
 */
δOF_MATCH_UNTAGGED_VLAN_ID(version) \
	((version) == ν1_0 ? 0xffff : \
	 ((version) == ν1_1 ? 0xffff : 0))

¶Version 1.1 had the notion of "any" vlan but must be set
 */
δOF_MATCH_VLAN_TAG_PRESENT_ANY_ID(version) \
	((version) == ν1_0 ? 0 /* @fixme */  : \
	 ((version) == ν1_1 ? 0xfffe : 0x1000))
"#

def maskMacros : String :=
  block r"

/*
 * The generic match structure uses the OXM bit indices for it's
 * bitmasks for active and masked values
 */
"
  ++ each fields.byName.keys (fun key => form [("key", key), ("ku", upper key)] r"

/* Mask/value check/set macros for «key» */

¶Set the mask for an exact match of «key»
 */
δOF_MATCH_MASK_«ku»_EXACT_SET(_match)   \
	MEMSET(&(_match)->masks.«key», 0xff, \
		sizeof(((_match)->masks).«key»))

¶Clear the mask for «key» making that field inactive for the match
 */
δOF_MATCH_MASK_«ku»_CLEAR(_match) \
	MEMSET(&(_match)->masks.«key», 0, \
		sizeof(((_match)->masks).«key»))

¶Test whether the match is exact for «key»
 */
δOF_MATCH_MASK_«ku»_EXACT_TEST(_match) \
	OF_VARIABLE_IS_ALL_ONES(&(((_match)->masks).«key»))

¶Test whether key «key» is being checked in the match
 */
δOF_MATCH_MASK_«ku»_ACTIVE_TEST(_match) \
	OF_VARIABLE_IS_NON_ZERO(&(((_match)->masks).«key»))

")

end MatchFields

def matchDeclarations : String := block r"

/*
 * Match serialize/deserialize declarations
 * Wire match conversion function declarations
 */
extern int μserialize(of_version_t version, μt *match,
							  of_octets_t *octets);
extern int μdeserialize(of_version_t version, μt *match,
								ωt *parent, int offset, int length);
extern int μv1_to_match(μv1_t *src, μt *dst);
extern int μv2_to_match(μv2_t *src, μt *dst);
extern int μv3_to_match(μv3_t *src, μt *dst);
extern int μto_wire_match_v1(μt *src, μv1_t *dst);
extern int μto_wire_match_v2(μt *src, μv2_t *dst);
extern int μto_wire_match_v3(μt *src, μv3_t *dst);
"

def laterMatchNames : String := block r"

¶Definitions to coerce v4 match (version 1.3) to v3 matches
 * (version 1.2).
 * @FIXME This is a stopgap and needs to get cleaned up.
 */
"
  ++ join "\n" (["4", "5"].map fun wire => form [("v", wire)] r"
δμv«v»_t μv3_t
δμv«v»_init μv3_init
δμv«v»_new μv3_new
δμv«v»_to_match μv3_to_match
δμto_wire_match_v«v» μto_wire_match_v3
δμv«v»_delete μv3_delete
")

/-- The functions that compare values of a type that is an array of bytes: `gap` stands
between notes and functions, `space` before the mask of a comparison. -/
def byteComparison (name gap space : String) : String :=
  form [("name", name), ("NAME", upper name), ("gap", gap), ("space", space)] r#"
¶Determine "more specific" relationship between mac addrs
 * @ρtrue if v1 is equal to or more specific than v2
 *
 * @todo Could be optimized
 *
 * Check: Every bit in v2 is set in v1; v1 may have add'l bits set.
 * That is, ρfalse if there is a bit set in v2 and not in v1.
 */
«gap»σint
of_more_specific_«name»(of_«name»_t *v1, of_«name»_t *v2) {
	int idx;

	for (idx = 0; idx < OF_«NAME»_BYTES; idx++) {
		/* If there's a bit set in v2 that is clear in v1, ρfalse */
		if (~v1->addr[idx] & v2->addr[idx]) {
			ρ0;
		}
	}

	ρ1;
}

¶Boolean test if two values agree when restricted to a mask
 */
«gap»σint
of_restricted_match_«name»(of_«name»_t *v1, of_«name»_t *v2,«space»of_«name»_t *mask) {
	int idx;

	for (idx = 0; idx < OF_«NAME»_BYTES; idx++) {
		if ((v1->addr[idx] & mask->addr[idx]) !=
			   (v2->addr[idx] & mask->addr[idx])) {
			ρ0;
		}
	}

	ρ1;
}

¶Boolean test if two values "overlap" (agree on common masks)
 */

σint
of_overlap_«name»(of_«name»_t *v1, of_«name»_t *v2,
						 of_«name»_t *m1, of_«name»_t *m2) {
	int idx;

	for (idx = 0; idx < OF_«NAME»_BYTES; idx++) {
		if (((v1->addr[idx] & m1->addr[idx]) & m2->addr[idx]) !=
			   ((v2->addr[idx] & m1->addr[idx]) & m2->addr[idx])) {
			ρ0;
		}
	}

	ρ1;
}

"#

def matchComparison : String :=
  "\n" ++ byteComparison "ipv6" "\n" " " ++ block r"
δOF_MORE_SPECIFIC_IPV6(v1, v2) of_more_specific_ipv6((v1), (v2))

δOF_RESTRICTED_MATCH_IPV6(v1, v2, mask) \
	of_restricted_match_ipv6((v1), (v2), (mask))

δOF_OVERLAP_IPV6(v1, v2, m1, m2) of_overlap_ipv6((v1), (v2), (m1), (m2))

"
  ++ byteComparison "mac_addr" "" "\n                             " ++ block r#"
δOF_MORE_SPECIFIC_MAC_ADDR(v1, v2) of_more_specific_mac_addr((v1), (v2))

δOF_RESTRICTED_MATCH_MAC_ADDR(v1, v2, mask) \
	of_restricted_match_mac_addr((v1), (v2), (mask))

δOF_OVERLAP_MAC_ADDR(v1, v2, m1, m2) \
	of_overlap_mac_addr((v1), (v2), (m1), (m2))

δOF_MORE_SPECIFIC_BITMAP_128(v1, v2) \
	(OF_MORE_SPECIFIC_INT((v1)->lo, (v2)->lo) && OF_MORE_SPECIFIC_INT((v1)->hi, (v2)->hi))

δOF_RESTRICTED_MATCH_BITMAP_128(v1, v2, mask) \
	(OF_RESTRICTED_MATCH_INT((v1)->lo, (v2)->lo, (mask)->lo) && OF_RESTRICTED_MATCH_INT((v1)->hi, (v2)->hi, (mask)->hi))

δOF_OVERLAP_BITMAP_128(v1, v2, m1, m2) \
	(OF_OVERLAP_INT((v1)->lo, (v2)->lo, (m1)->lo, (m2)->lo) && OF_OVERLAP_INT((v1)->hi, (v2)->hi, (m1)->hi, (m2)->hi))

¶More-specific-than macro for integer types; see above
 * @ρtrue if v1 is equal to or more specific than v2
 *
 * If there is a bit that is set in v2 and not in v1, ρfalse.
 */
δOF_MORE_SPECIFIC_INT(v1, v2) (!(~(v1) & (v2)))

¶Boolean test if two values agree when restricted to a mask
 */
δOF_RESTRICTED_MATCH_INT(v1, v2, mask) \
   (((v1) & (mask)) == ((v2) & (mask)))


δOF_OVERLAP_INT(v1, v2, m1, m2) \
	((((v1) & (m1)) & (m2)) == (((v2) & (m1)) & (m2)))

¶Compare two match structures for exact equality
 *
 * We just do memcmp assuming structs were memset to 0 on init
 */
σint
μeq(μt *match1, μt *match2)
{
	ρ(MEMCMP(match1, match2, sizeof(μt)) == 0);
}

¶Is the entry match more specific than (or equal to) the query match?
πentry Match expected to be more specific (subset of query)
πquery Match expected to be less specific (superset of entry)
 * @returns Boolean, see below
 *
 * The assumption is that a query is being done for a non-strict
 * match against an entry in a table.  The result is true if the
 * entry match indicates a more specific (but compatible) flow space
 * specification than that in the query match.  This means that the
 * values agree between the two where they overlap, and that each mask
 * for the entry is more specific than that of the query.
 *
 * The query has the less specific mask (fewer mask bits) so it is
 * used for the mask when checking values.
 */

σint
μmore_specific(const μt *entry, const μt *query)
{
	λsizeof(μfields_t) % sizeof(uint8_t) == 0);

	/* Short hand for masks, fields */
	const uint8_t *qm = (const uint8_t *)&query->masks;
	const uint8_t *em = (const uint8_t *)&entry->masks;
	const uint8_t *qf = (const uint8_t *)&query->fields;
	const uint8_t *ef = (const uint8_t *)&entry->fields;

	int i;
	for (i = 0; i < sizeof(μfields_t)/sizeof(uint8_t); i++) {
		if (qm[i] & ~em[i]) {
			/* Query mask has a bit set that isn't set in the entry mask */
			ρ0;
		}

		if ((qf[i] ^ ef[i]) & qm[i]) {
			/* Query and entry disagree on a field bit */
			ρ0;
		}
	}

	ρ1;
}

¶Do two entries overlap?
πmatch1 One match struct
πmatch2 Another match struct
 * @returns Boolean: true if there is a packet that would match both
 *
 */

σint
μoverlap(const μt *match1, const μt *match2)
{
	λsizeof(μfields_t) % sizeof(uint8_t) == 0);

	/* Short hand for masks, fields */
	const uint8_t *m1 = (const uint8_t *)&match1->masks;
	const uint8_t *m2 = (const uint8_t *)&match2->masks;
	const uint8_t *f1 = (const uint8_t *)&match1->fields;
	const uint8_t *f2 = (const uint8_t *)&match2->fields;

	int i;
	for (i = 0; i < sizeof(μfields_t)/sizeof(uint8_t); i++) {
		if ((f1[i] ^ f2[i]) & (m1[i] & m2[i])) {
			/* Matches disagree on a field bit they both qualify on */
			ρ0;
		}
	}

	ρ1; /* No field differentiates matches */
}
"#

def matchHeaderHead (fileName : String) : String :=
  topMatter fileName ++ "\n#include <loci/loci_base.h>\n"

def matchSourceHead (fileName : String) : String :=
  topMatter fileName ++ "#include \"loci_log.h\"\n#include <loci/loci.h>\n"

def Catalog.matchHeader (c : Catalog) (fileName : String) : String :=
  matchHeaderHead fileName ++ c.matchFields.structDeclaration ++ matchComparison
    ++ "\n#endif /* Match header file */\n"

end FlowBindings.Loci
