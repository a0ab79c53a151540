import FlowBindings.Loci.MatchHeader

/-!
# Converting matches

Functions of the C library that convert the unified match to the match of a
version and back, and that write and read it. Versions 1.0 and 1.1 have a fixed
structure; the later ones a list of match fields.
-/

namespace FlowBindings.Loci

open Text

def allOnes (type : String) : String :=
  if type = "of_mac_addr_t" then "of_mac_addr_all_ones" else "((" ++ type ++ ") -1)"

namespace MatchFields

def holesOf (key : String) : List (String × String) :=
  [("key", key), ("ku", upper key)]

def isAddress (key : String) : Bool := ["ipv4_src", "ipv4_dst"].contains key

variable (fields : MatchFields)

def compatibilityTests (known : List String) : String :=
  each (fields.byName.keys.filter fun key => !known.contains key) fun key =>
    form (holesOf key) r"

	if (OF_MATCH_MASK_«ku»_ACTIVE_TEST(match)) {
		ρ0;
	}
"

def compatibilityCheck (wire : String) (known : List String) : String :=
  form [("v", wire)] r"

¶Check if match is compatible with OF 1.0
πmatch The match being checked
 */
σint
μv«v»_compat_check(μt *match)
{
"
  ++ fields.compatibilityTests known ++ block r"

	ρ1;
}
"

def getUnlessIgnored (wire key : String) : String := form (("v", wire) :: holesOf key) r"

	if (!(OF_MATCH_V«v»_WC_«ku»_TEST(wc))) {
		μv«v»_«key»_get(src, &dst->fields.«key»);
		OF_MATCH_MASK_«ku»_EXACT_SET(dst);
	}
"

def toV10 : String :=
  fields.compatibilityCheck "1" fields.ofV10 ++ block r"

¶Convert a generic match object to an ν1_0 object
πsrc Pointer to the generic match object source
πdst Pointer to the OF 1.0 wire structure
 *
 * The wire structure is initialized by this function if it doesn't
 * not have the proper object ID.
 */

int
μto_wire_match_v1(μt *src, μv1_t *dst)
{
	of_wc_bmap_t wildcards = 0;
	int ip_mask_index;

	if ((src == NULL) || (dst == NULL)) {
		ρεPARAM;
	}
	if (!μv1_compat_check(src)) {
		ρεCOMPAT;
	}
	if (dst->object_id != OF_MATCH_V1) {
		μv1_init(dst, ν1_0, 0, 0);
	}
"
  ++ each (Catalog.sortNames fields.ofV10) (fun key =>
    if isAddress key then
      form (holesOf key) r"

	if (OF_MATCH_MASK_«ku»_ACTIVE_TEST(src)) {
		ip_mask_index = of_ip_mask_to_index(src->masks.«key»);
		μv1_«key»_set(dst, src->fields.«key»);
	} else { /* Wildcarded, look for 0 mask */
		ip_mask_index = of_ip_mask_to_index(0);
	}
	OF_MATCH_V1_WC_«ku»_SET(wildcards, ip_mask_index);
"
    else
      form (holesOf key) r"

	if (OF_MATCH_MASK_«ku»_ACTIVE_TEST(src)) {
		μv1_«key»_set(dst, src->fields.«key»);
	} else {
		OF_MATCH_V1_WC_«ku»_SET(wildcards);
	}
")
  ++ block r"

	μv1_wildcards_set(dst, wildcards);

	ρεNONE;
}
"

def toV11 : Outcome String := do
  let puts ← fields.ofV11.mapM fun key => do
    if MatchField.maskedV11.contains key then
      let f ← fields.byName.need key
      pure (form (("ones_mask", allOnes f.type) :: holesOf key) r"

	if (OF_MATCH_MASK_«ku»_ACTIVE_TEST(src)) {
		if (!OF_MATCH_MASK_«ku»_EXACT_TEST(src)) {
			μv2_«key»_mask_set(dst,
				src->masks.«key»);
		} else { /* Exact match; use all ones mask */
			μv2_«key»_mask_set(dst,
				«ones_mask»);
		}
		μv2_«key»_set(dst, src->fields.«key»);
	}

")
    else
      pure (form (holesOf key) r"

	if (!OF_MATCH_MASK_«ku»_EXACT_TEST(src)) {
		ρεCOMPAT;
	}
	if (OF_MATCH_MASK_«ku»_ACTIVE_TEST(src)) {
		μv2_«key»_set(dst, src->fields.«key»);
	} else {
		OF_MATCH_V2_WC_«ku»_SET(wildcards);
	}
")
  pure (fields.compatibilityCheck "2" fields.ofV11 ++ block r"

¶Convert a generic match object to an ν1_1 object
πsrc Pointer to the generic match object source
πdst Pointer to the OF 1.1 wire structure
 *
 * The wire structure is initialized by this function.
 */

int
μto_wire_match_v2(μt *src, μv2_t *dst)
{
	of_wc_bmap_t wildcards = 0;

	if ((src == NULL) || (dst == NULL)) {
		ρεPARAM;
	}
	if (!μv2_compat_check(src)) {
		ρεCOMPAT;
	}
	if (dst->object_id != OF_MATCH_V2) {
		μv2_init(dst, ν1_1, 0, 0);
	}
"
    ++ concat puts
    ++ block r"

	μv2_wildcards_set(dst, wildcards);

	ρεNONE;
}
")

def toV12 : String :=
  block r"

static int
populate_oxm_list(μt *src, of_list_oxm_t *oxm_list)
{
	ωt elt;

	/* For each active member, add an OXM entry to the list */
"
  ++ each fields.sorted (fun f => form (holesOf f.name) r"
	if (OF_MATCH_MASK_«ku»_ACTIVE_TEST(src)) {
		if (!OF_MATCH_MASK_«ku»_EXACT_TEST(src)) {
			of_oxm_«key»_masked_init(&elt,
				oxm_list->version, -1, 1);
			of_list_oxm_append_bind(oxm_list, &elt);
			of_oxm_«key»_masked_value_set(&elt,
				   src->fields.«key»);
			of_oxm_«key»_masked_value_mask_set(&elt,
				   src->masks.«key»);
		} else {  /* Active, but not masked */
			of_oxm_«key»_init(&elt,
				oxm_list->version, -1, 1);
			of_list_oxm_append_bind(oxm_list, &elt);
			of_oxm_«key»_value_set(&elt, src->fields.«key»);
		}
	}
")
  ++ block r"

	ρεNONE;
}

¶Convert a generic match object to an ν1_2 object
πsrc Pointer to the generic match object source
πdst Pointer to the OF 1.2 wire structure
 *
 * The wire structure is initialized by this function if the object
 * id is not correct in the object
 */

int
μto_wire_match_v3(μt *src, μv3_t *dst)
{
	int rv = εNONE;
	of_list_oxm_t *oxm_list;

	if ((src == NULL) || (dst == NULL)) {
		ρεPARAM;
	}
	if (dst->object_id != OF_MATCH_V3) {
		μv3_init(dst, ν1_2, 0, 0);
	}
	if ((oxm_list = of_list_oxm_new(dst->version)) == NULL) {
		ρεRESOURCE;
	}

	rv = populate_oxm_list(src, oxm_list);

	if (rv == εNONE) {
		rv = μv3_oxm_list_set(dst, oxm_list);
	}

	of_list_oxm_delete(oxm_list);

	ρrv;
}
"

def ofMatchV10 : String :=
  block r"


¶Convert an ν1_0 object to a generic match object
πsrc Pointer to the OF 1.0 wire structure source
πdst Pointer to the generic match object destination
 *
 * The wire structure is initialized by this function.
 */

int
μv1_to_match(μv1_t *src, μt *dst)
{
	of_wc_bmap_t wc;
	int count;

	MEMSET(dst, 0, sizeof(*dst));
	dst->version = src->version;

	μv1_wildcards_get(src, &wc);
"
  ++ each (Catalog.sortNames fields.ofV10) (fun key =>
    if isAddress key then
      form (holesOf key) r"

	count = OF_MATCH_V1_WC_«ku»_GET(wc);
	dst->masks.«key» = of_ip_index_to_mask(count);
	μv1_«key»_get(src, &dst->fields.«key»);
	/* Clear the bits not indicated by mask; IP addrs are special for 1.0 */
	dst->fields.«key» &= dst->masks.«key»;
"
    else getUnlessIgnored "1" key)
  ++ block r"

	ρεNONE;
}
"

def ofMatchV11 : String :=
  block r"

int
μv2_to_match(μv2_t *src, μt *dst)
{
	of_wc_bmap_t wc;

	MEMSET(dst, 0, sizeof(*dst));
	dst->version = src->version;

	μv2_wildcards_get(src, &wc);
"
  ++ each fields.ofV11 (fun key =>
    if MatchField.maskedV11.contains key then
      form (holesOf key) r"

	μv2_«key»_mask_get(src, &dst->masks.«key»);
	if (OF_VARIABLE_IS_NON_ZERO(&dst->masks.«key»)) { /* Matching something */
		μv2_«key»_get(src, &dst->fields.«key»);
	}
	of_memmask(&dst->fields.«key», &dst->masks.«key», sizeof(dst->fields.«key»));
"
    else getUnlessIgnored "2" key)
  ++ block r"


	ρεNONE;
}
"

def ofMatchV12 : String :=
  block r"

int
μv3_to_match(μv3_t *src, μt *dst)
{
	int rv;
	of_list_oxm_t oxm_list;
	ωt oxm_entry;

	MEMSET(dst, 0, sizeof(*dst));
	dst->version = src->version;

	μv3_oxm_list_bind(src, &oxm_list);
	rv = of_list_oxm_first(&oxm_list, &oxm_entry);

	while (rv == εNONE) {
		switch (oxm_entry.object_id) { /* What kind of entry is this */
"
  ++ each fields.byName.keys (fun key => form (holesOf key) r"

		case OF_OXM_«ku»_MASKED:
			of_oxm_«key»_masked_value_mask_get(
				&oxm_entry,
				&dst->masks.«key»);
			of_oxm_«key»_masked_value_get(
				&oxm_entry,
				&dst->fields.«key»);
			of_memmask(&dst->fields.«key», &dst->masks.«key», sizeof(dst->fields.«key»));
			break;
		case OF_OXM_«ku»:
			OF_MATCH_MASK_«ku»_EXACT_SET(dst);
			of_oxm_«key»_value_get(
				&oxm_entry,
				&dst->fields.«key»);
			break;
")
  ++ block r"

		default:
			 /* @fixme Add debug statement */
			 ρεPARSE;
		} /* end switch */
		rv = of_list_oxm_next(&oxm_list, &oxm_entry);
	} /* end OXM iteration */

	ρεNONE;
}
"

end MatchFields

namespace Catalog

variable (c : Catalog)

def matchSerializer : String :=
  block r"

¶Serialize a match structure according to the version passed
πversion The version to use for serialization protocol
πmatch Pointer to the structure to serialize
πoctets Pointer to an octets object to fill out
 *
 * A buffer is allocated using normal internal ALLOC/FREE semantics
 * and pointed to by the octets object.  The length of the resulting
 * serialization is in octets->bytes.
 *
 * For 1.2 matches, returns the padded serialized structure
 *
 * Note that FREE must be called on octets->data when processing of
 * the object is complete.
 */

int
μserialize(of_version_t version, μt *match, of_octets_t *octets)
{
	int rv;

	switch (version) {
"
  ++ each c.targets (fun v =>
    form [("version", toString v.wire), ("ver_name", v.constant "OF_VERSION_")] r"

	case «ver_name»:
		{
			μv«version»_t *wire_match;
			wire_match = μv«version»_new(version);
			if (wire_match == NULL) {
				ρεRESOURCE;
			}
			if ((rv = μto_wire_match_v«version»(match, wire_match)) < 0) {
				μv«version»_delete(wire_match);
				ρrv;
			}
			βgrow(wire_match->wbuf, OF_MATCH_BYTES(wire_match->length));
			octets->bytes = wire_match->wbuf->current_bytes;
			ωwire_buffer_steal((ωt *)wire_match,
										&octets->data);
			μv«version»_delete(wire_match);
		}
		break;
")
  ++ block r"

	default:
		ρεCOMPAT;
	}

	ρεNONE;
}
"

def matchDeserializer : String :=
  block r"

¶Deserialize a match structure according to the version passed
πversion The version to use for deserialization protocol
πmatch Pointer to the structure to fill out
πoctets Pointer to an octets object holding serial buffer
 *
 * Normally the octets object will point to a part of a wire buffer.
 */

int
μdeserialize(of_version_t version, μt *match,
					 ωt *parent, int offset, int length)
{
	ωt obj;

	switch (version) {
"
  ++ each c.targets (fun v =>
    form [("version", toString v.wire), ("ver_name", v.constant "OF_VERSION_")] r"

	case «ver_name»:
		μv«version»_init(&obj, «ver_name», length, 1);
		ωattach(parent, &obj, offset, length);
		OF_TRY(μv«version»_to_match(&obj, match));
		break;
")
  ++ block r"

	default:
		ρεCOMPAT;
	}

	ρεNONE;
}
"

def ownMembers (cls : String) (wire : Nat) : Outcome (List Slot) := do
  match ← (← c.record cls).layouts.need wire with
  | .own members => pure members
  | .sameAs _ => throw (.noEntry "members")

def checkFixedMatch (cls : String) (wire : Nat) : Outcome Unit := do
  for m in ← c.ownMembers cls wire do
    if !contains m.name "_mask" && !WireForm.isMaintained m.name && m.name ≠ "wildcards"
        && !c.matchFields.byName.has m.name then
      throw (.exit 1 ["Key " ++ m.name ++ " not found in match struct, v " ++ cls] "")

/-- Check that the match fields are those of the fixed matches and of the
classes of match fields. -/
def checkMatch : Outcome Unit := do
  c.checkFixedMatch "of_match_v1" 1
  c.checkFixedMatch "of_match_v2" 2
  let classes := (c.records.keys.filter fun name =>
    startsWith name "of_oxm_" && !contains name "masked").map (dropFirst 7)
  if classes.any fun key => !c.matchFields.byName.has key then throw (.exit 1 [] "")
  for (key, f) in c.matchFields.byName do
    if !classes.contains key then throw (.exit 1 [] "")
    let value ← (← c.record ("of_oxm_" ++ key)).union.need "value"
    if f.type ≠ value.type then throw (.exit 1 [] "")

def matchConversions : Outcome String := do
  c.checkMatch
  let toV11 ← c.matchFields.toV11
  pure (block r#"

¶@brief Return the index (used as the WC field in 1.0 match) given the mask
 */

int
of_ip_mask_to_index(uint32_t mask)
{
	int idx;
	uint32_t cmask;

	/* Handle most common cases directly */
	if (mask == 0) {
		ρ63;
	}
	if (mask == 0xffffffff) {
		ρ0;
	}

	if ((~mask + 1) & ~mask) {
		LOCI_LOG_INFO("OF 1.0: Could not map IP addr mask 0x%x", mask);
		ρ63;
	}

	idx = 0;
	cmask = ~mask;
	while (cmask) {
		cmask >>= 1;
		idx += 1;
	}

	ρidx;
}

¶@brief Return the mask for the given index
 */

uint32_t
of_ip_index_to_mask(int index)
{
	if (index >= 32) {
		ρ0;
	} else {
		ρ0xffffffff << index;
	}
}

"#
    ++ c.matchFields.toV10 ++ toV11 ++ c.matchFields.toV12
    ++ c.matchFields.ofMatchV10 ++ c.matchFields.ofMatchV11 ++ c.matchFields.ofMatchV12)

def matchSource (fileName : String) : Outcome String := do
  pure (matchSourceHead fileName ++ (← c.matchConversions) ++ c.matchSerializer
    ++ c.matchDeserializer)

end Catalog

end FlowBindings.Loci
