import FlowBindings.Loci.Notice

/-!
# The test bench

The part of the tests of the C library that does not depend on the protocol.
-/

namespace FlowBindings.Loci.Support

open Text

def unitTestHeader : String := notice ++ block r#"

#ifndef UNITTEST_H
δUNITTEST_H

#include <stdio.h>

δTEST_PASS 1
δTEST_FAIL 0

δTESTCASE(foo, rv) do {										  \
		fprintf(stderr, "test %s:", #foo);							  \
		fprintf(stderr, "  %s\n", (rv = test_##foo()) ? "PASS" : "FAIL"); \
	} while (0)

δτresult) if (!(result)) do {						 \
		fprintf(stderr, "\nTEST LOCI_ASSERT FAILURE "						\
			   #result " :: %s:%d\n",__FILE__,__LINE__);				\
		λ0);													  \
		ρTEST_FAIL;											   \
	} while (0)

δTEST_ASSERT_EQUAL(expected, result) \
	τ((expected) == (result)))

δTEST_ASSERT_NOT_EQUAL(expected, result) \
	τ((expected) != (result)))

#endif
"#

def extensionTest : String := notice ++ block r"

¶Test extensions
 */

#include <locitest/test_common.h>

¶Simple tests for extension objects
 */

int
test_ext_objs(void)
{
	of_action_bsn_mirror_t *obj;

	obj = of_action_bsn_mirror_new(ν1_0);
	τobj != NULL);
	τobj->object_id == OF_ACTION_BSN_MIRROR);

	ωdelete(obj);

	ρTEST_PASS;
}
"

def listLimitTest : String := notice ++ block r"

¶Test that list append fails gracefully when running out of wire buffer
 * space.
 */

#include <locitest/test_common.h>

static int
test_list_limits(void)
{
	of_flow_stats_reply_t *obj = of_flow_stats_reply_new(ν1_0);
	of_list_flow_stats_entry_t list;
	of_flow_stats_entry_t *element = of_flow_stats_entry_new(ν1_0);
	int i = 0;

	of_flow_stats_reply_entries_bind(obj, &list);

	λelement != NULL);


	while (1) {
		int rv = of_list_flow_stats_entry_append(&list, element);
		λrv == εNONE || rv == εRESOURCE);
		if (rv != εNONE) {
			break;
		}
		i++;
	}

	λi == 744);

	of_flow_stats_entry_delete(element);
	of_flow_stats_reply_delete(obj);
	ρTEST_PASS;
}

static int
test_list_limits_bind(void)
{
	of_flow_stats_reply_t *obj = of_flow_stats_reply_new(ν1_0);
	of_list_flow_stats_entry_t list;
	int i = 0;
	of_flow_stats_reply_entries_bind(obj, &list);


	while (1) {
		of_flow_stats_entry_t element;
		int rv; 
		of_flow_stats_entry_init(&element, ν1_0, -1, 1);
		rv = of_list_flow_stats_entry_append_bind(&list, &element);
		λrv == εNONE || rv == εRESOURCE);
		if (rv != εNONE) {
			break;
		}
		i++;
	}

	λi == 744);

	of_flow_stats_reply_delete(obj);
	ρTEST_PASS;
}

int
run_list_limits_tests(void)
{
	RUN_TEST(list_limits);
	RUN_TEST(list_limits_bind);

	ρTEST_PASS;
}
"

def assertion (negated : Bool) (condition : String) : String :=
  "    TEST_ASSERT(" ++ when negated "!" ++ condition ++ ");\n"

/-- Values of a type on which matches are tested: five values, of which all but the fourth
agree with the first under the second of two masks. -/
structure Sample where
  type : String
  value : String
  mask : String
  /-- What the tests call the type. -/
  title : String

def Sample.specificTest (x : Sample) : String :=
  each [("2", false), ("3", false), ("4", true), ("5", true)] (fun (k, negated) =>
    assertion negated ("OF_MORE_SPECIFIC_" ++ x.type ++ "(" ++ x.value ++ "1, " ++ x.value ++ k ++ ")"))
  ++ "\n"

def Sample.maskTest (x : Sample) : String :=
  let restricted mask k negated := assertion negated ("OF_RESTRICTED_MATCH_" ++ x.type ++ "("
    ++ x.value ++ "1, " ++ x.value ++ k ++ ", " ++ x.mask ++ mask ++ ")")
  let overlap mask k negated := assertion negated ("OF_OVERLAP_" ++ x.type ++ "("
    ++ x.value ++ "1, " ++ x.value ++ k ++ ", " ++ x.mask ++ "1, " ++ x.mask ++ mask ++ ")")
  "    /* Test restricted matches on " ++ x.title ++ " */\n"
  ++ restricted "1" "2" false ++ restricted "1" "3" true ++ restricted "1" "4" true
  ++ restricted "1" "5" true ++ "\n"
  ++ restricted "2" "2" false ++ restricted "2" "3" false ++ restricted "2" "4" true
  ++ restricted "2" "5" false ++ "\n    /* Test overlap */\n"
  ++ overlap "2" "2" false ++ overlap "2" "3" false ++ overlap "1" "3" true
  ++ overlap "2" "4" true ++ overlap "2" "5" false ++ "\n"

def samples : List Sample :=
  [⟨"MAC_ADDR", "&m", "&m_mask", "macs"⟩, ⟨"IPV6", "&i", "&i_mask", "ipv6"⟩,
   ⟨"INT", "v", "u32_mask", "uint32"⟩, ⟨"INT", "w", "u64_mask", "uint64"⟩]

def matchTest : String := notice ++ block r"

/**
 *
 * Match utility test cases
 *
 */

#include <locitest/test_common.h>

int
test_match_utils(void)
{
	of_mac_addr_t m1 = {{0,0,1,1,3,3}};
	of_mac_addr_t m2 = {{0,0,1,1,3,3}};  /* m1 == m2 */
	of_mac_addr_t m3 = {{0,0,1,1,1,1}};  /* m1 is more specific than m3 */
	of_mac_addr_t m4 = {{0xf,0,1,1,3,3}};  /* m1 is not more specific m4 */
	of_mac_addr_t m5 = {{0,0,1,1,3,0xf}};  /* m1 is not more specific m5 */

	of_mac_addr_t m_mask1 = {{0xff, 0xff, 0xff, 0xff, 0xff, 0xff}};
	of_mac_addr_t m_mask2 = {{0xff, 0xff, 0xff, 0xff, 0, 0}};

	/* m1 matches m2 for mask1 */
	/* m1 matches m2 for mask2 */
	/* m1 does not match m3, m4, m5 for mask1 */
	/* m1 matches m3, m5 for mask2 */
	/* m1 does not match m4 for mask2 */

	of_ipv6_t i1 = {{0,0,0,0,1,1,1,1,3,3,3,3,7,7,7,7}};  /* same as above */
	of_ipv6_t i2 = {{0,0,0,0,1,1,1,1,3,3,3,3,7,7,7,7}};  
	of_ipv6_t i3 = {{0,0,0,0,1,1,1,1,1,1,1,1,1,1,1,1}};
	of_ipv6_t i4 = {{0xf,0,0,0,1,1,1,1,3,3,3,3,7,7,7,7}};
	of_ipv6_t i5 = {{0,0,0,0,1,1,1,1,3,3,3,3,7,7,7,0xf}};

	of_ipv6_t i_mask1 = {{0xff, 0xff, 0xff, 0xff, 0xff, 0xff, 0xff, 0xff,
						  0xff, 0xff, 0xff, 0xff, 0xff, 0xff, 0xff, 0xff}};
	of_ipv6_t i_mask2 = {{0xff, 0xff, 0xff, 0xff, 0xff, 0xff, 0xff, 0xff,
						  0, 0, 0, 0, 0, 0, 0, 0}};

	/* Same relationships as above */

	uint32_t v1 = 3;  /* same as above */
	uint32_t v2 = 3;
	uint32_t v3 = 1;
	uint32_t v4 = 4;
	uint32_t v5 = (1 << 31) | 1;

	uint32_t u32_mask1 = -1;
	uint32_t u32_mask2 = 1;

	uint64_t w1 = 3;  /* same as above */
	uint64_t w2 = 3;
	uint64_t w3 = 1;
	uint64_t w4 = 4;
	uint64_t w5 = (1LL << 63) | 1LL;

	uint64_t u64_mask1 = -1;
	uint64_t u64_mask2 = 1;

	/* Match structures */
	μt match1, match2;

"
  ++ each samples Sample.specificTest ++ each samples Sample.maskTest
  ++ form [("overlap", each [("1", "2"), ("2", "1")] fun (a, b) =>
    assertion false ("of_match_overlap(&match" ++ a ++ ", &match" ++ b ++ ")"))] r"
	/* Test match stuctures */
	μpopulate(&match1, ν1_2, 1);
	μpopulate(&match2, ν1_2, 1);
	τμeq(&match1, &match2));
	τμeq(&match2, &match1));
	τμmore_specific(&match1, &match2));
	τμmore_specific(&match2, &match1));
«overlap»
	/* Change match2 so it still is extended by match1 */
	memset(&match2.masks.eth_dst, 0, sizeof(of_mac_addr_t));
	τμmore_specific(&match1, &match2));
	τ!μmore_specific(&match2, &match1));
	τ!μeq(&match1, &match2));
«overlap»
	/* Now change a value so that matches disagree */
	match2.fields.in_port++;
	τ!μmore_specific(&match1, &match2));
	τ!μoverlap(&match1, &match2));
	τ!μoverlap(&match2, &match1));
	/* Clear inport mask on match2 and should extend again */
	match2.masks.in_port = 0;
	τμmore_specific(&match1, &match2));
«overlap»
	/* Now change mask so the overlap, but not more specific */
	match1.fields.in_port = 0x7;
	match1.masks.in_port = 0x7;
	match2.fields.in_port = 0xe;
	match2.masks.in_port = 0xe;
	τ!μmore_specific(&match1, &match2));
	τ!μmore_specific(&match2, &match1));
«overlap»	
	ρTEST_PASS;
}
"

def hello : String := block r"

	τobj != NULL);
	τobj->version == ν1_0);
	τobj->object_id == OF_HELLO);

	uint32_t xid;
	of_hello_xid_get(obj, &xid);
	τxid == 0x12345678);
"

def startList : String := block r"
	list = of_list_action_new(ν1_0);
	τlist != NULL);

"

/-- Whether a list of actions has each of the two ports: nothing is asked about the second
where it has no answer. -/
def askPorts (first : Bool) (second : Option Bool) : String :=
  let ask (port : String) (has : Bool) :=
    assertion (!has) ("of_action_list_has_out_port(list, " ++ port ++ ")")
  ask "OF_PORT_DEST_WILDCARD" true ++ ask "1" first
  ++ (second.map (ask "2")).getD "" ++ "\n"

def addOther : String := block r"
	/* Add some other action */
	of_action_set_dl_src_init(&set_dl_src, ν1_0, -1, 1);
	TEST_OK(of_list_action_append_bind(list, &set_dl_src));

"

def addPort (port : String) : String := form [("port", port)] r"
	/* Add port «port» */
	of_action_output_init(&output, ν1_0, -1, 1);
	TEST_OK(of_list_action_append_bind(list, &output));
	of_action_output_port_set(&output, «port»);

"

def actionTest : String := notice ++ block r"

/**
 *
 * Test utility functions
 *
 */

#include <locitest/test_common.h>
θof_utils.h>

¶Test has output port utility function
 */
int
test_has_outport(void)
{
	of_list_action_t *list;
	ωt set_dl_src;
	ωt output;

"
  ++ startList ++ askPorts false none ++ addOther ++ askPorts false none
  ++ addPort "2" ++ askPorts false (some true) ++ addPort "1" ++ askPorts true (some true) ++ block r"
	/* Start over and put action at front of list */
	of_list_action_delete(list);

"
  ++ startList ++ addPort "2" ++ askPorts false (some true) ++ addOther ++ askPorts false (some true)
  ++ addPort "1" ++ askPorts true (some true) ++ form [("hello", hello)] r"
	of_list_action_delete(list);

	ρTEST_PASS;
}

static int
test_ωnew_from_message(void)
{
	/* v1 OFPT_HELLO, xid=0x12345678 */
	uint8_t data[] = { 0x01, 0x00, 0x00, 0x08, 0x12, 0x34, 0x56, 0x78 };
	uint8_t *buf = malloc(sizeof(data));
	memcpy(buf, data, sizeof(data));

	ωt *obj = ωnew_from_message(buf, sizeof(data));
«hello»
	ωdelete(obj);

	ρTEST_PASS;
}

static int
test_ωnew_from_message_preallocated(void)
{
	/* v1 OFPT_HELLO, xid=0x12345678 */
	uint8_t buf[] = { 0x01, 0x00, 0x00, 0x08, 0x12, 0x34, 0x56, 0x78 };

	ωstorage_t storage;
	ωt *obj = ωnew_from_message_preallocated(
		&storage, buf, sizeof(buf));
«hello»
	ρTEST_PASS;
}

static int
test_truncate(void)
{
	ωt *obj = of_port_desc_new(ν1_4);
	ωt *dup = ωdup(obj);

	ωt props;
	ωt prop;
	of_port_desc_properties_bind(obj, &props);
	of_port_desc_prop_bsn_uplink_init(&prop, props.version, -1, 1);
	if (of_list_port_desc_prop_append_bind(&props, &prop) < 0) {
		assert(0);
	}

	ωtruncate(obj);

	τobj->wbuf->current_bytes == dup->wbuf->current_bytes);
	τ!memcmp(obj->wbuf->buf, dup->wbuf->buf, obj->wbuf->current_bytes));

	ωdelete(obj);
	ωdelete(dup);

	ρTEST_PASS;
}

int
run_utility_tests(void)
{
	RUN_TEST(has_outport);
	RUN_TEST(ωnew_from_message);
	RUN_TEST(ωnew_from_message_preallocated);
	RUN_TEST(dump_objs);
	RUN_TEST(truncate);

	ρTEST_PASS;
}
"

def mainSource : String := notice ++ form [("heads", memoryHeaders)] r"

¶@file test_main
 *
 * The main kickoff point for running all tests
 */

«heads»
int
main(int argc, char *argv[])
{
	MCHECK_INIT;

	RUN_TEST(ident_macros);

	τrun_unified_accessor_tests() == TEST_PASS);
	τrun_match_tests() == TEST_PASS);

	τrun_utility_tests() == TEST_PASS);

	/* These are deprecated by the unified accessor tests */
	τrun_scalar_acc_tests() == TEST_PASS);
	τrun_list_tests() == TEST_PASS);
	τrun_message_tests() == TEST_PASS);

	τrun_validator_tests() == TEST_PASS);

	τrun_list_limits_tests() == TEST_PASS);

	RUN_TEST(ext_objs);

	τtest_datafiles() == TEST_PASS);

	ρglobal_error;
}
"

end FlowBindings.Loci.Support
