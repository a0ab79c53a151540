import FlowBindings.Loci.Test.Case
import FlowBindings.Loci.Test.Populate

/-!
# Filling values

The functions that fill strings, octets and matches with running numbers, and
the header that declares what the test programs use of each other.
-/

namespace FlowBindings.Loci.Catalog

open Text
open Loci.Test

def fillMacros : String :=
  each fillableTypes fun t =>
    if integerTypes.contains t then
      form [("1", upper t), ("2", t), ("3", upper t), ("4", t)] r"

δVAR_«1»_INIT(var, val) var = («2»)(val)
δVAR_«3»_CHECK(var, val) ((var) == («4»)(val))
"
    else
      form [("1", upper t), ("2", upper t)] r"

δVAR_«1»_INIT(var, val) \
	of_test_str_fill((uint8_t *)&(var), val, sizeof(var))
δVAR_«2»_CHECK(var, val) \
	of_test_str_check((uint8_t *)&(var), val, sizeof(var))
"

def fillFunctions (c : Catalog) : Outcome String := do
  let versions ← c.matchFields.perVersion.mapM fun (wire, keys) => do
    let fields ← keys.mapM fun key => do
      let f ← c.matchFields.byName.need key
      pure (form [("key", key), ("u_type", upper f.type), ("ku", upper key)] r"

		OF_MATCH_MASK_«ku»_EXACT_SET(match);
		VAR_«u_type»_INIT(match->fields.«key», value);
		value += 1;
")
    pure (form [("1", toString wire)] r"

	if (version == «1») {"
      ++ concat fields
      ++ block r"

	}

")
  pure (block r"


¶The increment to use on values inside a string
 */
δOF_TEST_STR_INCR 3

¶Fill in a buffer with incrementing values starting
 * at the given offset with the given value
πbuf The buffer to fill
πvalue The value to use for data
πlen The number of bytes to fill
 */

void
of_test_str_fill(uint8_t *buf, int value, int len)
{
	int i;

	for (i = 0; i < len; i++) {
		*buf = value;
		value += OF_TEST_STR_INCR;
		buf++;
	}
}

¶Given a buffer, verify that it's filled as above
πbuf The buffer to check
πvalue The value to use for data
πlen The number of bytes to fill
 * @ρBoolean True on equality (success)
 */

int
of_test_str_check(uint8_t *buf, int value, int len)
{
	int i;
	uint8_t val8;

	val8 = value;

	for (i = 0; i < len; i++) {
		if (*buf != val8) {
			ρ0;
		}
		val8 += OF_TEST_STR_INCR;
		buf++;
	}

	ρ1;
}

¶Global that determines how octets should be populated
 * -1 means use value % MAX (below) to determine length
 * 0, 1, ... means used that fixed length
 *
 * Note: Was 16K, but that made objects too big.  May add flexibility
 * to call populate with a max parameter for length
 */
int octets_pop_style = -1;
δOCTETS_MAX_VALUE (128) /* 16K was too big */
δOCTETS_MULTIPLIER 6367 /* A prime */

int
of_octets_populate(of_octets_t *octets, int value)
{
	if (octets_pop_style < 0) {
		octets->bytes = (value * OCTETS_MULTIPLIER) % OCTETS_MAX_VALUE;
	} else {
		octets->bytes = octets_pop_style;
	}

	if (octets->bytes != 0) {
		if ((octets->data = (uint8_t *)MALLOC(octets->bytes)) == NULL) {
			ρ0;
		}
		of_test_str_fill(octets->data, value, octets->bytes);
		value += 1;
	}

	ρvalue;
}

int
of_octets_check(of_octets_t *octets, int value)
{
	int len;

	if (octets_pop_style < 0) {
		len =  (value * OCTETS_MULTIPLIER) % OCTETS_MAX_VALUE;
		τoctets->bytes == len);
	} else {
		τoctets->bytes == octets_pop_style);
	}

	if (octets->bytes != 0) {
		τof_test_str_check(octets->data, value, octets->bytes)
			== 1);
		value += 1;
	}

	ρvalue;
}

int
μpopulate(μt *match, of_version_t version, int value)
{
	MEMSET(match, 0, sizeof(*match));
	match->version = version;
"
    ++ concat versions
    ++ block r"

	if (value % 2) {
		/* Sometimes set ipv4 addr masks to non-exact */
		match->masks.ipv4_src = 0xffff0000;
		match->masks.ipv4_dst = 0xfffff800;
	}

	/* Restrict values according to masks */
	of_memmask(&match->fields, &match->masks, sizeof(match->fields));
	ρvalue;
}

int
μcheck(μt *match, of_version_t version, int value)
{
	μt check;

	value = μpopulate(&check, match->version, value);
	τvalue != 0);
	τMEMCMP(match, &check, sizeof(check)) == 0);

	ρvalue;
}
")

def runDeclarations : String := block r"
extern int run_unified_accessor_tests(void);
extern int run_match_tests(void);
extern int run_utility_tests(void);

extern int run_scalar_acc_tests(void);
extern int run_list_tests(void);
extern int run_message_tests(void);
"

def fillHeader (c : Catalog) : Outcome String := do
  let functions ← c.eachVersionClass c.classes fun wire name => do
    if !c.inVersion name wire then pure ""
    else if (← c.isVirtual name) && !WireType.isListClass name then pure ""
    else
      pure (form [("cls", name), ("v_name", ← c.versionConstant wire)] r"

extern int «cls»_«v_name»_populate(
	«cls»_t *obj, int value);
extern int «cls»_«v_name»_check(
	«cls»_t *obj, int value);
extern int «cls»_«v_name»_populate_scalars(
	«cls»_t *obj, int value);
extern int «cls»_«v_name»_check_scalars(
	«cls»_t *obj, int value);
")
  pure (notice ++ form [("runs", runDeclarations)] r"

/*
 * Test header file
 *
 * AUTOMATICALLY GENERATED FILE.  Edits will be lost on regen.
 */

#if !defined(_TEST_COMMON_H_)
δ_TEST_COMMON_H_

δDISABLE_WARN_UNUSED_RESULT
θloci.h>
#include <locitest/of_dup.h>
#include <locitest/unittest.h>

extern int global_error;
extern int exit_on_error;

/* @todo Make option for -k to continue tests if errors */
δRUN_TEST(test) do {											 \
		int rv;														 \
		TESTCASE(test, rv);											 \
		if (rv != TEST_PASS) {										  \
			global_error=1;											 \
			if (exit_on_error) return(1);							   \
		}															   \
	} while(0)

δTEST_OK(op) τ(op) == εNONE)
δTEST_INDIGO_OK(op) τ(op) == INDIGO_ERROR_NONE)

/*
 * Declarations of functions to populate scalar values in a a class
 */

extern void of_test_str_fill(uint8_t *buf, int value, int len);
extern int of_test_str_check(uint8_t *buf, int value, int len);


extern int of_octets_populate(of_octets_t *octets, int value);
extern int of_octets_check(of_octets_t *octets, int value);
extern int μpopulate(μt *match, of_version_t version,
							 int value);
extern int μcheck(μt *match, of_version_t version, int value);
extern int test_ident_macros(void);
extern int test_dump_objs(void);

/* In test_match_utils.c */
extern int test_match_utils(void);

«runs»
extern int run_validator_tests(void);

extern int run_list_limits_tests(void);

extern int test_ext_objs(void);
extern int test_datafiles(void);

"
    ++ functions
    ++ "\n#endif /* _TEST_COMMON_H_ */\n")

def fillSource (c : Catalog) : Outcome String := do
  pure (notice ++ form [("heads", memoryHeaders), ("runs", runDeclarations)] r#"

/*
 * Common test code for LOCI
 *
 * AUTOMATICALLY GENERATED FILE.  Edits will be lost on regen.
 */

δDISABLE_WARN_UNUSED_RESULT
#include "loci_log.h"
θloci_obj_dump.h>
«heads»
¶Exit on error if set to 1
 */
int exit_on_error = 1;

¶Global error state: 0 is okay, 1 is error
 */
int global_error = 0;

«runs»
¶Macros for initializing and checking scalar types
 *
πvar The variable being initialized or checked
πval The integer value to set/check against, see below
 *
 * Note that equality means something special for strings.  Each byte
 * is initialized to an incrementing value.  So check is done against that.
 *
 */

"#
    ++ fillMacros
    ++ (← c.fillFunctions)
    ++ (← c.allScalarFunctions)
    ++ (← c.populations)
    ++ (← c.identifierTests)
    ++ (← c.dumpTest))

end FlowBindings.Loci.Catalog
