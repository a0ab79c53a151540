import FlowBindings.Loci.Catalog
import FlowBindings.Loci.Notice

/-!
# Tests of the check of messages

Messages that fit together pass the check and messages with a wrong length do not.
One object of every message class of every version is made and checked.
-/

namespace FlowBindings.Loci

open Text

namespace Catalog

def validatorCase (cls versionName : String) : String :=
  form [("cls", cls), ("ver_name", versionName)] r"
	{
		«cls»_t *obj = «cls»_new(«ver_name»);
		of_message_t msg;
		«cls»_«ver_name»_populate(obj, 1);
		msg = ΩTO_MESSAGE(obj);
		τof_validate_message(msg, of_message_length_get(msg)) == 0);
		«cls»_delete(obj);
	}

"

def messageClasses (c : Catalog) (wire : Nat) : Outcome (List String) :=
  c.classes.reverse.filterM fun name => do
    if !c.inVersion name wire then return false
    if ← c.isVirtual name then return false
    c.isMessage name

def validatorCases (c : Catalog) (wire : Nat) : Outcome String := do
  let versionName ← c.versionConstant wire
  pure (each (← c.messageClasses wire) (validatorCase · versionName))

def validatorTests (c : Catalog) : Outcome String := do
  let cases ← c.wires.mapM c.validatorCases
  let shorter := block r"

	τof_validate_message(msg, of_message_length_get(msg)) == 0);

	of_message_length_set(msg, of_message_length_get(msg) - 1);
	τof_validate_message(msg, of_message_length_get(msg)) == -1);
"
  pure (notice ++ form [("shorter", shorter)] r#"

¶Test message validator
 *
 * Run the message validator on corrupt messages to ensure it catches them.
 */

#include "loci_log.h"

#include <locitest/test_common.h>
θloci_validator.h>

static int
test_validate_fixed_length(void)
{
	of_table_stats_request_t *obj = of_table_stats_request_new(ν1_0);
	of_message_t msg = ΩTO_MESSAGE(obj);
«shorter»
	of_table_stats_request_delete(obj);
	ρTEST_PASS;
}

static int
test_validate_fixed_length_list(void)
{
	of_table_stats_reply_t *obj = of_table_stats_reply_new(ν1_0);
	of_list_table_stats_entry_t list;
	of_table_stats_entry_t element;
	of_message_t msg; 
	of_table_stats_reply_entries_bind(obj, &list);
	of_table_stats_entry_init(&element, ν1_0, -1, 1);
	of_list_table_stats_entry_append_bind(&list, &element);
	of_list_table_stats_entry_append_bind(&list, &element);
	msg = ΩTO_MESSAGE(obj);
«shorter»
	of_table_stats_reply_delete(obj);
	ρTEST_PASS;
}

static int
test_validate_tlv16_list(void)
{
	of_flow_modify_t *obj = of_flow_modify_new(ν1_0);
	of_list_action_t list;
	of_action_set_tp_dst_t element1;
	of_action_output_t element2;
	of_message_t msg; 
	of_flow_modify_actions_bind(obj, &list);
	of_action_set_tp_dst_init(&element1, ν1_0, -1, 1);
	of_list_action_append_bind(&list, &element1);
	of_action_output_init(&element2, ν1_0, -1, 1);
	of_list_action_append_bind(&list, &element2);
	msg = ΩTO_MESSAGE(obj);
«shorter»
	of_message_length_set(msg, of_message_length_get(msg) + 2);
	τof_validate_message(msg, of_message_length_get(msg)) == -1);

	of_flow_modify_delete(obj);
	ρTEST_PASS;
}

/*
 * Create an instance of every message and run it through the validator.
 */
static int
test_validate_all(void)
{
"#
    ++ concat cases
    ++ block r"

	ρTEST_PASS;
}

int
run_validator_tests(void)
{
	RUN_TEST(validate_fixed_length);
	RUN_TEST(validate_fixed_length_list);
	RUN_TEST(validate_tlv16_list);
	RUN_TEST(validate_all);

	ρTEST_PASS;
}
")

end Catalog

end FlowBindings.Loci
