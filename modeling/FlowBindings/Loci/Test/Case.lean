import FlowBindings.Loci.Notice
import FlowBindings.Loci.Test.Scalar
import FlowBindings.TestData

/-!
# Test cases

The test programs of the C library: one test case per class and version, for
messages, lists, matches, identifiers and data files, and a function that runs
them all.
-/

namespace FlowBindings.Loci.Catalog

open Text
open Loci.Test

def testHead (about : String) : String := form [("about", about)] r"
/**
 *
 * AUTOMATICALLY GENERATED FILE.  Edits will be lost on regen.
 *
 * «about»
 */

#include <locitest/test_common.h>
"

/-- The end of a function whose tests have passed. -/
def passed : String := block r"
	ρTEST_PASS;
}
"

variable (c : Catalog) (cls : String) (wire : Nat) (holes : Table String String)

def needLength : Outcome Nat :=
  orFault (c.baseLengths.get? (cls, wire)) (.noEntry cls)

def isRecorded : Bool :=
  (c.records.get? cls).any (·.layouts.has wire)

def runTest (name : String) : String := "    RUN_TEST(" ++ name ++ ");\n"

/-- A program that tests classes, each in every version that has it. -/
structure Suite where
  about : String
  name : String
  /-- The classes that are tested in a version. -/
  tested : Nat → Outcome (List String)
  /-- What stands above the tests of a version, given its constant. -/
  remark : String → String := fun _ => ""
  test : String → Nat → Outcome String
  /-- What stands between the names of a class and a version in that of a test, and behind them. -/
  between : String := "_"
  suffix : String := ""
  finish : String := "\n" ++ passed

def suite (s : Suite) : Outcome String := do
  let cases ← c.wires.mapM fun wire => do
    pure (s.remark (← c.versionConstant wire) ++ concat (← (← s.tested wire).mapM (s.test · wire)))
  let runs ← c.wires.mapM fun wire => do
    let version ← c.versionConstant wire
    pure (each (← s.tested wire) fun name => runTest (name ++ s.between ++ version ++ s.suffix))
  pure (notice ++ "\n" ++ testHead s.about ++ concat cases
    ++ form [("name", s.name)] r"

int
run_«name»_tests(void)
{
"
    ++ concat runs ++ s.finish)

def notVirtual (names : List String) : Outcome (List String) :=
  names.filterM fun name => do pure !(← c.isVirtual name)

def versionRemark (what version : String) : String :=
  form [("what", what), ("version", version)] r"

¶«what» tests for version «version»
 */
"

/-! ## Scalars -/

/-- What tests of a class fill in. -/
def testHoles : Outcome (Table String String) := do
  let length ← c.needLength cls wire
  pure [("cls", cls), ("u_cls", upper cls), ("v_name", ← c.versionConstant wire),
    ("length", toString length)]

def newObject : String := form holes r"
	obj = «cls»_new(«v_name»);
	τobj != NULL);
	τobj->version == «v_name»);
	τobj->length == «length»);
	τobj->parent == NULL);
	τobj->object_id == «u_cls»);
"

def lengthOnWire : String := form holes r"

	if (loci_class_metadata[obj->object_id].wire_length_get != NULL) {
		int length;

		loci_class_metadata[obj->object_id].wire_length_get((ωt *)obj, &length);
		τlength == «length»);
	}
"

def oldObject : String := form holes r"

	«cls»_delete(obj);

	/* To do: Check memory */
"
  ++ passed

def scalarTest : Outcome String := do
  let _ ← c.record cls
  let holes ← c.testHoles cls wire
  let root := (c.model.unified.class? cls).bind fun u =>
    if u.isVirtual then none else u.inheritanceRoot?
  let isVirtual ← c.isVirtual cls
  pure (form holes r"

static int
test_«cls»_«v_name»_scalar(void)
{
	«cls»_t *obj;

"
    ++ newObject holes
    ++ (root.map fun r => form (("root_cls", r) :: holes) r"

	{
		ωid_t object_id;
		«root_cls»_wire_object_id_get(obj, &object_id);
		τobject_id == «u_cls»);
	}
").getD ""
    ++ when (!isVirtual) (lengthOnWire holes ++ form holes r"

	/* Set up incrementing values for scalar members */
	«cls»_«v_name»_populate_scalars(obj, 1);

	/* Check values just set */
	τ«cls»_«v_name»_check_scalars(obj, 1) != 0);
")
    ++ oldObject holes)

def scalarTests : Outcome String := c.suite
  { about := "Message-scalar tests for all versions"
    name := "scalar_acc"
    tested wire := c.classes.filterM fun name => do
      pure (!(← c.isVirtual name) && c.isRecorded name wire)
    remark := versionRemark "Message-scalar"
    test := c.scalarTest
    suffix := "_scalar"
    finish := passed }

/-! ## Lists -/

def listTest : Outcome String := do
  let holes := [("cls", cls), ("v_name", ← c.versionConstant wire),
    ("enum_cls", enumName cls)]
  pure (form holes r"

static int
test_«cls»_«v_name»(void)
{
	«cls»_t *list;
	int value = 1;

	list = «cls»_new(«v_name»);
	τlist != NULL);
	τlist->version == «v_name»);
	τlist->length == 0);
	τlist->parent == NULL);
	τlist->object_id == «enum_cls»);

	value = «cls»_«v_name»_populate(list, value);
	τvalue != 0);

	/* Now check values */
	value = 1;
	value = «cls»_«v_name»_check(list, value);
	τvalue != 0);

	«cls»_delete(list);

"
    ++ passed)

def listTests : Outcome String := c.suite
  { about := "Message-scalar tests for all versions"
    name := "list"
    tested wire := pure (c.lists.filter (c.isRecorded · wire))
    remark := versionRemark "Baseline list"
    test := c.listTest }

/-! ## Matches -/

def matchTests : String :=
  let eachVersion (f : List (String × String) → String) : String := each c.targets fun v =>
    f [("v", toString v.wire), ("version", toString v.wire), ("v_name", v.constant "OF_VERSION_")]
  let declared := eachVersion fun holes => fill holes "    of_match_v«v»_t *m_v«v»;\n"
  notice
  ++ testHead "Message-scalar tests for all versions\n * @fixme These are mostly hard coded now."
  ++ block r"

static int
test_match_1(void)
{
"
  ++ declared
  ++ block r"
	μt match;
	int value = 1;
	int idx;
	uint32_t exp_value;

	/* Verify default values for ip mask map */
	for (idx = 0; idx < 64; idx++) {
		exp_value = (idx < 32) ? ~((1 << idx) - 1) : 0;
		τof_ip_index_to_mask(idx) == exp_value);
		if (idx < 32) {
			τof_ip_mask_to_index(exp_value) == idx);
		}
	}
"
  ++ eachVersion (fun holes => form holes r"

	/* Create/populate/convert and delete for version «v_name» */
	m_v«version» = μv«version»_new(«v_name»);
	τm_v«version» != NULL);
	τ(value = μpopulate(&match, «v_name», value)) > 0);
	TEST_OK(μto_wire_match_v«version»(&match, m_v«version»));
	μv«version»_delete(m_v«version»);
")
  ++ block r"

	ρTEST_PASS;
}

static int
test_match_2(void)
{
"
  ++ declared
  ++ block r"
	μt match1;
	μt match2;
	int value = 1;
"
  ++ eachVersion (fun holes => form holes r"

	τ(value = μpopulate(&match1, «v_name», value)) > 0);
	m_v«version» = μv«version»_new(«v_name»);
	τm_v«version» != NULL);
	TEST_OK(μto_wire_match_v«version»(&match1, m_v«version»));
	TEST_OK(μv«version»_to_match(m_v«version», &match2));
	τmemcmp(&match1, &match2, sizeof(match1)) == 0);
	μv«version»_delete(m_v«version»);
")
  ++ block r"

	ρTEST_PASS;
}

static int
test_match_3(void)
{
	μt match1;
	μt match2;
	int value = 1;
	of_octets_t octets;
	ωstorage_t storage;
	memset(&storage, 0, sizeof(storage));
	storage.obj.wbuf = &storage.wbuf;
"
  ++ eachVersion (fun holes => form holes r"

	/* Serialize to version «v_name» */
	τ(value = μpopulate(&match1, «v_name», value)) > 0);
	τμserialize(«v_name», &match1, &octets) ==
		εNONE);
	storage.obj.wbuf->buf = octets.data;
	storage.obj.wbuf->alloc_bytes = octets.bytes;
	storage.obj.wbuf->current_bytes = octets.bytes;
	τμdeserialize(«v_name», &match2, &storage.obj, 0, octets.bytes) ==
		εNONE);
	τmemcmp(&match1, &match2, sizeof(match1)) == 0);
	FREE(octets.data);
")
  ++ block r"

	ρTEST_PASS;
}

int run_match_tests(void)
{
	RUN_TEST(match_1);
	RUN_TEST(match_2);
	RUN_TEST(match_3);
	RUN_TEST(match_utils);

	ρTEST_PASS;
}
"

/-! ## Messages -/

def messageTest : Outcome String := do
  let holes ← c.testHoles cls wire
  pure (form holes r"

static int
test_«cls»_create_«v_name»(void)
{
	«cls»_t *obj;
	uint8_t *msg_buf;
	int value;
	ωid_t object_id;
	int len;

"
    ++ newObject holes ++ form holes r"

	of_header_wire_object_id_get(obj, &object_id);
	τobject_id == «u_cls»);

	/* Set up incrementing values for scalar members */
	value = «cls»_«v_name»_populate_scalars(obj, 1);
	τvalue != 0);

	len = obj->length;

	/* Grab the underlying buffer from the message */
	ωwire_buffer_steal((ωt *)obj, &msg_buf);
	τmsg_buf != NULL);
	«cls»_delete(obj);
	obj = ωnew_from_message(OF_BUFFER_TO_MESSAGE(msg_buf), len);

	τobj != NULL);

	/* @fixme Set up all message objects (recursively?) */

	value = «cls»_«v_name»_check_scalars(obj, 1);
	τvalue != 0);

	«cls»_delete(obj);

"
    ++ passed)

def messageTests : Outcome String := c.suite
  { about := "Message-scalar tests for all versions"
    name := "message"
    tested wire := c.notVirtual (c.messages.filter (c.inVersion · wire))
    test := c.messageTest
    between := "_create_" }

/-! ## All members -/

def accessorTest : Outcome String := do
  let _ ← c.record cls
  let holes ← c.testHoles cls wire
  let isTested := !(← c.isVirtual cls) || WireType.isListClass cls
  pure (form holes r"

static int
test_«cls»_«v_name»(void)
{
	«cls»_t *obj;
"
    ++ newObject holes
    ++ when isTested (lengthOnWire holes ++ form holes r"
	if (loci_class_metadata[obj->object_id].wire_type_get != NULL) {
		ωid_t obj_id;

		loci_class_metadata[obj->object_id].wire_type_get((ωt *)obj, &obj_id);
		τobj_id == «u_cls»);
	}

	/* Set up incrementing values for members */
	τ«cls»_«v_name»_populate(
		obj, 1) != 0);

	/* Check values just set */
	τ«cls»_«v_name»_check(
		obj, 1) != 0);
")
    ++ oldObject holes)

def accessorTests : Outcome String := c.suite
  { about := "Unified simple class instantiation tests for all versions"
    name := "unified_accessor"
    tested wire := c.notVirtual (c.classes.filter (c.inVersion · wire))
    test := c.accessorTest
    finish := passed }

/-! ## Dumps and identifiers -/

def dumpTest : Outcome String := do
  let dumps ← c.eachVersionClass c.classes fun wire name => do
    if !c.inVersion name wire || (← c.isVirtual name) then pure ""
    else
      let holes := [("cls", name), ("version", ← c.versionConstant wire)]
      pure (if name = "of_bsn_virtual_port_create_request" then
        form holes r"

	obj = (ωt *)«cls»_new(«version»);
	{
		ωt *vport = of_bsn_vport_q_in_q_new(«version»);
		«cls»_vport_set(obj, vport);
		ωdelete(vport);
	}
	ωdump((loci_writer_f)fprintf, out, obj);
	ωdelete(obj);
"
      else
        form holes r"

	obj = (ωt *)«cls»_new(«version»);
	ωdump((loci_writer_f)fprintf, out, obj);
	ωdelete(obj);
")
  pure (block r#"


¶Test object dump functions
 */

int
test_dump_objs(void)
{
	ωt *obj;

	FILE *out = fopen("/dev/null", "w");

	/* Call each obj dump function */
"#
    ++ dumps
    ++ block r"

	fclose(out);
	ρTEST_PASS;
}
")

def identifierTest (name : String) (i : Identifier) : Outcome String := do
  let supports := c.targets.map fun v =>
    "    TEST_ASSERT(" ++ when (!i.values.has v.wire) "!" ++ name ++ "_SUPPORTED("
      ++ v.constant "OF_VERSION_" ++ "));\n"
  let flagTest ← match i.values.keys.head? with
    | some wire =>
      if Identifier.isFlagName name then do
        pure (form [("ident", name), ("ver_name", ← c.versionConstant wire)] r"

	flags = 0;
	«ident»_SET(flags, «ver_name»);
	τflags == «ident»_BY_VERSION(«ver_name»));
	τ«ident»_TEST(flags, «ver_name»));
	«ident»_CLEAR(flags, «ver_name»);
	τflags == 0);
	τ!«ident»_TEST(flags, «ver_name»));
")
      else pure ""
    | none => pure ""
  pure ("    value = " ++ name ++ ";\n" ++ concat supports ++ flagTest)

def identifierTests : Outcome String := do
  let tests ← (c.identifiers.byName.filter fun (_, i) => i.agreesOn c.wires).mapM
    fun (name, i) => c.identifierTest name i
  pure (block r"

¶Test cases for all flag accessor macros
 * These only test self consistency (and that they compile)
 */
int
test_ident_macros(void)
{
	int value __attribute__((unused));
	uint32_t flags;

"
    ++ concat tests
    ++ block r"

	ρTEST_PASS;
}
")

end FlowBindings.Loci.Catalog

namespace FlowBindings.Loci.Test

open Text

/-! ## Data files -/

def byteArray (bytes : List Nat) : String :=
  let line := "\n" ++ repeated 8 " "
  repeated 8 " " ++ each (bytes.zipIdx 1) fun (b, n) =>
    "0x" ++ padLeft 2 '0' (hexDigits b) ++ ", " ++ when (n % 8 = 0) line

structure DataTest where
  file : String
  name : String
  code : String
  bytes : List Nat
  deriving Repr

def dataTests (d : Directory) : Outcome (List DataTest) := do
  let tests ← d.dataFiles.mapM fun file => do
    let sections ← d.sections file
    match sections.get? "c" with
    | some (.text code) =>
      match sections.get? "binary" with
      | some (.message bytes) =>
        pure (some ⟨file, replace (dropLast 5 file) "/" "_", code, bytes⟩)
      | _ => throw (.noEntry "binary")
    | _ => pure none
  pure (tests.filterMap id)

def dataTestProgram (d : Directory) : Outcome String := do
  let tests ← dataTests d
  pure (notice ++ "\n" ++ Catalog.testHead "Data file tests for all versions."
    ++ form [("tab", "\t")] r#"


static void
hexdump(const uint8_t *data, int len)
{
	int i = 0, j;
	while (i < len) {
«tab»printf("%02x: ", i);
«tab»for (j = 0; j < 8 && i < len; j++, i++) {
«tab»	printf("%02x ", data[i]);
«tab»}
«tab»printf("\n");
	}
}

static void
show_failure(const uint8_t *a, int a_len, const uint8_t *b, int b_len)
{
	printf("\n--- Expected: (len=%d)\n", a_len);
	hexdump(a, a_len);
	printf("\n--- Actual: (len=%d)\n", b_len);
	hexdump(b, b_len);
}

"#
    ++ each tests (fun t => form [("tab", "\t"), ("file", t.file), ("name", t.name),
        ("bytes", byteArray t.bytes),
        ("code", join "\n" ((splitOn '\n' t.code).map (repeated 4 " " ++ ·)))] r#"
/* Generated from «file» */
static int
test_«name»(void) {
	uint8_t binary[] = {
«bytes»
	};

	ωt *obj;

«code»

	if (sizeof(binary) != WBUF_CURRENT_BYTES(ΩTO_WBUF(obj))
		|| memcmp(binary, WBUF_BUF(ΩTO_WBUF(obj)), sizeof(binary))) {
«tab»show_failure(binary, sizeof(binary),
«tab»«tab»	 WBUF_BUF(ΩTO_WBUF(obj)),
«tab»«tab»	 WBUF_CURRENT_BYTES(ΩTO_WBUF(obj)));
«tab»ωdelete(obj);
«tab»ρTEST_FAIL;
	}

	ωdelete(obj);
	ρTEST_PASS;
}

"#)
    ++ block r"

int
test_datafiles(void)
{
"
    ++ each tests (fun t => Catalog.runTest t.name) ++ Catalog.passed)

end FlowBindings.Loci.Test
