import FlowBindings.Loci.Test.Scalar

/-!
# Filling objects in tests

Functions of the tests that fill all members of an object, and check them. A
list is filled with two objects of each class it can hold.
-/

namespace FlowBindings.Loci.Test

open Text

def appendTwo (listClass subclass var version : String) : String :=
  let holes := [("inst", var), ("subcls", subclass), ("v_name", version), ("cls", listClass)]
  let once := form holes r"

	«subcls»_init(«inst», «v_name», -1, 1);
	«cls»_append_bind(list, «inst»);
	value = «subcls»_«v_name»_populate(
		«inst», value);
	cur_len += «inst»->length;
	τlist->length == cur_len);
"
  "\n    /* Append two instances of type " ++ subclass ++ " */\n" ++ once ++ once

def duplicateTest (cls var : String) : String :=
  let same := form [("var", var)] r"
		τdup->length == «var»->length);
		τdup->object_id == «var»->object_id);
		τdup->version == «var»->version);
		τMEMCMP(ΩBUFFER_INDEX(dup, 0),
			ΩBUFFER_INDEX(«var», 0), «var»->length) == 0);
		ωdelete((ωt *)dup);
"
  form [("cls", cls), ("var", var), ("same", same)] r"

	/* We shoehorn a test of the dup functions here */
	{
		«cls»_t *dup;

		τ(dup = «cls»_dup(«var»)) != NULL);
«same»
		/* And now for the generic dup function */
		τ(dup = («cls»_t *)
			ωdup(«var»)) != NULL);
«same»	}
"

end FlowBindings.Loci.Test

namespace FlowBindings.Loci.Catalog

open Text
open Loci.Test

variable (cls version : String) (c : Catalog) (m : Slot)

def checkTwo (listClass subclass var : String) (wire : Nat) (last : Bool) :
    Outcome String := do
  let version ← c.versionConstant wire
  let once := form [("elt_name", enumName subclass), ("inst", var), ("subcls", subclass),
      ("v_name", version)] r"

	τ«inst»->object_id == «elt_name»);
	value = «subcls»_«v_name»_check(
		«inst», value);
	τvalue != 0);
"
  let step := "    TEST_OK(" ++ listClass ++ "_next(list, &elt));\n"
  pure ("\n    /* Check two instances of type " ++ var ++ " */" ++ once ++ step ++ once
    ++ (if last then
        "    TEST_ASSERT(" ++ listClass ++ "_next(list, &elt) == OF_ERROR_RANGE);\n"
      else step))

/-- The classes whose objects a list can hold in a version, each with a variable
for them. -/
def elements (listClass : String) (wire : Nat) :
    Outcome (Bool × List (String × String)) := do
  let base := WireForm.entryClass listClass
  let below ← (← c.subclasses base wire).filterM fun (_, name) => do
    pure !(← c.isVirtual name)
  if ← c.isVirtual base then pure (true, below) else pure (false, [("elt_p", base)])

def elementVariables (base : String) (hasFamily : Bool) (elements : List (String × String)) :
    String :=
  if hasFamily then
    "    /* Declare pointers for each subclass */\n"
      ++ each elements (fun (var, name) => "    " ++ name ++ "_t *" ++ var ++ ";\n")
      ++ "\n    /* Instantiate pointers for each subclass */\n"
      ++ each elements (fun (var, _) => "    " ++ var ++ " = &elt;\n")
  else
    "    /* No subclasses for " ++ base ++ " */\n    " ++ base ++ "_t *elt_p;\n\n    elt_p = &elt;\n"

def listPopulation (cls : String) (wire : Nat) : Outcome String := do
  let version ← c.versionConstant wire
  let (hasFamily, elements) ← c.elements cls wire
  let declared := elementVariables (WireForm.entryClass cls) hasFamily elements
  let holes := [("cls", cls), ("v_name", version), ("u_cls", upper cls),
    ("entry_count", toString (2 * elements.length))]
  let checks ← (elements.zipIdx 1).mapM fun ((var, name), n) =>
    c.checkTwo cls name var wire (n = elements.length)
  pure (form holes r"

¶Populate a list of type «cls» with two of each type of subclass
πlist Pointer to the list to be populated
πvalue The seed value to use in populating the list
 * @returns The value after increments for this object's values
 */
int
«cls»_«v_name»_populate(
	«cls»_t *list, int value)
{

	ωt elt;
	int cur_len = 0;
	static int recursion;
	(void) elt;
	(void) cur_len;

	if (recursion > 0) {
		ρvalue;
	}

	recursion++;
"
    ++ declared
    ++ each elements (fun (var, name) => appendTwo cls name var version)
    ++ form holes r"

	recursion--;
	ρvalue;
}

¶Check a list of type «cls» generated by
 * «cls»_«v_name»_populate
πlist Pointer to the list that was populated
πvalue Starting value for checking
 * @returns The value after increments for this object's values
 */
int
«cls»_«v_name»_check(
	«cls»_t *list, int value)
{

	ωt elt;
	int count = 0;
	int rv;
	static int recursion;

	if (recursion > 0) {
		ρvalue;
	}

	recursion++;
"
    ++ declared
    ++ when (!elements.isEmpty) (fill holes "    TEST_OK(«cls»_first(list, &elt));\n")
    ++ concat checks ++ "\n"
    ++ form holes r"

	/* Do an iterate to test the iterator */
	«u_cls»_ITER(list, &elt, rv) {
		count += 1;
	}

	τrv == εRANGE);
	τcount == «entry_count»);
"
    ++ duplicateTest cls "list" ++ block r"

	recursion--;
	ρvalue;
}
")

def isHeld (type : String) : Bool :=
  WireForm.isScalar type || ["of_match_t", "of_octets_t"].contains type

def memberHoles : Outcome (List (String × String)) := do
  pure [("cls", cls), ("m_name", m.name), ("v_name", version),
    ("var_name", ← variableOf m.type),
    ("sub_cls", (embedded.get? m.type).getD (dropLast 2 m.type))]

def fillVariable (type : String) : Outcome String := do
  let var ← variableOf type
  pure (if isHeld type then "    " ++ type ++ " " ++ var ++ ";\n"
    else match embedded.get? type with
      | some sub => "    " ++ sub ++ "_t *" ++ var ++ ";\n"
      | none => "    " ++ type ++ " *" ++ var ++ ";\n")

def tryMember : Outcome String := do
  if embedded.has m.type then pure ""
  else
    let holes ← memberHoles cls version m
    pure (if isHeld m.type then
      form holes r"
	«cls»_«m_name»_get(obj, &«var_name»);
"
    else
      form holes r"
	{
		«sub_cls»_t sub_cls;

		/* Test bind */
		«cls»_«m_name»_bind(obj, &sub_cls);
	}
")

def fillMember : Outcome String := do
  let holes ← memberHoles cls version m
  pure (if m.type = "of_match_t" then
      form holes r"
	value = μpopulate(&«var_name», «v_name», value);
	τvalue != 0);
	«cls»_«m_name»_set(
		obj, &«var_name»);
"
    else if m.type = "of_octets_t" then
      form holes r"
	value = of_octets_populate(&«var_name», value);
	τvalue != 0);
	«cls»_«m_name»_set(
		obj, &«var_name»);
	if (octets.bytes) {
		FREE(octets.data);
	}
"
    else
      when (!embedded.has m.type) "\n" ++ form holes r"
	«var_name» = «sub_cls»_new(«v_name»);
	τ«var_name» != NULL);
	value = «sub_cls»_«v_name»_populate(
		«var_name», value);
	τvalue != 0);
	«cls»_«m_name»_set(
		obj, «var_name»);
	«sub_cls»_delete(«var_name»);
")

def checkMember : Outcome String := do
  let holes ← memberHoles cls version m
  pure (if m.type = "of_match_t" then
      form holes r"
	«cls»_«m_name»_get(obj, &«var_name»);
	value = μcheck(&«var_name», «v_name», value);
"
    else if m.type = "of_octets_t" then
      form holes r"
	«cls»_«m_name»_get(obj, &«var_name»);
	value = of_octets_check(&«var_name», value);
"
    else
      let holes := ("type", if embedded.has m.type then fill holes "«sub_cls»_t" else m.type) :: holes
      form holes r"

	{ /* Use get/delete to access on check */
		«type» *«m_name»_ptr;

		«m_name»_ptr = «cls»_«m_name»_get(obj);
		τ«m_name»_ptr != NULL);
		value = «sub_cls»_«v_name»_check(
			«m_name»_ptr, value);
		τvalue != 0);
		«sub_cls»_delete(«m_name»_ptr);
	}
")

def classPopulation (cls : String) (wire : Nat) : Outcome String := do
  let version ← c.versionConstant wire
  let holes := remarkHoles ++ [("cls", cls), ("v_name", version)]
  let (members, types) ← c.memberTypes cls wire
  let accessed := members.filter fun m => !WireForm.isMaintained m.name
  let others := accessed.filter fun m => !WireForm.isScalar m.type
  let declared ← types.mapM fillVariable
  let tries ← accessed.mapM (tryMember cls version)
  let fills ← others.mapM (fillMember cls version)
  let checked ← declarations (types.filter fun t => !WireForm.isScalar t && !c.isObjectType t)
  let checks ← others.mapM (checkMember cls version)
  pure (form holes r"

¶Populate all members of an object of type «cls»
 * with incrementing values
«fills»
int
«cls»_«v_name»_populate(
	«cls»_t *obj, int value)
{
"
    ++ concat declared
    ++ "\n    /* Run thru accessors after new to ensure okay */\n"
    ++ concat tries
    ++ form holes r"

	value = «cls»_«v_name»_populate_scalars(
		obj, value);
	τvalue != 0);
"
    ++ concat fills
    ++ form holes r"

	ρvalue;
}

¶Check all members of an object of type «cls»
 * populated by the above function
«checks»
int
«cls»_«v_name»_check(
	«cls»_t *obj, int value)
{
"
    ++ checked
    ++ form holes r"

	value = «cls»_«v_name»_check_scalars(
		obj, value);
	τvalue != 0);
"
    ++ concat checks
    ++ duplicateTest cls "obj" ++ block r"

	ρvalue;
}
")

def populations : Outcome String :=
  c.eachVersionClass c.classes fun wire name => do
    if !c.inVersion name wire then pure ""
    else if WireType.isListClass name then c.listPopulation name wire
    else if ← c.isVirtual name then pure ""
    else c.classPopulation name wire

end FlowBindings.Loci.Catalog
