import FlowBindings.Loci.Notice
import FlowBindings.Loci.Test.Scalar

/-!
# Duplicating objects in tests

Functions of the tests that copy an object member by member, through its
accessors. A family of classes dispatches to the class of the object.
-/

namespace FlowBindings.Loci.Catalog

open Text
open Loci.Test

variable (c : Catalog) (cls : String) (wire : Nat)

def duplicateHead (kind cls version : String) : String :=
  form [("kind", kind), ("cls", cls), ("ver_name", version)] r"

¶Duplicate «kind» of type «cls»
 * using accessor functions
πsrc Pointer to object to be duplicated
 * @returns A new object of type «cls».
 *
 * The caller is responsible for deleting the returned value
 */
«cls»_t *
«cls»_«ver_name»_dup(
	«cls»_t *src)
{
"

def duplicateList : Outcome String := do
  let version ← c.versionConstant wire
  let holes := [("cls", cls), ("u_cls", upper cls),
    ("elt_type", WireForm.entryClass cls), ("ver_name", version)]
  pure (duplicateHead "a list" cls version ++ form holes r"
	ωt src_elt;
	ωt *dst_elt;
	int rv;
	«cls»_t *dst;

	if ((dst = «cls»_new(src->version)) == NULL) {
		ρNULL;
	}

	«u_cls»_ITER(src, &src_elt, rv) {
		if ((dst_elt = «elt_type»_«ver_name»_dup(&src_elt)) == NULL) {
			ωdelete((ωt *)dst);
			ρNULL;
		}
		_TRY_FREE(«cls»_append(dst, dst_elt),
			dst, NULL);
		ωdelete((ωt *)dst_elt);
	}

	ρdst;
}
")

def duplicateFamily : Outcome String := do
  let version ← c.versionConstant wire
  let below ← (← c.subclasses cls wire).filterM fun (_, name) => do
    pure !(← c.isVirtual name)
  pure (form [("cls", cls), ("ver_name", version)] r"

¶Duplicate a super class object of type «cls»
πsrc Pointer to object to be duplicated
 * @returns A new object of type «cls».
 *
 * The caller is responsible for deleting the returned value
 */
ωt *
«cls»_«ver_name»_dup(
	ωt *src)
{
"
    ++ each below (fun (_, name) =>
      form [("sub_enum", upper name), ("sub_cls", name), ("ver_name", version)] r"

	if (src->object_id == «sub_enum») {
		ρ«sub_cls»_«ver_name»_dup(src);
	}
")
    ++ block r"

	ρNULL;
}
")

def copyVariables (type : String) : Outcome String := do
  let var ← variableOf type
  pure (if WireForm.isScalar type || ["of_match_t", "of_octets_t"].contains type then
      "    " ++ type ++ " " ++ var ++ ";\n"
    else
      let held := ((embedded.get? type).map (· ++ "_t")).getD type
      "\n    " ++ held ++ " src_" ++ var ++ ";\n    " ++ held ++ " *dst_" ++ var ++ ";\n")

def copyMember (version : String) (m : Slot) : Outcome String := do
  let holes := [("cls", cls), ("m_name", m.name), ("v_name", ← variableOf m.type),
    ("ver_name", version), ("sub_cls", (embedded.get? m.type).getD (dropLast 2 m.type))]
  pure (if WireForm.isScalar m.type then
      form holes r"

	«cls»_«m_name»_get(src, &«v_name»);
	«cls»_«m_name»_set(dst, «v_name»);
"
    else if ["of_match_t", "of_octets_t"].contains m.type then
      form holes r"

	«cls»_«m_name»_get(src, &«v_name»);
	«cls»_«m_name»_set(dst, &«v_name»);
"
    else
      form holes r"

	«cls»_«m_name»_bind(
		src, &src_«v_name»);
	dst_«v_name» = «sub_cls»_«ver_name»_dup(&src_«v_name»);
	if (dst_«v_name» == NULL) {
		«cls»_delete(dst);
		ρNULL;
	}
	«cls»_«m_name»_set(dst, dst_«v_name»);
	«sub_cls»_delete(dst_«v_name»);
")

def duplicateObject : Outcome String := do
  let version ← c.versionConstant wire
  let (members, types) ← c.memberTypes cls wire
  let declared ← types.mapM copyVariables
  let copies ← (members.filter fun m => !WireForm.isMaintained m.name).mapM
    (copyMember cls version)
  pure (duplicateHead "an object" cls version ++ form [("cls", cls)] r"
	«cls»_t *dst;
"
    ++ concat declared
    ++ form [("cls", cls)] r"

	if ((dst = «cls»_new(src->version)) == NULL) {
		ρNULL;
	}
"
    ++ concat copies
    ++ block r"

	ρdst;
}
")

def duplicatesByVersion : Outcome String := do
  let functions ← c.eachVersionClass c.classes fun wire name => do
    if !c.inVersion name wire then pure ""
    else if c.isRoot name then c.duplicateFamily name wire
    else if WireType.isListClass name then c.duplicateList name wire
    else if ← c.isVirtual name then pure ""
    else c.duplicateObject name wire
  pure (block r#"

/* Special try macro for duplicating */
δ_TRY_FREE(op, obj, rv) do { \
		int _rv;															 \
		if ((_rv = (op)) < 0) {											  \
			LOCI_LOG_ERROR("ERROR %d at %s:%d\n", _rv, __FILE__, __LINE__);	\
			ωdelete((ωt *)(obj));						  \
			ρ(rv);													 \
		}																	\
	} while (0)
"#
    ++ functions)

def hasDuplicate (name : String) (wire : Nat) : Outcome Bool := do
  if !c.inVersion name wire then pure false
  else if c.isRoot name || WireType.isListClass name then pure true
  else do pure !(← c.isVirtual name)

def duplicates : Outcome String := do
  concat <$> c.classes.mapM fun name => do
    let cases ← c.wires.mapM fun wire => do
      if ← c.hasDuplicate name wire then
        pure (form [("cls", name), ("ver_name", ← c.versionConstant wire)] r"

	if (src->version == «ver_name») {
		ρ«cls»_«ver_name»_dup(src);
	}
")
      else pure ""
    pure (form [("cls", name)] r"

ωt *
«cls»_dup(
	ωt *src)
{
"
      ++ concat cases
      ++ block r"

	/* Class not supported in given version */
	ρNULL;
}
")

def duplicateSource : Outcome String := do
  pure (notice ++ block r#"
/*
 * Duplication functions for all OF objects
 *
 * AUTOMATICALLY GENERATED FILE.  Edits will be lost on regen.
 *
 * These are test functions for exercising accessors.  You can call
 * ωdup for an efficient duplication.
 */

δDISABLE_WARN_UNUSED_RESULT
#include "loci_log.h"
#include <locitest/of_dup.h>

"#
    ++ (← c.duplicatesByVersion) ++ (← c.duplicates))

def duplicateHeader : Outcome String := do
  let versioned ← c.eachVersionClass c.classes fun wire name => do
    if ← c.hasDuplicate name wire then
      pure (form [("cls", name), ("ver_name", ← c.versionConstant wire)] r"

extern ωt *
	«cls»_«ver_name»_dup(
		ωt *src);
")
    else pure ""
  pure (notice ++ block r"

/*
 * Duplication function header file
 *
 * AUTOMATICALLY GENERATED FILE.  Edits will be lost on regen.
 */

#if !defined(_OF_DUP_H_)
δ_OF_DUP_H_

θloci.h>
"
    ++ each c.classes (fun name => form [("cls", name)] r"

extern ωt *
	«cls»_dup(
		ωt *src);
")
    ++ versioned
    ++ "\n#endif /* _OF_DUP_H_ */\n")

end FlowBindings.Loci.Catalog
