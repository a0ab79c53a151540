import FlowBindings.Loci.Accessor
import FlowBindings.Loci.Notice

/-!
# Documentation of the C library

A header that no program includes: it tells, class by class, which accessors
there are and which versions have them.
-/

namespace FlowBindings.Loci.Catalog

open Text

variable (c : Catalog)

/-- The versions that have a member; nothing is said of a member that three
versions have. -/
def availability (wires : List Nat) : Outcome String := do
  if wires.length = 3 then pure ""
  else
    let names ← (wires.mergeSort fun a b => a ≤ b).mapM fun w =>
      orFault ((c.targets.find? (·.wire = w)).map (·.constant "OF_")) (.noEntry (toString w))
    pure ("(" ++ each names (" " ++ ·) ++ ").")

def memberDocumentation (cls member : String) : Outcome String := do
  let places ← c.placements cls member
  pure (form [("m_name", member), ("ver_string", ← c.availability places.keys),
      ("m_type", ← c.bareType cls member), ("f_name", ← c.accessorType cls member)] r"
π«m_name»_get/set «ver_string»
 *   Accessors for «m_name», a variable of type «m_type».  Functions
 *   are of type «f_name»_get_f and _set_f.
 *
")

def classDocumentation (cls : String) : Outcome String := do
  let _ ← c.isVirtual cls
  let members ← (← c.accessible cls).mapM (c.memberDocumentation cls)
  pure (form [("cls", cls)] r"

¶Structure for «cls» object.  Get/set
 * accessors available in all versions unless noted otherwise
 *
"
    ++ when (WireType.isListClass cls) (form [("cls", cls)] r"
πfirst Function of type «cls»_first_f.
 * Setup a TBD class object to the first entry in the list
πnext Function of type «cls»_next_f.
 * Advance a TBD class object to the next entry in the list
πappend_bind Function of type «cls»_append_bind_f
 * Setup a TBD class object for append to the end of the current list
πappend  Function of type @ref «cls»_append_f.
 * Copy an item to the end of a list
")
    ++ concat members
    ++ form [("cls", cls)] r"
 */
typedef struct «cls»_s «cls»_t;
")

def documentation (fileName : String) : Outcome String := do
  pure (topMatter fileName ++ "/* DOCUMENTATION ONLY */\n"
    ++ concat (← c.classes.mapM c.classDocumentation)
    ++ "#endif /* _LOCI_DOC_H_ */\n")

end FlowBindings.Loci.Catalog
