import FlowBindings.Loci.WireTypes

/-!
# Lists

Every kind of list that occurs in a message has functions to walk it and to append
to it. Walking sets up each element: its class is found if the elements are of
several classes, its length is read if it stands on the wire.
-/

namespace FlowBindings.Loci

open Text

def Catalog.listTypes (c : Catalog) : List String :=
  let types := c.model.unified.classes.flatMap fun u =>
    u.versions.values.flatMap fun k =>
      (k.fields.filter fun f => f.role = .data && WireType.isList f.type).map (·.type)
  Catalog.sortNames types.eraseDups

def elementSetUp (entry : Unified.Class) (functions : Metadata) : String :=
  when entry.isVirtual
    ("    " ++ entry.name ++ "_wire_object_id_get(obj, &obj->object_id);\n")
  ++ "\n"
  ++ (match functions.lengthGet with
    | some get => "    " ++ get ++ "(obj, &obj->length);\n"
    | none => "")

def listFunctions (listClass : String) (entry : Unified.Class) (functions : Metadata) : String :=
  classSourceHead ++ form [("cls", listClass), ("e_cls", entry.name),
    ("setup", elementSetUp entry functions)] r"
¶Associate an iterator with a list
πlist The list to iterate over
πobj The list entry iteration pointer
 * @ρεRANGE if the list is empty (end of list)
 *
 * The obj instance is completely initialized.  The caller is responsible
 * for cleaning up any wire buffers associated with obj before this call
 */

int
«cls»_first(«cls»_t *list, ωt *obj)
{
	int rv;

	«e_cls»_init(obj, list->version, -1, 1);

	if ((rv = of_list_first(list, obj)) < 0) {
		ρrv;
	}

«setup»
	ρrv;
}

¶Advance an iterator to the next element in a list
πlist The list being iterated
πobj The list entry iteration pointer
 * @ρεRANGE if already at the last entry on the list
 *
 */

int
«cls»_next(«cls»_t *list, ωt *obj)
{
	int rv;

	if ((rv = of_list_next(list, obj)) < 0) {
		ρrv;
	}

«setup»
	ρrv;
}

¶Set up to append an object of type «e_cls» to an «cls».
πlist The list that is prepared for append
πobj Pointer to object to hold data to append
 *
 * The obj instance is completely initialized.  The caller is responsible
 * for cleaning up any wire buffers associated with obj before this call.
 *
 * See the generic documentation for of_list_append_bind.
 */

int
«cls»_append_bind(«cls»_t *list, ωt *obj)
{
	ρof_list_append_bind(list, obj);
}

¶Append an object to a «cls» list.
 *
 * This copies data from obj and leaves item untouched.
 *
 * See the generic documentation for of_list_append.
 */

int
«cls»_append(«cls»_t *list, ωt *obj)
{
	ρof_list_append(list, obj);
}
"

def Catalog.listSource (c : Catalog) (type : String) : Outcome (String × String) := do
  let (listClass, entryType) := WireForm.listNames type
  let entryClass := dropLast 2 entryType
  let functions ← c.metadataOf entryClass
  let entry ← orFault (c.model.unified.class? entryClass) (.noProperty "virtual")
  pure (listClass, listFunctions listClass entry functions ++ (← c.newDefinitions listClass))

end FlowBindings.Loci
