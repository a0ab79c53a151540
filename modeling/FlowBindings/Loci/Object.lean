import FlowBindings.Loci.Accessor
import FlowBindings.Loci.Metadata

/-!
# Making objects

Every class of the C library has a function that makes a new object and one that
sets up an existing one. A new object already carries its type and length.
-/

namespace FlowBindings.Loci

open Text

variable (cls : String)

def initDefinition : String :=
  form [("cls", cls), ("enum", enumName cls)] r#"

¶Initialize an object of type «cls».
 *
πobj Pointer to the object to initialize
πversion The wire version to use for the object
πbytes How many bytes in the object
πclean_wire Boolean: If true, clear the wire object control struct
 *
 * If bytes < 0, then the default fixed length is used for the object
 *
 * This is a "coerce" function that sets up the pointers for the
 * accessors properly.
 *
 * If anything other than 0 is passed in for the buffer size, the underlying
 * wire buffer will have 'grow' called.
 */

void
«cls»_init(ωt *obj,
	of_version_t version, int bytes, int clean_wire)
{
	λωfixed_len[version][«enum»] >= 0);
	if (clean_wire) {
		MEMSET(obj, 0, sizeof(*obj));
	}
	if (bytes < 0) {
		bytes = ωfixed_len[version][«enum»];
	}
	obj->version = version;
	obj->length = bytes;
	obj->object_id = «enum»;

	/* Grow the wire buffer */
	if (obj->wbuf != NULL) {
		int tot_bytes;

		tot_bytes = bytes + obj->obj_offset;
		βgrow(obj->wbuf, tot_bytes);
	}
}
"#

def newDeclaration : String :=
  form [("cls", cls)] r"

extern ωt *
	«cls»_new(of_version_t version);
"
  ++ form [("cls", cls)] r"
extern void «cls»_init(
	ωt *obj, of_version_t version, int bytes, int clean_wire);
"

def deleteDefinition : String :=
  form [("cls", cls)] r"

¶Delete an object of type «cls»_t
πobj An instance of type «cls»_t
 *
 * \ingroup «cls»
 */
σvoid
«cls»_delete(ωt *obj) {
	ωdelete(obj);
}
"

namespace Catalog

variable (c : Catalog)

def newDefinition (cls : String) : Outcome String := do
  let isFixed := (c.model.unified.class? cls).any (·.isFixedLength)
  let marks ←
    if ← c.isVirtual cls then pure ""
    else
      let m ← c.metadataOf cls
      pure ((m.typeSet.map fun f => "    " ++ f ++ "(obj);\n").getD ""
        ++ (m.lengthSet.map fun f => "    " ++ f ++ "(obj, obj->length);\n").getD "")
  let offset ← c.matchOffset cls
  pure (form [("cls", cls)] r"

¶\defgroup «cls» «cls»
 */
"
    ++ form [("cls", cls), ("enum", enumName cls),
        ("max_length", if isFixed then "bytes" else "OF_WIRE_BUFFER_MAX_LENGTH")] r"

¶Create a new «cls» object
 *
πversion The wire version to use for the object
 * @ρPointer to the newly create object or NULL on error
 *
 * Initializes the new object with it's default fixed length associating
 * a new underlying wire buffer.
 *
 * \ingroup «cls»
 */

ωt *
«cls»_new(of_version_t version)
{
	ωt *obj;
	int bytes;

	bytes = ωfixed_len[version][«enum»];

	if ((obj = ωnew(«max_length»)) == NULL) {
		ρNULL;
	}

	«cls»_init(obj, version, bytes, 0);
"
    ++ marks
    ++ when (0 ≤ offset) (form [("match_offset", toString offset)] r"

	/* Initialize match TLV for 1.2 */
	if ((version >= ν1_2)) {
		ωu16_set((ωt *)obj, «match_offset» + 2, 4);
	}
")
    ++ block r"

	ρobj;
}
")

def newDefinitions (cls : String) : Outcome String := do
  pure ((← c.newDefinition cls) ++ initDefinition cls)

def newDeclarations : String :=
  block r"

/§
 *
 * New operator declarations
 *
 * _new: Create a new object for writing; includes init
 * _init: Initialize and optionally allocate buffer space for an
 *	automatic instance
 *
 * _new and requires a delete operation to be called on the object.
 *
 §/
"
  ++ each c.classes newDeclaration
  ++ block r"

/§
 *
 * Delete operator σdefinitions.
 * These are here for type checking purposes only
 *
 §/
"
  ++ each c.classes deleteDefinition
  ++ block r#"

typedef void (*ωinit_f)(ωt *obj, of_version_t version,
	int bytes, int clean_wire);
extern const ωinit_f ωinit_map[];

/§
 *
 * Function pointer initialization functions
 * These are part of the "coerce" type casting for objects
 *
 §/
"#

def typedefs : String :=
  "\n/* LOCI object typedefs */\n"
  ++ each c.classes (fun cls => "typedef of_object_t " ++ cls ++ "_t;\n")
  ++ block r"

/§
 *
 * Additional of_object defines
 * These are needed for some σops, so we put them here.
 *
 §/

/* Delete an OpenFlow object without reference to its type */
extern void ωdelete(ωt *obj);

"

end Catalog

end FlowBindings.Loci
