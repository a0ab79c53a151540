import FlowBindings.Loci.LengthTable
import FlowBindings.Loci.Notice
import FlowBindings.Loci.Object

/-!
# Tables over all classes

The C library finds what belongs to a class by its number: the name, the function
that sets up an object, the fixed length, the functions on the wire form. This
module has the files that hold these tables, and the header with the declarations
of all classes.
-/

namespace FlowBindings.Loci

open Text

variable (c : Catalog) (name : String)

/-- The names in the order of the numbers, with one before and one behind for
objects of no class. -/
def Catalog.nameTable : List String :=
  "of_object" :: c.classes ++ ["of_unknown_object"]

def Catalog.constantSource : String :=
  notice ++ block r#"
θloci.h>
θof_object.h>
#include "loci_log.h"
#include "loci_int.h"

const char *const ωid_str[] = {
"#
  ++ each c.nameTable (fun name => "    \"" ++ name ++ "\",\n")
  ++ block r#"
};

const char *const of_version_str[] = {
	"Unknown OpenFlow Version",
	"OpenFlow-1.0",
	"OpenFlow-1.1",
	"OpenFlow-1.2"
};

const of_mac_addr_t of_mac_addr_all_ones = {
	{
		0xff, 0xff, 0xff, 0xff, 0xff, 0xff
	}
};
/* Just to be explicit; static duration vars are init'd to 0 */
const of_mac_addr_t of_mac_addr_all_zeros = {
	{
		0, 0, 0, 0, 0, 0
	}
};

const of_ipv6_t of_ipv6_all_ones = {
	{
		0xff, 0xff, 0xff, 0xff, 0xff, 0xff, 0xff, 0xff,
		0xff, 0xff, 0xff, 0xff, 0xff, 0xff, 0xff, 0xff
	}
};
/* Just to be explicit; static duration vars are init'd to 0 */
const of_ipv6_t of_ipv6_all_zeros = {
	{
		0, 0, 0, 0, 0, 0, 0, 0,
		0, 0, 0, 0, 0, 0, 0, 0
	}
};

const of_bitmap_512_t of_bitmap_512_all_ones = {
	{ -1, -1, -1, -1, -1, -1, -1, -1, }
};

const of_bitmap_512_t of_bitmap_512_all_zeroes;

/** @var of_error_strings
 * The error string map; use abs value to index
 */
const char *const of_error_strings[] = { εSTRINGS };
"#

def Catalog.initSource : String :=
  notice ++ block r#"
θloci.h>
θof_object.h>
#include "loci_log.h"
#include "loci_int.h"

¶Map from object ID to type coerce function
 */
const ωinit_f ωinit_map[] = {
	(ωinit_f)NULL,
"#
  ++ each c.classes (fun name => "    (of_object_init_f)" ++ name ++ "_init,\n")
  ++ "\x7d;\n"

def lengthNote (verb what bytes : String) (lines : List String) : String :=
  form [("verb", verb), ("what", what), ("bytes", bytes),
      ("lines", each lines fun line => trimRight (" * " ++ line) ++ "\n")] r"
¶«verb» the wire length for «what»
πobj The object being referenced
πbytes «bytes»
«lines» */
"

def lengthGet (declared body : String) : String :=
  form [("name", name), ("declared", declared), ("body", body)] r"
void
of_«name»_wire_length_get(ωt *obj, int *bytes)
{
	βt *wbuf = ΩTO_WBUF(obj);
	uint16_t u16;
«declared»
	λwbuf != NULL);

«body»}

"

def lengthSet (body : String) : String :=
  form [("name", name), ("body", body)] r"
void
of_«name»_wire_length_set(ωt *obj, int bytes)
{
	βt *wbuf = ΩTO_WBUF(obj);
	λwbuf != NULL);

«body»}
"

def lengthRead : String := "Pointer to location to store length"

def lengthWritten : String := "The length of the object"

/-- The functions on the length of an object that has it in its bytes only from version 1.4
on. -/
def lateLength (what offset : String) : String :=
  let lines := ["", "The length is only present for OF 1.4+."]
  lengthNote "Get" what lengthRead lines ++ lengthGet name "" (form [("offset", offset)] r"
	if (obj->version >= ν1_4) {
		βu16_get(wbuf, ΩABSOLUTE_OFFSET(obj, «offset»),
							   &u16);
		*bytes = u16;
	} else {
		*bytes = ΩFIXED_LENGTH(obj);
	}
")
  ++ lengthNote "Set" what lengthWritten lines ++ "\n" ++ lengthSet name (form [("offset", offset)] r"
	if (obj->version >= ν1_4) {
		βu16_set(wbuf, ΩABSOLUTE_OFFSET(obj, «offset»),
							   bytes);
	} else {
		λobj->length == ΩFIXED_LENGTH(obj));
	}
")
  ++ "\n"

def lengthFunctions : String :=
  block r"

/§
 * Top level OpenFlow message length functions
 §/

¶Get the length of a message object as reported on the wire
πobj The object to check
πbytes (out) Where the length is stored
 * @returns ε code
 */
void
ωmessage_wire_length_get(ωt *obj, int *bytes)
{
	λΩTO_WBUF(obj) != NULL);
	// λobj is message)
	*bytes = of_message_length_get(ΩTO_MESSAGE(obj));
}

¶Set the length of a message object as reported on the wire
πobj The object to check
πbytes The new length of the object
 * @returns ε code
 */
void
ωmessage_wire_length_set(ωt *obj, int bytes)
{
	λΩTO_WBUF(obj) != NULL);
	// λobj is message)
	of_message_length_set(ΩTO_MESSAGE(obj), bytes);
}

/§
 * TLV16 type/length functions
 §/

¶Many objects are TLVs and use uint16 for the type and length values
 * stored on the wire at the beginning of the buffer.
 */
δTLV16_WIRE_TYPE_OFFSET 0
δTLV16_WIRE_LENGTH_OFFSET 2

¶Get the length field from the wire for a standard TLV
 * object that uses uint16 for both type and length.
πobj The object being referenced
πbytes (out) Where to store the length
 */

void
of_tlv16_wire_length_get(ωt *obj, int *bytes)
{
	uint16_t val16;
	βt *wbuf = ΩTO_WBUF(obj);
	λwbuf != NULL);

	βu16_get(wbuf, 
		   ΩABSOLUTE_OFFSET(obj, TLV16_WIRE_LENGTH_OFFSET), &val16);
	*bytes = val16;
}

¶Set the length field in the wire buffer for a standard TLV
 * object that uses uint16 for both type and length.
πobj The object being referenced
πbytes The length value to use
 */

"
  ++ lengthSet "tlv16" (block r"
	βu16_set(wbuf, 
		ΩABSOLUTE_OFFSET(obj, TLV16_WIRE_LENGTH_OFFSET), bytes);
")
  ++ block r"


/§
 * OXM type/length functions.
 §/

/* Where does the OXM type-length header lie in the buffer */
δOXM_HDR_OFFSET 0

¶Get the OXM header (type-length fields) from the wire buffer
 * associated with an OXM object
 *
 * Will ρif error; set hdr to the OXM header
 */

δ_GET_OXM_TYPE_LEN(obj, tl_p, wbuf) do {						 \
		wbuf = ΩTO_WBUF(obj);								  \
		λwbuf != NULL);										   \
		βu32_get(wbuf,									\
			ΩABSOLUTE_OFFSET(obj, OXM_HDR_OFFSET), (tl_p));	\
	} while (0)

δ_SET_OXM_TYPE_LEN(obj, tl_p, wbuf) do {						 \
		wbuf = ΩTO_WBUF(obj);								  \
		λwbuf != NULL);										   \
		βu32_set(wbuf,									\
			ΩABSOLUTE_OFFSET(obj, OXM_HDR_OFFSET), (tl_p));	\
	} while (0)

¶Get the length of an OXM object from the wire buffer
πobj The object whose wire buffer is an OXM type
πbytes (out) Where length is stored 
 */

void
of_oxm_wire_length_get(ωt *obj, int *bytes)
{
	uint32_t type_len;
	βt *wbuf;

	_GET_OXM_TYPE_LEN(obj, &type_len, wbuf);
	*bytes = OF_OXM_LENGTH_GET(type_len);
}

δOF_U16_LEN_LENGTH_OFFSET 0

"
  ++ lengthNote "Get" "an object with a uint16 length as first member" lengthRead []
  ++ lengthGet "u16_len" "" (block r"
	βu16_get(wbuf, 
		   ΩABSOLUTE_OFFSET(obj, OF_U16_LEN_LENGTH_OFFSET),
		   &u16);

	*bytes = u16;
")
  ++ lengthNote "Set" "an object with a uint16 length as first member" lengthWritten [] ++ "\n"
  ++ lengthSet "u16_len" (block r"
	/* λobj is u16-len entry) */

	βu16_set(wbuf, 
		   ΩABSOLUTE_OFFSET(obj, OF_U16_LEN_LENGTH_OFFSET),
		   bytes);
")
  ++ block r"


δOF_PACKET_QUEUE_LENGTH_OFFSET(ver) \
	(((ver) >= ν1_2) ? 8 : 4)

"
  ++ lengthNote "Get" "a packet queue object" lengthRead
    ["", "The length is a uint16 at the offset indicated above"]
  ++ lengthGet "packet_queue" "    int offset;\n" (block r"
	/* λobj is packet queue obj) */
	offset = OF_PACKET_QUEUE_LENGTH_OFFSET(obj->version);
	βu16_get(wbuf, ΩABSOLUTE_OFFSET(obj, offset),
						   &u16);

	*bytes = u16;
")
  ++ lengthNote "Set" "a 1.2 packet queue object" lengthWritten
    ["", "The length is a uint16 at the offset indicated above"]
  ++ block r"

void
of_packet_queue_wire_length_set(ωt *obj, int bytes)
{
	βt *wbuf = ΩTO_WBUF(obj);
	int offset;

	λwbuf != NULL);

	/* λobj is packet queue obj) */
	offset = OF_PACKET_QUEUE_LENGTH_OFFSET(obj->version);
	βu16_set(wbuf, ΩABSOLUTE_OFFSET(obj, offset),
								  bytes);
}

"
  ++ lengthNote "Get" "a meter band stats list" lengthRead
    ["", "Must a meter_stats object as a parent"]
  ++ block r"

void
of_list_meter_band_stats_wire_length_get(ωt *obj, int *bytes)
{
	λobj->parent != NULL);
	λobj->parent->object_id == OF_METER_STATS);

	/* We're counting on the parent being properly initialized already.
	 * The length is stored in a uint16 at offset 4 of the parent.
	 */
	*bytes = obj->parent->length - ΩFIXED_LENGTH(obj->parent);
}

δOF_METER_STATS_LENGTH_OFFSET 4

"
  ++ lengthNote "Get/set" "a meter stats object" lengthRead ["", "It's almost a TLV...."] ++ block r"

void
of_meter_stats_wire_length_get(ωt *obj, int *bytes)
{
	uint16_t val16;
	βt *wbuf = ΩTO_WBUF(obj);
	λwbuf != NULL);
	βu16_get(wbuf, 
			   ΩABSOLUTE_OFFSET(obj, OF_METER_STATS_LENGTH_OFFSET),
			   &val16);
	*bytes = val16;
}

"
  ++ lengthSet "meter_stats" (block r"
	βu16_set(wbuf, 
		ΩABSOLUTE_OFFSET(obj, OF_METER_STATS_LENGTH_OFFSET), bytes);
")
  ++ "\n" ++ lateLength "port_desc" "a port desc object" "4"
  ++ lateLength "port_stats_entry" "a port stats_entry object" "0"
  ++ lateLength "queue_stats_entry" "a queue stats_entry object" "0"
  ++ lengthNote "Get" "a queue_desc object" lengthRead []
  ++ lengthGet "queue_desc" "" (block r"
	βu16_get(wbuf, ΩABSOLUTE_OFFSET(obj, 8), &u16);
	*bytes = u16;
")
  ++ lengthNote "Set" "a queue_desc object" lengthWritten [] ++ "\n" ++ lengthSet "queue_desc" (block r"
	βu16_set(wbuf, ΩABSOLUTE_OFFSET(obj, 8), bytes);
")

/-- The file with the tables of lengths and the functions that read and write
lengths. -/
def Catalog.lengthSource : String :=
  notice ++ block r"

/§
 *
 * Functions related to mapping wire values to object types
 * and lengths
 *
 §/

θloci.h>
θof_message.h>

"
  ++ c.lengthTables ++ "\n" ++ lengthFunctions

def metadataHeader : String := notice ++ block r"
#ifndef __LOCI_CLASS_METADATA_H__
δ__LOCI_CLASS_METADATA_H__

typedef void (*of_wire_length_get_f)(ωt *obj, int *bytes);
typedef void (*of_wire_length_set_f)(ωt *obj, int bytes);
typedef void (*of_wire_type_get_f)(ωt *obj, ωid_t *id);
typedef void (*of_wire_type_set_f)(ωt *obj);

struct loci_class_metadata {
	of_wire_length_get_f wire_length_get;
	of_wire_length_set_f wire_length_set;
	of_wire_type_get_f wire_type_get;
	of_wire_type_set_f wire_type_set;
};

extern struct loci_class_metadata loci_class_metadata[ΩCOUNT];

σvoid
ωwire_length_set(ωt *obj, int bytes)
{
	if (loci_class_metadata[obj->object_id].wire_length_set) {
		loci_class_metadata[obj->object_id].wire_length_set(obj, bytes);
	}
}

σvoid
ωwire_type_set(ωt *obj)
{
	if (loci_class_metadata[obj->object_id].wire_type_set) {
		loci_class_metadata[obj->object_id].wire_type_set(obj);
	}
}

#endif
"

def Metadata.entry (m : Metadata) : String :=
  form [("NAME", upper m.name), ("lengthGet", render m.lengthGet), ("lengthSet", render m.lengthSet),
    ("typeGet", render m.typeGet), ("typeSet", render m.typeSet)] r"
	[«NAME»] = {
		.wire_length_get=«lengthGet»,
		.wire_length_set=«lengthSet»,
		.wire_type_get=«typeGet»,
		.wire_type_set=«typeSet»,
	},
"

def Catalog.metadataSource : String :=
  notice ++ block r#"

/§
 *
 * loci_class_metadata.c
 *
 * Tables with information for each class
 *
 §/

#include "loci_log.h"
θloci.h>

struct loci_class_metadata loci_class_metadata[ΩCOUNT] = {
"#
  ++ each c.metadata Metadata.entry
  ++ "\x7d;\n"

def Catalog.classHeader : Outcome String := do
  let declarations := c.typedefs ++ c.newDeclarations ++ (← c.accessorDeclarations)
  pure (notice ++ block r"
#ifndef __LOCI_CLASSES_H__
δ__LOCI_CLASSES_H__

"
  ++ each c.model.unified.classes (fun u => form [("1", u.name)] r"
void «1»_wire_object_id_get(ωt *obj, ωid_t *id);
void «1»_push_wire_types(ωt *obj);
")
  ++ "\n" ++ declarations ++ "\n\n#endif\n")

end FlowBindings.Loci
