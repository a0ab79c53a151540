import FlowBindings.Loci.Notice

/-!
# Wire buffers

The part of the C library that holds the bytes of messages: reading and writing
numbers in network order, growing a buffer, replacing a stretch of it.
-/

namespace FlowBindings.Loci.Support

open Text

variable (name value bits : String)

def numberGet (operand : String) : String := form [("bits", bits), ("operand", operand)] r"
σvoid
buf_u«bits»_get(uint8_t *buf, uint«bits»_t *val) {
	MEMCPY(val, buf, sizeof(«operand»));
	*val = U«bits»_NTOH(*val);
}

"

def numberSet (conversion : String) : String :=
  form [("bits", bits), ("conversion", conversion)] r"
σvoid
buf_u«bits»_set(uint8_t *buf, uint«bits»_t val) {
	val = U«bits»_«conversion»(val);
	MEMCPY(buf, &val, sizeof(uint«bits»_t));
}

"

def bufferHeader : String := notice ++ block r#"

/§
 *
 * Low level buffer manipulation functions
 * Requires low level type defs
 *
 §/

#ifndef _OF_BUFFER_H_
δ_OF_BUFFER_H_

θloci_base.h>
#include <stdio.h>

/* Function type used for a "free" operation of a low level buffer */
typedef void (*of_buffer_free_f)(void *buf);


/§
 *
 * Low level buffers accessors handling endian and alignment
 *
 §/

σvoid
buf_ipv6_get(uint8_t *buf, of_ipv6_t *val) {
	MEMCPY(val, buf, sizeof(*val));
	IPV6_NTOH(val, val); /* probably a no-op */
}

σvoid
buf_mac_get(uint8_t *buf, of_mac_addr_t *val) {
	MEMCPY(val, buf, sizeof(*val));
}

"#
  ++ numberGet "64" "*val" ++ numberGet "32" "*val" ++ numberGet "16" "uint16_t" ++ block r"
σvoid
buf_u8_get(uint8_t *buf, uint8_t *val) {
	*val = *buf;
}

σvoid
buf_octets_get(uint8_t *buf, uint8_t *dst, int bytes) {
	MEMCPY(dst, buf, bytes);
}

σvoid
buf_ipv6_set(uint8_t *buf, of_ipv6_t *val) {
	/* FIXME:  If this is not a NO-OP, need to change the code */
#if 1
	MEMCPY(buf, val, sizeof(*val));
#else
	of_ipv6_t w_val;
	MEMCPY(&w_val, val sizeof(w_val));
	IPV6_HTON(w_val, w_val);
	MEMCPY(buf, &w_val, sizeof(w_val));
#endif
}

σvoid
buf_mac_addr_set(uint8_t *buf, of_mac_addr_t *val) {
	MEMCPY(buf, val, sizeof(of_mac_addr_t));
}

"
  ++ numberSet "64" "HTON" ++ numberSet "32" "HTON" ++ numberSet "16" "NTOH" ++ block r"
σvoid
buf_u8_set(uint8_t *buf, uint8_t val) {
	*buf = val;
}

σvoid
buf_octets_set(uint8_t *buf, uint8_t *src, int bytes) {
	MEMCPY(buf, src, bytes);
}


#endif /* _OF_BUFFER_H_ */
"

/-- What stands above an accessor: what it does, what it says of its last parameters, and
lines that follow. -/
def accessorNote (title params : String) (lines : List String) : String :=
  form [("title", title), ("params", params),
      ("lines", each lines fun line => trimRight (" * " ++ line) ++ "\n")] r"
¶«title» a wire buffer
πwbuf The pointer to the wire buffer structure
πoffset Offset in the wire buffer
π«params»
«lines» */
"

/-- The functions that read and write a value of a type, by what their notes call it. -/
def scalarAccess (type read written getBody setBody : String) : String :=
  let holes := [("name", name), ("type", type), ("get", getBody), ("set", setBody)]
  let lines := ["", "The underlying buffer accessor funtions handle endian and alignment."]
  accessorNote ("Get a " ++ read ++ " from") "value Pointer to where to put value" lines
  ++ form holes r"

σvoid
β«name»_get(βt *wbuf, int offset, «type» *value)
{
«get»}

"
  ++ accessorNote ("Set a " ++ written ++ " in") "value The value to store" lines
  ++ form holes r"

σvoid
β«name»_set(βt *wbuf, int offset, «type» value)
{
«set»}

"

def numberAccess : String :=
  let type := "uint" ++ bits ++ "_t"
  let body (direction : String) := form [("bits", bits), ("type", type), ("direction", direction)] r"
	OF_WIRE_BUFFER_ACCESS_CHECK(wbuf, offset + (int) sizeof(«type»));
	buf_u«bits»_«direction»(OF_WIRE_BUFFER_INDEX(wbuf, offset), value);
"
  scalarAccess ("u" ++ bits) type (type ++ " scalar") (type ++ " scalar") (body "get") (body "set")

def addressAccess : String :=
  scalarAccess "ipv4" "of_ipv4_t" "uint32_t scalar" "ipv4 (uint32_t) scalar"
    "    of_wire_buffer_u32_get(wbuf, offset, value);\n"
    "    of_wire_buffer_u32_set(wbuf, offset, value);\n"

def bitmapAccess : String :=
  let body (direction value : String) := form [("direction", direction), ("value", value)] r"
	OF_WIRE_BUFFER_ACCESS_CHECK(wbuf, offset + (int) sizeof(of_bitmap_512_t));
	int i;
	for (i = 0; i < 8; i++) {
		buf_u64_«direction»(OF_WIRE_BUFFER_INDEX(wbuf, offset+i*8), «value»words[i]);
	}
"
  scalarAccess "bitmap_512" "of_bitmap_512_t" "bitmap_512" "bitmap_512"
    (body "get" "&value->") (body "set" "value.")

def versionedAccess (body : String) : String :=
  form [("name", name), ("value", value), ("body", body)] r"

σvoid
β«name»(int version, βt *wbuf, int offset,
					  «value»)
{
«body»}

"

def structureAccess (what value read written : String) (lines : List String) : String :=
  let lines := ["", "NOT IMPLEMENTED.", ""] ++ lines
  accessorNote ("Get a " ++ what ++ " from") ("value Pointer to the structure to " ++ read) lines
  ++ versionedAccess (name ++ "_get") value "    LOCI_ASSERT(0);\n"
  ++ accessorNote ("Set a " ++ what ++ " in") ("value Pointer to the structure to " ++ written) lines
  ++ versionedAccess (name ++ "_set") value "    LOCI_ASSERT(0);\n"

/-- A number whose width depends on the version. -/
structure VersionedNumber where
  name : String
  type : String
  versions : List String
  early : String
  late : String

variable (n : VersionedNumber)

def VersionedNumber.switch (access : String → String) : String :=
  "    switch (version) \x7b\n" ++ each n.versions (fun v => "    case OF_VERSION_" ++ v ++ ":\n")
  ++ access n.early ++ "        break;\n    default:\n" ++ access n.late
  ++ "        break;\n    \x7d\n"

def VersionedNumber.getText : String :=
  let access bits := form [("bits", bits)] r"
		βu«bits»_get(wbuf, offset, &v«bits»);
		*value = v«bits»;
"
  versionedAccess (n.name ++ "_get") ("  " ++ n.type ++ " *value") <|
    each [n.early, n.late] (fun bits => "    uint" ++ bits ++ "_t v" ++ bits ++ ";\n")
    ++ "\n" ++ n.switch access

def VersionedNumber.setText (before : String) : String :=
  let access bits := form [("bits", bits)] r"
		βu«bits»_set(wbuf, offset, (uint«bits»_t)value);
"
  versionedAccess (n.name ++ "_set") (n.type ++ " value") (before ++ n.switch access)

def versionedNumbers : String :=
  let port : VersionedNumber := ⟨"port_no", "of_port_no_t", ["1_0"], "16", "32"⟩
  let command : VersionedNumber := ⟨"fm_cmd", "of_fm_cmd_t", ["1_0"], "16", "8"⟩
  let wildcards : VersionedNumber := ⟨"wc_bmap", "of_wc_bmap_t", ["1_0", "1_1"], "32", "64"⟩
  let lines := ["", "Port numbers are version specific."]
  accessorNote "Get a port number scalar from" "value Pointer to where to put value" lines
  ++ port.getText
  ++ accessorNote "Set a port number scalar from" "value The value to store in the buffer" lines
  ++ port.setText "\n"
  ++ accessorNote "Get a flow mod command value from" "value Pointer to where to put value" []
  ++ command.getText
  ++ accessorNote "Set a flow mod command value in" "value The value to store" []
  ++ command.setText ""
  ++ accessorNote "Get a wild card bitmap value from" "value Pointer to where to store the value" []
  ++ wildcards.getText
  ++ accessorNote "Set a wild card bitmap value in" "value The value to store" []
  ++ wildcards.setText ""

def shorthand (body : String) : String :=
  form [("name", name), ("value", value), ("body", body)] r"
δβ«name»(buf, offset, «value») \
	«body»

"

def octetsLines : List String := ["", "Uses the octets function."]

def octetsAccess (direction name value size : String) (stored : String) : String :=
  shorthand (name ++ "_" ++ direction) value <|
    "_wbuf_octets_" ++ direction ++ "(buf, offset, (uint8_t *)" ++ stored ++ ", " ++ size ++ ")"

/-- The accessors of a value as octets, by what their notes say of the value and of the
parameter. -/
def octetsAccesses (stored size : String) (read written : String × String) : String :=
  accessorNote ("Get " ++ read.1 ++ " from") read.2 octetsLines ++ "\n"
  ++ octetsAccess "get" name value size value
  ++ accessorNote ("Set " ++ written.1 ++ " in") written.2 octetsLines ++ "\n"
  ++ octetsAccess "set" name value size stored

/-- The accessors of values that are octets. The note on reading the name of a port stands
directly above its text. -/
def octetsValues : String :=
  let onNextLine size := "\\\n                           " ++ size
  let portSize := onNextLine "OF_MAX_PORT_NAME_LEN"
  octetsAccesses "mac" "mac" "&mac" "6" ("a MAC address", "mac Pointer to the mac address location")
    ("a MAC address", "mac The variable holding the mac address to store")
  ++ "\n"
  ++ accessorNote "Get a port name string from" "mac The mac address" octetsLines
  ++ octetsAccess "get" "port_name" "portname" portSize "portname"
  ++ accessorNote "Set a port name address in" "portname Where to store the port name" octetsLines
  ++ "\n" ++ octetsAccess "set" "port_name" "portname" portSize "portname"
  ++ "\n"
  ++ octetsAccesses "tab_name" "tabname" "tabname" (onNextLine "OF_MAX_TABLE_NAME_LEN")
    ("a table name string", "portname The port name")
    ("a table name address", "mac Where to store the table name")
  ++ octetsAccesses "desc_str" "desc" "desc" "OF_DESC_STR_LEN"
    ("a description string", "desc Where to store the description string")
    ("a description string", "desc The description string")
  ++ octetsAccesses "ser_num" "sernum" "sernum" "OF_SERIAL_NUM_LEN"
    ("a serial number string", "sernum Where to store the serial number string")
    ("a serial number string", "desc The serial number string")
  ++ octetsAccesses "str64" "s" "s" "64" ("a str64 string", "s The string")
    ("a str64 string", "s Where to store the str64")
  ++ octetsAccesses "ipv6" "addr" "&addr" "sizeof(of_ipv6_t)"
    ("an ipv6 address", "addr Pointer to where to store the ipv6 address")
    ("an ipv6 address", "addr The variable holding ipv6 address to store")

def pairAccess (article what : String) (lines : List String) : String :=
  let body direction part := form [("direction", direction), ("part", part)]
    "|(of_wire_buffer_u64_«direction»(buf, offset, «part»hi), of_wire_buffer_u64_«direction»(buf, offset+8, «part»lo))"
  accessorNote ("Get " ++ article ++ " " ++ what ++ " from")
    (value ++ " Pointer to where to store the " ++ what) lines
  ++ "\n" ++ shorthand (name ++ "_get") value (body "get" ("&" ++ value ++ "->"))
  ++ accessorNote ("Set " ++ article ++ " " ++ what ++ " in")
    (value ++ " The variable holding " ++ what ++ " to store") lines
  ++ "\n" ++ shorthand (name ++ "_set") value (body "set" (value ++ "."))

def wireBufferHeader : String := notice ++ block r#"

#if !defined(_OF_WIRE_BUF_H_)
δ_OF_WIRE_BUF_H_

#include <string.h>
θloci_base.h>
θof_object.h>
θof_match.h>
θof_buffer.h>

/§
 *
 * Wire buffer declaration, constructor, data alloc, delete
 *
 §/

/* Maximum length of an OpenFlow message. All wire buffers allocated for
 * new objects (that don't come from a message) are this length to avoid
 * needing to grow the buffers. */
δOF_WIRE_BUFFER_MAX_LENGTH 65535

¶Buffer management structure
 */
typedef struct βs {
	/** Pointer to a monolithic data buffer */
	uint8_t *buf;

	/** Length of buffer actually allocated */
	int alloc_bytes;
	/** Current extent actually used */
	int current_bytes;
	/** If not NULL, use this to dealloc buf */
	of_buffer_free_f free;
} βt;

δWBUF_BUF(wbuf) (wbuf)->buf
δWBUF_ALLOC_BYTES(wbuf) (wbuf)->alloc_bytes
δWBUF_CURRENT_BYTES(wbuf) (wbuf)->current_bytes

¶For read access, throw an error code if current buffer
 * is not big enough.
πwbuf Pointer to an βt structure
πoffset The extent of the buffer required
 */
δOF_WIRE_BUFFER_ACCESS_CHECK(wbuf, offset)					  \
	λ((wbuf) != NULL) && (WBUF_BUF(wbuf) != NULL) &&			 \
		   (offset > 0) && (WBUF_CURRENT_BYTES(wbuf) >= offset))

/*
 * Index a wire buffer
 * Index a wire object (from obj_offset)
 * Index a LOCI object
 */

¶Return a pointer to a particular offset in a wire buffer's data
πwbuf Pointer to an βt structure
πoffset The location to reference
 */
δOF_WIRE_BUFFER_INDEX(wbuf, offset) (&((WBUF_BUF(wbuf))[offset]))

/§
 * Object specific macros; ωt includes a wire_object
 §/

¶Return a pointer to a particular offset in the underlying buffer
 * associated with a wire object
πobj Pointer to an ωt object
πoffset The location to reference relative to the start of the object
 */
δΩBUFFER_INDEX(obj, offset) \
	OF_WIRE_BUFFER_INDEX((obj)->wbuf, (obj)->obj_offset + offset)

¶Return the absolute offset as an integer from a object-relative offset
πobj Pointer to an of_wire_object_t structure
πoffset The location to reference relative to the start of the object
 */
δΩABSOLUTE_OFFSET(obj, offset) \
	((obj)->obj_offset + offset)


¶Map a generic object to the underlying wire buffer object (not the octets)
 *
 * Treat as private
 */
δΩTO_WBUF(obj) ((obj)->wbuf)


¶Allocate a wire buffer object and the underlying data buffer.
 * The wire buffer is initally empty (current_bytes == 0).
πa_bytes The number of bytes to allocate.
 * @returns A wire buffer object if successful or NULL
 */
σβt *
βnew(int a_bytes)
{
	βt *wbuf;

	wbuf = (βt *)MALLOC(sizeof(βt));
	if (wbuf == NULL) {
		ρNULL;
	}
	MEMSET(wbuf, 0, sizeof(βt));

	if ((wbuf->buf = (uint8_t *)MALLOC(a_bytes)) == NULL) {
		FREE(wbuf);
		ρNULL;
	}
	wbuf->current_bytes = 0;
	wbuf->alloc_bytes = a_bytes;

	ρ(βt *)wbuf;
}

¶Allocate a wire buffer object and bind it to an existing buffer.
πbuf	   Existing buffer.
πbytes	 Size of buf.
πbuf_free  Function called to deallocate buf.
 * @returns A wire buffer object if successful or NULL
 */
σβt *
βnew_bind(uint8_t *buf, int bytes, of_buffer_free_f buf_free)
{
	βt *wbuf;

	wbuf = (βt *)MALLOC(sizeof(βt));
	if (wbuf == NULL) {
		ρNULL;
	}

	wbuf->buf = buf;
	wbuf->free = buf_free;
	wbuf->current_bytes = bytes;
	wbuf->alloc_bytes = bytes;

	ρ(βt *)wbuf;
}

σvoid
βfree(βt *wbuf)
{
	if (wbuf == NULL) return;

	if (wbuf->buf != NULL) {
		if (wbuf->free != NULL) {
			wbuf->free(wbuf->buf);
		} else {
			FREE(wbuf->buf);
		}
	}

	FREE(wbuf);
}

σvoid
βsteal(βt *wbuf, uint8_t **buffer)
{
	*buffer = wbuf->buf;
	/* Mark underlying data buffer as taken */
	wbuf->buf = NULL;
	βfree(wbuf);
}

¶Increase the currently used length of the wire buffer.
 * Will fail an assertion if the allocated length is not long enough.
 *
πwbuf Pointer to the wire buffer structure
πbytes Total number of bytes buffer should grow to
 */

σvoid
βgrow(βt *wbuf, int bytes)
{
	λwbuf != NULL);
	λwbuf->alloc_bytes >= bytes);
	if (bytes > wbuf->current_bytes) {
		MEMSET(wbuf->buf + wbuf->current_bytes, 0, bytes - wbuf->current_bytes);
		wbuf->current_bytes = bytes;
	}
}

/* TBD */


"#
  ++ numberAccess "8" ++ numberAccess "16" ++ numberAccess "32" ++ "\n" ++ addressAccess
  ++ "\n" ++ numberAccess "64"
  ++ structureAccess "match" "generic OF match structure" "of_match_t *value" "update" "store" []
  ++ structureAccess "of_port_desc" "port description object" "       void *value" "fill out"
    "fill out" ["@fixme Where should this go?"]
  ++ versionedNumbers ++ block r"
/* match bitmap and wildcard bitmaps followed the same pattern */
δβmatch_bmap_get βwc_bmap_get
δβmatch_bmap_set βwc_bmap_set

/* Derived functions, mostly for fixed length name strings */
δβchar_get βu8_get
δβchar_set βu8_set


"
  ++ accessorNote "Get an octet object from" "value Pointer to where to put value"
    ["", "of_octets_t is treated specially as the high level functions pass around",
     "pointers for \"get\" operators.", "",
     "Important: The length of data to copy is stored in the value->bytes", "variable."]
  ++ block r"

σvoid
βoctets_data_get(βt *wbuf, int offset,
							   of_octets_t *value)
{
	OF_WIRE_BUFFER_ACCESS_CHECK(wbuf, offset + OF_OCTETS_BYTES_GET(value));
	buf_octets_get(OF_WIRE_BUFFER_INDEX(wbuf, offset),
				   OF_OCTETS_POINTER_GET(value),
				   OF_OCTETS_BYTES_GET(value));
}

"
  ++ accessorNote "Set an octet object in"
    "value Pointer to the octet stream to store\n * @param cur_len Current length of data in the buffer"
    ["", "of_octets_t is treated specially as the high level functions pass around",
     "pointers for \"get\" operators.", "", "@fixme Need to take into account cur_len"]
  ++ block r"

σvoid
βoctets_data_set(βt *wbuf, int offset,
							   of_octets_t *value, int cur_len)
{
	// FIXME need to adjust length of octets member in buffer
	λcur_len == 0 || cur_len == value->bytes);

	OF_WIRE_BUFFER_ACCESS_CHECK(wbuf, offset + OF_OCTETS_BYTES_GET(value));
	buf_octets_set(OF_WIRE_BUFFER_INDEX(wbuf, offset),
				   OF_OCTETS_POINTER_GET(value),
				   OF_OCTETS_BYTES_GET(value));
}

σvoid
_wbuf_octets_set(βt *wbuf, int offset, uint8_t *src, int bytes) {
	of_octets_t octets;
	OF_OCTETS_POINTER_SET(&octets, src);
	OF_OCTETS_BYTES_SET(&octets, bytes);
	βoctets_data_set(wbuf, offset, &octets, bytes);
}

σvoid
_wbuf_octets_get(βt *wbuf, int offset, uint8_t *dst, int bytes) {
	of_octets_t octets;
	OF_OCTETS_POINTER_SET(&octets, dst);
	OF_OCTETS_BYTES_SET(&octets, bytes);
	βoctets_data_get(wbuf, offset, &octets);
}


"
  ++ octetsValues
  ++ pairAccess "bitmap_128" "addr" "an" "bitmap_128 address" octetsLines
  ++ pairAccess "u128" "addr" "an" "u128 address" octetsLines
  ++ pairAccess "checksum_128" "checksum" "a" "checksum_128" []
  ++ "\n" ++ bitmapAccess ++ block r"
/* Relocate data from start offset to the end of the buffer to a new position */
σvoid
βmove_end(βt *wbuf, int start_offset, int new_offset)
{
	int bytes;
	int new_length;

	if (new_offset > start_offset) {
		bytes =  new_offset - start_offset;
		new_length = wbuf->alloc_bytes + bytes;
		OF_WIRE_BUFFER_ACCESS_CHECK(wbuf, new_length);
	} else {
		bytes =  start_offset - new_offset;
		new_length = wbuf->alloc_bytes - bytes;
	}

	MEMMOVE(&wbuf->buf[new_offset], &wbuf->buf[start_offset], bytes);
	wbuf->alloc_bytes = new_length;
}

/* Given a wire buffer object and the offset of the start of an of_match struct,
 * ρits total length in the buffer
 */
σint
μbytes(βt *wbuf, int offset) {
	uint16_t len;
	βu16_get(wbuf, offset + 2, &len);
	ρOF_MATCH_BYTES(len);
}

extern void
βreplace_data(βt *wbuf, 
							int offset, 
							int old_len,
							uint8_t *data,
							int new_len);

#endif /* _OF_WIRE_BUF_H_ */
"

def wireBufferSource : String := notice ++ block r"

/§
 *
 * of_wire_buf.c
 *
 * Implementation of more complicated of_wire_buf operations
 *
 §/

θloci.h>

#if 0
static μv1_t *
wire_buf_v1_to_match(βt *wbuf, int offset)
{
	μv1_t *match;
	match = μv1_new(ν1_0);
	ρmatch;
}

/*
 * First pass at wire buf to match conversions.  These involve a lot
 * of copying and could be made more efficient.
 */
int
βμget(ωt *obj, int offset, μt *match)
{
	switch (obj->version) {
	case ν1_0:
		break;
	case ν1_1:
		break;
	case ν1_2:
		break;
	default:
		ρεVERSION;
		break;
	}

	ρεNONE;
}

¶Write a host match structure into the wire buffer
πobj The object that owns the buffer to write to
πoffset The start location in the wire buffer
πmatch Pointer to the host match object
πcur_len The current length of the object in the buffer
 *
 * If the current length is different than the length of the new data
 * being written, then move the remains of the buffer.  This only applies
 * to version 1.2 (though it should apply to 1.1).
 */

int
βμset(ωt *obj, int offset, 
							μt *match, int cur_len)
{
	// of_octets_t octets;

	switch (obj->version) {
	case ν1_0:
		break;
	case ν1_1:
		break;
	case ν1_2:
		// μv3_serialize(match, &octets);
		break;
	default:
		ρεVERSION;
		break;
	}

	ρεNONE;
}
#endif

¶Replace data in the data buffer, possibly with a new
 * length or appending to buffer.
 *
πwbuf The wire buffer being updated.
πoffset The start point of the update
πold_len The number of bytes being replaced
πdata Source of bytes to write into the buffer
πnew_len The number of bytes to write
 *
 * The buffer may grow for this operation.  Current byte count
 * is pre-grow for the replace.
 *
 * The current byte count for the buffer is updated.
 * 
 */

void
βreplace_data(βt *wbuf, 
							int offset, 
							int old_len,
							uint8_t *data,
							int new_len)
{
	int bytes;
	uint8_t *src_ptr, *dst_ptr;
	int cur_bytes;

	λwbuf != NULL);

	cur_bytes = wbuf->current_bytes;

	/* Doesn't make sense; mismatch in current buffer info */
	λold_len + offset <= wbuf->current_bytes);

	wbuf->current_bytes += (new_len - old_len); // may decrease size

	if ((old_len + offset < cur_bytes) && (old_len != new_len)) {
		/* Need to move back of buffer */
		src_ptr = &wbuf->buf[offset + old_len];
		dst_ptr = &wbuf->buf[offset + new_len];
		bytes = cur_bytes - (offset + old_len);
		MEMMOVE(dst_ptr, src_ptr, bytes);
	}

	dst_ptr = &wbuf->buf[offset];
	MEMCPY(dst_ptr, data, new_len);

	λwbuf->current_bytes == cur_bytes + (new_len - old_len));
}
"

def messageNote (what param result : String) : String :=
  form [("what", what), ("param", param), ("result", result)] r"
¶@brief Get/set «what» of a message
πmsg Pointer to the message buffer of sufficient length
π«param» Data for set operation
 * @returns get returns «result»
 */

"

def messageAccess (what param result : String) : String :=
  messageNote what param (result ++ " in host order")
  ++ form [("name", name), ("bits", bits), ("offset", upper name)] r"
σuint«bits»_t
of_message_«name»_get(of_message_t msg) {
	uint«bits»_t val;
	buf_u«bits»_get(msg + OF_MESSAGE_«offset»_OFFSET, &val);
	ρval;
}

"

def messageHeader : String := notice ++ block r#"

/*
 * These routines manipulate a low level buffer assuming it holds
 * an OpenFlow message. 
 */

#if !defined(_OF_MESSAGE_H_)
δ_OF_MESSAGE_H_

θof_buffer.h>

typedef uint8_t *of_message_t;

/* A few key common header offsets */
δOF_MESSAGE_VERSION_OFFSET 0
δOF_MESSAGE_TYPE_OFFSET 1
δOF_MESSAGE_LENGTH_OFFSET 2
δOF_MESSAGE_XID_OFFSET 4
δOF_MESSAGE_HEADER_LENGTH 8
δOF_MESSAGE_ERROR_TYPE_OFFSET 8
δOF_MESSAGE_STATS_TYPE_OFFSET 8
δOF_MESSAGE_FLOW_MOD_COMMAND_OFFSET(version) ((version) == 1 ? 56 : 25)
δOF_MESSAGE_GROUP_MOD_COMMAND_OFFSET 8

δOF_MESSAGE_MIN_LENGTH 8
δOF_MESSAGE_MIN_STATS_LENGTH (OF_MESSAGE_STATS_TYPE_OFFSET + 2)
δOF_MESSAGE_MIN_ERROR_LENGTH (OF_MESSAGE_ERROR_TYPE_OFFSET + 4)
δOF_MESSAGE_MIN_FLOW_MOD_LENGTH(version)  ((version) == 1 ? 57 : 26)
δOF_MESSAGE_MIN_GROUP_MOD_LENGTH (OF_MESSAGE_GROUP_MOD_COMMAND_OFFSET + 2)

δOF_MESSAGE_EXPERIMENTER_ID_OFFSET 8
δOF_MESSAGE_EXPERIMENTER_SUBTYPE_OFFSET 12
δOF_MESSAGE_EXPERIMENTER_MIN_LENGTH 16

δOF_MESSAGE_STATS_EXPERIMENTER_ID_OFFSET 16
δOF_MESSAGE_STATS_EXPERIMENTER_SUBTYPE_OFFSET 20
δOF_MESSAGE_STATS_EXPERIMENTER_MIN_LENGTH 24

¶The "default" free message function; NULL means use nominal malloc/free
 */
δOF_MESSAGE_FREE_FUNCTION NULL

¶Map a message to the uint8_t * start of the message
 */
δOF_MESSAGE_TO_BUFFER(msg) ((uint8_t *)(msg))

¶Map a uint8_t * to a message object
 */
δOF_BUFFER_TO_MESSAGE(buf) ((of_message_t)(buf))

/§
 *
 * Message field accessors.
 *
 * These do no range checking and assume a buffer with sufficient
 * length to access the data.  These are low level accessors used
 * during the parsing and coersion stage of message processing.
 *
 * Fields include:  version, message type, message length,
 * transaction id, stats type (now multi-part type), experimenter id,
 * experimenter type
 *
 §/

"#
  ++ messageNote "version" "version" "version" ++ block r"
σof_version_t
of_message_version_get(of_message_t msg) {
	ρ(of_version_t)msg[OF_MESSAGE_VERSION_OFFSET];
}

"
  ++ messageNote "OpenFlow type" "value" "message type" ++ block r"
σuint8_t
of_message_type_get(of_message_t msg) {
	ρmsg[OF_MESSAGE_TYPE_OFFSET];
}

"
  ++ messageAccess "length" "16" "in-buffer length" "len" "length" ++ block r"
σvoid
of_message_length_set(of_message_t msg, uint16_t len) {
	buf_u16_set(msg + OF_MESSAGE_LENGTH_OFFSET, len);
}


"
  ++ messageAccess "xid" "32" "transaction ID" "xid" "xid"
  ++ messageAccess "stats_type" "16" "stats type" "type" "stats type"
  ++ messageAccess "error_type" "16" "error type" "type" "error type" ++ "\n"
  ++ messageAccess "experimenter_id" "32" "experimenter ID" "experimenter_id" "experimenter id" ++ "\n"
  ++ messageAccess "experimenter_subtype" "32" "experimenter message type (subtype)" "subtype"
    "experimenter message type"
  ++ block r"
¶Flow mod command changed from 16 to 8 bits on the wire from 1.0 to 1.1
 */
σuint8_t
of_message_flow_mod_command_get(of_message_t msg, of_version_t version) {
	uint16_t val16;
	uint8_t val8;

	if (version == ν1_0) {
		buf_u16_get(msg + OF_MESSAGE_FLOW_MOD_COMMAND_OFFSET(version), &val16);
		val8 = val16;
	} else {
		buf_u8_get(msg + OF_MESSAGE_FLOW_MOD_COMMAND_OFFSET(version), &val8);
	}
	ρval8;
}

"
  ++ messageAccess "stats_experimenter_id" "32" "stats request/reply experimenter ID"
    "experimenter_id" "experimenter id"
  ++ messageAccess "stats_experimenter_subtype" "32" "stats request/reply experimenter subtype"
    "subtype" "experimenter subtype"
  ++ messageAccess "group_mod_command" "16" "group mod command" "subtype" "command"
  ++ "#endif /* _OF_MESSAGE_H_ */\n"

end FlowBindings.Loci.Support
