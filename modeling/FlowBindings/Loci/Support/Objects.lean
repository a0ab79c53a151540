import FlowBindings.Loci.Notice

/-!
# Objects of the C library

The part of the C library that treats all objects alike: how an object refers to
its bytes, how a child shares them with its parent, how lists are walked and
extended. Nothing in it depends on the protocol.
-/

namespace FlowBindings.Loci.Support

open Text

def objectHeader : String := notice ++ block r#"

/*
 * @fixme THIS FILE NEEDS CLEANUP.  It may just go away.
 * 
 * Low level internal header file.  Defines inheritance mechanism for
 * LOCI objects.  In general, the routines in this file should not be
 * called directly.  Rather the class-specific operations should be 
 * used from loci.h.
 *
 * TREAT THESE FUNCTIONS AS PRIVATE.  THEY ARE GENERALLY HELPER
 * FUNCTIONS FOR LOCI TYPE SPECIFIC IMPLEMENTATIONS
 */

#if !defined(_ΩH_)
δ_ΩH_

θof_buffer.h>
θof_match.h>
θloci_base.h>
θof_message.h>
θof_wire_buf.h>

/§
 * General list operations: first, next, append_setup, append_advance
 §/

/* General list first operation */
extern int of_list_first(ωt *parent, ωt *child);

/* General list next operation */
extern int of_list_next(ωt *parent, ωt *child);

/* General list append bind operation */
extern int of_list_append_bind(ωt *parent, ωt *child);

/* Append a copy of item to list */
extern int of_list_append(ωt *list, ωt *item);

extern ωt *ωnew(int bytes);
extern ωt *ωdup(ωt *src);

extern int ωxid_set(ωt *obj, uint32_t xid);
extern int ωxid_get(ωt *obj, uint32_t *xid);

/* Bind a buffer to an object, usually for parsing the buffer */
extern int ωbuffer_bind(ωt *obj, uint8_t *buf, 
								 int bytes, of_buffer_free_f buf_free);


¶Steal a wire buffer from an object.
πobj The object whose buffer is being removed
πbuffer[out] A handle for the pointer to the uint8_t * returned
 *
 * The wire buffer is taken from the object and its wirebuffer is set to
 * NULL.  The ref_count of the wire buffer is not changed.
 */
extern void ωwire_buffer_steal(ωt *obj, uint8_t **buffer);
extern int ωappend_buffer(ωt *dst, ωt *src);

extern ωt *ωnew_from_message(of_message_t msg, int len);

typedef struct ωstorage_s ωstorage_t;

ωt *ωnew_from_message_preallocated(
	ωstorage_t *storage, uint8_t *buf, int len);

/* Delete an OpenFlow object without reference to its type */
extern void ωdelete(ωt *obj);

int ωcan_grow(ωt *obj, int new_len);

void ωparent_length_update(ωt *obj, int delta);

void ωtruncate(ωt *obj);

struct ωs {
	/** A pointer to the underlying buffer's management structure. */
	βt *wbuf;

	/** The start offset for this object relative to the start of the
	 * underlying buffer */
	int obj_offset;

	/* The LOCI type enum value of the object */
	ωid_t object_id;

	/*
	 * Objects need to track their "parent" so that updates to the
	 * object that affect its length can be pushed to the parent.
	 * Treat as private.
	 */
	ωt *parent;

	/*
	 * Not all objects have length and version on the wire so we keep
	 * them here.  NOTE: Infrastructure manages length and version.
	 * Treat length as private and version as read only.
	 */
	int length;
	of_version_t version;
};

struct ωstorage_s {
	ωt obj;
	βt wbuf;
};

¶Connect a child to a parent at the wire buffer level
 *
πparent The top level object to bind to
πchild The sub-object connecting to the parent
πoffset The offset at which to attach the child RELATIVE
 * TO THE PARENT in the buffer
πbytes The amount of the buffer dedicated to the child
 */
σvoid
ωattach(ωt *parent, ωt *child, int offset, int length)
{
	child->parent = parent;
	child->wbuf = parent->wbuf;
	child->obj_offset = parent->obj_offset + offset;
	child->length = length;
}

#endif /* _ΩH_ */
"#

def xidAccess (verb direction param star : String) : String :=
  form [("verb", verb), ("direction", direction), ("param", param), ("star", star)] r"
¶«verb» the xid of a message object
πobj The object being accessed
πxid «param»
 * @ρε
 * Since the XID is common across all versions, this is used
 * for all XID accessors.
 */

int
ωxid_«direction»(ωt *obj, uint32_t «star»xid)
{
	βt *wbuf;

	if ((wbuf = ΩTO_WBUF(obj)) == NULL) {
		ρεPARAM;
	}
	βu32_«direction»(wbuf, 
		ΩABSOLUTE_OFFSET(obj, OF_MESSAGE_XID_OFFSET), xid);
	ρεNONE;
}

"

def objectSource : String := notice ++ form [("valid", block r#"

	version = of_message_version_get(msg);
	if (!νOKAY(version)) {
		ρNULL;
	}

	if (of_validate_message(msg, len) != 0) {
		LOCI_LOG_ERROR("message validation failed\n");
		ρNULL;
	}
"#)] r#"

/§
 *
 * of_object.c
 *
 * These are the low level object constructor/destructor operators.
 *
 §/

#include "loci_log.h"
θloci.h>
θloci_validator.h>

¶Create a generic new object and possibly underlying wire buffer
πbytes The number of bytes to allocate in the underlying buffer
 *
 * If bytes <= 0, do not allocate a wire buffer.
 *
 * Note that this is an internal function.  The class specific
 * new functions should be called to properly initialize and track an
 * OF object.
 */

ωt *
ωnew(int bytes)
{
	ωt *obj;

	if ((obj = (ωt *)MALLOC(sizeof(*obj))) == NULL) {
		ρNULL;
	}
	MEMSET(obj, 0, sizeof(*obj));

	if (bytes > 0) {
		if ((obj->wbuf = βnew(bytes)) == NULL) {
			FREE(obj);
			ρNULL;
		}
	}

	ρobj;
}

¶The delete function for LOCI objects
 *
πobj Pointer to the object to be deleted
 *
 * This can be called on any LOCI object; it should not need to be
 * overridden.
 */

void
ωdelete(ωt *obj)
{
	if (obj == NULL) {
		return;
	}

	if (obj->parent == NULL) {
		βfree(obj->wbuf);
	}

	FREE(obj);
}

¶Duplicate an object
πsrc The object to be duplicated
 * @returns Pointer to the duplicate or NULL on error.  Caller is responsible
 * for freeing the returned object.
 */

ωt *
ωdup(ωt *src)
{
	ωt *dst;
	ωinit_f init_fn;

	if ((dst = (ωt *)MALLOC(sizeof(*dst))) == NULL) {
		ρNULL;
	}

	MEMSET(dst, 0, sizeof(*dst));

	/* Allocate a minimal wire buffer assuming we will not write to it. */
	if ((dst->wbuf = βnew(src->length)) == NULL) {
		FREE(dst);
		ρNULL;
	}

	init_fn = ωinit_map[src->object_id];
	init_fn(dst, src->version, src->length, 0);

	MEMCPY(ΩBUFFER_INDEX(dst, 0),
		   ΩBUFFER_INDEX(src, 0),
		   src->length);

	ρdst;
}

¶Generic new from message call
 */

ωt *
ωnew_from_message(of_message_t msg, int len)
{
	ωid_t object_id;
	ωt *obj;
	of_version_t version;
«valid»
	if ((obj = ωnew(-1)) == NULL) {
		ρNULL;
	}

	if (ωbuffer_bind(obj, OF_MESSAGE_TO_BUFFER(msg), len, 
							  OF_MESSAGE_FREE_FUNCTION) < 0) {
		FREE(obj);
		ρNULL;
	}
	obj->version = version;

	of_header_wire_object_id_get(obj, &object_id);
	ωinit_map[object_id](obj, version, len, 0);

	ρobj;
}

¶Parse a message without allocating memory
 *
πstorage Pointer to an uninitialized ωstorage_t
πbuf Pointer to the buffer
πlength Length of buf
 * @returns Pointer to an initialized ωt
 *
 * The lifetime of the returned object is the minimum of the lifetimes of
 * 'buf' and 'storage'.
 */

ωt *
ωnew_from_message_preallocated(ωstorage_t *storage,
										uint8_t *buf, int len)
{
	ωt *obj = &storage->obj;
	βt *wbuf = &storage->wbuf;
	of_message_t msg = buf;
	of_version_t version;
	ωid_t object_id;

	memset(storage, 0, sizeof(*storage));
«valid»
	obj->version = version;
	obj->wbuf = wbuf;
	wbuf->buf = msg;
	wbuf->alloc_bytes = len;
	wbuf->current_bytes = len;

	of_header_wire_object_id_get(obj, &object_id);
	ωinit_map[object_id](obj, version, len, 0);

	ρobj;
}

¶Bind an existing buffer to an LOCI object
 *
πobj Pointer to the object to be updated
πbuf Pointer to the buffer to bind to obj
πbytes Length of buf
πbuf_free An optional free function to be applied to
 * buf on deallocation
 *
 * This can be called on any LOCI object; it should not need to be
 * overridden.
 */

int
ωbuffer_bind(ωt *obj, uint8_t *buf, int bytes, 
					  of_buffer_free_f buf_free)
{
	βt *wbuf;

	λbuf != NULL);
	λbytes > 0);

	wbuf = βnew_bind(buf, bytes, buf_free);
	if (wbuf == NULL) {
		ρεRESOURCE;
	}

	obj->wbuf = wbuf;
	obj->obj_offset = 0;
	obj->length = bytes;

	ρεNONE;
}

¶Connect a child to a parent at the wire buffer level
 *
πparent The top level object to bind to
πchild The sub-object connecting to the parent
πoffset The offset at which to attach the child RELATIVE 
 * TO THE PARENT in the buffer
πbytes The amount of the buffer dedicated to the child; see below
 * 
 * This is used for 'get' accessors for composite types as well as
 * iterator functions for lists, both read (first/next) and write
 * (append_init, append_advance).
 *
 * Connect a child object to a parent by setting up the child's
 * wire_object to point to the parent's underlying buffer.  The value
 * of the parameter bytes is important in determining how the child
 * is initialized:
 * @li If bytes <= 0, the length and type of the child are not modified;
 * no additional space is added to the buffer.
 * @li If bytes > 0, the current wire buffer is grown to 
 * accomodate this many bytes.  This is to support append operations.
 *
 * If an error is returned, future references to the child object
 * (until it is reinitialized) are undefined.
 */
static void
object_child_attach(ωt *parent, ωt *child, 
					   int offset, int bytes)
{
	ωattach(parent, child, offset, bytes);

	/*
	 * bytes determines if this is a read or write setup.
	 * If > 0, grow the buffer to accomodate the space
	 * Otherwise do nothing
	 */
	if (bytes > 0) { /* Set internal length, request buffer space */
		int tot_bytes; /* Total bytes to request for buffer if updated */

		/* Set up space for the child in the parent's buffer */
		tot_bytes = parent->obj_offset + offset + bytes;

		βgrow(parent->wbuf, tot_bytes);
	}
	/* if bytes == 0 don't do anything */
}

¶Check for room in an object's wire buffer.
πobj The object being checked
πnew_len The desired length
 * @ρBoolean
 */

int
ωcan_grow(ωt *obj, int new_len)
{
	ρΩABSOLUTE_OFFSET(obj, new_len) <=
		WBUF_ALLOC_BYTES(obj->wbuf);
}

"#
  ++ xidAccess "Set" "set" "The xid value to store in the wire buffer" ""
  ++ xidAccess "Get" "get" "Pointer to where to store the xid value" "*"
  ++ form [("both", block r"
πparent The parent; must be a list object
πchild The child object; must be of type list element
")] r#"
/§
 *
 * Generic list operation implementations
 *
 §/

¶Set up a child for appending to a parent list
«both» * @ρε
 *
 * Attaches the wire buffer of the parent to the child by pointing
 * the child to the end of the parent.
 * 
 * Set the wire length and type from the child.
 * Update the parent length adding the current child length
 *
 * After calling this function, the child object may be updated
 * resulting in changes to the parent's wire buffer
 * 
 */ 

int
of_list_append_bind(ωt *parent, ωt *child)
{
	if (parent == NULL || child == NULL ||
		   parent->wbuf == NULL) {
		ρεPARAM;
	}

	if (!ωcan_grow(parent, parent->length + child->length)) {
		ρεRESOURCE;
	}

	object_child_attach(parent, child, parent->length, 
						child->length);

	/* Update the wire length and type if needed */
	ωwire_length_set(child, child->length);
	ωwire_type_set(child);

	/* Update the parent's length */
	ωparent_length_update(parent, child->length);

	OF_LENGTH_CHECK_ASSERT(parent);

	ρεNONE;
}

¶Generic atomic list append operation
πlist The list to which an item is being appended
πitem THe item to append to the list
 *
 * The contents of the item are copied to the end of the list.
 * Currently assumes the list is at the end of its parent.
 */
int
of_list_append(ωt *list, ωt *item)
{
	int new_len;

	new_len = list->length + item->length;

	if (!ωcan_grow(list, new_len)) {
		ρεRESOURCE;
	}

	βgrow(list->wbuf,
						ΩABSOLUTE_OFFSET(list, new_len));

	MEMCPY(ΩBUFFER_INDEX(list, list->length),
		   ΩBUFFER_INDEX(item, 0), item->length);

	/* Update the list's length */
	ωparent_length_update(list, item->length);

	OF_LENGTH_CHECK_ASSERT(list);

	ρεNONE;
}

¶Generic list first function
«both» * @ρεRANGE if list is empty
 * @ρε
 *
 * Sets up the child to point to the first element in the list
 *
 * Child init must be called before this is called.
 *
 * @note TREAT AS PRIVATE
 * Does not fully initialized object
 */
int
of_list_first(ωt *parent, ωt *child)
{
	if (parent->length == 0) { /* Empty list */
		ρεRANGE;
	}

	ωattach(parent, child, 0, child->length);

	ρεNONE;
}

¶Return boolean indicating if child is pointing to last entry in parent
«both» * @ρεRANGE if list is empty
 * @ρε
 *
 */
static int
of_list_is_last(ωt *parent, ωt *child)
{
	if (child->obj_offset + child->length >=
		parent->obj_offset + parent->length) {
		ρ1;
	}

	ρ0;
}

¶Generic list next function
«both» * @ρεRANGE if at end of list
 * @ρε
 *
 * Advances the child to point to the subsequent element in the list.
 * The wire buffer object must not have been modified since the 
 * previous call to _first or _next.
 *
 * @note TREAT AS PRIVATE
 * Does not fully initialized object
 */ 
int
of_list_next(ωt *parent, ωt *child)
{
	int offset;

	λchild->length > 0);

	/* Get offset of parent */
	if (of_list_is_last(parent, child)) {
		ρεRANGE; /* We were on the last object */
	}

	/* Offset is relative to parent start */
	offset = (child->obj_offset - parent->obj_offset) +
		child->length;
	ωattach(parent, child, offset, child->length);

	ρεNONE;
}

void
ωwire_buffer_steal(ωt *obj, uint8_t **buffer)
{
	λobj != NULL);
	βsteal(obj->wbuf, buffer);
	obj->wbuf = NULL;
}

δ_MAX_PARENT_ITERATIONS 8
¶Iteratively update parent lengths thru hierarchy
πobj The object whose length is being updated
πdelta The difference between the current and new lengths
 *
 * Note that this includes updating the object itself.  It will
 * iterate thru parents.
 *
 * Assumes delta > 0.
 */
void
ωparent_length_update(ωt *obj, int delta)
{
#ifndef NDEBUG
	int count = 0;
	βt *wbuf;  /* For debug asserts only */
#endif

	while (obj != NULL) {
		λcount++ < _MAX_PARENT_ITERATIONS);
		obj->length += delta;
		ωwire_length_set(obj, obj->length);
#ifndef NDEBUG
		wbuf = obj->wbuf;
#endif

		/* Asserts for wire length checking */
		λobj->length + obj->obj_offset <=
			   WBUF_CURRENT_BYTES(wbuf));
		if (obj->parent == NULL) {
			λobj->length + obj->obj_offset ==
				   WBUF_CURRENT_BYTES(wbuf));
		}

		obj = obj->parent;
	}
}

¶Use the type/length from the wire buffer and init the object
πobj The object being initialized
πbase_object_id If > 0, this indicates the base object
πmax_len If > 0, the max length to expect for the obj
 * type for inheritance checking
 * @ρε
 *
 * Used for inheritance type objects such as actions and OXMs
 * The type is checked and if valid, the object is initialized.
 * Then the length is taken from the buffer.
 *
 * Note that the object version must already be properly set.
 */
int
ωwire_init(ωt *obj, ωid_t base_object_id,
					int max_len)
{
	if (loci_class_metadata[obj->object_id].wire_type_get != NULL) {
		ωid_t id;
		loci_class_metadata[obj->object_id].wire_type_get(obj, &id);
		obj->object_id = id;
		/* Call the init function for this object type; do not push to wire */
		ωinit_map[id]((ωt *)(obj), obj->version, -1, 0);
	}
	if (loci_class_metadata[obj->object_id].wire_length_get != NULL) {
		int length;
		loci_class_metadata[obj->object_id].wire_length_get(obj, &length);
		if (length < 0 || (max_len > 0 && length > max_len)) {
			ρεPARSE;
		}
		obj->length = length;
	} else {
		/* @fixme Does this cover everything else? */
		obj->length = ωfixed_len[obj->version][base_object_id];
	}

	ρεNONE;
}

/*
 * Truncate an object to its initial length.
 *
 * This allows the caller to reuse a single allocated object even if
 * it has been appended to.
 */
void
ωtruncate(ωt *obj)
{
	ωinit_map[obj->object_id](obj, obj->version, -1, 0);
	obj->wbuf->current_bytes = obj->length;

	of_wire_length_set_f wire_length_set = loci_class_metadata[obj->object_id].wire_length_set;
	if (wire_length_set != NULL) {
		wire_length_set(obj, obj->length);
	}
}
"#

end FlowBindings.Loci.Support
