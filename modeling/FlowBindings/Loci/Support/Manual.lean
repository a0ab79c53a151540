import FlowBindings.Loci.Notice

/-!
# The manual

The texts that explain the C library to its users.
-/

namespace FlowBindings.Loci.Support

open Text

/-- What joins the subclasses of `parent`, whose names stand one after another. -/
def unionText (parent names : String) : String :=
  form [("of", parent), ("members", each (words names) fun name =>
    "    " ++ parent ++ "_" ++ name ++ "_t " ++ name ++ ";\n")] r"
¶Inheritance super class for «of»
 *
 * This class is the union of «of» classes.  You can refer
 * to it untyped by refering to the member 'header' whose structure
 * is common across all sub-classes.
 */

union «of»_u {
	«of»_header_t header; /* Generic instance */
«members»};

"

def manual : String := notice ++ form
  [("for", "/**\n * Generic documentation for"), ("result", " * @return OF_ERROR_XXX\n *\n"),
   ("object", " * @param obj The object being accessed\n * @param value"),
   ("end", " */\nextern int of_object_"), ("list", block r"
 * A list is an array of instances of objects of a common (possibly
 * polymorphic) type."), ("composite", block r"
πobj The object being accessed
πvalue Pointer to an object (the sub-object) of the proper type
 * @ρεXXX
 *
 * A composite is a structure with multiple components.  On a "), ("entry", block r"
πobj The list object being accessed
πvalue Pointer to a generic list entry instance
")] r#"

¶@file of_doc.h
 * @brief Documentation of sample functions
 *
 * This file is for documentation purposes only
 *
 * Once the code is in a working state, this documentation will be 
 * transfered to the actual source files
 *
 * The functions documented here are simple templates for accessors that
 * are used for all accessor members of LOCI objects.  Data types are
 * divided into:
 *
 * @li @c scalar Things like uint8_t, uint16_t, of_mac_addr_t as well as
 * fixed length strings
 * @li @c octets Arbitrary length strings of binary data
 * @li @c composite Data members which are structures
 * @li @c list The list abstraction for data members
 * @li @c list_element An element of a list (usually a composite object)
 *
 * List elements get special treatment for iterating across a list or 
 * appending new entries to the list.  All others have 'set' and 'get'
 * operations.  
 *
 * Scalars operations are "stateless" in that they simply
 * update the underlying data or ρthat data.  
 *
 * Composites and list members update structures to point to the
 * underlying data.  As a result, care must be taken that objects are
 * not freed when linked composite or list members remain referring to
 * the underlying data structure.  Currently: Note that reference
 * counting won't solve this with the current approach as the
 * referring objects may be automatic and not subject to alloc/free
 * operations.
 */



«for» scalar get methods
«object» A pointer to a scalar instance of the proper type
«result» * Accesses the underlying wire buffer at the appropriate offset to
 * retrieve and convert the value, placing the result in *value.
 *
 * Examples of scalar types include:
 * @li uint8_t
 * @li uint16_t
 * @li uint32_t
 * @li uint64_t
 * @li of_mac_addr_t
 *
 * Examples calls include:
 * @li rv = of_port_status_reason_get(obj, &reason)
 * @li rv = of_table_mod_config_get(obj, &config)
 *
 * An object instance can call directly as:
 * @li rv = obj->reason_get(obj, &reason);	obj is an of_table_mod_t *
 * @li rv = obj->config_get(obj, &config);	obj is an of_table_mod_t *
«end»scalar_member_get(ωt *obj, uint32_t *value);

«for» scalar set methods
«object» Call by value parameter with the value to set
«result» * Converts value to the proper wire representation and writes it to
 * the underlying wire buffer at the appropriate offset.
«end»scalar_member_set(ωt *obj, uint32_t value);

«for» an octets data get method
«object» A pointer to an of_octets_t structure to be filled out 
«result» * NOTE: 
 * Sets *bytes to the number of bytes in the octet string.
«end»octets_member_data_get(ωt *obj, of_octets_t *value);

«for» an octets data set method
«object» Pointer to an of_octets_t structure pointing to memory from
 * which data will be copied to wire buffer
«result» * Copies data from the memory pointed to by value into the underlying 
 * wire buffer, extending the buffer if necessary.  The length of obj 
 * is updated.
 *
 * If the length of obj changes (because the existing octets instance is of
 * a different length) its internal length accessor is called to update
 * anything tracking its length.  This may call the object's parent
 * length accessor with the update.
«end»octets_member_data_set(ωt *obj, of_octets_t *value);

«for» an octets pointer get method
«object» Pointer to an of_octets_t structure to be initialized
«result» * Set the octets object *value to point to the underlying data buffer.  The
 * length member of *value is set as well.
 *
 * The result should be treated as READ ONLY information as modifying
 * the buffer could cause corruption of the underlying LOCI object.
 * To change the value (especially the length) of an octets data member,
 * allocate and set a memory buffer and use the octets_member_data_set 
 * function.
«end»octets_member_ptr_get(ωt *obj, of_octets_t *value);

«for» a composite sub-object get method
«composite»'get'
 * operation, a pointer (value) to an unused instance of the appropriate 
 * type is passed to this routine.  That instance is intialized with the
 * proper accessor functions for the sub-object type and the wire object
 * is set up to point to obj's wire buffer at the appropriate offset.
 *
 * If changes are made to the sub-object (*value) and those changes
 * affect the length, then the corresponding composite_set must be
 * called to commit those changes to the parent.
«end»composite_member_get(ωt *obj, 
										  ωt *value);

«for» a composite sub-object set method
«composite»'set'
 * operation, a pointer (value) to an instance of the appropriate type
 * is passed to this routine.  
 *
 * If the parent (obj) and the child (value) point to the same underlying
 * wire object, then the changes to the underlying buffer are already
 * recorded.
 *
 * Otherwise, any existing value of the sub-object is replaced
 * by copying the wire buffer contents from value's wire buffer to obj's
 * wire buffer at the appropriate offset.
 *
 * In either case, the length of the parent will be updated if it changes.
«end»composite_member_set(ωt *obj, 
										  ωt *value);

«for» a list sub-object get method
«object» Pointer to an object (the list sub-object)
«result»«list»  On a 'get' operation, a pointer (value) to an
 *  unused instance of the appropriate list type is passed to this
 * routine.  That instance is intialized with the proper accessor
 * functions for the list type and the wire object is set up to point
 * to obj's wire buffer at the appropriate offset.
 *
 * Currently, the list object returned by a 'get' operation should not
 * be altered, although changes that do not affect the length of
 * sub-objects will work.
 *
 * Rather, lists should either be cleared and set from completely new
 * instances using 'list_set', or they may be built using the append
 * operations described below.
 *
 * @sa ωlist_append_bind
 * @sa ωlist_append
«end»list_member_get(ωt *obj, 
									 of_list_object_t *value);

«for» a list entry first call
«entry» * @ρεRANGE if the list is empty
 *
«list»  
 *
 * This routine is intended for iterating through a list for
 * reading.  Normally a 'get' operation will be done on the parent
 * of the list to retrieve (a pointer to) the list, and then this routine
 * will be called to set up a generic entry representing the first 
 * element of the list.
 *
 * @sa ωlist_entry_next
«end»list_entry_first(of_list_object_t *obj, 
									  ωt *value);

«for» a list entry next call
«entry» * @ρεRANGE if the value already points to the last item 
 * in the list

«list»  
 *
 * The corresponding list_entry_first must be called on the pair of
 * parameters initially.  There after, this routine will advance the
 * pointers in the wire object of value to the subsequent entry in the
 * list.
 *
 * Changes should not be made to list items using these routines,
 * although 'set' operations which do not change the length of the
 * instance will work.
 *
 * @sa ωlist_entry_first
«end»list_entry_next(of_list_object_t *obj, 
									 ωt *value);

«for» a list append bind function
«entry»«result»«list»
 *
 * This function prepares the list for the process of appending an
 * item to its tail.  The parameter value is a pointer to a generic
 * list entry instance.  Its wire buffer is bound to that of the list
 * at the end of the list.  The length of the list is updated according
 * to the current value setting which must be accurate.
 *
 * Note that since the child has not been bound to a buffer, no
 * values have been properly recorded for the object; they must
 * be set after this _bind call.
 *
 * @sa ωlist_entry_append
«end»list_entry_append_bind(of_list_object_t *obj, 
											ωt *value);

«for» a list append function
πobj The list object being accessed
πvalue Pointer to a list object to be appended
«result»«list»
 *
 * This function takes a fully formed list entry, value, and copies
 * that value to the end of the list.  No object ownership changes
 * with this call.
 *
 * @sa ωlist_entry_append_bind
«end»list_entry_append(of_list_object_t *obj, 
									   ωt *value);

/* This is from loci.h */

"#
  ++ unionText "of_queue_prop" "min_rate max_rate experimenter"
  ++ unionText "of_action" "
    copy_ttl_out set_mpls_tc set_field set_nw_tos dec_mpls_ttl set_nw_dst set_mpls_label group
    set_nw_src set_vlan_vid set_mpls_ttl pop_vlan set_tp_dst pop_mpls push_vlan set_vlan_pcp
    enqueue set_tp_src experimenter set_nw_ttl copy_ttl_in set_nw_ecn strip_vlan set_dl_dst
    push_mpls dec_nw_ttl set_dl_src set_queue output"
  ++ unionText "of_instruction" "
    clear_actions write_actions goto_table apply_actions experimenter write_metadata"
  ++ unionText "of_oxm" "
    ipv6_flabel ipv6_dst_masked vlan_pcp ipv4_src ipv6_dst arp_tpa icmpv6_type arp_sha ipv6_src
    sctp_src icmpv6_code metadata_masked eth_src_masked eth_dst ipv6_nd_sll mpls_tc arp_op
    vlan_vid_masked eth_type in_phy_port vlan_vid arp_tha arp_tpa_masked in_port ip_dscp sctp_dst
    icmpv4_code eth_dst_masked tcp_src ip_ecn ipv6_src_masked ipv4_src_masked udp_dst arp_spa
    ipv6_nd_target ipv4_dst ipv4_dst_masked eth_src udp_src ipv6_nd_tll icmpv4_type mpls_label
    tcp_dst ip_proto metadata arp_spa_masked"

def manualIndex : String := notice ++ block r"

/**************************************************************************/¶
 * loci Doxygen Header
 * 
 *****************************************************************************/
#ifndef __LOCI_DOX_H__
δ__LOCI_DOX_H__

¶@defgroup loci loci - loci Description
 *

The documentation overview for this module should go here. 

 *
 * @{
 *
 * @defgroup loci-loci Public Interface
 * @defgroup loci-config Compile Time Configuration
 * @defgroup loci-porting Porting Macros
 * 
 * @}
 *
 */

#endif /* __LOCI_DOX_H__ */
"

def readMe : String := block r#"
Introduction
============

LOCI is the C language module of LOXI, the Logical OpenFlow Extensible
Interface. It provides a framework for managing OpenFlow objects in
an object oriented fashion.

All files in LOCI, even this README, are generated by LOXI. Please make
modifications to LOXI instead of to these files directly.

Compilation
===========

It's expected that users of LOCI will want to integrate it into their own build
system. As an example, here's a simple command line to create a shared library
on Linux:

	gcc -fPIC -shared -I inc src/*.c -o loci.so

LOCI has no dependencies beyond the C standard library.

Documentation
=============

A Doxygen configuration file is provided. Just run `doxygen` to generate HTML
documentation pages. Each OpenFlow object is linked to under the "Modules"
tab.

Usage
=====

Currently the best example code for using LOCI is the switchlight-core
repository.

Here's example code that creates a flow mod:

	/* Create the match */
	μt match;
	memset(&match, 0, sizeof(match));
	match.fields.in_port = 1;
	OF_MATCH_MASK_IN_PORT_EXACT_SET(&match);
	match.fields.eth_type = 0x8000;
	OF_MATCH_MASK_ETH_TYPE_EXACT_SET(&match);

	/* Create a flow mod */
	of_flow_add_t *flow_add = of_flow_add_new(ν1_0);
	of_flow_add_idle_timeout_set(flow_add, 5);
	of_flow_add_cookie_set(flow_add, 42);
	of_flow_add_priority_set(flow_add, 10000);
	of_flow_add_buffer_id_set(flow_add, -1);
	if (of_flow_add_match_set(flow_add, &match)) {
		fprintf(stderr, "Failed to set the match field\n");
		abort();
	}

	/* Populate the action list */
	of_list_action_t actions;
	of_flow_add_actions_bind(flow_add, &actions);
	int i;
	for (i = 1; i <= 4; i++) {
		of_action_output_t action;
		of_action_output_init(&action, flow_add->version, -1, 1);
		of_list_action_append_bind(&actions, &action);
		of_action_output_port_set(&action, i);
	}

	/* Use the underlying buffer */
	void *buf = WBUF_BUF(ΩTO_WBUF(flow_add));
	uint16_t len = flow_add->length;
	/* ... */

	/* Free the flow mod */
	of_flow_add_delete(flow_add);
"#

end FlowBindings.Loci.Support
