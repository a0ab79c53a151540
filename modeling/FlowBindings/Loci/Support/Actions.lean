import FlowBindings.Loci.Notice

/-!
# Questions about actions

Small functions on lists of actions, and the file that extensions are declared in.
-/

namespace FlowBindings.Loci.Support

open Text

def actionHeader : String := notice ++ block r"

/§
 * File: of_utils.h
 *
 * Header file for some utilities provided based on LOCI code generation
 *
 §/

#ifndef OF_UTILS_H
δOF_UTILS_H

θloci.h>

extern int of_action_list_has_out_port(of_list_action_t *actions, 
									   of_port_no_t outport);

#endif
"

def actionSource : String := notice ++ block r#"

/§
 * File: of_utils.h
 *
 * Some utilities provided based on LOCI code generation
 *
 §/

θof_utils.h>
#include <stdio.h>
#include <stdlib.h>


¶Check if the given port is used as an output for any entry on the list
πactions The list of actions being checked
πoutport The port being sought
 * @returns Boolean, true if entry has an output action to outport
 *
 * @fixme VERSION Currently only OF 1.0 supported
 * @fixme Check for error ρin accessor
 *
 * If outport is "wildcard", the test should be ignored, so ρtrue
 */

int
of_action_list_has_out_port(of_list_action_t *actions, of_port_no_t outport)
{
	ωt elt;
	of_action_output_t *output;
	int loop_rv;
	of_port_no_t port_no;
	int rv = 0;

	if (outport == OF_PORT_DEST_WILDCARD) { /* Same as OFPP_ANY */
		ρ1;
	}

	output = &elt;
	OF_LIST_ACTION_ITER(actions, &elt, loop_rv) {
		if (output->object_id == OF_ACTION_OUTPUT) {
			of_action_output_port_get(output, &port_no);
			if (port_no == outport) {
				rv = 1;
				break;
			}
		}
	}

	ρrv;
}

void
loci_assert_fail(const char *msg, const char *file, unsigned int line)
{
	fprintf(stderr, "\\nASSERT %s. %s:%d\\n", msg, file, line);
	abort();
}
"#

def extensionHeader : String := notice ++ block r"

¶BSN OpenFlow extension definition header file
 */

#ifndef _LOCI_BSN_EXT_H_
δ_LOCI_BSN_EXT_H_

/* Mirroring for destination, bit in port_config */
δOF_PORT_CONFIG_BSN_MIRROR_DEST (1 << 31) /* Mirror destination only */

/* Point at which mirroring is to occur */
δOF_BSN_MIRROR_STAGE_INGRESS 0
δOF_BSN_MIRROR_STAGE_EGRESS 1

#endif /* _LOCI_BSN_EXT_H_ */
"

def validatorHeader : String := notice ++ block r"

/**
 *
 * AUTOMATICALLY GENERATED FILE.  Edits will be lost on regen.
 *
 * Declarations of message validation functions. These functions check that an
 * OpenFlow message is well formed. Specifically, they check internal length
 * fields.
 */

#if !defined(_LOCI_VALIDATOR_H_)
δ_LOCI_VALIDATOR_H_

θloci.h>

/*
 * Validate an OpenFlow message.
 * @ρ0 if message is valid, -1 otherwise.
 */
extern int of_validate_message(of_message_t msg, int len);

#endif /* _LOCI_VALIDATOR_H_ */
"

end FlowBindings.Loci.Support
