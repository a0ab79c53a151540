import FlowBindings.Loci.Notice

/-!
# Reporting

The part of the C library that writes for people to read: messages to a log, and
the values of fields.
-/

namespace FlowBindings.Loci.Support

open Text

def logHeader : String := notice ++ block r"

#if !defined(_LOCI_LOG_H_)
δ_LOCI_LOG_H_

" ++ formatMacros ++ block r"

¶Per level log macros.  printf semantics
 */

δLOCI_LOG_COMMON(level, ...) loci_logger(level, __func__, __FILE__, __LINE__, __VA_ARGS__)
δLOCI_LOG_TRACE(...) LOCI_LOG_COMMON(LOCI_LOG_LEVEL_TRACE, __VA_ARGS__)
δLOCI_LOG_VERBOSE(...) LOCI_LOG_COMMON(LOCI_LOG_LEVEL_VERBOSE, __VA_ARGS__)
δLOCI_LOG_INFO(...) LOCI_LOG_COMMON(LOCI_LOG_LEVEL_INFO, __VA_ARGS__)
δLOCI_LOG_WARN(...) LOCI_LOG_COMMON(LOCI_LOG_LEVEL_WARN, __VA_ARGS__)
δLOCI_LOG_ERROR(...) LOCI_LOG_COMMON(LOCI_LOG_LEVEL_ERROR, __VA_ARGS__)
δLOCI_LOG_MSG(...) LOCI_LOG_COMMON(LOCI_LOG_LEVEL_MSG, __VA_ARGS__)

#endif /* _LOCI_LOG_H_ */
"

def logSource : String := notice ++ block r#"

#include <stdarg.h>

#include "loci_log.h"

θloci.h>

static int
loci_null_logger(loci_log_level_t level,
				 const char *fname, const char *file, int line,
				 const char *format, ...)
{
	ρ0;
}

loci_logger_f loci_logger = loci_null_logger;
"#

/-- The macros that write values: `word` is in their names, and the rest is what only some
headers have. -/
def valueHeader (word space integers port portName star last : String) : String :=
  notice ++ form [("NAME", upper word), ("name", word), ("space", space), ("integers", integers),
    ("port", port), ("portName", portName), ("star", star), ("end", last), ("formats", formatMacros)] r#"

#if !defined(_LOCI_«NAME»_H_)
δ_LOCI_«NAME»_H_

θloci_base.h>
θof_match.h>
#include <stdio.h>

«formats»
typedef int (*loci_obj_«name»_f)(loci_writer_f writer,«space»void *cookie, ωt *obj);

/§
 *
 * Per-datatype dump macros
 *
 §/
δLOCI_«NAME»_u8(κval) writer(cookie, "%u", (val))
δLOCI_«NAME»_u16(κval) writer(cookie, "%u (0x%x)", (val), (val))
δLOCI_«NAME»_u32(κval) writer(cookie, "%u (0x%x)", (val), (val))
δLOCI_«NAME»_u64(κval) writer(cookie, "%" PRIu64 "(0x%" PRIx64 ")", (val), (val))

«integers»/* @todo Add checks for special port numbers */
δLOCI_«NAME»_port_no(κval) «port»
δLOCI_«NAME»_fm_cmd(κval) LOCI_«NAME»_u16(κval)

/* @todo Decode wildcards */
δLOCI_«NAME»_wc_bmap(κval)		 \
	writer(cookie, "0x%" PRIx64, (val))
δLOCI_«NAME»_match_bmap(κval)	  \
	writer(cookie, "0x%" PRIx64, (val))

/* @todo Dump first N bytes of data */
δLOCI_«NAME»_octets(κval)									  \
	writer(cookie, "%d bytes at location %p", (val).bytes, (val).data)

δLOCI_«NAME»_mac(κval)								 \
	writer(cookie, "%02x:%02x:%02x:%02x:%02x:%02x",			\
			   (val).addr[0], (val).addr[1], (val).addr[2],	 \
			   (val).addr[3], (val).addr[4], (val).addr[5])

δLOCI_«NAME»_ipv4(κval)										\
	writer(cookie, "%d.%d.%d.%d", val >> 24, (val >> 16) & 0xff,	   \
			   (val >> 8) & 0xff, val & 0xff)

δLOCI_«NAME»_ipv6(κval)										\
	writer(cookie, "%02x%02x:%02x%02x:%02x%02x:%02x%02x:%02x%02x:%02x%02x:%02x%02x:%02x%02x", \
			   (val).addr[0], (val).addr[1], (val).addr[2], (val).addr[3], \
			   (val).addr[4], (val).addr[5], (val).addr[6], (val).addr[7], \
			   (val).addr[8], (val).addr[9], (val).addr[10], (val).addr[11], \
			   (val).addr[12], (val).addr[13], (val).addr[14], (val).addr[15])

δLOCI_«NAME»_string(κval) writer(cookie, "%s", val)

δLOCI_«NAME»_port_name(κval) LOCI_«NAME»_string(κval)
«portName»δLOCI_«NAME»_tab_name(κval) LOCI_«NAME»_string(κval)
δLOCI_«NAME»_desc_str(κval) LOCI_«NAME»_string(κval)
δLOCI_«NAME»_ser_num(κval) LOCI_«NAME»_string(κval)
δLOCI_«NAME»_str64(κval) LOCI_«NAME»_string(κval)

int loci_«name»_match(loci_writer_f writer, void«star»cookie, μt *match);
δLOCI_«NAME»_match(κval) loci_«name»_match(κ&val)

δLOCI_«NAME»_bitmap_128(κval) writer(cookie, "%" PRIx64 "%" PRIx64, (val).hi, (val).lo)

δLOCI_«NAME»_u128(κval) writer(cookie, "%" PRIx64 "%" PRIx64, (val).hi, (val).lo)

δLOCI_«NAME»_checksum_128(κval) writer(cookie, "%016" PRIx64 "%016" PRIx64, (val).hi, (val).lo)

δLOCI_«NAME»_bitmap_512(κval) writer(cookie, "%" PRIx64 "%" PRIx64 "%" PRIx64 "%" PRIx64 "%" PRIx64 "%" PRIx64 "%" PRIx64 "%" PRIx64, (val).words[7], (val).words[6], (val).words[5], (val).words[4], (val).words[3], (val).words[2], (val).words[1], (val).words[0])

¶Generic version for any object
 */
int ω«name»(loci_writer_f writer, void *cookie, ωt *obj);
«end»#endif /* _LOCI_«NAME»_H_ */
"#

def dumpHeader : String :=
  valueHeader "dump" " " "" "LOCI_DUMP_u32(writer, cookie, val)" "" "* " ""

def integerMacros : String := block r#"
δLOCI_SHOW_D_INT(cookie, macro, val) writer(cookie, "%" macro , val); 
δLOCI_SHOW_X_INT(cookie, macro, val) writer(cookie, "0x%" macro, val); 

δLOCI_SHOW_x8(κval) LOCI_SHOW_X_INT(cookie,  PRIx8, val)
δLOCI_SHOW_x16(κval) LOCI_SHOW_X_INT(cookie, PRIx16, val)
δLOCI_SHOW_x32(κval) LOCI_SHOW_X_INT(cookie, PRIx32, val)
δLOCI_SHOW_x64(κval) LOCI_SHOW_X_INT(cookie, PRIx64, val)
δLOCI_SHOW_d8(κval) LOCI_SHOW_D_INT(cookie, PRId8, val)
δLOCI_SHOW_d16(κval) LOCI_SHOW_D_INT(cookie, PRId16, val)
δLOCI_SHOW_d32(κval) LOCI_SHOW_D_INT(cookie, PRId32, val)
δLOCI_SHOW_d64(κval) LOCI_SHOW_D_INT(cookie, PRId64, val)

"#

def showHeader : String :=
  valueHeader "show" "\n                               " integerMacros
    "writer(cookie, \"%d\", val)"
    "#define LOCI_SHOW_port_name_if_name(writer, cookie, val) LOCI_SHOW_string(writer, cookie, val)\n"
    " *" "\n"

end FlowBindings.Loci.Support
