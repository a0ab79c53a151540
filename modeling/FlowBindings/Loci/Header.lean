import FlowBindings.Loci.Accessor
import FlowBindings.Loci.LengthTable
import FlowBindings.Loci.MatchHeader

/-!
# Headers of the C library

The base header holds what depends on no class: versions, errors, small types,
and the numbers of the objects. The top header is the one programs include.
-/

namespace FlowBindings.Loci

open Text

def experimenters : List (String × Nat) :=
  [("bsn", 0x005c16c7), ("nicira", 0x00002320), ("openflow", 0x000026e1)]

def topHeaderHead (fileName : String) : String :=
  topMatter fileName ++ block r"

θloci_base.h>
θof_message.h>
θof_match.h>
θof_object.h>
θloci_classes.h>
θloci_class_metadata.h>

/§
 *
 * This file is divided into the following sections.
 *
 * A few object specific macros
 * Class typedefs (no struct definitions)
 * Per-data type accessor function typedefs
 * Per-class new/delete function typedefs
 * Per-class static delete functions
 * Per-class, per-member accessor declarations
 * Per-class structure definitions
 * Pointer set function declarations
 * Some special case macros
 *
 §/
"

namespace Catalog

variable (c : Catalog)

def versionEnum : String :=
  let versions := c.targets.eraseDups
  block r"

¶Enumeration of OpenFlow versions
 *
 * The wire protocol numbers are currently used for values of the corresponding
 * version identifiers.
 */
typedef enum of_version_e {
	νUNKNOWN = 0,
"
  ++ join ",\n" (versions.map fun v =>
    "    " ++ v.constant "OF_VERSION_" ++ " = " ++ toString v.wire)
  ++ form [("1", toString ((versions.map Version.wire).foldl max 0 + 1))] r"

} of_version_t;

¶@brief Use this when declaring arrays indexed by wire version
 */
δνARRAY_MAX «1»
"

def objectEnum : String :=
  let ids := c.objectIds
  let entries (names : List String) : String := each names fun name =>
    "    " ++ enumName name ++ " = " ++ toString ((ids.get? name).getD 0) ++ ",\n"
  let total := c.classes.length
  let others := total - c.messages.length
  block r#"


¶Enumeration of OpenFlow objects
 *
 * We enumerate the OpenFlow objects used internally.  Note that some
 * message types are determined both by an outer type (message type like
 * stats_request) and an inner type (port stats).  These are different
 * messages in ofC.
 *
 * These values are for internal use only.  They will change with
 * different versions of ofC.
 */

typedef enum ωid_e {
	/* Root object type */
	ΩINVALID = -1, /* "invalid" ρvalue for mappings */
	OF_OBJECT = 0, /* Generic, untyped object */

	/* OpenFlow message objects */
"#
  ++ entries c.messages
  ++ "\n    /* Non-message objects */\n"
  ++ entries c.nonMessages
  ++ "\n    /* List objects */\n"
  ++ entries c.lists
  ++ form [("1", toString ((if others = 0 then 0 else total) + 1)),
      ("2", toString (if c.messages.isEmpty then 0 else c.messages.length + 1))] r"

	ΩCOUNT = «1»
} ωid_t;

extern const char *const ωid_str[];

δOF_MESSAGE_OBJECT_COUNT «2»
"

def baseContent : String :=
  block r#"

/*
 * Base OpenFlow definitions.  These depend only on standard C headers
 */
#include <string.h>
#include <stdint.h>

"# ++ formatMacros ++ block r#"

#include <stdlib.h>
#include <assert.h>
θloci_idents.h>

¶Macro to enable debugging for LOCI.
 *
 * This enables debug output to stdout.
 */
δOF_DEBUG_ENABLE

#if defined(OF_DEBUG_ENABLE)
#include <stdio.h> /* Currently for debugging */
δFIXME(str) do {				 \
		fprintf(stderr, "%s\n", str);  \
		exit(1);						\
	} while (0)
δdebug printf
#else
δFIXME(str)
δdebug(str, ...)
#endif /* OF_DEBUG_ENABLE */

¶The type of a function used by the LOCI dump/show functions to
 * output text. Essentially the same signature as fprintf. May
 * be called many times per invocation of e.g. ωshow().
 */
typedef int (*loci_writer_f)(void *cookie, const char *fmt, ...);

¶Check if a version is supported
 */
δνOKAY(v) ((v) >= ν1_0 && (v) <= ν1_4)

"#
  ++ c.versionEnum ++ "\n"
  ++ block r#"

typedef enum of_error_codes_e {
	εNONE		= 0,
	εRESOURCE	= -1,	/* Could not allocate space */
	εPARAM	   = -2,	/* Bad parameter */
	εVERSION	 = -3,	/* Version not supported */
	εRANGE	   = -4,	/* End of list indication */
	εCOMPAT	  = -5,	/* Incompatible assignment */
	εPARSE	   = -6,	/* Error in parsing data */
	εINIT		= -7,	/* Uninitialized data */
	εUNKNOWN	 = -8	 /* Unknown error */
} of_error_codes_t;

δεSTRINGS "none", \
	"resource", \
	"parameter", \
	"version", \
	"range", \
	"incompatible", \
	"parse", \
	"init", \
	"unknown"

extern const char *const of_error_strings[];

#ifdef __GNUC__
δLOCI_NORETURN_ATTR __attribute__((__noreturn__))
#else
δLOCI_NORETURN_ATTR
#endif

extern void loci_assert_fail(
	const char *cond,
	const char *file,
	unsigned int line) LOCI_NORETURN_ATTR;

#ifndef NDEBUG
δλval) ((val) ? (void)0 : loci_assert_fail(#val, __FILE__, __LINE__))
#else
δλval)
#endif

/*
 * Some LOCI object accessors can fail, and it's easy to forget to check.
 * On certain compilers we can trigger a warning if the error code
 * is ignored.
 */
#ifndef DISABLE_WARN_UNUSED_RESULT
#ifdef __GNUC__
δWARN_UNUSED_RESULT __attribute__ ((warn_unused_result))
#else
δWARN_UNUSED_RESULT
#endif
#else
δWARN_UNUSED_RESULT
#endif

typedef union of_generic_u of_generic_t;
typedef struct ωs ωt;

/* Define ipv4 address as uint32 */
typedef uint32_t of_ipv4_t;

/* Table ID is the OF standard uint8 */
typedef uint8_t of_table_id_t;

δOF_MAC_ADDR_BYTES 6
typedef struct of_mac_addr_s {
   uint8_t addr[OF_MAC_ADDR_BYTES];
} of_mac_addr_t;

δOF_IPV6_BYTES 16
typedef struct of_ipv6_s {
   uint8_t addr[OF_IPV6_BYTES];
} of_ipv6_t;

typedef struct of_bitmap_512_s {
	uint64_t words[8];
} of_bitmap_512_t;

extern const of_mac_addr_t of_mac_addr_all_ones;
extern const of_mac_addr_t of_mac_addr_all_zeros;

extern const of_ipv6_t of_ipv6_all_ones;
extern const of_ipv6_t of_ipv6_all_zeros;

extern const of_bitmap_512_t of_bitmap_512_all_ones;
extern const of_bitmap_512_t of_bitmap_512_all_zeroes;

¶Generic zero and all-ones values of size 16 bytes.
 *
 * bitmap_512 is longest data type we worry about for comparisons
 */
δof_all_zero_value of_bitmap_512_all_zeroes
δof_all_ones_value of_bitmap_512_all_ones

¶Non-zero/all ones check for arbitrary type of size <= 16 bytes
 */
δOF_VARIABLE_IS_NON_ZERO(_ptr) \
	(MEMCMP(&of_all_zero_value, (_ptr), sizeof(*(_ptr))))
δOF_VARIABLE_IS_ALL_ONES(_ptr) \
	(!MEMCMP(&of_all_ones_value, (_ptr), sizeof(*(_ptr))))

/* The octets object is a struct holding pointer and length */
typedef struct of_octets_s {
	uint8_t *data;
	int bytes;
} of_octets_t;

/* Macro to convert an octet object to a pointer; currently trivial */
δOF_OCTETS_POINTER_GET(octet_ptr) ((octet_ptr)->data)
δOF_OCTETS_POINTER_SET(octet_ptr, ptr) (octet_ptr)->data = (ptr)
δOF_OCTETS_BYTES_GET(octet_ptr) ((octet_ptr)->bytes)
δOF_OCTETS_BYTES_SET(octet_ptr, bytes) (octet_ptr)->bytes = (bytes)

/* Currently these are categorized as scalars */
typedef char of_port_name_t[OF_MAX_PORT_NAME_LEN];
typedef char of_table_name_t[OF_MAX_TABLE_NAME_LEN];
typedef char of_desc_str_t[OF_DESC_STR_LEN];
typedef char of_serial_num_t[OF_SERIAL_NUM_LEN];
typedef char of_str64_t[64];

typedef struct uint128_s {
	uint64_t hi;
	uint64_t lo;
} uint128_t;

typedef struct of_bitmap_128_s {
	uint64_t hi;
	uint64_t lo;
} of_bitmap_128_t;

typedef struct of_checksum_128_s {
	uint64_t hi;
	uint64_t lo;
} of_checksum_128_t;

/* These are types which change across versions.  */
typedef uint32_t of_port_no_t;
typedef uint16_t of_fm_cmd_t;
typedef uint64_t of_wc_bmap_t;
typedef uint64_t μbmap_t;

δMEMMOVE(dest, src, bytes) memmove(dest, src, bytes)
δMEMSET(dest, val, bytes) memset(dest, val, bytes)
δMEMCPY(dest, src, bytes) memcpy(dest, src, bytes)
δMEMCMP(a, b, bytes) memcmp(a, b, bytes)
δMALLOC(bytes) malloc(bytes)
δFREE(ptr) free(ptr)

/** Try an operation and ρon failure. */
δOF_TRY(op) do {													  \
		int _rv;															 \
		if ((_rv = (op)) < 0) {											  \
			LOCI_LOG_ERROR("ERROR %d at %s:%d\n", _rv, __FILE__, __LINE__); \
			ρ_rv;													  \
		}																	\
	} while (0)

/* The extent of an OF match object is determined by its length field, but
 * aligned to 8 bytes
 */

δOF_MATCH_BYTES(length) (((length) + 7) & 0xfff8)

#if __BYTE_ORDER__ == __ORDER_BIG_ENDIAN__
δU16_NTOH(val) (val)
δU32_NTOH(val) (val)
δU64_NTOH(val) (val)
δIPV6_NTOH(dst, src) /* NOTE different syntax; currently no-op */
δU16_HTON(val) (val)
δU32_HTON(val) (val)
δU64_HTON(val) (val)
δIPV6_HTON(dst, src) /* NOTE different syntax; currently no-op */
#else /* Little Endian */
δU16_NTOH(val) (((val) >> 8) | (((val) & 0xff) << 8))
δU32_NTOH(val) ((((val) & 0xff000000) >> 24) |				   \
					   (((val) & 0x00ff0000) >>  8) |				   \
					   (((val) & 0x0000ff00) <<  8) |				   \
					   (((val) & 0x000000ff) << 24))
δU64_NTOH(val) ((((val) & 0xff00000000000000LL) >> 56) |		 \
					   (((val) & 0x00ff000000000000LL) >> 40) |		 \
					   (((val) & 0x0000ff0000000000LL) >> 24) |		 \
					   (((val) & 0x000000ff00000000LL) >>  8) |		 \
					   (((val) & 0x00000000ff000000LL) <<  8) |		 \
					   (((val) & 0x0000000000ff0000LL) << 24) |		 \
					   (((val) & 0x000000000000ff00LL) << 40) |		 \
					   (((val) & 0x00000000000000ffLL) << 56))
δIPV6_NTOH(dst, src) /* NOTE different syntax; currently no-op */
δU16_HTON(val) U16_NTOH(val)
δU32_HTON(val) U32_NTOH(val)
δU64_HTON(val) U64_NTOH(val)
δIPV6_HTON(dst, src) /* NOTE different syntax; currently no-op */
#endif
"#

def baseHeader (fileName : String) : Outcome String := do
  let macros ← c.matchFields.ignoreMacros
  pure (topMatter fileName ++ c.baseContent ++ c.objectEnum
    ++ block r"

/§
 *
 * Experimenter IDs
 *
 §/

"
    ++ each experimenters (fun (name, id) =>
      "#define OF_EXPERIMENTER_ID_" ++ upper name ++ " 0x" ++ padLeft 8 '0' (hexDigits id) ++ "\n")
    ++ block r"

/§
 *
 * OpenFlow Match version specific and generic defines
 *
 §/
"
    ++ laterMatchNames ++ macros ++ c.matchFields.maskMacros
    ++ "\n#endif /* Base header file */\n")

end Catalog

def topHeader (fileName : String) : String :=
  topHeaderHead fileName
  ++ block r"


typedef enum loci_log_level {
	LOCI_LOG_LEVEL_TRACE,
	LOCI_LOG_LEVEL_VERBOSE,
	LOCI_LOG_LEVEL_INFO,
	LOCI_LOG_LEVEL_WARN,
	LOCI_LOG_LEVEL_ERROR,
	LOCI_LOG_LEVEL_MSG
} loci_log_level_t;

¶@brief Output a log message.
πlevel The log level.
πfname The function name.
πfile The file name.
πline The line number.
πformat The message format string.
 */
typedef int (*loci_logger_f)(loci_log_level_t level,
							 const char *fname, const char *file, int line,
							 const char *format, ...);

/*
 * This variable should be set by the user of the library to redirect logs to
 * their log infrastructure. The default drops all logs.
 */
extern loci_logger_f loci_logger;

¶Map a generic object to the underlying wire buffer
 *
 * Treat as private
 */
δΩTO_MESSAGE(obj) \
	((of_message_t)(WBUF_BUF((obj)->wbuf)))

¶Macro for the fixed length part of an object
 *
πobj The object whose extended length is being calculated
 * @returns length in bytes of non-variable part of the object
 */
δΩFIXED_LENGTH(obj) \
	(ωfixed_len[(obj)->version][(obj)->object_id])

¶Return the length of the object beyond its fixed length
 *
πobj The object whose extended length is being calculated
 * @returns length in bytes of non-variable part of the object
 *
 * Most variable length fields are alone at the end of a structure.
 * Their length is a simple calculation, just the total length of
 * the parent minus the length of the non-variable part of the
 * parent's class type.
 */

δΩVARIABLE_LENGTH(obj) \
	((obj)->length - ΩFIXED_LENGTH(obj))

extern int βμget(ωt *obj, int offset,
									μt *match);
extern int βμset(ωt *obj, int offset,
									μt *match, int cur_len);

/§
 *
 * Declarations of maps between on-the-wire type values and LOCI identifiers
 *
 §/

int ωwire_init(ωt *obj, ωid_t base_object_id, int max_len);

extern const int *const ωfixed_len[νARRAY_MAX];
"
  ++ wireFunctionDeclarations ++ matchDeclarations
  ++ block r"

¶Macro to check consistency of length for top level objects
 *
 * If the object has no parent then its length should match the
 * underlying wire buffer's current bytes.
 */
δOF_LENGTH_CHECK_ASSERT(obj) \
	λ((obj)->parent != NULL) || \
	 ((obj)->wbuf == NULL) || \
	 (WBUF_CURRENT_BYTES((obj)->wbuf) == (obj)->length))

δOF_DEBUG_DUMP
#if defined(OF_DEBUG_DUMP)
extern void dump_match(μt *match);
#endif /* OF_DEBUG_DUMP */

σconst char *
of_class_name(ωt *obj)
{
	ρωid_str[obj->object_id];
}
"
  ++ "\n#endif /* Top header file */\n"

end FlowBindings.Loci
