import FlowBindings.Loci.WireTypes

/-!
# Checking messages

The C library can check that the bytes of a message fit together before anything
reads them: every length field lies between the fixed length of its object and
the bytes that are left, every list is made of elements that fit. There is one
function per class and version, and one per kind of list; a class with others
below it passes the bytes on to the one its discriminator names.
-/

namespace FlowBindings.Loci

open Text

namespace Validator

def function (cls : String) (v : Version) : String :=
  "loci_validate_" ++ cls ++ "_" ++ versionName v

def readers : Table Nat (String × String) :=
  [(1, "uint8_t", "buf_u8_get"), (2, "uint16_t", "buf_u16_get"), (4, "uint32_t", "buf_u32_get")]

variable (p : Protocol) (c : Class)

def readField (f : Field) (var : String) : Outcome String := do
  let (type, reader) ← readers.need (← (Member.field f).exactLength c.name)
  pure ("    " ++ type ++ " " ++ var ++ ";\n"
    ++ "    " ++ reader ++ "(data + " ++ offsetText f.offset ++ ", &" ++ var ++ ");\n")

def isListField (f : Field) : Bool :=
  f.role = .data && startsWith f.type "list"

/-- The name of the elements of a list type, without what it shares with all other
element names. -/
def elementName (type : String) : String :=
  dropLast 3 (dropFirst 8 type)

def elementNames : List String :=
  (p.classes.flatMap fun c => (c.fields.filter isListField).map (elementName ·.type)).eraseDups

def listCheck (v : Version) (element : String) : String :=
  form [("list", function ("of_list_" ++ element) v), ("element", function ("of_" ++ element) v)] r"
static int __attribute__((unused))
«list»(uint8_t *data, int len, int *out_len)
{
	while (len > 0) {
		int cur_len = 0xffff;
		if («element»(data, len, &cur_len) < 0) {
			ρ-1;
		}
		len -= cur_len;
		data += cur_len;
	}

	ρ0;
}

"

def lengthCheck (f : Field) : Outcome String :=
  match f.role with
  | .length => do
    pure ((← readField c f "wire_len") ++ form [("base", toString c.baseLength)] r"
	if (wire_len > len || wire_len < «base») {
		ρ-1;
	}

"
    ++ when (!c.isFixedLength) "    len = wire_len;\n\n")
  | .fieldLength target => do pure ((← readField c f ("wire_len_" ++ target)) ++ "\n")
  | _ => pure ""

def measuredFields : List String :=
  c.fields.filterMap fun f =>
    match f.role with
    | .fieldLength target => some target
    | _ => none

def passOn : Outcome String := do
  if !c.isVirtual then return ""
  let d ← Class.needDiscriminator c
  let read ← readField c d "wire_type"
  let cases ← (classesBelow p c).mapM fun below => do
    pure ("    case " ++ hex (← valueBelow d below) ++ ":\n"
      ++ "        return " ++ function below.name p.version ++ "(data, len, out_len);\n")
  pure (read ++ "    switch (wire_type) \x7b\n" ++ concat cases ++ "    \x7d\n")

def uncheckedTypes : List String :=
  ["of_match_t", "of_bsn_vport_t", "of_meter_config_t", "of_meter_features_t"]

def fieldCheck (v : Version) (measured : List String) (f : Field) : String :=
  if f.role ≠ .data then "" else
  let offset := offsetText f.offset
  let isMeasured := measured.contains f.name
  when (isMeasured && f.offset.isSome) (form [("offset", offset), ("name", f.name)] r"
	if («offset» + wire_len_«name» > len) {
		ρ-1;
	}

")
  ++ (if isListField f then
      if f.offset.isNone then "    // TODO validate non fixed offset member " ++ f.name ++ "\n"
      else
        when (!isMeasured) ("    int wire_len_" ++ f.name ++ " = len - " ++ offset ++ ";\n")
        ++ form [("list", function ("of_list_" ++ elementName f.type) v), ("offset", offset),
          ("name", f.name)] r"
	if («list»(data + «offset», wire_len_«name», out_len) < 0) {
		ρ-1;
	}

"
    else if uncheckedTypes.contains f.type then "    // TODO validate " ++ f.type ++ "\n"
    else "")

def classCheck : Outcome String := do
  pure (form [("name", function c.name p.version), ("base", toString c.baseLength),
    ("fixed", when c.isFixedLength ("    len = " ++ toString c.baseLength ++ ";\n")),
    ("lengths", concat (← c.fields.mapM (lengthCheck c))),
    ("passOn", ← passOn p c),
    ("fields", each c.fields (fieldCheck p.version (measuredFields c)))] r"
static int
«name»(uint8_t *data, int len, int *out_len)
{
	if (len < «base») {
		ρ-1;
	}

«fixed»
«lengths»
«passOn»
«fields»
	*out_len = len;
	ρ0;
}

")

def versionChecks : Outcome String := do
  pure ("\n" ++ each (elementNames p) (listCheck p.version) ++ "\n"
    ++ concat (← p.classes.mapM (classCheck p)))

def declarations : String :=
  each p.classes fun c =>
    "static int __attribute__((unused)) " ++ function c.name p.version
    ++ "(uint8_t *data, int len, int *out_len);\n"

def messageCase : Outcome String := do
  let header ← orFault (p.class? "of_header") (.noProperty "name")
  pure ("    case " ++ versionName p.version ++ ":\n        return "
    ++ function header.name p.version ++ "(msg, len, &out_len);\n")

end Validator

def validatorSource (m : Model) : Outcome String := do
  let protocols := m.protocols.values
  let checks ← protocols.mapM Validator.versionChecks
  let cases ← protocols.mapM Validator.messageCase
  pure (notice ++ block r#"

/**
 *
 * AUTOMATICALLY GENERATED FILE.  Edits will be lost on regen.
 *
 * Source file for OpenFlow message validation.
 *
 */

#include "loci_log.h"
θloci.h>
θloci_validator.h>

δVALIDATOR_LOG(...) LOCI_LOG_ERROR("Validator Error: " __VA_ARGS__)

"#
    ++ "\n/* Forward declarations */\n" ++ each protocols Validator.declarations
    ++ "\n\n" ++ concat checks
    ++ form [("cases", concat cases)] r#"

int
of_validate_message(of_message_t msg, int len)
{
	of_version_t version;
	if (len < OF_MESSAGE_MIN_LENGTH ||
		len != of_message_length_get(msg)) {
		VALIDATOR_LOG("message length %d != %d", len,
					  of_message_length_get(msg));
		ρ-1;
	}

	version = of_message_version_get(msg);
	int out_len;
	switch (version) {
«cases»	default:
		VALIDATOR_LOG("Bad version %d", version);
		ρ-1;
	}
}
"#)

end FlowBindings.Loci
