import FlowBindings.Model
import FlowBindings.Packing.Naming
import FlowBindings.Text.Form

/-!
# Expressions for values

For every type on the wire there are expressions that give a first value, turn a value
into bytes and take it from a reader. Lists have expressions of their own; a type that
has none is marked as not implemented, and only fails when the code runs.
-/

namespace FlowBindings.Packing

open Text

/-- The expressions for a type, with the place `«x»` for a value or a reader. -/
structure Codec where
  init : String
  pack : String
  unpack : String
  deriving DecidableEq, Repr

namespace Codec

def number (format : String) : Codec where
  init := "0"
  pack := "struct.pack(\"!" ++ format ++ "\", «x»)"
  unpack := "«x».read(\"!" ++ format ++ "\")[0]"

def byFunctions (name init : String) : Codec where
  init := init
  pack := "util.pack_" ++ name ++ "(«x»)"
  unpack := "util.unpack_" ++ name ++ "(«x»)"

def fixedText (length : Nat) : Codec where
  init := "\"\""
  pack := "struct.pack(\"!" ++ toString length ++ "s\", «x»)"
  unpack := "«x».read(\"!" ++ toString length ++ "s\")[0].rstrip(\"\\x00\")"

def object (className : String) : Codec where
  init := className ++ "()"
  pack := "«x».pack()"
  unpack := className ++ ".unpack(«x»)"

end Codec

def codecs : Table String Codec :=
  [("char", .number "B"), ("uint8_t", .number "B"), ("uint16_t", .number "H"), ("uint32_t", .number "L"),
   ("uint64_t", .number "Q"), ("of_port_no_t", .byFunctions "port_no" "0"),
   ("of_fm_cmd_t", .byFunctions "fm_cmd" "0"),
   ("of_wc_bmap_t", .byFunctions "wc_bmap" "util.init_wc_bmap()"),
   ("of_match_bmap_t", .byFunctions "match_bmap" "util.init_match_bmap()"),
   ("of_ipv4_t", .number "L"),
   ("of_ipv6_t",
    { init := "'" ++ repeated 16 "\\x00" ++ "'"
      pack := "struct.pack(\"!16s\", «x»)"
      unpack := "«x».read('!16s')[0]" }),
   ("of_mac_addr_t",
    { init := "[0,0,0,0,0,0]"
      pack := "struct.pack(\"!6B\", *«x»)"
      unpack := "list(«x».read('!6B'))" }),
   ("of_octets_t", { init := "''", pack := "«x»", unpack := "str(«x».read_all())" }),
   ("of_bitmap_128_t", .byFunctions "bitmap_128" "set()"),
   ("of_oxm_t", { init := "None", pack := "«x».pack()", unpack := "ofp.oxm.oxm.unpack(«x»)" }),
   ("of_checksum_128_t", .byFunctions "checksum_128" "0"),
   ("of_bitmap_512_t", .byFunctions "bitmap_512" "set()"),
   ("of_port_name_t", .fixedText 16), ("of_table_name_t", .fixedText 32),
   ("of_serial_num_t", .fixedText 32), ("of_desc_str_t", .fixedText 256), ("of_str64_t", .fixedText 64),
   ("of_match_t", .object "ofp.match"), ("of_port_desc_t", .object "ofp.port_desc"),
   ("of_meter_features_t", .object "ofp.meter_features"), ("of_bsn_vport_t", .object "ofp.bsn_vport"),
   ("of_table_desc_t", .object "ofp.table_desc"), ("of_stat_t", .object "ofp.stat")]

def place (expression form : String) : String := fill [("x", expression)] form

variable (m : Model) (v : Version) (type : String)

/-- The expressions for a type in a version; those for an enum are those for its type
on the wire. -/
def codecOf? : Outcome (Option Codec) := do
  pure (codecs.get? (← m.wireTypeOf type v))

def unimplemented (what type : String) : String := "loxi.unimplemented('" ++ what ++ " " ++ type ++ "')"

def initExpression : Outcome String := do
  match ← codecOf? m v type with
  | some c => pure c.init
  | none => pure (if WireType.isList type then "[]" else unimplemented "init" type)

def packExpression (value : String) : Outcome String := do
  match ← codecOf? m v type with
  | some c => pure (place value c.pack)
  | none =>
    pure (if WireType.isList type then "loxi.generic_util.pack_list(" ++ value ++ ")"
      else unimplemented "pack" type)

/-- The expression for a value taken from a reader. The class of the elements of a list
must be known. -/
def unpackExpression (reader : String) : Outcome String := do
  match ← codecOf? m v type with
  | some c => pure (place reader c.unpack)
  | none =>
    if WireType.isList type then
      let element := WireType.listElement type
      let p ← orFault (m.protocol? v) (.noEntry v.dotted)
      let c ← orFault (p.class? element) (.assertion ("No class named " ++ Text.quoted element))
      pure ("loxi.generic_util.unpack_list(" ++ reader ++ ", ofp." ++ moduleOf c ++ "." ++ nameOf c
        ++ ".unpack)")
    else pure (unimplemented "unpack" type)

end FlowBindings.Packing
