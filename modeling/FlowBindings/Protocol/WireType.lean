import FlowBindings.Table
import FlowBindings.Text.Numeral
import FlowBindings.Version

/-!
# Types on the wire

The types a declaration may use without declaring them. Some stand for another
type that depends on the version: a port number took two bytes in version 1.0
and takes four since. `mixedTypes` lists these, `baseExtents` the size of every
built-in type, and `countAndBase` reads the array notation.
-/

namespace FlowBindings

/-- How many bytes something takes at least, and whether always exactly so. -/
structure Extent where
  /-- The number of bytes it takes at least. -/
  baseLength : Nat
  /-- Whether it always takes exactly so many. -/
  isFixedLength : Bool
  deriving DecidableEq, Repr

namespace WireType

def namedCounts : Table String Nat :=
  [("OF_MAX_TABLE_NAME_LEN", 32), ("OF_MAX_PORT_NAME_LEN", 16), ("OF_ETH_ALEN", 6),
   ("OF_DESC_STR_LEN", 256), ("OF_SERIAL_NUM_LEN", 32), ("OF_CONTROLLER_URI_LEN", 32)]

/-- A type whose form depends on the version. -/
structure Mixed where
  /-- The name without `of_` and `_t`. -/
  shortName : String
  forms : List (Version × String)
  deriving DecidableEq, Repr

variable (type : String)

/-- The same form in every version. -/
private def uniform : List (Version × String) :=
  Version.all.map fun v => (v, type)

def mixedTypes : Table String Mixed :=
  [("of_port_no_t", ⟨"port_no", Version.all.map fun v =>
      (v, if v = .v10 then "uint16_t" else "uint32_t")⟩),
   ("of_port_desc_t", ⟨"port_desc", uniform "of_port_desc_t"⟩),
   ("of_bsn_vport_t", ⟨"bsn_vport", uniform "of_bsn_vport_t"⟩),
   ("of_fm_cmd_t", ⟨"fm_cmd", Version.all.map fun v =>
      (v, if v = .v10 then "uint16_t" else "uint8_t")⟩),
   ("of_wc_bmap_t", ⟨"wc_bmap", Version.all.map fun v =>
      (v, if v.wire < 3 then "uint32_t" else "uint64_t")⟩),
   ("of_match_bmap_t", ⟨"match_bmap", Version.all.map fun v =>
      (v, if v.wire < 3 then "uint32_t" else "uint64_t")⟩),
   ("of_match_t", ⟨"match", Version.all.map fun v =>
      (v, if v = .v10 then "of_match_v1_t" else if v = .v11 then "of_match_v2_t"
        else "of_match_v3_t")⟩),
   ("of_stat_t", ⟨"stat", [(.v15, "of_stat_v6_t")]⟩),
   ("of_time_t", ⟨"time", [(.v15, "of_time_t")]⟩)]

/-- The form of a type in a version: `none` if the type is not one of the mixed
ones, `some none` if it is and the version has no form of it. -/
def mixedForm? (v : Version) : Option (Option String) :=
  (mixedTypes.get? type).map fun m => Table.get? m.forms v

def baseExtents : Table String Extent :=
  [("char", ⟨1, true⟩), ("uint8_t", ⟨1, true⟩), ("uint16_t", ⟨2, true⟩), ("uint32_t", ⟨4, true⟩),
   ("uint64_t", ⟨8, true⟩), ("uint128_t", ⟨16, true⟩), ("of_mac_addr_t", ⟨6, true⟩),
   ("of_ipv4_t", ⟨4, true⟩), ("of_ipv6_t", ⟨16, true⟩), ("of_port_name_t", ⟨16, true⟩),
   ("of_table_name_t", ⟨32, true⟩), ("of_desc_str_t", ⟨256, true⟩),
   ("of_serial_num_t", ⟨32, true⟩), ("of_controller_uri_t", ⟨32, true⟩),
   ("of_str64_t", ⟨64, true⟩), ("of_match_v1_t", ⟨40, true⟩), ("of_match_v2_t", ⟨88, true⟩),
   ("of_match_v3_t", ⟨8, false⟩), ("of_stat_v6_t", ⟨8, false⟩), ("of_octets_t", ⟨0, false⟩),
   ("of_bitmap_128_t", ⟨16, true⟩), ("of_checksum_128_t", ⟨16, true⟩),
   ("of_bitmap_512_t", ⟨64, true⟩), ("of_time_t", ⟨16, true⟩)]

def isList : Bool :=
  Text.startsWith type "list("

/-- The element class of a list type: `list(of_action_t)` holds `of_action`. -/
def listElement : String :=
  Text.dropLast 3 (Text.dropFirst 5 type)

/-- The class a type `T_t` would name. -/
def className : String :=
  Text.trimLineTail type "_t"

/-- A count that is neither a number nor a named length. -/
structure BadCount where
  text : String
  deriving DecidableEq, Repr

/-- Read the array notation with some named lengths: `uint8_t[4]` is 4 times
`uint8_t`, and a type without brackets once itself. -/
def countAndBaseWith (named : Table String Nat) (type : String) : Except BadCount (Int × String) :=
  match Text.splitOn '[' type with
  | base :: bracket :: _ =>
    let text := (Text.splitOn ']' bracket).headD ""
    match named.get? text with
    | some n => .ok (n, base)
    | none =>
      match Text.readInt? 10 text with
      | some n => .ok (n, base)
      | none => .error ⟨text⟩
  | _ => .ok (1, type)

def countAndBase : Except BadCount (Int × String) :=
  countAndBaseWith namedCounts type

end WireType

end FlowBindings
