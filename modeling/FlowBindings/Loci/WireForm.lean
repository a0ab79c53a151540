import FlowBindings.Protocol.WireType

/-!
# How the C library reads and writes types

The C library has an accessor for each built-in type, known by a short name, and
copies a fixed number of bytes for it. Types whose form depends on the version
are resolved for the five versions the library knows.
-/

namespace FlowBindings.Loci

/-- What the C library knows about a built-in type. -/
structure WireForm where
  /-- The number of bytes it takes, if that is the same for every value. -/
  bytes : Option Nat
  /-- The name by which accessors call it. -/
  shortName : String
  deriving DecidableEq, Repr

namespace WireForm

def namedCounts : Table String Nat :=
  WireType.namedCounts.erase "OF_CONTROLLER_URI_LEN"

def builtin : Table String WireForm :=
  [("char", ⟨some 1, "char"⟩), ("uint8_t", ⟨some 1, "u8"⟩), ("uint16_t", ⟨some 2, "u16"⟩),
   ("uint32_t", ⟨some 4, "u32"⟩), ("uint64_t", ⟨some 8, "u64"⟩), ("uint128_t", ⟨some 16, "u128"⟩),
   ("of_mac_addr_t", ⟨some 6, "mac"⟩), ("of_ipv4_t", ⟨some 4, "ipv4"⟩),
   ("of_ipv6_t", ⟨some 16, "ipv6"⟩), ("of_port_name_t", ⟨some 16, "port_name"⟩),
   ("of_table_name_t", ⟨some 32, "tab_name"⟩), ("of_desc_str_t", ⟨some 256, "desc_str"⟩),
   ("of_serial_num_t", ⟨some 32, "ser_num"⟩), ("of_str64_t", ⟨some 64, "str64"⟩),
   ("of_match_v1_t", ⟨some 40, "match_v1"⟩), ("of_match_v2_t", ⟨some 88, "match_v2"⟩),
   ("of_match_v3_t", ⟨none, "match_v3"⟩), ("of_octets_t", ⟨none, "octets"⟩),
   ("of_bitmap_128_t", ⟨some 16, "bitmap_128"⟩), ("of_bitmap_512_t", ⟨some 64, "bitmap_512"⟩),
   ("of_checksum_128_t", ⟨some 16, "checksum_128"⟩)]

def knownWires : List Nat := [1, 2, 3, 4, 5]

/-- The types whose form depends on the version; the C library has them in all
versions it knows. -/
def mixed : Table String WireType.Mixed :=
  WireType.mixedTypes.filter fun (_, m) => m.forms.length = Version.all.length

variable (type : String)

/-- The type a mixed type stands for in the version with a wire number:
`none` for a type that is not mixed, `some none` for an unknown version. -/
def mixedForm? (wire : Nat) : Option (Option String) :=
  (mixed.get? type).map fun m =>
    if wire ∈ knownWires then (Version.ofWire? wire).bind (Table.get? m.forms ·) else none

def scalars : List String :=
  ["char", "uint8_t", "uint16_t", "uint32_t", "uint64_t", "uint128_t", "of_port_no_t",
   "of_fm_cmd_t", "of_wc_bmap_t", "of_match_bmap_t", "of_port_name_t", "of_table_name_t",
   "of_desc_str_t", "of_serial_num_t", "of_mac_addr_t", "of_ipv6_t", "of_ipv4_t",
   "of_bitmap_128_t", "of_checksum_128_t", "of_str64_t", "of_bitmap_512_t"]

def isScalar : Bool :=
  scalars.contains type

def shortNameOf : String :=
  match builtin.get? type with
  | some f => f.shortName
  | none => ((mixed.get? type).map (·.shortName)).getD "unknown"

def countAndBase : Except WireType.BadCount (Int × String) :=
  WireType.countAndBaseWith namedCounts type

def maintained : List String :=
  ["version", "type", "length", "err_type", "stats_type", "len", "type_len", "actions_len",
   "_command", "command", "key_length"]

def isMaintained (name : String) : Bool :=
  Text.startsWith name "pad" || maintained.contains name

def listNames : String × String :=
  let element := Text.dropLast 1 (Text.dropFirst 5 type)
  ("of_list_" ++ Text.trimTail (Text.trimLead element "of_") "_t", element)

def entryClass (listClass : String) : String :=
  "of_" ++ Text.dropFirst "of_list_".length listClass

end WireForm

end FlowBindings.Loci
