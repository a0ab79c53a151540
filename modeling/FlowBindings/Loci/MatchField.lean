import FlowBindings.Model

/-!
# Match fields

A match tests fields of a packet. Versions 1.0 and 1.1 had a fixed set of
fields, each with a bit (or a few) in a word that says which of them are not
tested; later versions have one class per field, and new fields came with every
version. The C library offers the union of all of them, in the order of their
numbers, the basic ones first.
-/

namespace FlowBindings.Loci

structure MatchField where
  name : String
  type : String
  /-- Its place among the fields. -/
  rank : Nat
  deriving DecidableEq, Repr

namespace MatchField

def ignoreBitsV10 : Table String Nat :=
  [("in_port", 0), ("vlan_vid", 1), ("eth_src", 2), ("eth_dst", 3), ("eth_type", 4),
   ("ip_proto", 5), ("tcp_src", 6), ("tcp_dst", 7), ("ipv4_src", 8), ("ipv4_dst", 14),
   ("vlan_pcp", 20), ("ip_dscp", 21)]

def ignoreBitsV11 : Table String Nat :=
  [("in_port", 0), ("vlan_vid", 1), ("vlan_pcp", 2), ("eth_type", 3), ("ip_dscp", 4),
   ("ip_proto", 5), ("tcp_src", 6), ("tcp_dst", 7), ("mpls_label", 8), ("mpls_tc", 9)]

def fieldsV10 : List String :=
  ["eth_dst", "eth_src", "eth_type", "in_port", "ipv4_dst", "ip_proto", "ipv4_src", "ip_dscp",
   "tcp_dst", "tcp_src", "vlan_pcp", "vlan_vid"]

def fieldsV11 : List String :=
  fieldsV10 ++ ["mpls_label", "mpls_tc", "metadata"]

def maskedV11 : List String :=
  ["eth_dst", "eth_src", "ipv4_dst", "ipv4_src", "metadata"]

end MatchField

structure MatchFields where
  byName : Table String MatchField
  /-- The names of the fields each version has, by wire number. -/
  perVersion : Table Nat (List String)
  deriving Repr, Inhabited

namespace MatchFields

def builtin : MatchFields where
  byName := []
  perVersion := [(1, MatchField.fieldsV10), (2, MatchField.fieldsV11), (3, []), (4, []), (5, [])]

def rankOf (number : Nat) : Nat :=
  if number &&& 0xffff0000 = 0x80000000 then number &&& 0xffff else number

variable (fields : MatchFields)

def addVersion (name : String) (v : Version) : Outcome MatchFields := do
  let known ← fields.perVersion.need v.wire
  if known.contains name then throw (.assertion "")
  pure { fields with perVersion := fields.perVersion.set v.wire (known ++ [name]) }

def addClass (c : Unified.Class) : Outcome MatchFields := do
  if !c.isOxm || c.name = "of_oxm" || Text.endsWith c.name "_masked" then pure fields
  else
    let name := Text.dropFirst 7 c.name
    let number ← orFault ((c.field? "type_len").bind Field.fixedValue?) (.noProperty "value")
    let value ← orFault (c.field? "value") (.noProperty "oftype")
    let fields := { fields with
      byName := fields.byName.set name ⟨name, value.type, rankOf number⟩ }
    c.versions.keys.foldlM (fun fs v => fs.addVersion name v) fields

def build (u : Unified) : Outcome MatchFields :=
  u.classes.foldlM addClass builtin

def sorted : List MatchField :=
  fields.byName.values.mergeSort fun a b => a.rank ≤ b.rank

end MatchFields

end FlowBindings.Loci
