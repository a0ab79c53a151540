import FlowBindings.Protocol.Basic
import FlowBindings.Text.Form
import FlowBindings.Text.Quoted

/-!
# Constants

The text of the module of constants: every constant of every enum, and for each enum a
table from values to names. In the first version ports are kept in sixteen bits.
-/

namespace FlowBindings.Packing

open Text

def untabled : List String := ["macro_definitions"]

def unnamed : List String :=
  ["OFPFW_NW_DST_BITS", "OFPFW_NW_SRC_BITS", "OFPFW_NW_SRC_SHIFT", "OFPFW_NW_DST_SHIFT",
   "OFPFW_NW_SRC_ALL", "OFPFW_NW_SRC_MASK", "OFPFW_NW_DST_ALL", "OFPFW_NW_DST_MASK", "OFPFW_ALL"]

def constantValue (v : Version) (e : Entry) : String :=
  if v = .v10 && startsWith e.name "OFPP_" then "0x" ++ hexDigits (e.value % 65536)
  else toString e.value

def enumText (v : Version) (e : Enum) : String :=
  "# Identifiers from group " ++ e.name ++ "\n"
    ++ each e.entries (fun x => x.name ++ " = " ++ constantValue v x ++ "\n") ++ "\n"
    ++ when (!untabled.contains e.name)
      (e.name ++ "_map = \x7b\n"
        ++ each (e.entries.filter fun x => !unnamed.contains x.name) (fun x =>
          "    " ++ constantValue v x ++ ": " ++ Text.quoted x.name ++ ",\n")
        ++ "\x7d\n\n")

def constantsText (p : Protocol) : String :=
  "OFP_VERSION = " ++ toString p.version.wire ++ "\n\n"
    ++ each (p.enums.mergeSort fun a b => a.name ≤ b.name) (enumText p.version)

end FlowBindings.Packing
