import FlowBindings.Packing.Static

/-!
# Modules beside the classes

The modules that do not hold classes: the one that finds the package of a version, the
one that collects the modules of a version, and those with functions that classes use.
The functions of a version differ where values have other widths.
-/

namespace FlowBindings.Packing

open Text

def notice : String := plainText "_copyright.py"

def generatedNote (kind : String) : String := form [("kind", kind)] r"
# Automatically generated by LOXI from template «kind»
# Do not modify
"

def packageOf (v : Version) : String := "of" ++ v.digits

def rootText (versions : List Version) : String :=
  notice ++ generatedNote "toplevel_init.py" ++ "\nversion_names = \x7b\n"
    ++ each versions (fun v => "    " ++ toString v.wire ++ ": \"" ++ v.dotted ++ "\",\n")
    ++ block r#"
}

def protocol(ver):
	"""
	Import and ρthe protocol module for the given wire version.
	"""
"#
    ++ each versions (fun v => form [("wire", toString v.wire), ("package", packageOf v)] r"
	if ver == «wire»:
|		import «package»
		ρ«package»

")
    ++ baseClasses

def sharedText : String :=
  let kind := "generic_util.py"
  let lines := textLines kind
  notice ++ concat (lines.take 4) ++ generatedNote kind ++ concat (lines.drop 4)

def packageText (modules : List String) : String :=
  notice ++ "\n" ++ generatedNote "init.py" ++ "\nimport const\n"
    ++ each modules (fun name => "import " ++ name ++ "\n")
    ++ block r"
from const import *
from common import *
from loxi import ProtocolError
"

def functionsText (v : Version) : String :=
  let isAtLeast (w : Version) : Bool := w.wire ≤ v.wire
  let port := if v = .v10 then "H" else "L"
  let command := if v = .v10 then "H" else "B"
  let bitmap := if isAtLeast .v12 then "Q" else "L"
  let noBitmap := if isAtLeast .v12 then "0" else "const.OFPFW_ALL"
  let pair (name format : String) : String := form [("name", name), ("format", format)] r#"
def pack_«name»(value):
	ρstruct.pack("!«format»", value)

def unpack_«name»(reader):
	ρreader.read("!«format»")[0]

"#
  let init (name : String) : String := "def init_" ++ name ++ "():\n    return " ++ noBitmap ++ "\n\n"
  notice ++ generatedNote "util.py" ++ block r"

|import struct
|import loxi
|import const
|import common
|import action
"
    ++ when (isAtLeast .v11) "import instruction\n" ++ when (isAtLeast .v12) "import oxm\n"
    ++ when (isAtLeast .v13) (block r"
|import action_id
|import instruction_id
|import meter_band
")
    ++ "\n" ++ prettyFunctions
    ++ when (!isAtLeast .v12) prettyWildcards
    ++ "\n" ++ prettyPort
    ++ pair "port_no" port ++ pair "fm_cmd" command ++ init "wc_bmap" ++ pair "wc_bmap" bitmap
    ++ init "match_bmap" ++ pair "match_bmap" bitmap ++ bitmapFunctions

end FlowBindings.Packing
