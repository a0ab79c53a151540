import FlowBindings.Dissector.ClassText
import FlowBindings.Tree

/-!
# Generating the dissector

The dissector is one script: the names of the constants of all enums, the fields, a
function for each class of each version, and the functions that find their way from a
packet to a message.
-/

namespace FlowBindings.Dissector

open Text

def notice : String := block r"
-- Copyright 2013, Big Switch Networks, Inc. This library was generated
-- by the LoxiGen Compiler.
--
-- This program is free software: you can redistribute it and/or modify
-- it under the terms of the GNU General Public License as published by
-- the Free Software Foundation, either version 2 of the License, or
-- (at your option) any later version.
-- 
-- This program is distributed in the hope that it will be useful,
-- but WITHOUT ANY WARRANTY; without even the implied warranty of
-- MERCHANTABILITY or FITNESS FOR A PARTICULAR PURPOSE. See the
-- GNU General Public License for more details.
-- 
-- You should have received a copy of the GNU General Public License
-- along with this program. If not, see <http://www.gnu.org/licenses/>.
"

def readerText : String := block r"
OFReader = {}
OFReader.new = function(buf, offset)
	local self = {}
	offset = offset or 0

	self.read = function(len)
		local r = buf(offset, len)
		offset = offset + len
		ρr
	end

	self.read_all = function()
		local r = buf(offset, buf:len() - offset)
		offset = buf:len()
		ρr
	end

	self.peek = function(off, len)
		ρbuf(offset + off, len)
	end

	self.peek_all = function(off)
		ρbuf(offset + off, buf:len() - offset - off)
	end

	self.skip = function(len)
		offset = offset + len
	end

	self.is_empty = function()
		ρoffset == buf:len()
	end

	self.slice = function(len)
		r = OFReader.new(buf(offset, len))
		offset = offset + len
		ρr
	end
	
	self.skip_align = function()
		offset = math.floor((offset + 7)/8)*8
	end

	ρself
end
"

def scalarReader (type length : String) : String :=
  form [("type", type), ("length", length)] r"
function read_«type»_t(reader, version, subtree, field_name)
	read_scalar(reader, subtree, field_name, «length»)
end

"

def objectReader (name : String) : String :=
  form [("name", name)] r"
function read_«name»_t(reader, version, subtree, field_name)
	if reader.is_empty() then
		return
	end
	local child_subtree = subtree:add(fields[field_name], reader.peek_all(0))
	local info = «name»_dissectors[version](reader, child_subtree)
	child_subtree:set_text(info)
end

"

def versionReader (name what : String) (arms : List String) : String :=
  let fault := "        error(\"Unsupported " ++ what ++ " version\")\n"
  "function read_" ++ name ++ "_t(reader, version, subtree, field_name)\n    "
  ++ join "    else" ((arms.zipIdx 1).map fun (arm, wire) =>
    "if version == " ++ toString wire ++ " then\n" ++ if arm.isEmpty then fault else
      "        dissect_" ++ arm ++ "(reader, subtree:add(\"" ++ name ++ "\"))\n")
  ++ "    else\n" ++ fault ++ "    end\nend\n\n"

def valueReaders : String := block r#"

function read_scalar(reader, subtree, field_name, length)
	subtree:add(fields[field_name], reader.read(length))
end

"#
  ++ scalarReader "uint8" "1" ++ scalarReader "uint16" "2" ++ scalarReader "uint32" "4"
  ++ scalarReader "uint64" "8" ++ scalarReader "of_bitmap_128" "16"
  ++ scalarReader "of_bitmap_512" "64" ++ scalarReader "of_checksum_128" "16" ++ block r"
function read_of_octets_t(reader, version, subtree, field_name)
	if not reader.is_empty() then
		subtree:add(fields[field_name], reader.read_all())
	end
end

function read_list_of_hello_elem_t(reader, version, subtree, field_name)
	-- TODO
end

"
  ++ versionReader "of_match" "match" ["of_match_v1_v1", "of_match_v2_v2", "of_match_v3_v3",
    "of_match_v3_v4", "of_match_v3_v5", "of_match_v3_v6"]
  ++ versionReader "of_stat" "statistics" ["", "", "", "", "", "of_stat_v6_v6"] ++ block r"
function read_of_wc_bmap_t(reader, version, subtree, field_name)
	if version <= 2 then
		read_scalar(reader, subtree, field_name, 4)
	else
		read_scalar(reader, subtree, field_name, 8)
	end
end

function read_of_port_no_t(reader, version, subtree, field_name)
	if version == 1 then
		read_scalar(reader, subtree, field_name, 2)
	else
		read_scalar(reader, subtree, field_name, 4)
	end
end

"
  ++ scalarReader "of_port_name" "16" ++ scalarReader "of_mac_addr" "6"
  ++ scalarReader "of_ipv4" "4" ++ scalarReader "of_ipv6" "16" ++ block r"
function read_of_fm_cmd_t(reader, version, subtree, field_name)
	if version == 1 then
		read_scalar(reader, subtree, field_name, 2)
	else
		read_scalar(reader, subtree, field_name, 1)
	end
end

"
  ++ scalarReader "of_desc_str" "256" ++ scalarReader "of_serial_num" "32"
  ++ scalarReader "of_table_name" "32" ++ scalarReader "of_str64" "64"
  ++ objectReader "of_port_desc" ++ objectReader "of_oxm" ++ objectReader "of_oxs" ++ block r#"
function read_list(reader, dissector, subtree, field_name)
	if not reader.is_empty() then
		local list_subtree = subtree:add(field_name .. " list", reader.peek_all(0))
		while not reader.is_empty() do
			local atom_subtree = list_subtree:add(field_name, reader.peek_all(0))
			local info = dissector(reader, atom_subtree)
			atom_subtree:set_text(info)
		end
	else
		return
	end
end

function read_ethernet(reader, version, subtree, field_name)
	if reader.is_empty() then
		return
	end
	local child_subtree = subtree:add(fields[field_name], reader.peek_all(0))
	child_subtree:set_text("Ethernet packet")
	ethernet_dissector:call(reader.read_all():tvb(), current_pkt, child_subtree)
end

"#
  ++ objectReader "of_bsn_vport_q_in_q" ++ block r#"
function read_openflow(reader, version, subtree, field_name)
	if reader.is_empty() then
		return
	end
	local child_subtree = subtree:add(fields[field_name], reader.peek_all(0))
	child_subtree:set_text("OpenFlow message")
	pcall(function () -- Message may be truncated, ignore errors dissecting
		p_of.dissector:call(reader.read_all():tvb(), current_pkt, child_subtree)
	end)
end
"#

def enumTable (v : Version) (e : Enum) : String :=
  "enum_v" ++ toString v.wire ++ "_" ++ e.name ++ " = \x7b\n"
    ++ each e.entries (fun x => "    [" ++ toString x.value ++ "] = \"" ++ x.name ++ "\",\n") ++ "\x7d\n\n"

def numberTypes : List String := ["uint8", "uint16", "uint32", "uint64"]

def otherTypes : List String := ["ipv4", "ipv6", "ether", "bytes", "stringz"]

def fieldText (f : Field) : Outcome String :=
  let start := "fields[" ++ Text.quoted f.fullName ++ "] = ProtoField." ++ f.style.type ++ "(\"" ++ f.fullName
    ++ "\", \"" ++ f.name ++ "\""
  if numberTypes.contains f.style.type then
    pure (start ++ ", base." ++ f.style.base ++ ", " ++ f.style.names ++ ")\n")
  else if otherTypes.contains f.style.type then pure (start ++ ")\n")
  else throw (.notCovered ("unknown Wireshark type " ++ f.style.type))

def versionTable (m : Model) (table className : String) : String :=
  "local " ++ table ++ " = \x7b\n"
    ++ each m.versions (fun v =>
      "    [" ++ toString v.wire ++ "] = " ++ functionName v className ++ ",\n")
    ++ "\x7d\n"

def text (m : Model) (versions : List Version) : Outcome String := do
  let fields ← fields m
  let definitions ← fields.mapM fieldText
  let classes ← m.protocols.mapM fun (_, p) => do pure (concat (← p.classes.mapM (classText p)))
  pure (notice ++ block r"

-- Copy this file to your wireshark plugin directory:
--   Linux / OS X: ~/.wireshark/plugins/
--   Windows: C:\Documents and Settings\<username>\Application Data\Wireshark\plugins\
-- You may need to create the directory.

-- The latest version of this dissector is always available at:
-- http://www.projectfloodlight.org/openflow.lua

" ++ readerText
    ++ block r#"

p_of = Proto ("of", "OpenFlow (LOXI)")
ethernet_dissector = Dissector.get("eth")

current_pkt = nil

local openflow_versions = {
"#
    ++ each versions (fun v => "    [" ++ toString v.wire ++ "] = \"" ++ v.dotted ++ "\",\n") ++ "\x7d\n\n"
    ++ each m.protocols (fun (v, p) => each p.enums (enumTable v) ++ "\n")
    ++ "\n\nfields = \x7b\x7d\n" ++ concat definitions
    ++ block r#"

error_field = ProtoField.string("of.error", "Error")

p_of.fields = {
"#
    ++ each fields (fun f => "    fields[" ++ Text.quoted f.fullName ++ "],\n")
    ++ block r"
	error_field,
}

-- Subclass maps for virtual classes
"
    ++ each m.protocols (fun (v, p) => each (p.classes.filter (·.isVirtual)) fun c =>
      tableName v c.name ++ " = \x7b\x7d\n")
    ++ "\n--- Dissectors for each class\n" ++ concat classes ++ "\n"
    ++ versionTable m "of_message_dissectors" "of_header" ++ "\n"
    ++ versionTable m "of_port_desc_dissectors" "of_port_desc" ++ "\n"
    ++ versionTable m "of_oxm_dissectors" "of_oxm" ++ "\n\n"
    ++ versionTable m "of_oxs_dissectors" "of_oxs" ++ "\n"
    ++ versionTable m "of_bsn_vport_q_in_q_dissectors" "of_bsn_vport_q_in_q" ++ "\n"
    ++ valueReaders ++ block r#"

function dissect_of_message(buf, root)
	local reader = OFReader.new(buf)
	local subtree = root:add(p_of, buf(0))
	local version_val = buf(0,1):uint()
	local type_val = buf(1,1):uint()

	local protocol = "OF ?"
	if openflow_versions[version_val] then
		protocol = "OF " .. openflow_versions[version_val]
	else
		ρ"Unknown protocol", "Dissection error"
	end

	if type_val == 1 then -- OpenFlow error message
		local err = subtree:add(error_field, "")
		err:set_hidden()
		err:set_generated()
		subtree:add_expert_info(PI_DEBUG, PI_WARN, "OpenFlow error message")
	end

	local info = "unknown"
	info = of_message_dissectors[version_val](reader, subtree)

	ρprotocol, info
end

-- of dissector function
function p_of.dissector (buf, pkt, root)
	local offset = 0
	current_pkt = pkt
	repeat
		if buf:len() - offset >= 4 then
			local msg_version = buf(offset,1):uint()
			local msg_type = buf(offset+1,1):uint()
			local msg_len = buf(offset+2,2):uint()

			-- Detect obviously broken messages
			if msg_version == 0 or msg_version > 6 then break end
			if msg_type > 35 then break end
			if msg_len < 8 then break end

			if offset + msg_len > buf:len() then
				-- we don't have all the data we need yet
				pkt.desegment_len = offset + msg_len - buf:len()
				pkt.desegment_offset = offset
				return
			end

			protocol, info = dissect_of_message(buf(offset, msg_len), root)

			if offset == 0 then
				pkt.cols.protocol:clear()
				pkt.cols.info:clear()
			else
				pkt.cols.protocol:append(" + ")
				pkt.cols.info:append(" + ")
			end
			pkt.cols.protocol:append(protocol)
			pkt.cols.info:append(info)
			offset = offset + msg_len
		else
			-- we don't have all of length field yet
			pkt.desegment_len = DESEGMENT_ONE_MORE_SEGMENT
			pkt.desegment_offset = offset
			return
		end
	until offset >= buf:len()
end

-- Initialization routine
function p_of.init()
end

-- register a chained dissector for OpenFlow port numbers
local tcp_dissector_table = DissectorTable.get("tcp.port")
tcp_dissector_table:add(6633, p_of)
tcp_dissector_table:add(6653, p_of)
"#)

def generate (m : Model) (versions : List Version) : Outcome Tree := do
  pure [("wireshark/openflow.lua", ← text m versions)]

end FlowBindings.Dissector
