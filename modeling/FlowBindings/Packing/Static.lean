import FlowBindings.Fault
import FlowBindings.Text.Form

/-!
# Forms of modules

The forms from which modules are written, as they stand. A line that begins with two
colons is a statement of the form and leaves no text. Modules whose form holds no
statement but the inclusion of others are written from the form itself.
-/

namespace FlowBindings.Packing

open Text

/-- The terms under which forms of a year may be used, which stand above most of them. -/
def terms (year : String) : String := form [("year", year)] r#"
:: # Copyright «year», Big Switch Networks, Inc.
:: #
:: # LoxiGen is licensed under the Eclipse Public License, version 1.0 (EPL), with
:: # the following special exception:
:: #
:: # LOXI Exception
:: #
:: # As a special exception to the terms of the EPL, you may distribute libraries
:: # generated by LoxiGen (LoxiGen Libraries) under the terms of your choice, provided
:: # that copyright and licensing notices generated by LoxiGen are not altered or removed
:: # from the LoxiGen Libraries and the notice provided below is (i) included in
:: # the LoxiGen Libraries, if distributed in source code form and (ii) included in any
:: # documentation for the LoxiGen Libraries, if distributed in binary form.
:: #
:: # Notice: "Copyright 2013, Big Switch Networks, Inc. This library was generated by the LoxiGen Compiler."
:: #
:: # You may not use this file except in compliance with the EPL or LOXI Exception. You may obtain
:: # a copy of the EPL at:
:: #
:: # http://www.eclipse.org/legal/epl-v10.html
:: #
:: # Unless required by applicable law or agreed to in writing, software
:: # distributed under the License is distributed on an "AS IS" BASIS, WITHOUT
:: # WARRANTIES OR CONDITIONS OF ANY KIND, either express or implied. See the
:: # EPL for the specific language governing permissions and limitations
:: # under the EPL.
"#

def baseClasses : String := block r#"
	raise ValueError

class ProtocolError(Exception):
	"""
	Raised when failing to deserialize an invalid OpenFlow message.
	"""
	pass

class Unimplemented(Exception):
	"""
	Raised when an OpenFlow feature is not yet implemented in PyLoxi.
	"""
	pass

def unimplemented(msg):
	raise Unimplemented(msg)

class OFObject(object):
	"""
	Superclass of all OpenFlow classes
	"""
	def __init__(self, *args):
		raise NotImplementedError("cannot instantiate abstract class")

	def __ne__(self, other):
		ρnot self.__eq__(other)

	def show(self):
|		import loxi.pp
		ρloxi.pp.pp(self)
"#

def prettyFunctions : String := block r#"
def pretty_mac(mac):
	ρ':'.join(["%02x" % x for x in mac])

def pretty_ipv4(v):
	ρ"%d.%d.%d.%d" % ((v >> 24) & 0xFF, (v >> 16) & 0xFF, (v >> 8) & 0xFF, v & 0xFF)

def pretty_ipv6(v):
	ρ":".join(["%0.2x%0.2x" % (ord(v[i]), ord(v[i+1])) for i in range(0, len(v), 2)])

def pretty_flags(v, flag_names):
	set_flags = []
	for flag_name in flag_names:
		flag_value = getattr(const, flag_name)
		if v & flag_value == flag_value:
			set_flags.append(flag_name)
		elif v & flag_value:
			set_flags.append('%s&%#x' % (flag_name, v & flag_value))
		v &= ~flag_value
	if v:
		set_flags.append("%#x" % v)
	ρ'|'.join(set_flags) or '0'

"#

def prettyWildcards : String := block r"
def pretty_wildcards(v):
	if v == const.OFPFW_ALL:
		ρ'OFPFW_ALL'
	flag_names = ['OFPFW_IN_PORT', 'OFPFW_DL_VLAN', 'OFPFW_DL_SRC', 'OFPFW_DL_DST',
				  'OFPFW_DL_TYPE', 'OFPFW_NW_PROTO', 'OFPFW_TP_SRC', 'OFPFW_TP_DST',
				  'OFPFW_NW_SRC_MASK', 'OFPFW_NW_DST_MASK', 'OFPFW_DL_VLAN_PCP',
				  'OFPFW_NW_TOS']
	ρpretty_flags(v, flag_names)
"

def prettyPort : String := block r"
def pretty_port(v):
	named_ports = [(k,v2) for (k,v2) in const.__dict__.iteritems() if k.startswith('OFPP_')]
	for (k, v2) in named_ports:
		if v == v2:
			ρk
	ρv

"

def bitmapFunctions : String := block r#"
MASK64 = (1 << 64) - 1

def pack_bitmap_128(value):
	x = 0l
	for y in value:
		x |= 1 << y
	ρstruct.pack("!QQ", (x >> 64) & MASK64, x & MASK64)

def unpack_bitmap_128(reader):
	hi, lo = reader.read("!QQ")
	x = (hi << 64) | lo
	i = 0
	value = set()
	while x != 0:
		if x & 1 == 1:
			value.add(i)
		i += 1
		x >>= 1
	ρvalue

def pack_bitmap_512(value):
	words = [0] * 8
	for v in value:
		assert v < 512
		words[7-v/64] |= 1 << (v % 64)
	ρstruct.pack("!8Q", *words)

def unpack_bitmap_512(reader):
	words = reader.read("!8Q")
	x = 0l
	for word in words:
		x <<= 64
		x |= word
	i = 0
	value = set()
	while x != 0:
		if x & 1 == 1:
			value.add(i)
		i += 1
		x >>= 1
	ρvalue

def pack_checksum_128(value):
	ρstruct.pack("!QQ", (value >> 64) & MASK64, value & MASK64)

def unpack_checksum_128(reader):
	hi, lo = reader.read("!QQ")
	ρ(hi << 64) | lo
"#

def forms : Table String String :=
  [("_autogen.py", terms "2013" ++ block r#"
::
:: import inspect, os
# Automatically generated by LOXI from template #{os.path.basename(inspect.stack()[3][1])}
# Do not modify
"#),
   ("_common_extra.py", terms "2013" ++ block r#"
::
:: from loxi_globals import OFVersions
:: if version == ζ0:
match = match_v1
:: elif version == ζ1:
match = match_v2
:: elif version == ζ2:
match = match_v3
:: elif version == ζ3:
:: # HACK
match = match_v3
:: elif version == ζ4:
:: # HACK
match = match_v3
:: elif version == ζ5:
:: # HACK
match = match_v3
stat = stat_v6
:: #endif
"#),
   ("_copyright.py", terms "2013" ++ block r#"
::
# Copyright (c) 2008 The Board of Trustees of The Leland Stanford Junior University
# Copyright (c) 2011, 2012 Open Networking Foundation
# Copyright (c) 2012, 2013 Big Switch Networks, Inc.
# See the file LICENSE.pyloxi which should have been included in the source distribution
"#),
   ("_message_extra.py", terms "2013" ++ block r#"
::
def parse_header(buf):
	if len(buf) < 8:
		raise loxi.ProtocolError("too short to be an OpenFlow message")
	ρstruct.unpack_from("!BBHL", buf)

def parse_message(buf):
	msg_ver, msg_type, msg_len, msg_xid = parse_header(buf)
	if msg_ver != ofp.OFP_VERSION and msg_type != ofp.OFPT_HELLO:
		raise loxi.ProtocolError("wrong OpenFlow version (expected %d, got %d)" % (ofp.OFP_VERSION, msg_ver))
	if len(buf) != msg_len:
		raise loxi.ProtocolError("incorrect message size")
	ρmessage.unpack(loxi.generic_util.OFReader(buf))
"#),
   ("_ofclass.py", block r#"
:: superclass_pyname = ofclass.superclass.pyname if ofclass.superclass else "loxi.OFObject"
:: from loxi_ir import *
:: import py_gen.oftype
:: import py_gen.util as util
:: type_members = [m for m in ofclass.members if type(m) == OFTypeMember]
:: normal_members = [m for m in ofclass.members if type(m) == OFDataMember or
::												 type(m) == OFDiscriminatorMember]
:: if ofclass.virtual:
:: discriminator_fmts = { 1: "B", 2: "!H", 4: "!L" }
:: discriminator_fmt = discriminator_fmts[ofclass.discriminator.length]
:: #endif
class ${ofclass.pyname}(${superclass_pyname}):
:: if ofclass.virtual:
	subtypes = {}

:: #endif
:: for m in type_members:
	${m.name} = ${m.value}
:: #endfor

	def __init__(${', '.join(['self'] + ["%s=None" % m.name for m in normal_members])}):
:: for m in normal_members:
		if ${m.name} != None:
			self.${m.name} = ${m.name}
		else:
:: if m.name == 'xid':
:: # HACK for message xid
			self.${m.name} = None
:: else:
			self.${m.name} = ${py_gen.oftype.gen_init_expr(m.oftype, version=version)}
:: #endif
:: #endfor
		return

	def pack(self):
		packed = []
:: include("_pack.py", ofclass=ofclass)
		ρ''.join(packed)

	@staticmethod
	def unpack(reader):
:: if ofclass.virtual:
		subtype, = reader.peek(${repr(discriminator_fmt)}, ${ofclass.discriminator.offset})
		subclass = ${ofclass.pyname}.subtypes.get(subtype)
		if subclass:
			ρsubclass.unpack(reader)

:: #endif
		obj = ${ofclass.pyname}()
:: include("_unpack.py", ofclass=ofclass)
		ρobj

	def __eq__(self, other):
		if type(self) != type(other): ρFalse
:: for m in normal_members:
		if self.${m.name} != other.${m.name}: ρFalse
:: #endfor
		ρTrue

	def pretty_print(self, q):
:: include('_pretty_print.py', ofclass=ofclass)

:: # Register with our superclass
:: if ofclass.superclass:
:: type_field_name = ofclass.superclass.discriminator.name
:: type_value = ofclass.member_by_name(type_field_name).value
${superclass_pyname}.subtypes[${type_value}] = ${ofclass.pyname}
:: #endif
"#),
   ("_pack.py", terms "2013" ++ block r#"
::
:: # TODO coalesce format strings
:: from loxi_ir import *
:: from py_gen.oftype import gen_pack_expr
:: length_member = None
:: length_member_index = None
:: field_length_members = {}
:: field_length_indexes = {}
:: index = 0
:: for m in ofclass.members:
::	 if type(m) == OFLengthMember:
::		 length_member = m
::		 length_member_index = index
		packed.append(${gen_pack_expr(m.oftype, '0', version=version)}) # placeholder for ${m.name} at index ${index}
::	 elif type(m) == OFFieldLengthMember:
::		 field_length_members[m.field_name] = m
::		 field_length_indexes[m.field_name] = index
		packed.append(${gen_pack_expr(m.oftype, '0', version=version)}) # placeholder for ${m.name} at index ${index}
::	 elif type(m) == OFPadMember:
		packed.append('\x00' * ${m.length})
::	 else:
		packed.append(${gen_pack_expr(m.oftype, 'self.' + m.name, version=version)})
::		 if m.name in field_length_members:
::			 field_length_member = field_length_members[m.name]
::			 field_length_index = field_length_indexes[m.name]
		packed[${field_length_index}] = ${gen_pack_expr(field_length_member.oftype, 'len(packed[-1])', version=version)}
::		 #endif
::	 #endif
::	 index += 1
:: #endfor
:: if length_member_index != None:
		length = sum([len(x) for x in packed])
:: if ofclass.has_internal_alignment:
		packed.append(loxi.generic_util.pad_to(8, length))
		length += len(packed[-1])
:: #endif
		packed[${length_member_index}] = ${gen_pack_expr(length_member.oftype, 'length', version=version)}
:: #endif
:: if ofclass.has_external_alignment:
		packed.append(loxi.generic_util.pad_to(8, length))
:: #endif
"#),
   ("_pretty_print.py", terms "2013" ++ block r#"
:: from loxi_globals import OFVersions
:: import loxi_utils.loxi_utils as loxi_utils
::
		q.text("${ofclass.pyname} {")
		with q.group():
			with q.indent(2):
				q.breakable()
:: from loxi_ir import *
:: normal_members = [m for m in ofclass.members if type(m) == OFDataMember]
:: first = True
:: for m in normal_members:
:: if not first:
				q.text(","); q.breakable()
:: else:
:: first = False
:: #endif
				q.text("${m.name} = ");
:: if m.name == "xid":
				if self.${m.name} != None:
					q.text("%#x" % self.${m.name})
				else:
					q.text('None')
:: elif m.oftype == 'of_mac_addr_t':
				q.text(util.pretty_mac(self.${m.name}))
:: elif m.oftype == 'of_ipv4_t':
				q.text(util.pretty_ipv4(self.${m.name}))
:: elif m.oftype == 'of_wc_bmap_t' and version in OFVersions.from_strings("1.0", "1.1"):
				q.text(util.pretty_wildcards(self.${m.name}))
:: elif m.oftype == 'of_port_no_t':
				q.text(util.pretty_port(self.${m.name}))
:: elif m.oftype == 'of_ipv6_t':
				q.text(util.pretty_ipv6(self.${m.name}))
:: elif loxi_utils.lookup_ir_wiretype(m.oftype, version=version).startswith("uint"):
				q.text("%#x" % self.${m.name})
:: else:
				q.pp(self.${m.name})
:: #endif
:: #endfor
			q.breakable()
		q.text('}')
"#),
   ("_unpack.py", terms "2013" ++ block r#"
::
:: # TODO coalesce format strings
:: from loxi_ir import *
:: from py_gen.oftype import gen_unpack_expr
:: field_length_members = {}
:: for m in ofclass.members:
::	 if type(m) == OFPadMember:
		reader.skip(${m.length})
::	 elif type(m) == OFLengthMember:
		_${m.name} = ${gen_unpack_expr(m.oftype, 'reader', version=version)}
		orig_reader = reader
		reader = orig_reader.slice(_${m.name}, ${m.offset + m.length})
::	 elif type(m) == OFFieldLengthMember:
::		 field_length_members[m.field_name] = m
		_${m.name} = ${gen_unpack_expr(m.oftype, 'reader', version=version)}
::	 elif type(m) == OFTypeMember:
		_${m.name} = ${gen_unpack_expr(m.oftype, 'reader', version=version)}
		assert(_${m.name} == ${m.value})
::	 elif type(m) == OFDataMember or type(m) == OFDiscriminatorMember:
::		 if m.name in field_length_members:
::			 reader_expr = 'reader.slice(_%s)' % field_length_members[m.name].name
::		 else:
::			 reader_expr = 'reader'
::		 #endif
		obj.${m.name} = ${gen_unpack_expr(m.oftype, reader_expr, version=version)}
::	 #endif
:: #endfor
:: if ofclass.has_external_alignment:
		orig_reader.skip_align()
:: #endif
"#),
   ("connection.py", terms "2015" ++ block r#"
::
# Copyright 2015, Big Switch Networks, Inc.

"""
OpenFlow connection class

This class creates a thread which continually parses OpenFlow messages off the
supplied socket and places them in a queue. The class has methods for reading messages
from the RX queue, sending messages, and higher level operations like request-response
and multipart transactions.
"""

|import loxi
|import loxi.of14
|import logging
|import time
|import socket
|import errno
|import os
|import select
from threading import Condition, Lock, Thread

DEFAULT_TIMEOUT = 1

class TransactionError(Exception):
	def __str__(self):
		ρself.args[0]

	@property
	def msg(self):
		ρself.args[1]

class Connection(Thread):
	def __init__(self, sock):
		Thread.__init__(self)
		self.sock = sock
		self.logger = logging.getLogger("connection")
		self.rx = []
		self.rx_cv = Condition()
		self.tx_lock = Lock()
		self.next_xid = 1
		self.wakeup_rd, self.wakeup_wr = os.pipe()
		self.finished = False
		self.read_buffer = None

	def run(self):
		while not self.finished:
			rd, wr, err = select.select([self.sock, self.wakeup_rd], [], [])
			if self.sock in rd:
				self.process_read()
			if self.wakeup_rd in rd:
				os.read(self.wakeup_rd, 1)
		self.logger.debug("Exited event loop")

	def process_read(self):
		recvd = self.sock.recv(4096)

		self.logger.debug("Received %d bytes", len(recvd))

		buf = self.read_buffer
		if buf:
			buf += recvd
		else:
			buf = recvd

		offset = 0
		while offset < len(buf):
			if offset + 8 > len(buf):
				# Not enough data for the OpenFlow header
				break

			# Parse the header to get type
			hdr_version, hdr_type, hdr_msglen, hdr_xid = loxi.of14.message.parse_header(buf[offset:])

			# Use loxi to resolve ofp of matching version
			ofp = loxi.protocol(hdr_version)

			# Extract the raw message bytes
			if (offset + hdr_msglen) > len(buf):
				# Not enough data for the body
				break
			rawmsg = buf[offset : offset + hdr_msglen]
			offset += hdr_msglen

			msg = ofp.message.parse_message(rawmsg)
			if not msg:
				self.logger.warn("Could not parse message")
				continue

			self.logger.debug("Received message %s.%s xid %d length %d",
							  type(msg).__module__, type(msg).__name__, hdr_xid, hdr_msglen)

			with self.rx_cv:
				self.rx.append(msg)
				self.rx_cv.notify_all()

		if offset == len(buf):
			self.read_buffer = None
		else:
			self.read_buffer = buf[offset:]
			self.logger.debug("%d bytes remaining", len(self.read_buffer))

	def recv(self, predicate, timeout=DEFAULT_TIMEOUT):
		"""
		Remove and ρthe first message in the RX queue for
		which 'predicate' returns true
		"""
		assert self.is_alive()

		deadline = time.time() + timeout
		while True:
			with self.rx_cv:
				for i, msg in enumerate(self.rx):
					if predicate(msg):
						ρself.rx.pop(i)

				now = time.time()
				if now > deadline:
					ρNone
				else:
					self.rx_cv.wait(deadline - now)

	def recv_any(self, timeout=DEFAULT_TIMEOUT):
		"""
		Return the first message in the RX queue
		"""
		ρself.recv(lambda msg: True, timeout)

	def recv_xid(self, xid, timeout=DEFAULT_TIMEOUT):
		"""
		Return the first message in the RX queue with XID 'xid'
		"""
		ρself.recv(lambda msg: msg.xid == xid, timeout)

	def recv_class(self, klass, timeout=DEFAULT_TIMEOUT):
		"""
		Return the first message in the RX queue which is an instance of 'klass'
		"""
		ρself.recv(lambda msg: isinstance(msg, klass), timeout)

	def send_raw(self, buf):
		"""
		Send raw bytes on the socket
		"""
		assert self.is_alive()
		self.logger.debug("Sending raw message length %d", len(buf))
		with self.tx_lock:
			if self.sock.sendall(buf) is not None:
				raise RuntimeError("failed to send message to switch")

	def send(self, msg):
		"""
		Send a message
		"""
		assert self.is_alive()

		if msg.xid is None:
			msg.xid = self._gen_xid()
		buf = msg.pack()
		self.logger.debug("Sending message %s.%s xid %d length %d",
						  type(msg).__module__, type(msg).__name__, msg.xid, len(buf))
		with self.tx_lock:
			if self.sock.sendall(buf) is not None:
				raise RuntimeError("failed to send message to switch")

	def transact(self, msg, timeout=DEFAULT_TIMEOUT):
		"""
		Send a message and ρthe reply
		"""
		self.send(msg)
		reply = self.recv_xid(msg.xid, timeout)
		if reply is None:
			raise TransactionError("no reply for %s" % type(msg).__name__, None)
		elif isinstance(reply, loxi.protocol(reply.version).message.error_msg):
			raise TransactionError("received %s in response to %s" % (type(reply).__name__, type(msg).__name__), reply)
		ρreply

	def transact_multipart_generator(self, msg, timeout=DEFAULT_TIMEOUT):
		"""
		Send a multipart request and yield each entry from the replies
		"""
		self.send(msg)
		finished = False
		while not finished:
			reply = self.recv_xid(msg.xid, timeout)
			if reply is None:
				raise TransactionError("no reply for %s" % type(msg).__name__, None)
			elif not isinstance(reply, loxi.protocol(reply.version).message.stats_reply):
				raise TransactionError("received %s in response to %s" % (type(reply).__name__, type(msg).__name__), reply)
			for entry in reply.entries:
				yield entry
			finished = reply.flags & loxi.protocol(reply.version).OFPSF_REPLY_MORE == 0

	def transact_multipart(self, msg, timeout=DEFAULT_TIMEOUT):
		"""
		Send a multipart request and ρall entries from the replies
		"""
		entries = []
		for entry in self.transact_multipart_generator(msg, timeout):
			entries.append(entry)
		ρentries

	def stop(self):
		"""
		Signal the thread to exit and wait for it
		"""
		assert not self.finished
		self.logger.debug("Stopping connection")
		self.finished = True
		os.write(self.wakeup_wr, "x")
		self.join()
		self.sock.close()
		os.close(self.wakeup_rd)
		os.close(self.wakeup_wr)
		self.logger.debug("Stopped connection")

	def _gen_xid(self):
		xid = self.next_xid
		self.next_xid += 1
		ρxid

def connect(ip, port=6653, daemon=True, ofp=loxi.of14):
	"""
	Actively connect to a switch
	"""
	soc = socket.socket(socket.AF_INET, socket.SOCK_STREAM)
	soc.connect((ip, port))
	soc.setsockopt(socket.IPPROTO_TCP, socket.TCP_NODELAY, True)
	cxn = Connection(soc)
	cxn.daemon = daemon
	cxn.logger.debug("Connected to %s:%d", ip, port)
	cxn.start()

	cxn.send(ofp.message.hello())
	if not cxn.recv(lambda msg: msg.type == ofp.OFPT_HELLO):
		raise Exception("Did not receive HELLO")

	ρcxn

def connect_unix(path, daemon=True, ofp=loxi.of14):
	"""
	Connect over a unix domain socket
	"""
	soc = socket.socket(socket.AF_UNIX, socket.SOCK_STREAM)
	soc.connect(path)
	cxn = loxi.connection.Connection(soc)
	cxn.daemon = daemon
	cxn.logger.debug("Connected to %s", path)
	cxn.start()

	cxn.send(ofp.message.hello())
	if not cxn.recv(lambda msg: msg.type == ofp.OFPT_HELLO):
		raise Exception("Did not receive HELLO")

	ρcxn
"#),
   ("const.py", terms "2013" ++ block r#"
:: from loxi_globals import OFVersions
::
:: blacklisted_map_groups = ['macro_definitions']
:: blacklisted_map_idents = ['OFPFW_NW_DST_BITS', 'OFPFW_NW_SRC_BITS',
::	 'OFPFW_NW_SRC_SHIFT', 'OFPFW_NW_DST_SHIFT', 'OFPFW_NW_SRC_ALL',
::	 'OFPFW_NW_SRC_MASK', 'OFPFW_NW_DST_ALL', 'OFPFW_NW_DST_MASK',
::	 'OFPFW_ALL']
:: include('_copyright.py')

:: include('_autogen.py')

OFP_VERSION = ${version.wire_version}

:: for enum in sorted(enums, key=lambda enum: enum.name):
# Identifiers from group ${enum.name}
::	for (ident, value) in enum.values:
::		if version == ζ0 and ident.startswith('OFPP_'):
::		# HACK loxi converts these to 32-bit
${ident} = ${"%#x" % (value & 0xffff)}
::		else:
${ident} = ${value}
::		#endif
::	#endfor

::	if enum.name not in blacklisted_map_groups:
${enum.name}_map = {
::		for (ident, value) in enum.values:
::			if ident in blacklisted_map_idents:
::				pass
::			elif version == ζ0 and ident.startswith('OFPP_'):
::				# HACK loxi converts these to 32-bit
	${"%#x" % (value & 0xffff)}: ${repr(ident)},
::		else:
	${value}: ${repr(ident)},
::			#endif
::		#endfor
}

::	 #endif
:: #endfor
"#),
   ("generic_util.py", terms "2013" ++ block r#"
::
:: include('_copyright.py')
"""
Utility functions independent of the protocol version
"""

:: include('_autogen.py')

|import loxi
|import struct

def pack_list(values):
	ρ"".join([x.pack() for x in values])

def unpack_list(reader, deserializer):
	"""
	The deserializer function should take an OFReader and ρthe new object.
	"""
	entries = []
	while not reader.is_empty():
		entries.append(deserializer(reader))
	ρentries

def pad_to(alignment, length):
	"""
	Return a string of zero bytes that will pad a string of length 'length' to
	a multiple of 'alignment'.
	"""
	ρ"\x00" * ((length + alignment - 1)/alignment*alignment - length)

class OFReader(object):
	"""
	Cursor over a read-only buffer

	OpenFlow messages are best thought of as a sequence of elements of
	variable size, rather than a C-style struct with fixed offsets and
	known field lengths. This class supports efficiently reading
	fields sequentially and is intended to be used recursively by the
	parsers of child objects which will implicitly update the offset.

	buf: buffer object
	start: initial position in the buffer
	length: number of bytes after start
	offset: distance from start
	"""
	def __init__(self, buf, start=0, length=None):
		self.buf = buf
		self.start = start
		if length is None:
			self.length = len(buf) - start
		else:
			self.length = length
		self.offset = 0

	def read(self, fmt):
		st = struct.Struct(fmt)
		if self.offset + st.size > self.length:
			raise loxi.ProtocolError("Buffer too short")
		result = st.unpack_from(self.buf, self.start+self.offset)
		self.offset += st.size
		ρresult

	def read_all(self):
		s = self.buf[(self.start+self.offset):(self.start+self.length)]
		assert(len(s) == self.length - self.offset)
		self.offset = self.length
		ρs

	def peek(self, fmt, offset=0):
		st = struct.Struct(fmt)
		if self.offset + offset + st.size > self.length:
			raise loxi.ProtocolError("Buffer too short")
		result = st.unpack_from(self.buf, self.start + self.offset + offset)
		ρresult

	def skip(self, length):
		if self.offset + length > self.length:
			raise loxi.ProtocolError("Buffer too short")
		self.offset += length

	def skip_align(self):
		new_offset = (self.offset + 7) / 8 * 8
		if new_offset > self.length:
			raise loxi.ProtocolError("Buffer too short")
		self.offset = new_offset

	def is_empty(self):
		ρself.offset == self.length

	# Used when parsing objects that have their own length fields
	def slice(self, length, rewind=0):
		if self.offset + length - rewind > self.length:
			raise loxi.ProtocolError("Buffer too short")
		reader = OFReader(self.buf, self.start + self.offset - rewind, length)
		reader.skip(rewind)
		self.offset += length - rewind
		ρreader
"#),
   ("init.py", terms "2013" ++ block r#"
::
:: include('_copyright.py')

:: include('_autogen.py')

|import const
:: for module in modules:
|import ${module}
:: #endfor
from const import *
from common import *
from loxi import ProtocolError
"#),
   ("module.py", terms "2013" ++ block r#"
::
:: from loxi_globals import OFVersions
:: import py_gen.oftype
:: include('_copyright.py')

:: include('_autogen.py')

|import struct
|import loxi
|import util
|import loxi.generic_util

|import sys
ofp = sys.modules['loxi.${subdir}']

:: for ofclass in ofclasses:
:: include('_ofclass.py', ofclass=ofclass)

:: #endfor

:: if 'extra_template' in locals():
:: include(extra_template)
:: #endif
"#),
   ("pp.py", terms "2013" ++ block r#"
::
# Copyright 2013, Big Switch Networks, Inc.

"""
pp - port of Ruby's PP library
Also based on Lindig, C., & GbR, G. D. (2000). Strictly Pretty.

Example usage:
>>> import pp.pp as pp
>>> print pp([[1, 2], [3, 4]], maxwidth=15)
[
  [ 1, 2 ],
  [ 3, 4 ]
]
"""
|import unittest
from contextlib import contextmanager

def pp(obj, maxwidth=79):
	"""
	Pretty-print the given object.
	"""
	ctx = PrettyPrinter(maxwidth=maxwidth)
	ctx.pp(obj)
	ρstr(ctx)


## Pretty-printers for builtin classes

def pretty_print_list(pp, obj):
	with pp.group():
		pp.text('[')
		with pp.indent(2):
			for v in obj:
				if not pp.first(): pp.text(',')
				pp.breakable()
				pp.pp(v)
		pp.breakable()
		pp.text(']')

def pretty_print_dict(pp, obj):
	with pp.group():
		pp.text('{')
		with pp.indent(2):
			for (k, v) in sorted(obj.items()):
				if not pp.first(): pp.text(',')
				pp.breakable()
				pp.pp(k)
				pp.text(': ')
				pp.pp(v)
		pp.breakable()
		pp.text('}')

pretty_printers = {
	list: pretty_print_list,
	dict: pretty_print_dict,
}


## Implementation

class PrettyPrinter(object):
	def __init__(self, maxwidth):
		self.maxwidth = maxwidth
		self.cur_indent = 0
		self.root_group = Group()
		self.group_stack = [self.root_group]

	def current_group(self):
		ρself.group_stack[-1]

	def text(self, s):
		self.current_group().append(str(s))

	def breakable(self, sep=' '):
		self.current_group().append(Breakable(sep, self.cur_indent))

	def first(self):
		ρself.current_group().first()

	@contextmanager
	def indent(self, n):
		self.cur_indent += n
		yield
		self.cur_indent -= n

	@contextmanager
	def group(self):
		self.group_stack.append(Group())
		yield
		new_group = self.group_stack.pop()
		self.current_group().append(new_group)

	def pp(self, obj):
		if hasattr(obj, "pretty_print"):
			obj.pretty_print(self)
		elif type(obj) in pretty_printers:
			pretty_printers[type(obj)](self, obj)
		else:
			self.text(repr(obj))

	def __str__(self):
		ρself.root_group.render(0, self.maxwidth)

class Group(object):
	__slots__ = ["fragments", "length", "_first"]

	def __init__(self):
		self.fragments = []
		self.length = 0
		self._first = True

	def append(self, x):
		self.fragments.append(x)
		self.length += len(x)

	def first(self):
		if self._first:
			self._first = False
			ρTrue
		ρFalse

	def __len__(self):
		ρself.length

	def render(self, curwidth, maxwidth):
		dobreak = len(self) > (maxwidth - curwidth)

		a = []
		for x in self.fragments:
			if isinstance(x, Breakable):
				if dobreak:
					a.append('\n')
					a.append(' ' * x.indent)
					curwidth = 0
				else:
					a.append(x.sep)
			elif isinstance(x, Group):
				a.append(x.render(curwidth, maxwidth))
			else:
				a.append(x)
			curwidth += len(a[-1])
		ρ''.join(a)

class Breakable(object):
	__slots__ = ["sep", "indent"]

	def __init__(self, sep, indent):
		self.sep = sep
		self.indent = indent

	def __len__(self):
		ρlen(self.sep)


## Tests

class TestPP(unittest.TestCase):
	def test_scalars(self):
		self.assertEquals(pp(1), "1")
		self.assertEquals(pp("foo"), "'foo'")

	def test_hash(self):
		expected = """{ 1: 'a', 'b': 2 }"""
		self.assertEquals(pp(eval(expected)), expected)
		expected = """\
{
  1: 'a',
  'b': 2
}"""
		self.assertEquals(pp(eval(expected), maxwidth=0), expected)

	def test_array(self):
		expected = """[ 1, 'a', 2 ]"""
		self.assertEquals(pp(eval(expected)), expected)
		expected = """\
[
  1,
  'a',
  2
]"""
		self.assertEquals(pp(eval(expected), maxwidth=0), expected)

	def test_nested(self):
		expected = """[ [ 1, 2 ], [ 3, 4 ] ]"""
		self.assertEquals(pp(eval(expected)), expected)
		expected = """\
[
  [
	1,
	2
  ],
  [
	3,
	4
  ]
]"""
		self.assertEquals(pp(eval(expected), maxwidth=0), expected)

	def test_breaking(self):
		expected = """\
[
  [ 1, 2 ],
  'abcdefghijklmnopqrstuvwxyz'
]"""
		self.assertEquals(pp(eval(expected), maxwidth=24), expected)
		expected = """\
[
  [ 'abcd', 2 ],
  [ '0123456789' ],
  [
	'0123456789',
	'abcdefghij'
  ],
  [ 'abcdefghijklmnop' ],
  [
	'abcdefghijklmnopq'
  ],
  { 'k': 'v' },
  {
	1: [ 2, [ 3, 4 ] ],
	'foo': 'abcdefghijklmnop'
  }
]"""
		self.assertEquals(pp(eval(expected), maxwidth=24), expected)
		expected = """\
[
  [ 1, 2 ],
  [ 3, 4 ]
]"""
		self.assertEquals(pp(eval(expected), maxwidth=15), expected)

	# This is an edge case where our simpler algorithm breaks down.
	@unittest.expectedFailure
	def test_greedy_breaking(self):
		expected = """\
abc def
ghijklmnopqrstuvwxyz\
"""
		pp = PrettyPrinter(maxwidth=8)
		pp.text("abc")
		with pp.group():
			pp.breakable()
		pp.text("def")
		with pp.group():
			pp.breakable()
		pp.text("ghijklmnopqrstuvwxyz")
		self.assertEquals(str(pp), expected)

if __name__ == '__main__':
	unittest.main()
"#),
   ("toplevel_init.py", terms "2013" ++ block r#"
::
:: include('_copyright.py')
:: import loxi_globals
:: include('_autogen.py')

version_names = {
:: for v in loxi_globals.OFVersions.all_supported:
	${v.wire_version}: "${v.version}",
:: #endfor
}

def protocol(ver):
	"""
	Import and ρthe protocol module for the given wire version.
	"""
:: for v in loxi_globals.OFVersions.all_supported:
	if ver == ${v.wire_version}:
|		import of${v.version.replace('.', '')}
		ρof${v.version.replace('.', '')}

:: #endfor
"#
    ++ baseClasses),
   ("util.py", terms "2013" ++ block r#"
::
:: include('_copyright.py')
:: from loxi_globals import OFVersions
:: include('_autogen.py')

|import struct
|import loxi
|import const
|import common
|import action
:: if version >= ζ1:
|import instruction
:: #endif
:: if version >= ζ2:
|import oxm
:: #endif
:: if version >= ζ3:
|import action_id
|import instruction_id
|import meter_band
:: #endif

"#
    ++ prettyFunctions ++ block r"
:: if version in (ζ0, ζ1):
"
    ++ prettyWildcards ++ block r"
:: #endif

"
    ++ prettyPort ++ block r#"
def pack_port_no(value):
:: if version == ζ0:
	ρstruct.pack("!H", value)
:: else:
	ρstruct.pack("!L", value)
:: #endif

def unpack_port_no(reader):
:: if version == ζ0:
	ρreader.read("!H")[0]
:: else:
	ρreader.read("!L")[0]
:: #endif

def pack_fm_cmd(value):
:: if version == ζ0:
	ρstruct.pack("!H", value)
:: else:
	ρstruct.pack("!B", value)
:: #endif

def unpack_fm_cmd(reader):
:: if version == ζ0:
	ρreader.read("!H")[0]
:: else:
	ρreader.read("!B")[0]
:: #endif

def init_wc_bmap():
:: if version <= ζ1:
	ρconst.OFPFW_ALL
:: else:
	ρ0
:: #endif

def pack_wc_bmap(value):
:: if version <= ζ1:
	ρstruct.pack("!L", value)
:: else:
	ρstruct.pack("!Q", value)
:: #endif

def unpack_wc_bmap(reader):
:: if version <= ζ1:
	ρreader.read("!L")[0]
:: else:
	ρreader.read("!Q")[0]
:: #endif

def init_match_bmap():
:: if version <= ζ1:
	ρconst.OFPFW_ALL
:: else:
	ρ0
:: #endif

def pack_match_bmap(value):
:: if version <= ζ1:
	ρstruct.pack("!L", value)
:: else:
	ρstruct.pack("!Q", value)
:: #endif

def unpack_match_bmap(reader):
:: if version <= ζ1:
	ρreader.read("!L")[0]
:: else:
	ρreader.read("!Q")[0]
:: #endif

"#
    ++ bitmapFunctions)]

variable (name : String)

def rawForm : Outcome String :=
  orFault (forms.get? name) (.badValue ("template " ++ name ++ " not found"))

def isStatement (line : String) : Bool := startsWith (trimLeft line) "::"

def textLines : List String :=
  (linesKept ((forms.get? name).getD "")).filter (!isStatement ·)

def plainText : String := concat (textLines name)

end FlowBindings.Packing
