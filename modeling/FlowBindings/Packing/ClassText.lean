import FlowBindings.Packing.Pack
import FlowBindings.Protocol.Exact

/-!
# Classes

The text of a class: how an object is made, packed, unpacked, compared and shown. A
class that only stands for others looks for the subclass before it unpacks; a subclass
enters itself under its value in the table of the class above.
-/

namespace FlowBindings.Packing

open Text

def rootClass : String := "loxi.OFObject"

/-- A class that is to be written, with what is known of it. -/
structure Draft where
  model : Model
  protocol : Protocol
  target : Class
  above : Option Class

namespace Draft

def of (m : Model) (p : Protocol) (c : Class) : Draft :=
  { model := m, protocol := p, target := c, above := c.superclass?.bind p.class? }

variable (d : Draft)

def version : Version := d.protocol.version

def name : String := nameOf d.target

def aboveName : String := d.above.elim rootClass nameOf

/-- The fields that hold values of the object: plain ones and the one that tells
subclasses apart. -/
def values : List Field :=
  d.target.fields.filter fun f => f.role = .data || f.role = .discriminator

def choice : Outcome (Option (String × Field)) :=
  if !d.target.isVirtual then pure none
  else
    match d.target.discriminator? with
    | none => throw (.noProperty "length")
    | some f => do
      let format ← match ← (Member.field f).exactLength d.target.name with
        | 1 => pure "B"
        | 2 => pure "!H"
        | 4 => pure "!L"
        | n => throw (.noEntry (toString n))
      pure (some (format, f))

def opening : String :=
  "class " ++ d.name ++ "(" ++ d.aboveName ++ "):\n" ++ when d.target.isVirtual "    subtypes = \x7b\x7d\n\n"
    ++ each d.target.fields (fun f => f.fixedValue?.elim "" fun value =>
      "    " ++ f.name ++ " = " ++ toString value ++ "\n") ++ "\n"

/-- Setting a field of a new object. Messages get their transaction numbers when they
are sent. -/
def initField (f : Field) : Outcome String := do
  let init ← if f.name = "xid" then pure "None" else initExpression d.model d.version f.type
  pure (form [("name", f.name), ("init", init)] r"
		if «name» != None:
			self.«name» = «name»
		else:
			self.«name» = «init»
")

def initMethod : Outcome String := do
  let parameters := "self" :: d.values.map fun f => f.name ++ "=None"
  pure ("    def __init__(" ++ join ", " parameters ++ "):\n" ++ concat (← d.values.mapM d.initField)
    ++ "        return\n\n")

/-- The method that packs an object: its steps, one after another. -/
def packMethod : Outcome String := do
  let steps ← packSteps d.model d.version d.target
  pure ("    def pack(self):\n        packed = []\n" ++ each steps PackStep.render
    ++ "        return ''.join(packed)\n\n")

/-! ## Unpacking -/

/-- Taking a member from the reader. The first argument holds the names of the lengths
of fields met so far. -/
def unpackMember (lengths : Table String String) : Member → Outcome String
  | .pad length _ => pure ("        reader.skip(" ++ toString length ++ ")\n")
  | .field f => do
    let taken (reader : String) := unpackExpression d.model d.version f.type reader
    match f.role with
    | .length =>
      let value ← taken "reader"
      let start ← orFault f.offset (.wrongKind "offset")
      let length ← (Member.field f).exactLength d.target.name
      pure (form [("name", f.name), ("value", value), ("behind", toString (start + length))] r"
		_«name» = «value»
		orig_reader = reader
		reader = orig_reader.slice(_«name», «behind»)
")
    | .fieldLength _ => do pure ("        _" ++ f.name ++ " = " ++ (← taken "reader") ++ "\n")
    | .fixed value => do
      pure ("        _" ++ f.name ++ " = " ++ (← taken "reader") ++ "\n        assert(_" ++ f.name ++ " == "
        ++ toString value ++ ")\n")
    | _ => do
      let reader := (lengths.get? f.name).elim "reader" fun length => "reader.slice(_" ++ length ++ ")"
      pure ("        obj." ++ f.name ++ " = " ++ (← taken reader) ++ "\n")

def lengthsBehind (lengths : Table String String) : Member → Table String String
  | .field { name, role := .fieldLength target, .. } => lengths.set target name
  | _ => lengths

def unpackMembers (d : Draft) (lengths : Table String String) : List Member → Outcome String
  | [] => pure ""
  | x :: rest => do
    let text ← d.unpackMember lengths x
    pure (text ++ (← d.unpackMembers (lengthsBehind lengths x) rest))

def subclassSearch (choice : Option (String × Field)) : String :=
  choice.elim "" fun (format, f) =>
    form [("class", d.name), ("format", format), ("offset", f.offset.elim "None" toString)] r"
		subtype, = reader.peek('«format»', «offset»)
		subclass = «class».subtypes.get(subtype)
		if subclass:
			ρsubclass.unpack(reader)

"

def unpackMethod (choice : Option (String × Field)) : Outcome String := do
  pure ("    @staticmethod\n    def unpack(reader):\n" ++ d.subclassSearch choice
    ++ "        obj = " ++ d.name ++ "()\n" ++ (← d.unpackMembers [] d.target.members)
    ++ when d.target.hasExternalAlignment "        orig_reader.skip_align()\n"
    ++ "        return obj\n\n")

/-! ## Comparing and showing -/

def equalityMethod : String :=
  block r"
	def __eq__(self, other):
		if type(self) != type(other): ρFalse
"
    ++ each d.values (fun f => form [("name", f.name)] r"
		if self.«name» != other.«name»: ρFalse
")
    ++ "        return True\n\n"

def showField (f : Field) : Outcome String := do
  let shown (function : String) := "                q.text(" ++ function ++ "(self." ++ f.name ++ "))\n"
  let number := "                q.text(\"%#x\" % self." ++ f.name ++ ")\n"
  if f.name = "xid" then
    pure (form [("name", f.name)] r##"
				if self.«name» != None:
					q.text("%#x" % self.«name»)
				else:
					q.text('None')
"##)
  else if f.type = "of_mac_addr_t" then pure (shown "util.pretty_mac")
  else if f.type = "of_ipv4_t" then pure (shown "util.pretty_ipv4")
  else if f.type = "of_wc_bmap_t" && (d.version = .v10 || d.version = .v11) then
    pure (shown "util.pretty_wildcards")
  else if f.type = "of_port_no_t" then pure (shown "util.pretty_port")
  else if f.type = "of_ipv6_t" then pure (shown "util.pretty_ipv6")
  else if startsWith (← d.model.wireTypeOf f.type d.version) "uint" then pure number
  else pure ("                q.pp(self." ++ f.name ++ ")\n")

def showMethod : Outcome String := do
  let fields := d.target.fields.filter (·.role = .data)
  let texts ← fields.zipIdx.mapM fun (f, k) => do
    pure (when (k > 0) "                q.text(\",\"); q.breakable()\n"
      ++ "                q.text(\"" ++ f.name ++ " = \");\n" ++ (← d.showField f))
  pure (form [("class", d.name)] r##"
	def pretty_print(self, q):
		q.text("«class» {")
		with q.group():
			with q.indent(2):
				q.breakable()
"## ++ concat texts ++ block r"
			q.breakable()
		q.text('}')

")

def registration : Outcome String := do
  match d.above with
  | none => pure ""
  | some above =>
    let f ← orFault above.discriminator? (.noProperty "name")
    let own ← orFault (d.target.field? f.name) (.noProperty "value")
    let value ← orFault own.fixedValue? (.noProperty "value")
    pure (d.aboveName ++ ".subtypes[" ++ toString value ++ "] = " ++ d.name ++ "\n")

def text : Outcome String := do
  let choice ← d.choice
  let methods ← [d.initMethod, d.packMethod, d.unpackMethod choice, pure d.equalityMethod, d.showMethod,
    d.registration].mapM id
  pure (d.opening ++ concat methods)

end Draft

end FlowBindings.Packing
