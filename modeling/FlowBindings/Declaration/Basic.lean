/-!
# Declarations

The syntax tree of the declaration language. A file is a sequence of structs,
enums and metadata lines:

```text
#version 4
struct of_echo_request : of_header {
    uint8_t version;
    uint8_t type == 2;
    uint16_t length;
    uint32_t xid;
    of_octets_t data;
};
enum ofp_port_no(wire_type=uint32_t) { OFPP_MAX = 0xffffff00, OFPP_ANY = 0xffffffff };
```

The tree keeps what was written and nothing else: parameters in order and with
repetitions, member types in the form they were given. Reading a meaning into it
(which versions, which member holds the length) is the work of `Source`.
-/

namespace FlowBindings.Declaration

/-- The type of a member, in the form it was written. -/
inductive TypeRef where
  /-- A named type: `uint8_t`. -/
  | scalar (name : String)
  /-- An enum named as such: `enum ofp_type`. -/
  | enum (name : String)
  /-- An array with a literal or symbolic count: `uint8_t[4]`. -/
  | array (element count : String)
  /-- A list running to the end of its container: `list(of_action_t)`. -/
  | list (element : String)
  deriving DecidableEq, Repr

/-- The type as one word, the form in which later stages compare types. -/
def TypeRef.text : TypeRef → String
  | scalar name => name
  | enum name => name
  | array element count => element ++ "[" ++ count ++ "]"
  | list element => "list(" ++ element ++ ")"

inductive Member where
  /-- `pad(n)`: `n` zero bytes. -/
  | pad (length : Nat)
  /-- `type name == value`: a field with a fixed value. -/
  | fixed (type : TypeRef) (name : String) (value : Nat)
  /-- `type name == ?`: the field whose value tells subclasses apart. -/
  | discriminator (type : TypeRef) (name : String)
  /-- `type name == length(field)`: the length of another field. -/
  | fieldLength (type : TypeRef) (name field : String)
  /-- `type name`: a plain field. -/
  | data (type : TypeRef) (name : String)
  /-- A line no reader of this language writes, known by its keyword only. -/
  | unknown (keyword : String)
  deriving DecidableEq, Repr

/-- A written parameter: `name = value`. -/
abbrev Param := String × String

structure Entry where
  name : String
  params : List Param
  value : Nat
  deriving DecidableEq, Repr

end FlowBindings.Declaration

namespace FlowBindings

inductive Declaration where
  /-- `struct name(params) : parent { members };` -/
  | struct (name : String) (params : List Declaration.Param) (parent : Option String)
      (members : List Declaration.Member)
  /-- `enum name(params) { entries };` -/
  | enum (name : String) (params : List Declaration.Param) (entries : List Declaration.Entry)
  /-- `#key value` -/
  | metadata (key value : String)
  /-- A declaration of a kind the language does not have. -/
  | unknown
  deriving DecidableEq, Repr

end FlowBindings
