import FlowBindings.Table
import FlowBindings.Text.Basic
import FlowBindings.Version

/-!
# Protocols

A protocol is everything one version of OpenFlow puts on the wire: its classes,
each with the layout of its members, and its enums. `Protocol.build` makes one
from sources; this module holds the types and the questions asked of them.

A class knows the classes above it by name, nearest first. Questions about
inheritance are questions about this list, and always have an answer.
-/

namespace FlowBindings

/-- What a field is for. -/
inductive Role where
  | data
  /-- The value that tells subclasses apart. -/
  | discriminator
  | fixed (value : Nat)
  /-- The length of the containing object. -/
  | length
  /-- The length of the named field beside it. -/
  | fieldLength (field : String)
  deriving DecidableEq, Repr

/-- The kind of member that has the role. -/
def Role.label : Role → String
  | data => "OFDataMember"
  | discriminator => "OFDiscriminatorMember"
  | fixed _ => "OFTypeMember"
  | length => "OFLengthMember"
  | fieldLength _ => "OFFieldLengthMember"

/-- Whether two roles are of one kind, whatever value or field they name. -/
def Role.sameKind : Role → Role → Bool
  | data, data => true
  | discriminator, discriminator => true
  | fixed _, fixed _ => true
  | length, length => true
  | fieldLength _, fieldLength _ => true
  | _, _ => false

/-- A named field with its place in the object. -/
structure Field where
  name : String
  type : String
  role : Role
  isFixedLength : Bool
  /-- The number of bytes it takes at least. -/
  baseLength : Nat
  /-- Its distance from the start of the object, if that is the same in every
  object. -/
  offset : Option Nat
  deriving DecidableEq, Repr

/-- A member of a class: padding or a field. -/
inductive Member where
  /-- Zero bytes, with their distance from the start of the object. -/
  | pad (length : Nat) (offset : Option Nat)
  | field (f : Field)
  deriving DecidableEq, Repr

namespace Member

/-- The field, unless the member is padding. -/
def field? : Member → Option Field
  | pad _ _ => none
  | field f => some f

/-- The number of bytes the member takes at least. -/
def baseLength : Member → Nat
  | pad length _ => length
  | field f => f.baseLength

/-- Whether the member takes the same number of bytes in every object. -/
def isFixedLength : Member → Bool
  | pad _ _ => true
  | field f => f.isFixedLength

/-- The member's distance from the start of the object, if that is always the same. -/
def offset : Member → Option Nat
  | pad _ offset => offset
  | field f => f.offset

def label : Member → String
  | pad _ _ => "OFPadMember"
  | field f => f.role.label

end Member

namespace Field

/-- The value that the field has in every object, if it has one. -/
def fixedValue? (f : Field) : Option Nat :=
  match f.role with
  | .fixed value => some value
  | _ => none

def isFixed (f : Field) : Bool :=
  f.fixedValue?.isSome

end Field

/-- What a class knows of a class above it. -/
structure Ancestor where
  name : String
  isVirtual : Bool
  deriving DecidableEq, Repr

/-- A class of objects as they lie on the wire. -/
structure Class where
  name : String
  /-- The classes above it, nearest first. -/
  ancestors : List Ancestor
  members : List Member
  /-- Whether it only stands for its subclasses. -/
  isVirtual : Bool
  params : Table String String
  isFixedLength : Bool
  /-- The number of bytes an object takes at least. -/
  baseLength : Nat
  deriving DecidableEq, Repr

namespace Class

variable (c : Class) (name : String)

/-- The name of the nearest class above, if there is one. -/
def superclass? : Option String :=
  c.ancestors.head?.map (·.name)

def fields : List Field :=
  c.members.filterMap Member.field?

def field? : Option Field :=
  c.fields.find? (·.name = name)

/-- The field that tells subclasses apart. -/
def discriminator? : Option Field :=
  c.fields.find? (·.role = .discriminator)

/-- The field that holds the length of the object. -/
def lengthField? : Option Field :=
  c.fields.find? (·.role = .length)

/-- Whether the class has a name itself or lies below a class of it. -/
def isInstanceOf : Bool :=
  c.name = name || c.ancestors.any (·.name = name)

def isSubclassOf : Bool :=
  c.name ≠ name && c.isInstanceOf name

/-- The topmost class of the hierarchy the class belongs to, if it is virtual. -/
def inheritanceRoot? : Option String :=
  match c.ancestors.getLast? with
  | none => if c.isVirtual then some c.name else none
  | some a => if a.isVirtual then some a.name else none

def asAncestor : Ancestor where
  name := c.name
  isVirtual := c.isVirtual

/-- Whether the object's length field counts the bytes that align it. -/
def hasInternalAlignment : Bool :=
  c.params.get? "length_includes_align" = some "True"

/-- Whether the object is aligned by bytes its length field does not count. -/
def hasExternalAlignment : Bool :=
  c.params.get? "length_includes_align" = some "False"

/-- Whether some field has the same value in every object. -/
def hasFixedFields : Bool :=
  c.fields.any (·.isFixed)

def isMessage : Bool := c.isInstanceOf "of_header"

def isOxm : Bool := c.isInstanceOf "of_oxm"

def isOxs : Bool := c.isInstanceOf "of_oxs"

def isAction : Bool := c.isInstanceOf "of_action"

def isActionId : Bool := c.isInstanceOf "of_action_id"

def isInstruction : Bool := c.isInstanceOf "of_instruction"

end Class

/-- A constant of an enum. -/
structure Entry where
  name : String
  value : Nat
  params : Table String String
  deriving DecidableEq, Repr

/-- An enum with its constants. -/
structure Enum where
  name : String
  entries : List Entry
  /-- Its parameters. A parameter on which versions disagree has no value. -/
  params : Table String (Option String)
  deriving DecidableEq, Repr

namespace Enum

/-- The parameter that says whether the constants are bits, as it was written. -/
def bitmask? (e : Enum) : Option String :=
  (e.params.get? "bitmask").join

/-- Whether the enum's constants are to be read as bits: it was declared with
the parameter, whatever value it was given. -/
def isBitmask (e : Enum) : Bool :=
  e.bitmask?.isSome

/-- The type of the enum's values on the wire: the declared one, or the enum's
own name. It is unknown when versions disagree. -/
def wireType? (e : Enum) : Option String :=
  match e.params.get? "wire_type" with
  | some declared => declared
  | none => some e.name

end Enum

/-- What one version puts on the wire. -/
structure Protocol where
  version : Version
  /-- Its classes; a class stands behind the classes it needs. -/
  classes : List Class
  enums : List Enum
  deriving DecidableEq, Repr

namespace Protocol

def class? (p : Protocol) (name : String) : Option Class :=
  p.classes.find? (·.name = name)

def enum? (p : Protocol) (name : String) : Option Enum :=
  p.enums.find? (·.name = name)

end Protocol

end FlowBindings
