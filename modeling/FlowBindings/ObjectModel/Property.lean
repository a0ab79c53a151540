import FlowBindings.ObjectModel.TypeChoice

/-!
# Properties

A property of an interface or a class stands for a field on the wire, or it is
derived: the version of a message, the match field of an entry. Classes also have
padding, which has no name and no accessors.
-/

namespace FlowBindings.ObjectModel

open Text

structure Property where
  name : String
  type : FieldType
  /-- The field on the wire that it stands for; a derived property has none. -/
  field : Option Field := none
  value : Option String := none
  /-- The family of entries whose accessor it shares, if its accessor is not the
  usual one. -/
  family : Option String := none
  deriving DecidableEq, Repr

inductive Part where
  | pad (length : Nat)
  | property (p : Property)
  deriving DecidableEq, Repr

def Part.property? : Part → Option Property
  | .pad _ => none
  | .property p => some p

def propertyName (field : String) : String :=
  if field = "len" then "length"
  else if field = "value_mask" then "mask"
  else if field = "group_id" then "group"
  else camelName field

namespace Property

def ofField (u : Unified) (className : String) (f : Field) : Property where
  name := propertyName f.name
  type := (chooseType u className f.name f.type).type
  field := some f

def report? (u : Unified) (className : String) (f : Field) : Option String :=
  (chooseType u className f.name f.type).report

variable (p : Property)

def isVirtual : Bool := p.field.isNone

def fieldName : String := p.field.elim "" (·.name)

def titleName : Outcome String :=
  if p.name.isEmpty then throw .noElement else pure (upperFirst p.name)

def constantName : String := upper p.fieldName

def getterName : Outcome String := do
  pure ((if p.type.pub = "boolean" then "is" else "get") ++ (← p.titleName))

def setterName : Outcome String := do pure ("set" ++ (← p.titleName))

def hasRole (test : Role → Bool) : Bool := p.field.any fun f => test f.role

def isDiscriminator : Bool := p.hasRole (· = .discriminator)

def isLength : Bool := p.hasRole (· = .length)

def measuredField? : Option String :=
  p.field.bind fun f => match f.role with
    | .fieldLength target => some target
    | _ => none

def isFieldLength : Bool := p.measuredField?.isSome

def isPublic : Bool := !p.isLength

def isData : Bool := p.hasRole (· = .data) && p.name ≠ "version"

def isDeclared : Bool := p.field.any (·.isFixed)

/-- Whether two properties count as the same: they have one name, and both or none
are derived. -/
def sameAs (q : Property) : Bool := p.name = q.name && p.isVirtual = q.isVirtual

end Property

end FlowBindings.ObjectModel
