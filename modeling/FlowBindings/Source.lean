import FlowBindings.Declaration.Parser
import FlowBindings.Table
import FlowBindings.Version

/-!
# Sources

A source is what one file of declarations means: the versions it speaks about
and the classes and enums it declares, in file order. Three readings turn a
syntax tree into a source:

* a plain field called `length` or `len` holds the length of its object, and one
  called `version` holds the protocol version;
* a class with a discriminator is virtual, and a class has at most one;
* `#version` lines name the versions by wire number, or `any` for all of them,
  and there must be at least one.
-/

namespace FlowBindings

namespace Source

/-- What a declared field is for. -/
inductive Role where
  | data
  | length
  /-- The protocol version of the containing object. -/
  | version
  /-- The value that tells subclasses apart. -/
  | discriminator
  | fixed (value : Nat)
  /-- The length of the named field beside it. -/
  | fieldLength (field : String)
  deriving DecidableEq, Repr

def Role.label : Role → String
  | data => "OFDataMember"
  | length => "OFLengthMember"
  | version => "OFVersionMember"
  | discriminator => "OFDiscriminatorMember"
  | fixed _ => "OFTypeMember"
  | fieldLength _ => "OFFieldLengthMember"

/-- A declared member. -/
inductive Member where
  | pad (length : Nat)
  | field (name type : String) (role : Role)
  deriving DecidableEq, Repr

/-- The name of a member; padding has none. -/
def Member.name? : Member → Option String
  | pad _ => none
  | field name _ _ => some name

/-- The type of a member; padding has none. -/
def Member.type? : Member → Option String
  | pad _ => none
  | field _ type _ => some type

def Member.isDiscriminator : Member → Bool
  | field _ _ .discriminator => true
  | _ => false

/-- A declared class. -/
structure Class where
  name : String
  superclass : Option String
  /-- Its members, in wire order. -/
  members : List Member
  isVirtual : Bool
  params : Table String String
  deriving DecidableEq, Repr

/-- A declared constant. -/
structure Entry where
  name : String
  value : Nat
  params : Table String String
  deriving DecidableEq, Repr

/-- A declared enum. -/
structure Enum where
  name : String
  /-- Its constants, in file order. -/
  entries : List Entry
  params : Table String String
  deriving DecidableEq, Repr

end Source

/-- What one file of declarations means. -/
structure Source where
  file : String
  /-- The versions it speaks about, oldest first. -/
  versions : List Version
  /-- Its classes, in file order. -/
  classes : List Source.Class
  /-- Its enums, in file order. -/
  enums : List Source.Enum
  deriving DecidableEq, Repr

namespace Source

/-- Why declarations make no source. -/
inductive Error where
  /-- A member of a kind the language does not have. -/
  | unknownMember (keyword : String)
  /-- A class with more than one discriminator, each as diagnostics show it. -/
  | manyDiscriminators (className : String) (found : List String)
  /-- A wire number no version has, as diagnostics show it. -/
  | unknownVersion (shown : String)
  /-- A version that is no number. -/
  | badVersion (word : String)
  /-- No `#version` line at all. -/
  | noVersion
  deriving DecidableEq, Repr

def Member.render : Member → String
  | pad length => "OFPadMember(length=" ++ toString length ++ ")"
  | field name type role =>
    role.label ++ "(name=" ++ Text.quoted name ++ ", oftype=" ++ Text.quoted type
      ++ (match role with
        | .fixed value => ", value=" ++ toString value
        | .fieldLength target => ", field_name=" ++ Text.quoted target
        | _ => "")
      ++ ")"

def Error.message : Error → String
  | unknownMember keyword => "Dont know how to create member: " ++ keyword
  | manyDiscriminators className found =>
    className ++ ": Cannot support more than one discriminator by class - got ["
      ++ Text.join ", " found ++ "]"
  | unknownVersion shown => "Unrecognized wire protocol version " ++ shown
  | badVersion word => "invalid literal for int() with base 10: " ++ Text.quoted word
  | noVersion => "Missing #version metadata"

variable (name : String)

/-- What a plain field is for, told by its name. -/
def roleOfName : Role :=
  if name = "length" ∨ name = "len" then .length
  else if name = "version" then .version
  else .data

def Member.ofDeclaration : Declaration.Member → Except Error Member
  | .pad length => .ok (.pad length)
  | .fixed type name value => .ok (.field name type.text (.fixed value))
  | .discriminator type name => .ok (.field name type.text .discriminator)
  | .fieldLength type name target => .ok (.field name type.text (.fieldLength target))
  | .data type name => .ok (.field name type.text (roleOfName name))
  | .unknown keyword => .error (.unknownMember keyword)

/-- The class of a struct's lines, virtual if one of them is a discriminator. -/
def Class.ofDeclaration (params : List Declaration.Param)
    (parent : Option String) (lines : List Declaration.Member) : Except Error Class := do
  let members ← lines.mapM Member.ofDeclaration
  let discriminators := members.filter Member.isDiscriminator
  if discriminators.length > 1 then
    throw (.manyDiscriminators name (discriminators.map Member.render))
  pure
    { name := name
      superclass := parent
      members := members
      isVirtual := !discriminators.isEmpty
      params := Table.ofPairs params }

def Enum.ofDeclaration (params : List Declaration.Param)
    (entries : List Declaration.Entry) : Enum where
  name := name
  entries := entries.map fun e =>
    { name := e.name, value := e.value, params := Table.ofPairs e.params }
  params := Table.ofPairs params

/-- The versions a `#version` line names. -/
def versionsOfWord (word : String) : Except Error (List Version) :=
  if word = "any" then .ok Version.all
  else
    match Text.readInt? 10 word with
    | none => .error (.badVersion word)
    | some (.ofNat n) =>
      match Version.ofWire? n with
      | some v => .ok [v]
      | none => .error (.unknownVersion (Text.quoted word))
    | some (.negSucc _) => .error (.unknownVersion (Text.quoted word))

/-- Add what a declaration means. -/
def add (s : Source) : Declaration → Except Error Source
  | .struct name params parent members => do
    let c ← Class.ofDeclaration name params parent members
    pure { s with classes := s.classes ++ [c] }
  | .enum name params entries =>
    pure { s with enums := s.enums ++ [Enum.ofDeclaration name params entries] }
  | .metadata key value =>
    if key = "version" then do
      let vs ← versionsOfWord value
      pure { s with versions := Version.all.filter fun v => v ∈ s.versions ∨ v ∈ vs }
    else pure s
  | .unknown => pure s

/-- The source of a file's declarations, which must name a version. -/
def ofDeclarations (file : String) (ds : List Declaration) : Except Error Source := do
  let s ← ds.foldlM add { file := file, versions := [], classes := [], enums := [] }
  if s.versions.isEmpty then throw .noVersion
  pure s

end Source

end FlowBindings
