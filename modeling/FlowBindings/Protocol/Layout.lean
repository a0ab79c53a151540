import FlowBindings.Protocol.Basic
import FlowBindings.Protocol.WireType
import FlowBindings.Source

/-!
# Layout

Where the members of a declared class lie on the wire. Members lie one after
another, so a member's offset is the sum of the lengths before it, as long as
all of those are fixed; behind the first member of variable length no offset is
known any more.

The extent of a member follows from its type alone, given the version and the
classes and enums known so far (`Context.typeExtent`): lists and `octets` have
no length of their own, arrays multiply, an enum is as long as its wire type,
and a class is as long as its layout says, rounded up to eight bytes when its
own length field leaves the alignment out.

Layouts are filed by what a member looks like (`Source.Member.key`). Two members
of one class that look alike share one place in the file, and the later of the
two is the one found there.
-/

namespace FlowBindings

/-- Why sources make no protocol. -/
inductive Protocol.Error where
  /-- A class declared twice: in `file`, and before that in `previous`. -/
  | classRedefined (file name previous : String)
  | enumRedefined (file name previous : String)
  /-- A class extends one that is not declared. -/
  | classNotFound (name : String)
  /-- Classes that need each other; the last name occurs before. -/
  | cycle (path : List String)
  | recursiveStruct (className field : String)
  /-- A member of a type nothing is known about. -/
  | unknownType (className field type : String)
  /-- An array count that is no number. -/
  | badCount (text : String)
  /-- A type that has no form in the version. -/
  | noForm (type : String)
  /-- A class to be identified by its fixed part whose fixed part is not fixed. -/
  | variableId (name : String)
  /-- A class to be identified that is not declared. -/
  | undeclaredId (name : String)
  /-- A walk that is deeper than there are classes, and so has no end. -/
  | endless (name : String)
  deriving DecidableEq, Repr

def Protocol.Error.message : Protocol.Error → String
  | classRedefined file name previous =>
    "Error parsing " ++ file ++ ". Class " ++ name ++ " redefined (already defined in "
      ++ previous ++ ")"
  | enumRedefined file name previous =>
    "Error parsing " ++ file ++ ". Enum " ++ name ++ " redefined (already defined in "
      ++ previous ++ ")"
  | classNotFound name => "Class not found: " ++ name
  | cycle path => "Dependency cycle: " ++ Text.join " -> " path
  | recursiveStruct className field =>
    "Error: recursive struct found: " ++ className ++ ", " ++ field
  | unknownType className field type =>
    "Unknown type for " ++ className ++ "." ++ field ++ ": " ++ type
  | badCount text => "invalid literal for int() with base 10: " ++ Text.quoted text
  | noForm type => type
  | variableId _ => ""
  | undeclaredId name => name
  | endless _ => "maximum recursion depth exceeded"

/-- What a member looks like: everything declared about it except which of the
valueless roles it has. -/
inductive Source.Member.Key where
  | pad (length : Nat)
  /-- A field without a value. -/
  | plain (name type : String)
  | valued (name type : String) (value : Nat)
  | measuring (name type field : String)
  deriving DecidableEq, Repr

/-- What the member looks like. A length and data of one name and type look alike. -/
def Source.Member.key : Source.Member → Source.Member.Key
  | pad length => .pad length
  | field name type (.fixed value) => .valued name type value
  | field name type (.fieldLength target) => .measuring name type target
  | field name type _ => .plain name type

/-- The place of a member in its object. -/
structure Slot where
  /-- Its distance from the start of the object, if always the same. -/
  offset : Option Nat
  extent : Extent
  deriving DecidableEq, Repr

/-- What is known when a class is laid out. -/
structure Context where
  version : Version
  classes : List Class
  enums : List Enum
  deriving Repr

namespace Context

/-- `n` rounded up to a multiple of eight. -/
def roundUp8 (n : Nat) : Nat := (n + 7) / 8 * 8

variable (ctx : Context)

/-- The name under which the built-in types hold a base: an enum goes by its wire type. -/
def tableName (base : String) : String :=
  match ctx.enums.find? (·.name = base) with
  | some e => e.wireType?.getD base
  | none => base

/-- What a type takes that is neither a list nor `octets`. -/
def typeExtent (className field type : String) : Except Protocol.Error Extent := do
  let (count, written) ←
    match WireType.countAndBase type with
    | .ok r => pure r
    | .error e => throw (.badCount e.text)
  let base ←
    match WireType.mixedForm? written ctx.version with
    | none => pure written
    | some (some form) => pure form
    | some none => throw (.noForm written)
  let scaled (e : Extent) : Extent :=
    { e with baseLength := (count * e.baseLength).toNat }
  match ctx.classes.find? (·.name = Text.dropLast 2 base) with
  | some c =>
    let bytes := if c.hasExternalAlignment then roundUp8 c.baseLength else c.baseLength
    pure (scaled ⟨bytes, c.isFixedLength⟩)
  | none =>
    match Table.get? WireType.baseExtents (ctx.tableName base) with
    | some e => pure (scaled e)
    | none => throw (.unknownType className field (ctx.tableName base))

/-- What a member takes. Lists and `octets` may be empty. -/
def memberExtent (className : String) :
    Source.Member → Except Protocol.Error Extent
  | .pad length => pure ⟨length, true⟩
  | .field name type _ =>
    if WireType.isList type then pure ⟨0, false⟩
    else if Text.startsWith type "struct" then throw (.recursiveStruct className name)
    else if type = "octets" then pure ⟨0, false⟩
    else ctx.typeExtent className name type

end Context

/-- The slots of members that take the given extents, from a start where
`offset` bytes lie before and all of them are fixed iff `known`. -/
def slotsFrom (offset : Nat) (known : Bool) : List Extent → List Slot
  | [] => []
  | e :: rest =>
    ⟨if known then some offset else none, e⟩ ::
      slotsFrom (offset + e.baseLength) (known && e.isFixedLength) rest

/-- The slot filed for a member: that of the last member that looks like it. -/
def filedSlot (file : List (Source.Member.Key × Slot)) (m : Source.Member) : Option Slot :=
  (file.reverse.find? fun p => p.1 = m.key).map (·.2)

/-- A declared member in its slot. A version field has the version as its value. -/
def Member.ofSource (v : Version) (m : Source.Member) (slot : Slot) : Member :=
  match m with
  | .pad length => .pad length slot.offset
  | .field name type role =>
    .field
      { name := name
        type := type
        role :=
          match role with
          | .data => .data
          | .length => .length
          | .version => .fixed v.wire
          | .discriminator => .discriminator
          | .fixed value => .fixed value
          | .fieldLength target => .fieldLength target
        isFixedLength := slot.extent.isFixedLength
        baseLength := slot.extent.baseLength
        offset := slot.offset }

/-- The layout of a declared class, below the given ancestors. Each member gets the slot
filed for what it looks like. -/
def Class.ofSource (ctx : Context) (ancestors : List Ancestor) (c : Source.Class) :
    Except Protocol.Error Class := do
  let extents ← c.members.mapM (ctx.memberExtent c.name)
  let slots := slotsFrom 0 true extents
  let file := (c.members.map (·.key)).zip slots
  pure
    { name := c.name
      ancestors := ancestors
      members := (c.members.zip slots).map fun (m, own) =>
        Member.ofSource ctx.version m ((filedSlot file m).getD own)
      isVirtual := c.isVirtual
      params := c.params
      isFixedLength := !c.isVirtual && extents.all (·.isFixedLength)
      baseLength := extents.foldr (fun e total => e.baseLength + total) 0 }

end FlowBindings
