import FlowBindings.Protocol.Basic
import FlowBindings.Text.Quoted

/-!
# The unified protocol

Bindings offer one interface to all versions. The unified protocol is what that
interface is made from: each class that occurs in some version occurs in it once,
with every field any version gives it, and keeps its classes of the single
versions beside it.

Versions must agree where an interface could not hide the difference: one field
name has one kind in all of them, one parameter one value, a constant of a
stable enum one number. Where they may differ the weaker statement is kept: the
smallest base length, fixed length only if all lengths are fixed and equal, no
wire type for an enum that changed it.
-/

namespace FlowBindings

/-- A class of all versions that define it. -/
structure Unified.Class extends FlowBindings.Class where
  /-- The versions that define the class, each with its own class. -/
  versions : Table Version FlowBindings.Class
  deriving Repr

/-- All versions of the protocol as one. -/
structure Unified where
  /-- The classes, in the order in which versions introduce them. -/
  classes : List Unified.Class
  /-- The enums, in the order in which versions introduce them. -/
  enums : List Enum
  deriving Repr, Inhabited

namespace Unified

variable (u : Unified) (name : String)

def class? : Option Unified.Class :=
  u.classes.find? (·.name = name)

def enum? : Option Enum :=
  u.enums.find? (·.name = name)

/-- Whether the named class exists and is, or lies below, another one. -/
def isInstanceOf (above : String) : Bool :=
  (u.class? name).any (·.isInstanceOf above)

/-! ## Disagreements -/

/-- Why versions are not unified. -/
inductive Error where
  | memberKind (className : String) (adding : Version) (first second : Field)
  | classParam (className : String) (adding : Version) (first second : String)
  | stableValue (enumName entry : String) (adding : Version) (first second : Nat)
  | entryParam (enumName first second : String)
  /-- An enum parameter of different values. -/
  | enumParam (enumName : String) (adding : Version) (first : Option String) (second : String)
  /-- A class that extends one the unified protocol has not met before it. -/
  | superclassNotYet (className superclass : String)
  deriving DecidableEq, Repr

def renderBool (b : Bool) : String := if b then "True" else "False"

def renderOffset : Option Nat → String
  | some n => toString n
  | none => "None"

def renderField (f : Field) : String :=
  f.role.label ++ "(name=" ++ Text.quoted f.name ++ ", oftype=" ++ Text.quoted f.type
    ++ (match f.role with
      | .fixed value => ", value=" ++ toString value
      | .fieldLength target => ", field_name=" ++ Text.quoted target
      | _ => "")
    ++ ", is_fixed_length=" ++ renderBool f.isFixedLength
    ++ ", base_length=" ++ toString f.baseLength
    ++ ", offset=" ++ renderOffset f.offset ++ ")"

def Error.message : Error → String
  | memberKind c v first second =>
    "Error unifying ir class " ++ c ++ " - adding version: " ++ v.dotted ++ " - member_type "
      ++ renderField first ++ " <-> " ++ renderField second
  | classParam c v first second =>
    "Error unifying ir class " ++ c ++ " - adding version: " ++ v.dotted ++ " - param "
      ++ first ++ " <-> " ++ second
  | stableValue e entry v first second =>
    "Error unifying stable ir enum " ++ e ++ " - adding entry " ++ entry ++ " version "
      ++ v.dotted ++ " value " ++ toString first ++ " <-> " ++ toString second
  | entryParam e first second =>
    "Error unifying ir enum " ++ e ++ " - adding version: param " ++ first ++ " <-> " ++ second
  | enumParam e v first second =>
    "Error unifying ir enum " ++ e ++ " - adding version: " ++ v.dotted ++ " param "
      ++ first.getD "None" ++ " <-> " ++ second
  | superclassNotYet _ superclass => superclass

/-! ## Classes -/

/-- A class while versions are being added to it. -/
structure Draft where
  /-- The fields met so far, in the order of their first occurrence. -/
  fields : List Field
  /-- The name of the superclass in the last version added. -/
  superclass : Option String
  params : Table String String
  isVirtual : Bool
  /-- The smallest base length, once a version has been added. -/
  baseLength : Option Nat
  /-- Whether all lengths so far are fixed and equal. -/
  isFixedLength : Bool
  versions : Table Version FlowBindings.Class
  deriving Repr

def Draft.empty : Draft where
  fields := []
  superclass := none
  params := []
  isVirtual := false
  baseLength := none
  isFixedLength := true
  versions := []

/-- Add a field of a version, unless a field of its name is there already; then
the two must be of one kind. -/
def addField (className : String) (v : Version) (known : List Field) (f : Field) :
    Except Error (List Field) :=
  match known.find? (·.name = f.name) with
  | none => pure (known ++ [f])
  | some g => if g.role.sameKind f.role then pure known else throw (.memberKind className v g f)

/-- Add a parameter, which must agree with a value known already; the complaint tells of two
values that differ. -/
def addParam (complaint : (known new : String) → Error) (known : Table String String)
    (p : String × String) : Except Error (Table String String) :=
  match known.get? p.1 with
  | none => pure (known ++ [p])
  | some value => if value = p.2 then pure known else throw (complaint value p.2)

/-- Add the class of a version. The superclass is that of the version added last. -/
def Draft.add (d : Draft) (v : Version) (c : FlowBindings.Class) : Except Error Draft := do
  let fields ← c.fields.foldlM (addField c.name v) d.fields
  let params ← c.params.foldlM (addParam (.classParam c.name v)) d.params
  pure
    { fields := fields
      superclass := c.superclass?
      params := params
      isVirtual := d.isVirtual || c.isVirtual
      baseLength := some ((d.baseLength.getD c.baseLength).min c.baseLength)
      isFixedLength :=
        d.isFixedLength && c.isFixedLength && d.baseLength.all (· = c.baseLength)
      versions := d.versions.set v c }

/-- The unified class of a draft, behind the classes in `done`. -/
def Draft.finish (d : Draft) (done : List Unified.Class) :
    Except Error Unified.Class := do
  let ancestors ←
    match d.superclass with
    | none => pure []
    | some up =>
      match done.find? (·.name = up) with
      | some c => pure (c.asAncestor :: c.ancestors)
      | none => throw (.superclassNotYet name up)
  pure
    { name := name
      ancestors := ancestors
      members := d.fields.map .field
      isVirtual := d.isVirtual
      params := d.params
      isFixedLength := d.isFixedLength
      baseLength := d.baseLength.getD 0
      versions := d.versions }

/-! ## Enums -/

/-- Add a constant. In a stable enum it must have the value known already; in any other the
first value stays. -/
def addEntry (e : Enum) (v : Version) (known : List Entry) (x : Entry) :
    Except Error (List Entry) :=
  match known.find? (·.name = x.name) with
  | none => pure (known ++ [x])
  | some y => do
    if e.params.get? "stable" = some (some "True") ∧ x.value ≠ y.value then
      throw (.stableValue e.name x.name v y.value x.value)
    let params ← x.params.foldlM (addParam (.entryParam e.name)) y.params
    pure (known.map fun z => if z.name = x.name then { z with params := params } else z)

/-- Add an enum's parameter. A wire type on which versions disagree is lost for
good; any other disagreement is an error. -/
def addEnumParam (enumName : String) (v : Version) (known : Table String (Option String))
    (p : String × Option String) : Except Error (Table String (Option String)) :=
  match known.get? p.1 with
  | none => pure (known ++ [p])
  | some value =>
    if value = p.2 then pure known
    else if p.1 = "wire_type" then pure (known.set p.1 none)
    else throw (.enumParam enumName v value (p.2.getD "None"))

/-- Add an enum of a version to the one of its name, where the first one stands. -/
def addEnum (v : Version) (known : List Enum) (e : Enum) : Except Error (List Enum) := do
  let start := (known.find? (·.name = e.name)).getD ⟨e.name, [], []⟩
  let entries ← e.entries.foldlM (addEntry e v) start.entries
  let params ← e.params.foldlM (addEnumParam e.name v) start.params
  let merged : Enum := ⟨e.name, entries, params⟩
  if known.any (·.name = e.name) then
    pure (known.map fun k => if k.name = e.name then merged else k)
  else pure (known ++ [merged])

/-! ## All versions -/

/-- Add a class of a version to the draft of its name. -/
def addClass (v : Version) (drafts : Table String Draft) (c : FlowBindings.Class) :
    Except Error (Table String Draft) := do
  let d ← Draft.add ((drafts.get? c.name).getD .empty) v c
  pure (drafts.set c.name d)

/-- Add the classes and enums of a version. -/
def addProtocol (drafts : Table String Draft × List Enum) (vp : Version × Protocol) :
    Except Error (Table String Draft × List Enum) := do
  let classes ← vp.2.classes.foldlM (addClass vp.1) drafts.1
  let enums ← vp.2.enums.foldlM (addEnum vp.1) drafts.2
  pure (classes, enums)

/-- All versions as one: each class behind those that versions introduce before it. -/
def build (protocols : Table Version Protocol) : Except Error Unified := do
  let (drafts, enums) ← protocols.foldlM addProtocol ([], [])
  let classes ← drafts.foldlM (fun done (name, d) => do
    let c ← d.finish name done
    pure (done ++ [c])) []
  pure { classes := classes, enums := enums }

end Unified

end FlowBindings
