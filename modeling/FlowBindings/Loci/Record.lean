import FlowBindings.Fault
import FlowBindings.Loci.WireForm

/-!
# Records

The C library keeps one record per class for all versions: the members the
class has in any version, and the layout each version gives it. Most classes
look alike in several versions, so a version whose layout was met before only
refers to the version that has it.
-/

namespace FlowBindings.Loci

/-- A member of a class as a version lays it out. -/
structure Slot where
  type : String
  name : String
  /-- Its distance from the start of the object; -1 if that varies. -/
  offset : Int
  deriving DecidableEq, Repr

/-- A layout in one line: members separated by semicolons. Two versions share a
layout when these lines are equal. -/
def signature (members : List Slot) : String :=
  Text.join ";" (members.map fun m => Text.join "," [m.type, m.name, toString m.offset])

/-- The layout of a class in a version. -/
inductive Layout where
  | own (members : List Slot)
  | sameAs (wire : Nat)
  deriving DecidableEq, Repr

/-- A member as the class has it across versions. -/
structure UnionMember where
  /-- Its type, the same in all versions. -/
  type : String
  /-- Its rank among the members its version was the first to introduce. -/
  rank : Nat
  deriving DecidableEq, Repr

structure Record where
  /-- The members of any version, by name. -/
  union : Table String UnionMember
  /-- The layout in each version, by wire number. -/
  layouts : Table Nat Layout
  /-- The names of the members, in the order in which they were met. -/
  order : List String
  deriving DecidableEq, Repr

namespace Record

def empty : Record := ⟨[], [], []⟩

/-- The version, of those added, that has a layout of its own equal to the given
one; the one added first, if there are several. -/
def versionWith? (r : Record) (members : List Slot) : Option Nat :=
  (r.layouts.find? fun (_, layout) =>
    match layout with
    | .own ms => signature ms = signature members
    | .sameAs _ => false).map (·.1)

/-- Add members to the union, counting new ones from `rank`. Padding does not
count. The second result tells whether every member known before has its old
type; the members behind one that has not are left out. -/
def mergeSlots (r : Record) (rank : Nat) : List Slot → Record × Bool
  | [] => (r, true)
  | m :: rest =>
    if Text.startsWith m.name "pad" then mergeSlots r rank rest
    else
      let listed := { r with
        order := if r.order.contains m.name then r.order else r.order ++ [m.name] }
      match r.union.get? m.name with
      | some u => if u.type = m.type then mergeSlots listed rank rest else (r, false)
      | none =>
        mergeSlots { listed with union := r.union ++ [(m.name, ⟨m.type, rank⟩)] } (rank + 1) rest

/-- Add a version. The second result tells whether it could be added: each
version once, and no member with a type other than before. -/
def add (r : Record) (wire : Nat) (members : List Slot) : Record × Bool :=
  if r.layouts.has wire then (r, false)
  else
    match r.versionWith? members with
    | some w => ({ r with layouts := r.layouts ++ [(wire, .sameAs w)] }, true)
    | none => mergeSlots { r with layouts := r.layouts ++ [(wire, .own members)] } 0 members

/-- The members of a version, following the reference to another one; nothing
for a version that does not define the class. -/
def members (r : Record) (wire : Nat) : List Slot :=
  match r.layouts.get? wire with
  | some (.own ms) => ms
  | some (.sameAs w) =>
    match r.layouts.get? w with
    | some (.own ms) => ms
    | _ => []
  | none => []

end Record

/-- The classes of the C library, in the order in which they were met. -/
abbrev Records := Table String Record

def Records.add (t : Records) (wire : Nat) (name : String) (members : List Slot) : Records × Bool :=
  let (r, ok) := ((t.get? name).getD .empty).add wire members
  (t.set name r, ok)

end FlowBindings.Loci
