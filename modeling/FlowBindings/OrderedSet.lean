import FlowBindings.Table

/-!
# Ordered sets

A set that keeps the order in which its elements came. The elements stand in cells, and
the cells form a ring: each one knows the cell before and the cell after it. One cell
without an element closes the ring; the first element is in the cell after it, the last
one in the cell before it. An element is found by its key, which leads to its cell, and it
is added or taken out by changing the cells next to it only.

Elements are told apart by their keys. Of two elements with the same key the set holds
the one that came first.
-/

namespace FlowBindings

/-- A cell of the ring, with the addresses of its neighbours. -/
structure Cell (κ α : Type) where
  /-- The element with its key, in every cell but the closing one. -/
  entry : Option (κ × α)
  before : Nat
  after : Nat
  deriving DecidableEq, Repr

/-- A set in the order in which its elements came. -/
structure OrderedSet (κ α : Type) where
  /-- The cells by address, those that were taken out of the ring included. The closing
  cell has address 0. -/
  cells : Array (Cell κ α)
  /-- The address of the cell of each key. -/
  index : Table κ Nat
  deriving Repr

namespace OrderedSet

variable {κ α : Type} [DecidableEq κ]

/-- The set without elements: its closing cell is its own neighbour on both sides. -/
def empty : OrderedSet κ α := ⟨#[⟨none, 0, 0⟩], []⟩

variable (s t : OrderedSet κ α) (k : κ) (i j : Nat)

/-- Whether a key is in the set. -/
def contains : Bool := s.index.has k

/-- The number of elements. -/
def size : Nat := s.index.length

/-! ## Cells -/

/-- The element in a cell, with its key. -/
def held? : Option (κ × α) := s.cells[i]?.bind (·.entry)

/-- The address of the cell before a cell. -/
def before : Nat := s.cells[i]?.elim 0 (·.before)

/-- The address of the cell after a cell. -/
def after : Nat := s.cells[i]?.elim 0 (·.after)

/-- Let a cell be followed by another one. -/
def setAfter : OrderedSet κ α :=
  { s with cells := s.cells.modify i fun c => { c with after := j } }

/-- Let a cell be preceded by another one. -/
def setBefore : OrderedSet κ α :=
  { s with cells := s.cells.modify i fun c => { c with before := j } }

/-! ## Changing the ring -/

/-- Add an element at the end, unless its key is there already. -/
def add (a : α) : OrderedSet κ α :=
  if s.contains k then s
  else
    let i := s.cells.size
    let last := s.before 0
    let made : OrderedSet κ α :=
      { cells := s.cells.push ⟨some (k, a), last, 0⟩, index := s.index.set k i }
    (made.setAfter last i).setBefore 0 i

/-- Take an element out, if it is there. -/
def discard : OrderedSet κ α :=
  match s.index.get? k with
  | none => s
  | some i =>
    let without := { s with index := s.index.erase k }
    (without.setAfter (s.before i) (s.after i)).setBefore (s.after i) (s.before i)

/-- Take out the last or the first element of a set that has one. -/
def pop? (isLast : Bool) : Option (α × OrderedSet κ α) :=
  if s.size = 0 then none
  else do
    let (k, a) ← s.held? (if isLast then s.before 0 else s.after 0)
    pure (a, s.discard k)

/-! ## Following the ring -/

/-- Follow the ring from an address on until the closing cell is reached: the entries on
the way, if so many steps are enough. -/
def follow (s : OrderedSet κ α) (step : Nat → Nat) : Nat → Nat → Option (List (κ × α))
  | 0, _ => none
  | _ + 1, 0 => some []
  | n + 1, i => do
    let entry ← s.held? i
    let rest ← s.follow step n (step i)
    pure (entry :: rest)

/-- The elements with their keys, from the first to the last. No cell is met twice on the
way to the closing cell. -/
def entries : List (κ × α) := (s.follow s.after s.cells.size (s.after 0)).getD []

/-- The elements from the first to the last. -/
def toList : List α := s.entries.map (·.2)

/-- The elements from the last to the first. -/
def toListReversed : List α :=
  ((s.follow s.before s.cells.size (s.before 0)).getD []).map (·.2)

/-! ## Operations on whole sets -/

def addAll (entries : List (κ × α)) : OrderedSet κ α :=
  entries.foldl (fun s (k, a) => s.add k a) s

def ofEntries (entries : List (κ × α)) : OrderedSet κ α := empty.addAll entries

/-- The elements of a set, then those of another one. -/
def union : OrderedSet κ α := ofEntries (s.entries ++ t.entries)

/-- The elements of the second set that are in the first, in the order of the second. -/
def inter : OrderedSet κ α :=
  ofEntries (t.entries.filter fun (k, _) => s.contains k)

/-- The elements that are not in another set. -/
def diff : OrderedSet κ α :=
  ofEntries (s.entries.filter fun (k, _) => !t.contains k)

/-- The elements that are in one of two sets only. -/
def symmDiff : OrderedSet κ α := (s.diff t).union (t.diff s)

/-- Whether all elements are in another set. -/
def isSubset : Bool :=
  s.size ≤ t.size && s.entries.all fun (k, _) => t.contains k

/-- Whether two sets have no element in common. -/
def isDisjoint : Bool := t.entries.all fun (k, _) => !s.contains k

/-- Whether two sets hold the same elements in the same order. -/
def sameOrder : Bool := s.entries.map (·.1) = t.entries.map (·.1)

/-- Whether two sets hold the same elements. -/
def sameElements : Bool := s.isSubset t && t.isSubset s

end OrderedSet

end FlowBindings
