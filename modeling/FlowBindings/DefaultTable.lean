import FlowBindings.Table
import FlowBindings.Text.Basic

/-!
# Tables with a default

A table in which reading a key that is absent writes the default there first. A table
may have no default; then such a key cannot be read.

Keys are kept in the spelling in which they were first written.
-/

namespace FlowBindings

structure DefaultTable (κ α ν : Type) where
  /-- What stands at keys that were never written. -/
  default? : Option ν
  /-- The entries: the spelling of the key and the value. -/
  entries : Table κ (α × ν)
  deriving Repr

namespace DefaultTable

variable {κ α ν : Type} [DecidableEq κ]

variable (t : DefaultTable κ α ν)

def set (k : κ) (spelling : α) (v : ν) : DefaultTable κ α ν :=
  { t with entries := t.entries.set k (((t.entries.get? k).elim spelling (·.1)), v) }

/-- Read a key: its value, and the table after reading. -/
def read? (k : κ) (spelling : α) : Option (ν × DefaultTable κ α ν) :=
  match t.entries.get? k with
  | some (_, v) => some (v, t)
  | none => t.default?.map fun v => (v, t.set k spelling v)

/-- Remove a key that is there. -/
def erase? (k : κ) : Option (DefaultTable κ α ν) :=
  if t.entries.has k then some { t with entries := t.entries.erase k } else none

def pairs : List (α × ν) := t.entries.values

/-- The text of a table, of which `label` says what it is: what its default is called,
and then its entries. -/
def describe (label : String) (key : α → String) (value : ν → String)
    (default : Option ν → String) : String :=
  let shown := t.pairs.map fun (k, v) => "(" ++ key k ++ ", " ++ value v ++ ")"
  let list := if shown.isEmpty then "" else "[" ++ Text.join ", " shown ++ "]"
  label ++ "(" ++ default t.default? ++ ", " ++ label ++ "(" ++ list ++ "))"

end DefaultTable

end FlowBindings
