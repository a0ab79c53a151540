import FlowBindings.Value.Key

/-!
# Remembering results

A function that is called again with the same arguments need not be computed again.
The results are kept by a key made of the arguments: those by position, and after
them a row of name and value for each argument by name.
-/

namespace FlowBindings

/-- The arguments of a call, by position and by name. -/
structure Arguments (α : Type) where
  listed : List α
  named : List (String × α)
  deriving Repr

section Keys

variable {α : Type} (key : α → Outcome Key)

/-- What the arguments are as keys, those by position and those by name. -/
def Arguments.keys (a : Arguments α) : Outcome (List Key × List (String × Key)) := do
  let listed ← a.listed.mapM key
  let named ← a.named.mapM fun (name, x) => do pure (name, ← key x)
  pure (listed, named)

/-- Keys by position and keys by name in one row. -/
def joinKeys (ks : List Key × List (String × Key)) : List Key :=
  ks.1 ++ ks.2.map fun (name, k) => .row [.text name, k]

end Keys

/-- The results of a function, by the keys of the arguments. -/
structure Memo (ρ : Type) where
  results : Table (List Key) ρ := []
  deriving Repr

namespace Memo

variable {α ρ : Type}

/-- Call a function, or give the result that is known. -/
def call (key : α → Outcome Key) (f : Arguments α → ρ) (m : Memo ρ) (a : Arguments α) :
    Outcome (ρ × Memo ρ) := do
  let k := joinKeys (← a.keys key)
  match m.results.get? k with
  | some r => pure (r, m)
  | none => pure (f a, ⟨m.results.set k (f a)⟩)

def computed (m : Memo ρ) : Nat := m.results.length

end Memo

end FlowBindings
