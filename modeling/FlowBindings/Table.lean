/-!
# Insertion-ordered tables

A table is a list of key–value pairs read from the front. Writing a key that is
present replaces its value where it stands; writing an absent key appends. The
order of the pairs is therefore the order in which keys were first written,
which is the order every listing of a table follows.
-/

namespace FlowBindings

/-- A table of values by key, in the order the keys were first written. -/
abbrev Table (κ ν : Type) := List (κ × ν)

namespace Table

variable {κ ν : Type} [DecidableEq κ]

variable (t : Table κ ν) (k : κ)

/-- The value of a key; a key that is written twice has its first one. -/
def get? : Option ν :=
  (t.find? fun p => p.1 = k).map (·.2)

/-- Whether a key was written. -/
def has : Bool :=
  t.any fun p => p.1 = k

/-- Write a key: its value is replaced where it stands, or the pair appended. -/
def set (t : Table κ ν) (k : κ) (v : ν) : Table κ ν :=
  match t with
  | [] => [(k, v)]
  | p :: rest => if p.1 = k then (k, v) :: rest else p :: set rest k v

/-- Change the value of a key, starting from `start` when it is absent. -/
def update (start : ν) (f : ν → ν) : Table κ ν :=
  t.set k (f ((t.get? k).getD start))

/-- The table without a key. -/
def erase : Table κ ν :=
  t.filter fun p => p.1 ≠ k

def keys : List κ :=
  t.map (·.1)

def values : List ν :=
  t.map (·.2)

/-- The table of a list of pairs: the last value of a key wins, at the place
where the key was first written. -/
def ofPairs (pairs : List (κ × ν)) : Table κ ν :=
  pairs.foldl (fun t p => t.set p.1 p.2) []

@[simp] theorem get?_nil : get? ([] : Table κ ν) k = none := rfl

@[simp]
theorem get?_set_self (t : Table κ ν) (k : κ) (v : ν) : (t.set k v).get? k = some v := by
  induction t with
  | nil => simp [set, get?]
  | cons p rest ih =>
    by_cases h : p.1 = k
    · simp [set, h, get?]
    · simp only [set, h, if_false]
      simp only [get?] at ih ⊢
      simp [List.find?, h, ih]

/-- Writing a key leaves the others' values. -/
@[simp]
theorem get?_set_of_ne (t : Table κ ν) {k k' : κ} (v : ν) (h : k' ≠ k) :
    (t.set k v).get? k' = t.get? k' := by
  induction t with
  | nil => simp [set, get?, Ne.symm h]
  | cons p rest ih =>
    by_cases hp : p.1 = k
    · have : ¬ k = k' := fun e => h e.symm
      have hp' : ¬ p.1 = k' := by rw [hp]; exact this
      simp [set, hp, get?, List.find?, this]
    · simp only [set, hp, if_false]
      by_cases hk : p.1 = k'
      · simp [get?, List.find?, hk]
      · simp only [get?] at ih ⊢
        simp [List.find?, hk, ih]

/-- The keys after a write: unchanged for a present key, one more at the end for
an absent one. -/
theorem keys_set (t : Table κ ν) (k : κ) (v : ν) :
    (t.set k v).keys = if k ∈ t.keys then t.keys else t.keys ++ [k] := by
  induction t with
  | nil => simp [set, keys]
  | cons p rest ih =>
    by_cases h : p.1 = k
    · simp [set, h, keys]
    · simp only [set, h, if_false]
      simp only [keys, List.map_cons, List.mem_cons] at ih ⊢
      have hk : ¬ k = p.1 := fun e => h e.symm
      by_cases hm : k ∈ rest.map (·.1)
      · simp [hk, hm, ih]
      · simp [hk, hm, ih]

end Table

end FlowBindings
