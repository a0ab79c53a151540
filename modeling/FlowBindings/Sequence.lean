import FlowBindings.Fault

/-!
# Sequences

Cutting a sequence into runs of one length.
-/

namespace FlowBindings.Sequence

/-- The elements in runs of a given length; the last run may be shorter. -/
def runs {α : Type} (n : Nat) (xs : List α) : List (List α) :=
  (List.range ((xs.length + n - 1) / n)).map fun i => (xs.drop (i * n)).take n

/-- The elements in runs of a length that anyone may ask for: there is no run of
length zero, and none at all of a negative length. -/
def runsOf {α : Type} (n : Int) (xs : List α) : Outcome (List (List α)) :=
  if n = 0 then .error (.badValue "range() arg 3 must not be zero")
  else .ok (if n < 0 then [] else runs n.toNat xs)

end FlowBindings.Sequence
