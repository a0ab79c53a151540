import FlowBindings.Text.Case

/-!
# Letters without their case

Whether two letters are the same when their case does not count. Letters are taken to
small letters; a few small letters are the same because they share their capital.
-/

namespace FlowBindings.Text

/-- How letters are compared. -/
inductive Folding where
  | exact
  /-- Case does not count in ASCII. -/
  | ascii
  /-- Case does not count. -/
  | full
  deriving DecidableEq, Repr

/-- The small letters that share a capital. -/
def sharedCapitals : List (List Nat) :=
  (["69 131", "73 17f", "b5 3bc", "345 3b9 1fbe", "390 1fd3", "3b0 1fe3", "3b2 3d0", "3b5 3f5",
    "3b8 3d1", "3ba 3f0", "3c0 3d6", "3c1 3f1", "3c2 3c3", "3c6 3d5", "432 1c80", "434 1c81",
    "43e 1c82", "441 1c83", "442 1c84 1c85", "44a 1c86", "463 1c87", "1c88 a64b", "1e61 1e9b",
    "fb05 fb06"]).map fun line => (words line).map readCode

namespace Folding

def fold (c : Char) : Folding → Char
  | exact => c
  | ascii => c.toLower
  | full => (lowerForm c).headD c

/-- The code points that fold to a small letter of full folding. -/
def folded (n : Nat) : List Nat :=
  let capitals := lowerRanges.toList.filterMap fun r =>
    let m := ((n : Int) - r.shift).toNat
    if CaseRange.shifted? #[r] m = some n then some m else none
  n :: (if 97 ≤ n && n ≤ 122 then [n - 32] else []) ++ capitals ++ (if n = 0x69 then [0x130] else [])

/-- The code points of the letters that are the same as a letter. -/
def variants (c : Char) : Folding → List Nat
  | exact => [c.toNat]
  | ascii =>
    let n := c.toLower.toNat
    n :: (if 97 ≤ n && n ≤ 122 then [n - 32] else [])
  | full =>
    let n := (fold c full).toNat
    ((sharedCapitals.find? (·.contains n)).getD [n]).flatMap folded

end Folding

end FlowBindings.Text
