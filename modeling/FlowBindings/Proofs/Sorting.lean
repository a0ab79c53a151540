import FlowBindings.Loci.Catalog
import Mathlib.Data.List.Pairwise
import Mathlib.Data.List.Sort

/-!
# Sorting that can be computed

Files, names and versions are sorted by merging, which cannot be unfolded inside a proof.
Where no two elements tie, inserting one after another gives the same list, and can be
(`mergeSort_eq_sortedBy`). So the model of given files is evaluated with one rewriting of
each of the sorts on the way.
-/

namespace FlowBindings

variable {α : Type}

/-- A list sorted by insertion, if no two of its elements tie. -/
def sortedBy (le : α → α → Prop) [DecidableRel le] (l : List α) : List α :=
  if (l.insertionSort le).Pairwise (fun a b => ¬ le b a) then l.insertionSort le
  else l.mergeSort fun a b => le a b

/-- A list that is sorted without ties is the only sorted one with its elements. -/
theorem eq_of_perm_of_pairwise_strict {le : α → α → Prop} {l s : List α} (hperm : l.Perm s)
    (hl : l.Pairwise le) (hs : s.Pairwise le) (hstrict : s.Pairwise fun a b => ¬ le b a) :
    l = s := by
  refine hperm.eq_of_pairwise (fun a b ha hb hab hba => ?_) hl hs
  by_contra hne
  have hnotBoth : s.Pairwise fun a b => ¬ (le a b ∧ le b a) := hstrict.imp fun h hboth => h hboth.2
  have hsymm : Std.Symm fun a b => ¬ (le a b ∧ le b a) := ⟨fun a b h hboth => h hboth.symm⟩
  exact hnotBoth.forall (hperm.mem_iff.mp ha) hb hne ⟨hab, hba⟩

/-- **Sorting by merging and by insertion agree.** -/
theorem mergeSort_eq_sortedBy (le : α → α → Prop) [DecidableRel le]
    (htrans : ∀ a b c, le a b → le b c → le a c) (htotal : ∀ a b, le a b ∨ le b a) (l : List α) :
    l.mergeSort (fun a b => le a b) = sortedBy le l := by
  unfold sortedBy
  split
  · next hstrict =>
    have : Std.Total le := ⟨htotal⟩
    have : IsTrans α le := ⟨htrans⟩
    refine eq_of_perm_of_pairwise_strict ((l.mergeSort_perm _).trans (l.perm_insertionSort le).symm)
      ?_ (l.pairwise_insertionSort le) hstrict
    exact l.pairwise_mergeSort' le
  · rfl

/-! ## The sorts on the way to a catalog -/

section Sorts

theorem mergeSort_names (l : List String) :
    l.mergeSort (fun a b => a ≤ b) = sortedBy (· ≤ ·) l :=
  mergeSort_eq_sortedBy (· ≤ ·) (fun _ _ _ => String.le_trans) String.le_total l

theorem mergeSort_files (l : List (String × α)) :
    l.mergeSort (fun a b => a.1 ≤ b.1) = sortedBy (fun a b => a.1 ≤ b.1) l :=
  mergeSort_eq_sortedBy (fun a b => a.1 ≤ b.1) (fun _ _ _ => String.le_trans)
    (fun a b => String.le_total a.1 b.1) l

theorem mergeSort_newest (l : List (Version × α)) :
    l.mergeSort (fun a b => b.1.wire ≤ a.1.wire) = sortedBy (fun a b => b.1.wire ≤ a.1.wire) l :=
  mergeSort_eq_sortedBy (fun a b => b.1.wire ≤ a.1.wire) (fun _ _ _ hab hbc => hbc.trans hab)
    (fun a b => Nat.le_total b.1.wire a.1.wire) l

theorem mergeSort_oldest (l : List (Version × α)) :
    l.mergeSort (fun a b => a.1.wire ≤ b.1.wire) = sortedBy (fun a b => a.1.wire ≤ b.1.wire) l :=
  mergeSort_eq_sortedBy (fun a b => a.1.wire ≤ b.1.wire) (fun _ _ _ => Nat.le_trans)
    (fun a b => Nat.le_total a.1.wire b.1.wire) l

theorem mergeSort_wires (l : List (Nat × α)) :
    l.mergeSort (fun a b => a.1 ≤ b.1) = sortedBy (fun a b => a.1 ≤ b.1) l :=
  mergeSort_eq_sortedBy (fun a b => a.1 ≤ b.1) (fun _ _ _ => Nat.le_trans)
    (fun a b => Nat.le_total a.1 b.1) l

end Sorts

end FlowBindings
