import FlowBindings.Memo
import FlowBindings.Proofs.Basic

/-!
# When remembered results are the results of the function

A call gives what is kept under the key of its arguments, and that is what the function
gave for the first arguments with that key. So the results are those of the function just
when it gives the same for any two of the arguments that share a key.

Keys are shared as far as equality goes: a truth value is the same key as the number that
stands for it. And a pair of a text and a value, passed by position, is the same key as a
value passed by name: of two calls with one key, one passes at the end of its arguments by
position what the other passes as its first arguments by name.
-/

namespace FlowBindings

open List

/-! ## Arguments with the same key -/

/-- The row that an argument by name is kept as. -/
def namedRow (p : String × Key) : Key := .row [.text p.1, p.2]

theorem namedRow_injective : Function.Injective namedRow := by
  rintro ⟨name, k⟩ ⟨name', k'⟩ hrow
  cases hrow
  rfl

theorem joinKeys_eq (ks : List Key × List (String × Key)) :
    joinKeys ks = ks.1 ++ ks.2.map namedRow := rfl

/-- The arguments by name that stand first in one call stand last by position in another,
each as a row of name and value; all others are the same. -/
def Shifted (ks ks' : List Key × List (String × Key)) : Prop :=
  ∃ moved, ks'.1 = ks.1 ++ moved.map namedRow ∧ ks.2 = moved ++ ks'.2

theorem Shifted.joinKeys {ks ks' : List Key × List (String × Key)} (h : Shifted ks ks') :
    joinKeys ks = joinKeys ks' := by
  obtain ⟨moved, hlisted, hnamed⟩ := h
  rw [joinKeys_eq, joinKeys_eq, hlisted, hnamed, map_append, append_assoc]

/-- Keys cut one row of keys in two at different places, if at all. -/
theorem joinKeys_eq_iff {ks ks' : List Key × List (String × Key)} :
    joinKeys ks = joinKeys ks' ↔ Shifted ks ks' ∨ Shifted ks' ks := by
  constructor
  · intro h
    rw [joinKeys_eq, joinKeys_eq, append_eq_append_iff] at h
    rcases h with ⟨rows, hlisted, hnamed⟩ | ⟨rows, hlisted, hnamed⟩
    · obtain ⟨moved, rest, hsplit, rfl, hrest⟩ := map_eq_append_iff.mp hnamed
      exact .inl ⟨moved, hlisted, map_injective_iff.mpr namedRow_injective hrest ▸ hsplit⟩
    · obtain ⟨moved, rest, hsplit, rfl, hrest⟩ := map_eq_append_iff.mp hnamed
      exact .inr ⟨moved, hlisted, map_injective_iff.mpr namedRow_injective hrest ▸ hsplit⟩
  · rintro (h | h)
    exacts [h.joinKeys, h.joinKeys.symm]

namespace Memo

variable {α ρ : Type}

/-! ## Calls one after another -/

section Calls

variable (key : α → Outcome Key) (f : Arguments α → ρ)

/-- Calls one after another, with the results. -/
def callAll : Memo ρ → List (Arguments α) → Outcome (List ρ)
  | _, [] => pure []
  | m, a :: rest => do
    let (r, m) ← m.call key f a
    pure (r :: (← callAll m rest))

/-- Whether arguments are kept under a key. -/
def hasKey (k : List Key) (a : Arguments α) : Bool := (a.keys key).toOption.map joinKeys = some k

/-- The first of some calls that is kept under a key. -/
def firstWith (calls : List (Arguments α)) (k : List Key) : Option (Arguments α) :=
  calls.find? (hasKey key k)

/-- What is kept are the results of the first calls with each key. -/
def Keeps (m : Memo ρ) (calls : List (Arguments α)) : Prop :=
  ∀ k, m.results.get? k = (firstWith key calls k).map f

end Calls

variable {key : α → Outcome Key} {f : Arguments α → ρ}

theorem hasKey_iff {a : Arguments α} {ks : List Key × List (String × Key)}
    (ha : a.keys key = .ok ks) {k : List Key} : hasKey key k a = true ↔ joinKeys ks = k := by
  simp [hasKey, ha, Except.toOption]

/-- A call gives the result of the first call with its key, and that stays known. -/
theorem Keeps.call {m : Memo ρ} {done : List (Arguments α)} (hm : m.Keeps key f done)
    {a : Arguments α} {ks : List Key × List (String × Key)} (ha : a.keys key = .ok ks) :
    ∃ b m', firstWith key (done ++ [a]) (joinKeys ks) = some b
      ∧ m.call key f a = .ok (f b, m') ∧ m'.Keeps key f (done ++ [a]) := by
  have hfirst k : firstWith key (done ++ [a]) k
      = (firstWith key done k).or (if joinKeys ks = k then some a else none) := by
    rw [firstWith, find?_append, find?_singleton]
    simp only [hasKey_iff ha]
    rfl
  cases hget : firstWith key done (joinKeys ks) with
  | some b =>
    have hfound : firstWith key (done ++ [a]) (joinKeys ks) = some b := by
      rw [hfirst, hget, Option.some_or]
    refine ⟨b, m, hfound, bind_eq_ok_iff.mpr ⟨ks, ha, ?_⟩, fun k => ?_⟩
    · dsimp only
      rw [hm, hget]
      rfl
    · rw [hm, hfirst]
      split
      · subst k
        rw [hget, Option.some_or]
      · rw [Option.or_none]
  | none =>
    have hfound : firstWith key (done ++ [a]) (joinKeys ks) = some a := by
      rw [hfirst, hget, if_pos rfl, Option.none_or]
    refine ⟨a, ⟨m.results.set (joinKeys ks) (f a)⟩, hfound, bind_eq_ok_iff.mpr ⟨ks, ha, ?_⟩,
      fun k => ?_⟩
    · dsimp only
      rw [hm, hget]
      rfl
    · rw [hfirst]
      split
      · subst k
        rw [Table.get?_set_self, hget, Option.none_or, Option.map_some]
      · rw [Table.get?_set_of_ne _ _ (Ne.symm ‹_›), hm, Option.or_none]

/-- Calls give the results of the first calls with their keys. -/
theorem Keeps.callAll {m : Memo ρ} {done calls : List (Arguments α)} (hm : m.Keeps key f done)
    (hcalls : ∀ a ∈ calls, ∃ ks, a.keys key = .ok ks) : ∃ results,
    m.callAll key f calls = .ok results ∧ Forall₂ (fun a r => ∀ ks, a.keys key = .ok ks →
      ∃ b, firstWith key (done ++ calls) (joinKeys ks) = some b ∧ r = f b) calls results := by
  induction calls generalizing m done with
  | nil => exact ⟨[], rfl, .nil⟩
  | cons a rest ih =>
    obtain ⟨⟨ks, ha⟩, hrest⟩ := forall_mem_cons.mp hcalls
    obtain ⟨b, m', hb, hcall, hm'⟩ := hm.call ha
    obtain ⟨results, hresults, hall⟩ := ih hm' hrest
    rw [append_assoc, singleton_append] at hall
    refine ⟨f b :: results, ?_, .cons (fun ks' ha' => ⟨b, ?_, rfl⟩) hall⟩
    · exact bind_eq_ok_iff.mpr ⟨_, hcall, bind_eq_ok_iff.mpr ⟨_, hresults, rfl⟩⟩
    · cases ha.symm.trans ha'
      rw [firstWith, ← singleton_append, ← append_assoc, find?_append]
      exact congrArg (Option.or · _) hb

/-- **When remembering results does not change them.** Called with any arguments that
serve as keys, one time after another, a function that is remembered gives a result each
time. These are the results that it gives without being remembered just when it gives the
same for any two of the arguments that are equal, or that differ only in what the one passes
by name and the other as pairs by position. -/
theorem callAll_transparent (key : α → Outcome Key) (f : Arguments α → ρ)
    (calls : List (Arguments α)) (hcalls : ∀ a ∈ calls, ∃ ks, a.keys key = .ok ks) :
    ∃ results, ({} : Memo ρ).callAll key f calls = .ok results
      ∧ (results = calls.map f ↔ ∀ a ∈ calls, ∀ b ∈ calls, ∀ ks ks', a.keys key = .ok ks →
        b.keys key = .ok ks' → Shifted ks ks' → f a = f b) := by
  have hstart : ({} : Memo ρ).Keeps key f [] := fun _ => rfl
  obtain ⟨results, hresults, hall⟩ := hstart.callAll hcalls
  refine ⟨results, hresults, ?_, fun hsame => ?_⟩
  · rintro rfl a ha b hb ks ks' hka hkb hshift
    rw [forall₂_map_right_iff, forall₂_same] at hall
    obtain ⟨c, hc, hfa⟩ := hall a ha ks hka
    obtain ⟨c', hc', hfb⟩ := hall b hb ks' hkb
    rw [hshift.joinKeys, hc', Option.some.injEq] at hc
    rw [hfa, hfb, hc]
  · have hmem := (forall₂_and_left calls results).mpr ⟨fun _ ha => ha, hall⟩
    have heq : Forall₂ (· = ·) (calls.map f) results := by
      refine forall₂_map_left_iff.mpr (hmem.imp ?_)
      rintro a r ⟨ha, hr⟩
      obtain ⟨ks, hka⟩ := hcalls a ha
      obtain ⟨c, hc, rfl⟩ := hr ks hka
      have hcmem : c ∈ calls := mem_of_find?_eq_some hc
      obtain ⟨ks', hkc⟩ := hcalls c hcmem
      rcases joinKeys_eq_iff.mp ((hasKey_iff hkc).mp (find?_some hc)) with hshift | hshift
      · exact (hsame c hcmem a ha ks' ks hkc hka hshift).symm
      · exact hsame a ha c hcmem ks ks' hka hkc hshift
    rw [forall₂_eq_eq_eq] at heq
    exact heq.symm

/-- Pairs by position, such as versions, beside arguments by name. -/
theorem callAll_transparent_pairs :
    let pair : Arguments Key := ⟨[.row [.text "1.3", .number 4]], []⟩
    let calls := [pair, pair, ⟨[], [("a", .number 1), ("b", .number 2)]⟩]
    (∀ a ∈ calls, ∃ ks, a.keys pure = .ok ks)
      ∧ ({} : Memo _).callAll pure (·.listed.length) calls = .ok (calls.map (·.listed.length)) := by
  intro pair calls
  have hcalls : ∀ a ∈ calls, ∃ ks, a.keys pure = .ok ks := by
    simp only [calls, forall_mem_cons]
    exact ⟨⟨_, rfl⟩, ⟨_, rfl⟩, ⟨_, rfl⟩, by simp⟩
  obtain ⟨results, hresults, hsame⟩ := callAll_transparent pure (·.listed.length) calls hcalls
  refine ⟨hcalls, hresults.trans (congrArg _ (hsame.mpr ?_))⟩
  -- the calls differ in how many arguments they pass
  rintro a ha b hb ks ks' hka hkb ⟨moved, hlisted, hnamed⟩
  simp only [calls, mem_cons, not_mem_nil, or_false, or_self_left] at ha hb
  rcases ha with rfl | rfl <;> rcases hb with rfl | rfl
  · rfl
  · cases hka
    cases hkb
    simp at hnamed
  · cases hka
    cases hkb
    rw [← hnamed.trans (append_nil moved)] at hlisted
    exact absurd (congrArg length hlisted) (by decide)
  · rfl

/-- A truth value is answered with the result for the number that it is equal to, and an
argument by name with the result for a pair by position. -/
theorem results_shared_by_equal_keys :
    let numbers : List (Arguments Value) := [⟨[.int 1], []⟩, ⟨[.bool true], []⟩]
    let pairs : List (Arguments Key) :=
      [⟨[.row [.text "a", .number 1]], []⟩, ⟨[], [("a", .number 1)]⟩]
    (({} : Memo _).callAll Value.key (·.listed) numbers = .ok [[.int 1], [.int 1]]
        ∧ numbers.map (·.listed) = [[.int 1], [.bool true]])
      ∧ ({} : Memo _).callAll pure (·.listed.length) pairs = .ok [1, 1]
        ∧ pairs.map (·.listed.length) = [1, 0] :=
  ⟨⟨rfl, rfl⟩, rfl, rfl⟩

end Memo

end FlowBindings
