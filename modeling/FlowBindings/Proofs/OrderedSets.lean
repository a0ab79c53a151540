import FlowBindings.OrderedSet
import FlowBindings.Proofs.Basic
import Mathlib.Data.List.Chain

/-!
# An ordered set is a list without repetitions

A set is a ring of cells with a closing cell, and a table that leads from each key to its
cell. What it stands for is the list of its live cells, each with its address, its key and
its element: `Chained s live` says that the ring runs through the cells of `live` in their
order, that going back undoes going on, and that the table leads exactly to these cells.

Adding, discarding and popping change two links of the ring, and lead from a chained set
to a chained set whose list is changed accordingly. A chained set is followed from the
closing cell back to the closing cell, in the order of its list or against it.
-/

namespace FlowBindings

open List Table

namespace Table

variable {κ ν : Type} [DecidableEq κ] {t pre post : Table κ ν} {k : κ} {v : ν}

theorem erase_eq_self (h : k ∉ t.keys) : t.erase k = t :=
  filter_eq_self.mpr fun _ hp => decide_eq_true fun hk => h (hk ▸ mem_map_of_mem hp)

/-- Without an entry, a table in which no key occurs twice is what stands around it. -/
theorem erase_of_split (ht : (keys (pre ++ (k, v) :: post)).Nodup) :
    erase (pre ++ (k, v) :: post) k = pre ++ post := by
  rw [keys, map_append, map_cons, nodup_middle, nodup_cons, mem_append] at ht
  obtain ⟨hpre, hpost⟩ := not_or.mp ht.1
  calc erase (pre ++ (k, v) :: post) k
    _ = pre.erase k ++ post.erase k := by
      rw [erase, filter_append, filter_cons_of_neg (by simp)]
      rfl
    _ = pre ++ post := by rw [erase_eq_self hpre, erase_eq_self hpost]

end Table

namespace OrderedSet

variable {κ α : Type}

/-! ## Cells after a change -/

section Cells

variable (s : OrderedSet κ α) {i : Nat} (j x : Nat)

@[simp] theorem index_setAfter : (s.setAfter i j).index = s.index := rfl

@[simp] theorem index_setBefore : (s.setBefore i j).index = s.index := rfl

@[simp] theorem size_cells_setAfter : (s.setAfter i j).cells.size = s.cells.size :=
  Array.size_modify

@[simp] theorem size_cells_setBefore : (s.setBefore i j).cells.size = s.cells.size :=
  Array.size_modify

@[simp] theorem held?_setAfter : (s.setAfter i j).held? x = s.held? x := by
  simp only [held?, setAfter, Array.getElem?_modify]
  cases s.cells[x]? <;> split <;> rfl

@[simp] theorem held?_setBefore : (s.setBefore i j).held? x = s.held? x := by
  simp only [held?, setBefore, Array.getElem?_modify]
  cases s.cells[x]? <;> split <;> rfl

@[simp] theorem before_setAfter : (s.setAfter i j).before x = s.before x := by
  simp only [before, setAfter, Array.getElem?_modify]
  cases s.cells[x]? <;> split <;> rfl

@[simp] theorem after_setBefore : (s.setBefore i j).after x = s.after x := by
  simp only [after, setBefore, Array.getElem?_modify]
  cases s.cells[x]? <;> split <;> rfl

theorem after_setAfter (hi : i < s.cells.size) :
    (s.setAfter i j).after x = if x = i then j else s.after x := by
  simp only [after, setAfter, Array.getElem?_modify, eq_comm (a := x)]
  split
  · subst x; simp [hi]
  · rfl

theorem before_setBefore (hi : i < s.cells.size) :
    (s.setBefore i j).before x = if x = i then j else s.before x := by
  simp only [before, setBefore, Array.getElem?_modify, eq_comm (a := x)]
  split
  · subst x; simp [hi]
  · rfl

variable (c : Cell κ α) (index : Table κ Nat)

theorem held?_push : held? ⟨s.cells.push c, index⟩ x
    = if x = s.cells.size then c.entry else s.held? x := by
  simp only [held?, Array.getElem?_push]
  split <;> rfl

theorem after_push : after ⟨s.cells.push c, index⟩ x
    = if x = s.cells.size then c.after else s.after x := by
  simp only [after, Array.getElem?_push]
  split <;> rfl

theorem before_push : before ⟨s.cells.push c, index⟩ x
    = if x = s.cells.size then c.before else s.before x := by
  simp only [before, Array.getElem?_push]
  split <;> rfl

end Cells

/-! ## The ring of a set -/

/-- A live cell of a set: its address, and its key and element. -/
abbrev Live (κ α : Type) := Nat × κ × α

/-- The entries of live cells. -/
def listed (live : List (Live κ α)) : Table κ α := live.map (·.2)

/-- The addresses of live cells, led by the closing cell. -/
def ring (live : List (Live κ α)) : List Nat := 0 :: live.map (·.1)

@[simp]
theorem ring_append (live more : List (Live κ α)) :
    ring (live ++ more) = ring live ++ more.map Prod.fst := congrArg (0 :: ·) map_append

/-- Two cells next to each other: the one is followed by the other, which is preceded by
the one. -/
def Linked (s : OrderedSet κ α) (i j : Nat) : Prop := s.after i = j ∧ s.before j = i

/-- The ring of a set runs from the closing cell through given cells back to it. -/
structure Chained (s : OrderedSet κ α) (live : List (Live κ α)) : Prop where
  closing : 0 < s.cells.size
  linked : (ring live ++ [0]).IsChain s.Linked
  addresses : (ring live).Nodup
  entries : ∀ c ∈ live, s.held? c.1 = some c.2
  /-- The table leads to the live cells and to no other. -/
  index : s.index = live.map fun c => (c.2.1, c.1)
  keys : (listed live).keys.Nodup

/-- A chain of links stays where a change touches neither the links onwards of its cells
but the last nor the links back of its cells but the first. -/
theorem isChain_of_kept {s s' : OrderedSet κ α} {cells : List Nat} (h : cells.IsChain s.Linked)
    (hafter : ∀ i ∈ cells.dropLast, s'.after i = s.after i)
    (hbefore : ∀ i ∈ cells.tail, s'.before i = s.before i) : cells.IsChain s'.Linked := by
  rw [isChain_iff_forall₂] at h ⊢
  obtain ⟨hlength, hpairs⟩ := forall₂_iff_zip.mp h
  refine forall₂_iff_zip.mpr ⟨hlength, fun hmem => ?_⟩
  obtain ⟨hi, hj⟩ := of_mem_zip hmem
  obtain ⟨hij, hji⟩ := hpairs hmem
  exact ⟨(hafter _ hi).trans hij, (hbefore _ hj).trans hji⟩

variable {s : OrderedSet κ α} {live : List (Live κ α)}

namespace Chained

theorem lt_size (h : s.Chained live) : ∀ i ∈ ring live, i < s.cells.size := by
  refine forall_mem_cons.mpr ⟨h.closing, forall_mem_map.mpr fun c hc => ?_⟩
  obtain ⟨_, hcell, -⟩ := Option.bind_eq_some_iff.mp (h.entries c hc)
  exact (Array.getElem?_eq_some_iff.mp hcell).1

/-- There are more cells than elements. -/
theorem length_lt (h : s.Chained live) : live.length < s.cells.size := by
  have hsub : ring live ⊆ range s.cells.size := fun i hi => mem_range.mpr (h.lt_size i hi)
  have hlength := (subperm_of_subset h.addresses hsub).length_le
  rwa [ring, length_cons, length_map, length_range] at hlength

theorem size_eq (h : s.Chained live) : s.size = (listed live).length := by
  rw [size, h.index, length_map, listed, length_map]

theorem keys_index (h : s.Chained live) : s.index.keys = (listed live).keys := by
  rw [h.index, Table.keys, map_map, Table.keys, listed, map_map]
  rfl

end Chained

/-! ## Following the ring -/

/-- Followed from a cell on, a ring gives the entries of the cells up to the closing cell,
as soon as there is a step for each of them and one for the closing cell. -/
theorem follow_of_isChain {step : Nat → Nat} (hentries : ∀ c ∈ live, s.held? c.1 = some c.2)
    (hclosing : 0 ∉ live.map Prod.fst) {i n : Nat}
    (hlinked : (i :: live.map Prod.fst ++ [0]).IsChain (step · = ·)) (hn : live.length < n) :
    s.follow step n (step i) = some (listed live) := by
  induction live generalizing i n with
  | nil =>
    obtain ⟨n, rfl⟩ := Nat.exists_eq_succ_of_ne_zero (Nat.ne_of_gt hn)
    rw [isChain_pair.mp hlinked]
    rfl
  | cons c live ih =>
    obtain ⟨n, rfl⟩ := Nat.exists_eq_succ_of_ne_zero (Nat.ne_of_gt (Nat.zero_lt_of_lt hn))
    rw [map_cons, mem_cons, not_or] at hclosing
    obtain ⟨hstep, hrest⟩ := isChain_cons_cons.mp hlinked
    obtain ⟨hentry, hentries⟩ := forall_mem_cons.mp hentries
    have hfollow := ih hentries hclosing.2 hrest (Nat.lt_of_succ_lt_succ hn)
    rw [hstep, follow.eq_3 _ _ _ _ (Ne.symm hclosing.1), hentry, hfollow]
    rfl

namespace Chained

/-- Onwards, the ring gives the list. -/
theorem follow_after (h : s.Chained live) {n : Nat} (hn : live.length < n) :
    s.follow s.after n (s.after 0) = some (listed live) :=
  follow_of_isChain h.entries (nodup_cons.mp h.addresses).1
    (h.linked.imp fun _ _ => And.left) hn

/-- Backwards, it gives the list reversed. -/
theorem follow_before (h : s.Chained live) {n : Nat} (hn : live.length < n) :
    s.follow s.before n (s.before 0) = some (listed live).reverse := by
  have hback : (ring live ++ [0]).reverse.IsChain (s.before · = ·) :=
    isChain_reverse.mpr (h.linked.imp fun _ _ => And.right)
  have hclosing : 0 ∉ live.reverse.map Prod.fst := by
    rw [map_reverse, mem_reverse]
    exact (nodup_cons.mp h.addresses).1
  rw [listed, ← map_reverse]
  refine follow_of_isChain (fun c hc => h.entries c (mem_reverse.mp hc)) hclosing ?_
    (by rwa [length_reverse])
  simpa [ring] using hback

theorem entries_eq (h : s.Chained live) : s.entries = listed live := by
  rw [OrderedSet.entries, h.follow_after h.length_lt, Option.getD_some]

theorem toListReversed_eq (h : s.Chained live) :
    s.toListReversed = (listed live).values.reverse := by
  rw [toListReversed, h.follow_before h.length_lt, Option.getD_some, map_reverse, Table.values]

end Chained

/-! ## Links of a changed ring -/

namespace Chained

variable {front back : List (Live κ α)} {c : Live κ α}

/-- The closing cell is preceded by the last cell of the ring. -/
theorem exists_last (h : s.Chained live) : ∃ front, ring live = front ++ [s.before 0] := by
  obtain ⟨front, last, hring⟩ := (eq_nil_or_concat' (ring live)).resolve_left (cons_ne_nil _ _)
  have hlinked := h.linked
  rw [hring, append_assoc, singleton_append, isChain_append_cons_cons] at hlinked
  exact ⟨front, by rw [hring, hlinked.2.1.2]⟩

/-- A new cell that comes between the last one and the closing one closes the ring again. -/
theorem isChain_add (h : s.Chained live) {s' : OrderedSet κ α} {n : Nat} (hn : n ∉ ring live)
    (hafter : ∀ i, s'.after i = if i = s.before 0 then n else if i = n then 0 else s.after i)
    (hbefore : ∀ i, s'.before i = if i = 0 then n else if i = n then s.before 0 else s.before i) :
    (ring live ++ [n, 0]).IsChain s'.Linked := by
  obtain ⟨front, hring⟩ := h.exists_last
  obtain ⟨hclosing, -⟩ := nodup_cons.mp h.addresses
  have hlast : s.before 0 ∉ front ∧ s.before 0 ≠ n := by
    have hnodup := h.addresses
    rw [hring, ← concat_eq_append, nodup_concat] at hnodup
    exact ⟨hnodup.1, ne_of_mem_of_not_mem (hring ▸ mem_concat_self) hn⟩
  have hkept : (ring live).IsChain s'.Linked := by
    refine isChain_of_kept (isChain_append.mp h.linked).1 (fun i hi => ?_) fun i hi => ?_
    · have hin : i ≠ n := ne_of_mem_of_not_mem (dropLast_subset _ hi) hn
      rw [hring, dropLast_concat] at hi
      rw [hafter, if_neg (ne_of_mem_of_not_mem hi hlast.1), if_neg hin]
    · have hin : i ≠ n := ne_of_mem_of_not_mem (mem_of_mem_tail hi) hn
      rw [hbefore, if_neg (ne_of_mem_of_not_mem hi hclosing), if_neg hin]
  have hn0 : n ≠ 0 := fun h0 => hn (h0 ▸ mem_cons_self)
  rw [hring] at hkept ⊢
  rw [append_assoc, singleton_append, isChain_append_cons_cons, isChain_pair]
  refine ⟨hkept, ⟨?_, ?_⟩, ?_, ?_⟩
  · rw [hafter, if_pos rfl]
  · rw [hbefore, if_neg hn0, if_pos rfl]
  · rw [hafter, if_neg hlast.2.symm, if_pos rfl]
  · rw [hbefore, if_pos rfl]

/-- The neighbours of a live cell, and what the ring is before and after them. Neither of
the two occurs elsewhere in the ring. -/
theorem exists_neighbours (h : s.Chained (front ++ c :: back)) : ∃ pre post,
    ring front = pre ++ [s.before c.1] ∧ back.map Prod.fst ++ [0] = s.after c.1 :: post
      ∧ s.before c.1 ∉ pre ∧ s.before c.1 ∉ back.map Prod.fst
      ∧ s.after c.1 ∉ front.map Prod.fst ∧ s.after c.1 ∉ post := by
  obtain ⟨pre, p, hpre⟩ := (eq_nil_or_concat' (ring front)).resolve_left (cons_ne_nil _ _)
  obtain ⟨q, post, hpost⟩ : ∃ q post, back.map Prod.fst ++ [0] = q :: post :=
    exists_cons_of_ne_nil (concat_ne_nil _ _)
  have hlinked := h.linked
  rw [ring_append, map_cons, append_assoc, cons_append, hpost, hpre, append_assoc,
    singleton_append, isChain_append_cons_cons, isChain_cons_cons] at hlinked
  obtain ⟨-, ⟨-, hp⟩, ⟨hq, -⟩, -⟩ := hlinked
  rw [hp, hq]
  obtain ⟨hfront, hrest, hapart⟩ := nodup_append.mp (ring_append front (c :: back) ▸ h.addresses)
  have hback : (back.map Prod.fst ++ [0]).Nodup :=
    (nodup_cons.mp hrest).2.append (nodup_singleton 0) (disjoint_singleton.mpr fun h0 =>
      hapart 0 mem_cons_self 0 (mem_cons_of_mem _ h0) rfl)
  refine ⟨pre, post, hpre, hpost, ?_, ?_, ?_, ?_⟩
  · rw [hpre, ← concat_eq_append, List.nodup_concat] at hfront
    exact hfront.1
  · exact fun hb => hapart p (hpre ▸ mem_concat_self) p (mem_cons_of_mem _ hb) rfl
  · intro hf
    rcases mem_append.mp (hpost ▸ mem_cons_self : q ∈ back.map Prod.fst ++ [0]) with hb | hb
    · exact hapart q (mem_cons_of_mem _ hf) q (mem_cons_of_mem _ hb) rfl
    · exact (nodup_cons.mp hfront).1 (mem_singleton.mp hb ▸ hf)
  · exact (nodup_cons.mp (hpost ▸ hback)).1

/-- The neighbours of a cell, joined to each other, close the ring without it. -/
theorem isChain_discard (h : s.Chained (front ++ c :: back)) {s' : OrderedSet κ α}
    (hafter : ∀ i, s'.after i = if i = s.before c.1 then s.after c.1 else s.after i)
    (hbefore : ∀ i, s'.before i = if i = s.after c.1 then s.before c.1 else s.before i) :
    (ring (front ++ back) ++ [0]).IsChain s'.Linked := by
  obtain ⟨pre, post, hpre, hpost, hp, hp', hq, hq'⟩ := h.exists_neighbours
  have hlinked := h.linked
  rw [ring_append, append_assoc, map_cons, cons_append] at hlinked
  have hfront : (ring front).IsChain s'.Linked := by
    refine isChain_of_kept hlinked.left_of_append (fun i hi => ?_) fun i hi => ?_
    · rw [hpre, dropLast_concat] at hi
      rw [hafter, if_neg (ne_of_mem_of_not_mem hi hp)]
    · rw [hbefore, if_neg (ne_of_mem_of_not_mem hi hq)]
  have hback : (back.map Prod.fst ++ [0]).IsChain s'.Linked := by
    refine isChain_of_kept hlinked.right_of_append.tail (fun i hi => ?_) fun i hi => ?_
    · rw [dropLast_concat] at hi
      rw [hafter, if_neg (ne_of_mem_of_not_mem hi hp')]
    · rw [hpost, tail_cons] at hi
      rw [hbefore, if_neg (ne_of_mem_of_not_mem hi hq')]
  rw [ring_append, append_assoc, hpost, hpre, append_assoc, singleton_append,
    isChain_append_cons_cons, ← hpre, ← hpost]
  exact ⟨hfront, ⟨(hafter _).trans (if_pos rfl), (hbefore _).trans (if_pos rfl)⟩, hback⟩

end Chained

/-! ## Changing the ring -/

theorem Chained.empty : (empty : OrderedSet κ α).Chained [] where
  closing := Nat.one_pos
  linked := isChain_pair.mpr ⟨rfl, rfl⟩
  addresses := nodup_singleton 0
  entries _ hc := absurd hc not_mem_nil
  index := rfl
  keys := nodup_nil

variable [DecidableEq κ]

/-- A list with an entry at its end, unless the key is in it already. -/
def appendNew (l : Table κ α) (k : κ) (a : α) : Table κ α :=
  if k ∈ l.keys then l else l ++ [(k, a)]

namespace Chained

/-- The set has the keys of its list. -/
theorem contains_iff (h : s.Chained live) (k : κ) :
    s.contains k = true ↔ k ∈ (listed live).keys := by
  rw [contains, has_eq_isSome, ← h.keys_index, ← not_iff_not, Bool.not_eq_true,
    Option.isSome_eq_false_iff, Option.isNone_iff_eq_none, get?_eq_none_iff]

variable {front back : List (Live κ α)} {c : Live κ α}

/-- A set with a key that it does not hold gets one more cell. -/
theorem add_of_notMem (h : s.Chained live) {k : κ} (hk : k ∉ (listed live).keys) (a : α) :
    (s.add k a).Chained (live ++ [(s.cells.size, k, a)]) := by
  have hpos := h.closing
  have hnew : s.cells.size ∉ ring live := fun hmem => (h.lt_size _ hmem).false
  have hlast : s.before 0 < s.cells.size := by
    obtain ⟨front, hring⟩ := h.exists_last
    exact h.lt_size _ (hring ▸ mem_concat_self)
  have hring : ring (live ++ [(s.cells.size, k, a)]) = ring live ++ [s.cells.size] :=
    ring_append ..
  rw [OrderedSet.add, if_neg (mt (h.contains_iff k).mp hk)]
  dsimp only
  refine ⟨by simp, ?linked, ?addresses, ?entries, ?index, ?keys⟩
  case linked =>
    rw [hring, append_assoc]
    refine h.isChain_add hnew (fun i => ?_) fun i => ?_
    · rw [after_setBefore, after_setAfter _ _ _ (by simp; omega), after_push]
    · rw [before_setBefore _ _ _ (by simp), before_setAfter, before_push]
  case addresses =>
    rw [hring]
    exact h.addresses.append (nodup_singleton _) (disjoint_singleton.mpr hnew)
  case entries =>
    intro c hc
    rw [held?_setBefore, held?_setAfter, held?_push]
    rcases mem_append.mp hc with hc | hc
    · have hne := ne_of_mem_of_not_mem (mem_cons_of_mem 0 (mem_map_of_mem hc)) hnew
      rw [if_neg hne, h.entries c hc]
    · rw [mem_singleton.mp hc, if_pos rfl]
  case index =>
    rw [index_setBefore, index_setAfter, set_eq_append (by rwa [h.keys_index]), h.index, map_append]
    rfl
  case keys =>
    rw [listed, map_append, Table.keys, map_append]
    exact h.keys.append (nodup_singleton k) (disjoint_singleton.mpr hk)

/-- Adding changes the list as `appendNew` does. -/
theorem add (h : s.Chained live) (k : κ) (a : α) :
    ∃ live', (s.add k a).Chained live' ∧ listed live' = appendNew (listed live) k a := by
  by_cases hk : k ∈ (listed live).keys
  · exact ⟨live, by rwa [OrderedSet.add, if_pos ((h.contains_iff k).mpr hk)], (if_pos hk).symm⟩
  · exact ⟨_, h.add_of_notMem hk a, map_append.trans (if_neg hk).symm⟩

theorem discard_of_split (h : s.Chained (front ++ c :: back)) :
    (s.discard c.2.1).Chained (front ++ back) := by
  obtain ⟨pre, post, hpre, hpost, -⟩ := h.exists_neighbours
  have hsub : front ++ back <+ front ++ c :: back := (sublist_cons_self ..).append_left front
  have hnodup : s.index.keys.Nodup := h.keys_index ▸ h.keys
  have hget : s.index.get? c.2.1 = some c.1 := by
    rw [get?_eq_some_iff hnodup, h.index]
    exact mem_map.mpr ⟨c, mem_append_cons_self, rfl⟩
  have hp : s.before c.1 < s.cells.size := h.lt_size _ (by
    rw [ring_append, hpre]
    exact mem_append_left _ mem_concat_self)
  have hq : s.after c.1 < s.cells.size := by
    have hmem : s.after c.1 ∈ back.map Prod.fst ++ [0] := hpost ▸ mem_cons_self
    refine h.lt_size _ ?_
    rw [ring_append]
    rcases mem_append.mp hmem with hb | hb
    · exact mem_append_right _ (mem_cons_of_mem _ hb)
    · exact mem_singleton.mp hb ▸ mem_cons_self
  rw [OrderedSet.discard, hget]
  dsimp only
  refine ⟨by simpa using h.closing, ?linked, ?addresses, ?entries, ?index, ?keys⟩
  case linked =>
    refine h.isChain_discard (fun i => ?_) fun i => ?_
    · exact (after_setBefore ..).trans (after_setAfter _ _ _ hp)
    · rw [before_setBefore _ _ _ (by rwa [size_cells_setAfter]), before_setAfter]
      rfl
  case addresses => exact h.addresses.sublist ((hsub.map _).cons_cons 0)
  case entries =>
    intro c hc
    rw [held?_setBefore, held?_setAfter]
    exact h.entries c (hsub.subset hc)
  case index =>
    rw [h.index, map_append, map_cons] at hnodup
    rw [index_setBefore, index_setAfter]
    dsimp only
    rw [h.index, map_append, map_cons, erase_of_split hnodup, map_append]
  case keys => exact h.keys.sublist ((hsub.map _).map _)

/-- Discarding takes the entry of the key out of the list. -/
theorem discard (h : s.Chained live) (k : κ) :
    ∃ live', (s.discard k).Chained live' ∧ listed live' = (listed live).erase k := by
  by_cases hk : k ∈ (listed live).keys
  · obtain ⟨_, he, rfl⟩ := mem_map.mp hk
    obtain ⟨c, hc, rfl⟩ := mem_map.mp he
    obtain ⟨front, back, rfl⟩ := append_of_mem hc
    have hkeys := h.keys
    rw [listed, map_append, map_cons] at hkeys
    refine ⟨front ++ back, h.discard_of_split, ?_⟩
    rw [listed, map_append, listed, map_append, map_cons, erase_of_split hkeys]
  · refine ⟨live, ?_, (erase_eq_self hk).symm⟩
    rwa [OrderedSet.discard, get?_eq_none_iff.mpr (by rwa [h.keys_index])]

/-- Popping the first element takes out the cell after the closing one. -/
theorem pop?_first (h : s.Chained (c :: live)) :
    s.pop? false = some (c.2.2, s.discard c.2.1) := by
  have hsize : s.size ≠ 0 := by simp [h.size_eq, listed]
  have hafter : s.after 0 = c.1 := (isChain_cons_cons.mp h.linked).1.1
  have hentry : s.held? c.1 = some c.2 := h.entries c mem_cons_self
  simp [pop?, hsize, hafter, hentry]

/-- Popping the last element takes out the cell before the closing one. -/
theorem pop?_last (h : s.Chained (live ++ [c])) :
    s.pop? true = some (c.2.2, s.discard c.2.1) := by
  have hsize : s.size ≠ 0 := by simp [h.size_eq, listed]
  have hbefore : s.before 0 = c.1 := by
    have hlinked := h.linked
    rw [ring_append, append_assoc] at hlinked
    exact (isChain_pair.mp hlinked.right_of_append).2
  have hentry : s.held? c.1 = some c.2 := h.entries c mem_concat_self
  simp [pop?, hsize, hbefore, hentry]

theorem pop?_nil (h : s.Chained []) (isLast : Bool) : s.pop? isLast = none := if_pos h.size_eq

theorem pop?_eq_none_iff (h : s.Chained live) (isLast : Bool) :
    s.pop? isLast = none ↔ listed live = [] := by
  constructor
  · intro hnone
    by_contra hne
    rw [listed, map_eq_nil_iff] at hne
    cases isLast with
    | false =>
      obtain ⟨c, rest, rfl⟩ := exists_cons_of_ne_nil hne
      cases hnone.symm.trans h.pop?_first
    | true =>
      obtain ⟨init, c, rfl⟩ := (eq_nil_or_concat' live).resolve_left hne
      cases hnone.symm.trans h.pop?_last
  · intro hnil
    rw [listed, map_eq_nil_iff] at hnil
    subst hnil
    exact h.pop?_nil isLast

end Chained

/-! ## Changes one after another -/

/-- A change of a set. -/
inductive Change (κ α : Type) where
  | add (k : κ) (a : α)
  | discard (k : κ)
  | pop (isLast : Bool)

/-- Make a change: what it gives, if anything, and the changed set. A set that has no
element to pop stays as it is. -/
def change (s : OrderedSet κ α) : Change κ α → Option α × OrderedSet κ α
  | .add k a => (none, s.add k a)
  | .discard k => (none, s.discard k)
  | .pop isLast => ((s.pop? isLast).map (·.1), ((s.pop? isLast).map (·.2)).getD s)

/-- The change of a list of entries that a change of the set stands for. -/
def changeList (l : Table κ α) : Change κ α → Option α × Table κ α
  | .add k a => (none, appendNew l k a)
  | .discard k => (none, l.erase k)
  | .pop true => (l.getLast?.map (·.2), l.dropLast)
  | .pop false => (l.head?.map (·.2), l.tail)

/-- Changes made one after another, with what each of them gives. -/
def inTurn {σ : Type} (step : σ → Change κ α → Option α × σ) :
    σ → List (Change κ α) → List (Option α) × σ
  | s, [] => ([], s)
  | s, c :: rest =>
    let after := inTurn step (step s c).2 rest
    ((step s c).1 :: after.1, after.2)

/-- A change leads from a chained set to a chained set, and gives what the change of the
list gives. -/
theorem Chained.change (h : s.Chained live) (c : Change κ α) : ∃ live',
    (s.change c).2.Chained live'
      ∧ changeList (listed live) c = ((s.change c).1, listed live') := by
  rcases c with ⟨k, a⟩ | k | _ | _
  · obtain ⟨live', hlive, hlisted⟩ := h.add k a
    exact ⟨live', hlive, congrArg (none, ·) hlisted.symm⟩
  · obtain ⟨live', hlive, hlisted⟩ := h.discard k
    exact ⟨live', hlive, congrArg (none, ·) hlisted.symm⟩
  · rcases live with _ | ⟨c, live⟩
    · rw [OrderedSet.change, h.pop?_nil]
      exact ⟨[], h, rfl⟩
    · rw [OrderedSet.change, h.pop?_first]
      exact ⟨live, @discard_of_split _ _ _ _ [] live c h, rfl⟩
  · rcases eq_nil_or_concat' live with rfl | ⟨live, c, rfl⟩
    · rw [OrderedSet.change, h.pop?_nil]
      exact ⟨[], h, rfl⟩
    · rw [OrderedSet.change, h.pop?_last]
      refine ⟨live, by simpa using h.discard_of_split, ?_⟩
      simp [changeList, listed]

/-- The same holds of changes made one after another. -/
theorem Chained.inTurn (h : s.Chained live) (changes : List (Change κ α)) : ∃ live',
    (inTurn OrderedSet.change s changes).2.Chained live'
      ∧ OrderedSet.inTurn changeList (listed live) changes
        = ((OrderedSet.inTurn OrderedSet.change s changes).1, listed live') := by
  induction changes generalizing s live with
  | nil => exact ⟨live, h, rfl⟩
  | cons c rest ih =>
    obtain ⟨live', hlive, hlist⟩ := h.change c
    obtain ⟨live'', hrest, hlists⟩ := ih hlive
    refine ⟨live'', hrest, ?_⟩
    simp only [OrderedSet.inTurn, hlist, hlists]

/-- The list of entries that come one after another, each key where it came first. -/
def firstEntries (entries : List (κ × α)) : Table κ α :=
  entries.foldl (fun l (k, a) => appendNew l k a) []

theorem exists_chained_ofEntries (entries : List (κ × α)) :
    ∃ live, (ofEntries entries).Chained live ∧ listed live = firstEntries entries := by
  unfold ofEntries addAll firstEntries
  induction entries using reverseRecOn with
  | nil => exact ⟨[], .empty, rfl⟩
  | append_singleton entries e ih =>
    obtain ⟨live, hlive, hlisted⟩ := ih
    rw [foldl_append, foldl_append, ← hlisted]
    exact hlive.add e.1 e.2

/-- **An ordered set is a list in which no key occurs twice.** Whatever it starts with and
whatever changes are made, each change gives what the same change of the list gives. The
ring runs through one cell for each entry of the list, and the keys lead to these cells
only. Followed with any number of steps above the length of the list, it is left at the
closing cell, after the entries of the list in its order, or backwards against it. Size
and membership are those of the list, and there is nothing to pop just when the list is
empty. -/
theorem changes_refine_list (entries : List (κ × α)) (changes : List (Change κ α)) :
    ∃ given s l live, inTurn change (ofEntries entries) changes = (given, s)
      ∧ inTurn changeList (firstEntries entries) changes = (given, l)
      ∧ s.Chained live ∧ listed live = l
      ∧ (∀ n, l.length < n → s.follow s.after n (s.after 0) = some l
        ∧ s.follow s.before n (s.before 0) = some l.reverse)
      ∧ l.keys.Nodup ∧ s.toList = l.values ∧ s.toListReversed = l.values.reverse
      ∧ s.size = l.length ∧ (∀ k, s.contains k = true ↔ k ∈ l.keys)
      ∧ ∀ isLast, s.pop? isLast = none ↔ l = [] := by
  obtain ⟨start, hstart, hlisted⟩ := exists_chained_ofEntries entries
  obtain ⟨live, h, hlist⟩ := hstart.inTurn changes
  rw [hlisted] at hlist
  have hlength : (listed live).length = live.length := length_map _
  refine ⟨_, _, _, live, rfl, hlist, h, rfl, fun n hn => ?_, h.keys, congrArg _ h.entries_eq,
    h.toListReversed_eq, h.size_eq, h.contains_iff, h.pop?_eq_none_iff⟩
  rw [hlength] at hn
  exact ⟨h.follow_after hn, h.follow_before hn⟩

end OrderedSet

end FlowBindings
