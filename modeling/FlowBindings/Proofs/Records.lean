import FlowBindings.Loci.Record
import FlowBindings.Proofs.Basic

/-!
# Records keep every version

A record does not keep the layouts of a class as they were given: a version that looks
like one before it only refers to that one, and whether it does is told by comparing two
lines of text. Nothing is lost by this. Where no name or type has a separator in it, the
line of a layout tells the layout (`signature_injective`), so what a reference leads to is
what was given. And only a version that spells its members out is ever referred to, so
that a reference is followed once (`Stores`).

`Record.Lists` says that a record stands for a plain table of members by version, and
`Records.Lists` the same of all records. Each step of adding keeps it
(`Record.Lists.add`, `Records.Lists.add`).
-/

namespace FlowBindings

open List Text Table

/-! ## Joined texts -/

theorem Text.toList_join (sep : String) (l : List String) :
    (join sep l).toList = sep.toList.intercalate (l.map String.toList) := by
  cases l with
  | nil => rfl
  | cons s rest =>
    show (rest.foldl (fun text t => text ++ sep ++ t) s).toList = _
    induction rest generalizing s with
    | nil => simp
    | cons t rest ih =>
      rw [foldl_cons, ih]
      cases rest <;> simp

/-- **Joining is undone by splitting**: texts without the separator are told by what they
are joined to. -/
theorem Text.join_injective {c : Char} {sep : String} (hsep : sep.toList = [c])
    {l l' : List String} (hl : l ≠ []) (hl' : l' ≠ []) (hfree : ∀ s ∈ l, c ∉ s.toList)
    (hfree' : ∀ s ∈ l', c ∉ s.toList) (h : join sep l = join sep l') : l = l' := by
  have hsplit : ∀ {k : List String}, k ≠ [] → (∀ s ∈ k, c ∉ s.toList) →
      (join sep k).toList.splitOn c = k.map String.toList := by
    intro k hk hfree
    rw [toList_join, hsep]
    refine splitOn_intercalate c (fun cs hcs => ?_) (fun hnil => hk (map_eq_nil_iff.mp hnil))
    obtain ⟨s, hs, rfl⟩ := mem_map.mp hcs
    exact hfree s hs
  refine map_injective_iff.mpr (fun s t hst => String.toList_inj.mp hst) ?_
  rw [← hsplit hl hfree, ← hsplit hl' hfree', h]

/-! ## Numbers as text -/

theorem Text.isDigit_of_mem_repr {n : Nat} {c : Char} (h : c ∈ n.repr.toList) :
    c.isDigit = true := by
  rw [Nat.repr_eq_ofList_toDigits, String.toList_ofList] at h
  exact Nat.isDigit_of_mem_toDigits (by decide) (by decide) h

theorem Text.repr_injective {m n : Nat} (h : m.repr = n.repr) : m = n := by
  rw [Nat.repr_eq_ofList_toDigits, Nat.repr_eq_ofList_toDigits, String.ofList_inj] at h
  have hread := congrArg (Nat.ofDigitChars 10 · 0) h
  simpa only [Nat.ofDigitChars_toDigits (b := 10) (by decide) (by decide)] using hread

theorem Text.mem_toString_int {i : Int} {c : Char} (h : c ∈ (toString i).toList) :
    c.isDigit = true ∨ c = '-' := by
  cases i with
  | ofNat n => exact Or.inl (isDigit_of_mem_repr h)
  | negSucc n =>
    change c ∈ ("-" ++ (n + 1).repr).toList at h
    rw [String.toList_append, mem_append] at h
    rcases h with h | h
    · exact Or.inr (mem_singleton.mp h)
    · exact Or.inl (isDigit_of_mem_repr h)

/-- **A number is told by its text.** -/
theorem Text.toString_int_injective {i j : Int} (h : toString i = toString j) : i = j := by
  -- only the text of a negative number has a minus in it
  have hminus : ∀ m n : Nat, m.repr ≠ "-" ++ n.repr := by
    intro m n heq
    have hmem : '-' ∈ m.repr.toList := by
      rw [heq, String.toList_append]
      exact mem_append_left _ (mem_singleton_self '-')
    exact absurd (isDigit_of_mem_repr hmem) (by decide)
  cases i with
  | ofNat m =>
    cases j with
    | ofNat n => exact congrArg Int.ofNat (repr_injective h)
    | negSucc n => exact absurd h (hminus m (n + 1))
  | negSucc m =>
    cases j with
    | ofNat n => exact absurd h.symm (hminus n (m + 1))
    | negSucc n =>
      change "-" ++ (m + 1).repr = "-" ++ (n + 1).repr at h
      rw [String.append_right_inj] at h
      exact congrArg Int.negSucc (Nat.succ.inj (repr_injective h))

namespace Loci

/-! ## Signatures -/

/-- A text with no separator of a signature in it. -/
def SeparatorFree (s : String) : Prop := ',' ∉ s.toList ∧ ';' ∉ s.toList

instance (s : String) : Decidable (SeparatorFree s) := inferInstanceAs (Decidable (_ ∧ _))

/-- A member whose name and type have no separator in them. -/
structure Slot.Clean (m : Slot) : Prop where
  type : SeparatorFree m.type
  name : SeparatorFree m.name

theorem separatorFree_offset (i : Int) : SeparatorFree (toString i) := by
  have hfree : ∀ c : Char, c.isDigit = false → c ≠ '-' → c ∉ (toString i).toList := by
    intro c hdigit hminus h
    rw [← Bool.not_eq_true] at hdigit
    exact (mem_toString_int h).elim hdigit hminus
  exact ⟨hfree ',' (by decide) (by decide), hfree ';' (by decide) (by decide)⟩

variable (m : Slot)

/-- A member as a part of a signature. -/
def Slot.line : String := join "," [m.type, m.name, toString m.offset]

theorem Slot.Clean.parts {m : Slot} (h : m.Clean) :
    ∀ s ∈ [m.type, m.name, toString m.offset], SeparatorFree s := by
  intro s hs
  simp only [mem_cons, not_mem_nil, or_false] at hs
  rcases hs with rfl | rfl | rfl
  · exact h.type
  · exact h.name
  · exact separatorFree_offset m.offset

theorem Slot.toList_line :
    m.line.toList = m.type.toList
      ++ ',' :: (m.name.toList ++ ',' :: (toString m.offset).toList) := by
  rw [Slot.line, toList_join]
  simp

theorem Slot.Clean.line_injective {m m' : Slot} (h : m.Clean) (h' : m'.Clean)
    (hline : m.line = m'.line) : m = m' := by
  have hparts := join_injective (c := ',') rfl (cons_ne_nil _ _) (cons_ne_nil _ _)
    (fun s hs => (h.parts s hs).1) (fun s hs => (h'.parts s hs).1) hline
  simp only [List.cons.injEq, and_true] at hparts
  obtain ⟨htype, hname, hoffset⟩ := hparts
  cases m
  cases m'
  cases htype
  cases hname
  cases toString_int_injective hoffset
  rfl

theorem Slot.Clean.line_free {m : Slot} (h : m.Clean) : ';' ∉ m.line.toList := by
  rw [Slot.toList_line]
  intro hmem
  simp only [mem_append, mem_cons] at hmem
  rcases hmem with hmem | hmem | hmem | hmem | hmem
  · exact h.type.2 hmem
  · exact absurd hmem (by decide)
  · exact h.name.2 hmem
  · exact absurd hmem (by decide)
  · exact (separatorFree_offset m.offset).2 hmem

theorem Slot.line_ne_nil : m.line.toList ≠ [] := by
  rw [Slot.toList_line]
  exact append_ne_nil_of_right_ne_nil _ (cons_ne_nil _ _)

/-- Members are told by their parts. -/
theorem Slot.lines_injective {ms ms' : List Slot} (h : ∀ m ∈ ms, m.Clean)
    (h' : ∀ m ∈ ms', m.Clean) (hlines : ms.map Slot.line = ms'.map Slot.line) : ms = ms' := by
  induction ms generalizing ms' with
  | nil => exact (map_eq_nil_iff.mp hlines.symm).symm
  | cons m ms ih =>
    cases ms' with
    | nil => cases hlines
    | cons m' ms' =>
      obtain ⟨hhead, htail⟩ := List.cons.inj hlines
      rw [(h m mem_cons_self).line_injective (h' m' mem_cons_self) hhead,
        ih (fun n hn => h n (mem_cons_of_mem _ hn))
          (fun n hn => h' n (mem_cons_of_mem _ hn)) htail]

theorem signature_eq (ms : List Slot) : signature ms = join ";" (ms.map Slot.line) := rfl

theorem signature_ne_empty (ms : List Slot) : signature (m :: ms) ≠ "" := by
  intro h
  have hnil : (signature (m :: ms)).toList = [] := by rw [h]; rfl
  rw [signature_eq, toList_join, map_cons, map_cons] at hnil
  cases hrest : (ms.map Slot.line).map String.toList with
  | nil =>
    rw [hrest, intercalate_singleton] at hnil
    exact m.line_ne_nil hnil
  | cons cs rest =>
    rw [hrest, intercalate_cons_cons, append_assoc, append_eq_nil_iff] at hnil
    exact m.line_ne_nil hnil.1

/-- **The line of a layout tells the layout**, where no name or type has a separator in
it. -/
theorem signature_injective {ms ms' : List Slot} (h : ∀ m ∈ ms, m.Clean) (h' : ∀ m ∈ ms', m.Clean)
    (hsig : signature ms = signature ms') : ms = ms' := by
  have hfree : ∀ {l : List Slot}, (∀ m ∈ l, m.Clean) → ∀ s ∈ l.map Slot.line, ';' ∉ s.toList := by
    intro l hl s hs
    obtain ⟨n, hn, rfl⟩ := mem_map.mp hs
    exact (hl n hn).line_free
  cases ms with
  | nil =>
    cases ms' with
    | nil => rfl
    | cons m' ms' => exact absurd hsig.symm (signature_ne_empty m' ms')
  | cons m ms =>
    cases ms' with
    | nil => exact absurd hsig (signature_ne_empty m ms)
    | cons m' ms' =>
      refine Slot.lines_injective h h' ?_
      exact join_injective (c := ';') rfl (by simp) (by simp) (hfree h) (hfree h') hsig

/-! ## Records -/

/-- **A version's entry stands for members**: it spells them out, or it refers to a
version that spells out members of the same signature. -/
inductive Stores (layouts : Table Nat Layout) (wire : Nat) (ms : List Slot) : Prop where
  /-- Spelled out. -/
  | own (h : layouts.get? wire = some (.own ms))
  /-- By reference. -/
  | sameAs {other : Nat} {ms' : List Slot} (h : layouts.get? wire = some (.sameAs other))
      (hown : layouts.get? other = some (.own ms')) (hsig : signature ms' = signature ms)

/-- **A record stands for a table of members by version.** -/
structure Record.Lists (r : Record) (added : Table Nat (List Slot)) : Prop where
  /-- The same versions. -/
  keys : r.layouts.keys = added.keys
  /-- Each version once. -/
  nodup : r.layouts.keys.Nodup
  /-- The members of each. -/
  stores : ∀ row ∈ added, Stores r.layouts row.1 row.2

namespace Record

variable {r r' : Record} {wire : Nat} {ms : List Slot} {added : Table Nat (List Slot)}

theorem layouts_mergeSlots (r : Record) (rank : Nat) (ms : List Slot) :
    (r.mergeSlots rank ms).1.layouts = r.layouts := by
  induction ms generalizing r rank with
  | nil => rfl
  | cons m ms ih =>
    unfold mergeSlots
    split
    · exact ih r rank
    · dsimp only
      split
      · split
        · exact ih _ rank
        · rfl
      · exact ih _ (rank + 1)

/-- The version that a layout is found under spells it out. -/
theorem exists_own_of_versionWith? {other : Nat} (h : r.versionWith? ms = some other) :
    ∃ ms', (other, .own ms') ∈ r.layouts ∧ signature ms' = signature ms := by
  obtain ⟨⟨w, layout⟩, hfind, rfl⟩ := Option.map_eq_some_iff.mp h
  have hmem := mem_of_find?_eq_some hfind
  have htest := List.find?_some hfind
  cases layout with
  | own ms' => exact ⟨ms', hmem, of_decide_eq_true htest⟩
  | sameAs => cases htest

theorem layouts_of_add (h : r.add wire ms = (r', true)) :
    wire ∉ r.layouts.keys
      ∧ ((∃ other, r.versionWith? ms = some other
          ∧ r'.layouts = r.layouts ++ [(wire, .sameAs other)])
        ∨ r'.layouts = r.layouts ++ [(wire, .own ms)]) := by
  unfold add at h
  split at h
  · cases h
  · next hnew =>
    refine ⟨fun hmem => hnew ?_, ?_⟩
    · rw [has_eq_isSome, Option.isSome_iff_ne_none, ne_eq, get?_eq_none_iff, not_not]
      exact hmem
    · split at h
      · next other hother =>
        cases h
        exact Or.inl ⟨other, hother, rfl⟩
      · have hmerge := layouts_mergeSlots
          { r with layouts := r.layouts ++ [(wire, .own ms)] } 0 ms
        rw [h] at hmerge
        exact Or.inr hmerge

theorem lists_empty : Record.empty.Lists [] :=
  ⟨rfl, nodup_nil, fun _ hrow => absurd hrow not_mem_nil⟩

/-- A row more in the table, for a new version whose entry stands for its members. -/
theorem Lists.append (h : r.Lists added) {layout : Layout} (hnew : wire ∉ r.layouts.keys)
    (hlayouts : r'.layouts = r.layouts ++ [(wire, layout)]) (hstores : Stores r'.layouts wire ms) :
    r'.Lists (added ++ [(wire, ms)]) := by
  refine ⟨?_, ?_, fun row hrow => ?_⟩
  · rw [hlayouts, Table.keys, Table.keys, map_append, map_append]
    exact congrArg (· ++ [wire]) h.keys
  · rw [hlayouts, Table.keys, map_append, ← Table.keys, map_singleton,
      ← concat_eq_append]
    exact h.nodup.concat hnew
  · rcases mem_append.mp hrow with hrow | hrow
    · rw [hlayouts]
      cases h.stores row hrow with
      | own hget => exact .own (get?_append_of_some hget)
      | sameAs hget hown hsig =>
        exact .sameAs (get?_append_of_some hget) (get?_append_of_some hown) hsig
    · obtain rfl := mem_singleton.mp hrow
      exact hstores

/-- **Adding a version adds a row to the table.** -/
theorem Lists.add (h : r.Lists added) (hadd : r.add wire ms = (r', true)) :
    r'.Lists (added ++ [(wire, ms)]) := by
  obtain ⟨hnew, ⟨other, hother, hlayouts⟩ | hlayouts⟩ := layouts_of_add hadd
  · obtain ⟨ms', hown, hsig⟩ := exists_own_of_versionWith? hother
    refine h.append hnew hlayouts ?_
    rw [hlayouts]
    exact .sameAs (get?_append_self hnew _)
      (get?_append_of_some ((get?_eq_some_iff h.nodup).mpr hown)) hsig
  · refine h.append hnew hlayouts ?_
    rw [hlayouts]
    exact .own (get?_append_self hnew _)

/-- **A version has the members it was given.** -/
theorem Lists.members_eq (h : r.Lists added) (hclean : ∀ row ∈ added, ∀ m ∈ row.2, m.Clean)
    {row : Nat × List Slot} (hrow : row ∈ added) : r.members row.1 = row.2 := by
  unfold members
  cases h.stores row hrow with
  | own hget => rw [hget]
  | @sameAs other ms' hget hown hsig =>
    rw [hget]
    dsimp only
    rw [hown]
    -- the other version was given these members too
    have hkey : other ∈ added.keys := by
      rw [← h.keys]
      exact mem_map_of_mem (mem_of_get? hown)
    obtain ⟨row', hrow', rfl⟩ := mem_map.mp hkey
    cases h.stores row' hrow' with
    | own hget' =>
      rw [hown] at hget'
      cases hget'
      exact signature_injective (hclean _ hrow') (hclean _ hrow) hsig
    | sameAs hget' =>
      rw [hown] at hget'
      cases hget'

/-- **A reference leads to a version that spells its members out.** -/
theorem Lists.own_of_sameAs (h : r.Lists added) {other : Nat}
    (href : (wire, .sameAs other) ∈ r.layouts) : ∃ ms, (other, .own ms) ∈ r.layouts := by
  have hget := (get?_eq_some_iff h.nodup).mpr href
  have hkey : wire ∈ added.keys := by
    rw [← h.keys]
    exact mem_map_of_mem href
  obtain ⟨row, hrow, rfl⟩ := mem_map.mp hkey
  cases h.stores row hrow with
  | own hget' =>
    rw [hget] at hget'
    cases hget'
  | sameAs hget' hown =>
    rw [hget] at hget'
    cases hget'
    exact ⟨_, mem_of_get? hown⟩

end Record

/-! ## All records -/

/-- A class that a version adds to the records. -/
structure Addition where
  /-- The version. -/
  wire : Nat
  /-- The name of the class. -/
  name : String
  /-- Its members in that version. -/
  members : List Slot

/-- The members of a class by version. -/
def rowsOf (n : String) (adds : List Addition) : Table Nat (List Slot) :=
  (adds.filter (·.name = n)).map fun a => (a.wire, a.members)

theorem mem_rowsOf {adds : List Addition} {a : Addition} (h : a ∈ adds) :
    (a.wire, a.members) ∈ rowsOf a.name adds :=
  mem_map_of_mem (mem_filter.mpr ⟨h, decide_eq_true rfl⟩)

@[simp]
theorem rowsOf_append_self (adds : List Addition) (a : Addition) :
    rowsOf a.name (adds ++ [a]) = rowsOf a.name adds ++ [(a.wire, a.members)] := by
  simp [rowsOf]

theorem rowsOf_append_of_ne {n : String} {a : Addition} (h : n ≠ a.name) (adds : List Addition) :
    rowsOf n (adds ++ [a]) = rowsOf n adds := by
  simp [rowsOf, h.symm]

/-- **The records stand for what was added**: no version has added a class twice, and the
record of each class stands for the members by version. -/
structure Records.Lists (t : Records) (adds : List Addition) : Prop where
  /-- Each version adds a class once. -/
  nodup : (adds.map fun a => (a.wire, a.name)).Nodup
  /-- The record of each class. -/
  record : ∀ n, ((t.get? n).getD .empty).Lists (rowsOf n adds)

namespace Records

variable {t t' : Records} {adds : List Addition} {a : Addition}

theorem lists_nil : Records.Lists [] [] :=
  ⟨nodup_nil, fun _ => Record.lists_empty⟩

theorem exists_of_add (hadd : t.add a.wire a.name a.members = (t', true)) :
    ∃ r, ((t.get? a.name).getD .empty).add a.wire a.members = (r, true)
      ∧ t' = t.set a.name r := by
  cases hr : ((t.get? a.name).getD .empty).add a.wire a.members with
  | mk r ok =>
    rw [Records.add, hr] at hadd
    obtain ⟨rfl, rfl⟩ := Prod.mk.inj hadd
    exact ⟨r, rfl, rfl⟩

/-- **What adding a version keeps of a record**, adding a class keeps of all. -/
theorem record_of_add {P : Record → Table Nat (List Slot) → Prop}
    (step : ∀ {r r' wire ms rows}, P r rows → r.add wire ms = (r', true) →
      P r' (rows ++ [(wire, ms)]))
    (h : ∀ n, P ((t.get? n).getD .empty) (rowsOf n adds))
    (hadd : t.add a.wire a.name a.members = (t', true)) (n : String) :
    P ((t'.get? n).getD .empty) (rowsOf n (adds ++ [a])) := by
  obtain ⟨r, hr, rfl⟩ := exists_of_add hadd
  by_cases hn : n = a.name
  · subst hn
    rw [rowsOf_append_self, get?_set_self]
    exact step (h a.name) hr
  · rw [rowsOf_append_of_ne hn, get?_set_of_ne _ _ hn]
    exact h n

/-- **Adding a class of a version.** -/
theorem Lists.add (h : t.Lists adds) (hadd : t.add a.wire a.name a.members = (t', true)) :
    t'.Lists (adds ++ [a]) := by
  obtain ⟨r, hr, -⟩ := exists_of_add hadd
  refine ⟨?_, record_of_add Record.Lists.add h.record hadd⟩
  rw [map_append, map_singleton, ← concat_eq_append]
  refine h.nodup.concat fun hmem => (Record.layouts_of_add hr).1 ?_
  obtain ⟨b, hb, heq⟩ := mem_map.mp hmem
  obtain ⟨hwire, hname⟩ := Prod.mk.inj heq
  rw [(h.record a.name).keys, ← hwire, ← hname]
  exact mem_map_of_mem (mem_rowsOf hb)

theorem Lists.exists_record (h : t.Lists adds) (ha : a ∈ adds) :
    ∃ r, t.get? a.name = some r ∧ r.Lists (rowsOf a.name adds) := by
  have hrecord := h.record a.name
  cases hget : t.get? a.name with
  | some r =>
    rw [hget] at hrecord
    exact ⟨r, rfl, hrecord⟩
  | none =>
    rw [hget] at hrecord
    have hkey : a.wire ∈ Record.empty.layouts.keys := by
      rw [show Record.empty.layouts.keys = (rowsOf a.name adds).keys from hrecord.keys]
      exact mem_map_of_mem (mem_rowsOf ha)
    exact absurd hkey not_mem_nil

/-- **A class has the members it was added with.** -/
theorem Lists.members_eq (h : t.Lists adds) (hclean : ∀ b ∈ adds, ∀ m ∈ b.members, m.Clean)
    (ha : a ∈ adds) : ∃ r, t.get? a.name = some r ∧ a.wire ∈ r.layouts.keys
      ∧ r.members a.wire = a.members := by
  obtain ⟨r, hget, hlists⟩ := h.exists_record ha
  refine ⟨r, hget, ?_, hlists.members_eq ?_ (mem_rowsOf ha)⟩
  · rw [hlists.keys]
    exact mem_map_of_mem (mem_rowsOf ha)
  · intro row hrow
    obtain ⟨b, hb, rfl⟩ := mem_map.mp hrow
    exact hclean b (mem_filter.mp hb).1

end Records

end Loci

end FlowBindings
