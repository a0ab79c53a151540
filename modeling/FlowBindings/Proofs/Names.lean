import FlowBindings.Proofs.Loading

/-!
# Names in a loaded model

The names in generated text come from declarations, and what is declared is named by
words. This module follows the names of the classes through a model: they are words in every
version (`Model.isWord_of_load`), whether a class is declared or identifies a declared one.

A model has each of its versions once, and only versions that were asked for
(`Model.made_of_load`), each built from sources that were read, so all of it can be written
(`Model.legible_of_load`).
-/

namespace FlowBindings

open String

/-! ## Characters of words -/

namespace Text

/-- A text of letters, digits and underscores. Unlike a word it may be empty. -/
def WordChars (s : String) : Prop := ∀ c ∈ s.toList, (c.isAlphanum || c == '_') = true

instance (s : String) : Decidable (WordChars s) := List.decidableBAll _ _

variable {s t : String}

theorem isWord_iff : isWord s = true ↔ s ≠ "" ∧ WordChars s := by
  unfold isWord WordChars
  rw [Bool.and_eq_true, List.all_eq_true, Bool.not_eq_true', isEmpty_eq_false_iff]

theorem wordChars_of_isWord (h : isWord s = true) : WordChars s := (isWord_iff.mp h).2

variable {c : Char}

theorem WordChars.not_mem (h : WordChars s) (hc : (c.isAlphanum || c == '_') = false) :
    c ∉ s.toList := by
  intro hmem
  rw [h c hmem] at hc
  cases hc

theorem WordChars.append (hs : WordChars s) (ht : WordChars t) : WordChars (s ++ t) := by
  intro c hc
  rw [toList_append, List.mem_append] at hc
  exact hc.elim (hs c) (ht c)

theorem isWord_append (hs : isWord s = true) (ht : WordChars t) : isWord (s ++ t) = true := by
  rw [isWord_iff] at hs ⊢
  exact ⟨fun heq => hs.1 (append_eq_empty_iff.mp heq).1, hs.2.append ht⟩

theorem WordChars.ofList {cs : List Char} (h : WordChars s) (hsub : cs ⊆ s.toList) :
    WordChars (String.ofList cs) := by
  intro c hc
  rw [toList_ofList] at hc
  exact h c (hsub hc)

theorem WordChars.dropFirst (h : WordChars s) (n : Nat) : WordChars (dropFirst n s) :=
  h.ofList (List.drop_subset _ _)

theorem WordChars.trimTail (h : WordChars s) (tail : String) : WordChars (trimTail s tail) := by
  unfold Text.trimTail
  split
  · exact h.ofList (List.take_subset _ _)
  · exact h

theorem WordChars.trimLead (h : WordChars s) (lead : String) : WordChars (trimLead s lead) := by
  unfold Text.trimLead
  split
  · exact h.dropFirst _
  · exact h

/-- The letters, digits and the underscore have codes below 128. -/
theorem toNat_lt_of_wordChar (h : (c.isAlphanum || c == '_') = true) :
    c.toNat < 128 :=
  Declaration.toNat_lt_of_isWordChar h

theorem forall_wordChar {P : Char → Prop} (h : ∀ n < 128,
      ((Char.ofNat n).isAlphanum || Char.ofNat n == '_') = true → P (Char.ofNat n))
    (hc : (c.isAlphanum || c == '_') = true) : P c := by
  have hcode := h c.toNat (toNat_lt_of_wordChar hc)
  rw [Char.ofNat_toNat] at hcode
  exact hcode hc

theorem WordChars.upper (h : WordChars s) : WordChars (upper s) := by
  intro c hc
  rw [Text.upper, toList_ofList, List.mem_flatMap] at hc
  obtain ⟨d, hd, hc⟩ := hc
  rw [upperForm, if_pos (toNat_lt_of_wordChar (h d hd)), List.mem_singleton] at hc
  rw [hc]
  exact forall_wordChar (P := fun d => (d.toUpper.isAlphanum || d.toUpper == '_') = true)
    (by decide +kernel) (h d hd)

theorem isWord_upper (h : isWord s = true) : isWord (upper s) = true := by
  rw [isWord_iff] at h ⊢
  refine ⟨fun hempty => h.1 ?_, h.2.upper⟩
  rw [← toList_inj, Text.upper, toList_ofList] at hempty
  cases hchars : s.toList with
  | nil => exact toList_inj.mp (hchars.trans rfl)
  | cons c cs =>
    have hsmall := toNat_lt_of_wordChar (h.2 c (hchars ▸ List.mem_cons_self))
    rw [hchars, List.flatMap_cons, upperForm, if_pos hsmall] at hempty
    cases hempty

end Text

/-! ## Names of classes -/

namespace Protocol

open Text List

theorem isWord_of_mem_idRoots : ∀ root ∈ idRoots, isWord root = true := by decide

/-- **The classes of a version are named by words**, where the declared ones are: a class that
identifies another is named after it. -/
theorem Built.isWord_name {v : Version} {decls : Declared} {enums : List Enum}
    {done : List Class} {taken : Set String} (h : Built v decls enums done taken)
    (hdecls : ∀ {n c file}, decls.get? n = some (c, file) → isWord c.name = true) :
    ∀ e ∈ done, isWord e.name = true := by
  induction h with
  | start => exact fun e he => absurd he not_mem_nil
  | layOut _ step ih =>
    intro e he
    rcases mem_append.mp he with he | he
    · exact ih e he
    · obtain ⟨file, hget⟩ := step.declared
      rw [mem_singleton.mp he, (ofSource_fields step.laidOut).1]
      exact hdecls hget
  | @identify done found taken root c _ _ hroot _ _ run ih =>
    intro e he
    rcases run.mem_cases he with he | ⟨d, ctx, -, -, step⟩
    · exact ih e he
    · obtain ⟨file, hget⟩ := step.declared
      rw [(ofSource_fields step.laidOut).1]
      exact isWord_append (isWord_append (isWord_of_mem_idRoots root hroot) (by decide))
        ((wordChars_of_isWord (hdecls hget)).dropFirst _)

theorem isWord_of_build {v : Version} {sources : List Source} {p : Protocol}
    (h : build v sources = .ok p)
    (hsources : ∀ s ∈ sources, ∀ c ∈ s.classes, isWord c.name = true) :
    ∀ e ∈ p.classes, isWord e.name = true := by
  obtain ⟨hbuilt, -⟩ := built_of_build h
  refine hbuilt.isWord_name fun {n c file} hget => ?_
  obtain ⟨hc, rfl⟩ := mem_classesOf_of_get? hget
  obtain ⟨s, hs, hc⟩ := mem_flatMap.mp hc
  exact hsources s hs c hc

end Protocol

/-! ## Versions of a model -/

namespace Model

open Text

/-- A table of versions asked for, each with sources that were read. -/
theorem keys_sourcesByVersion (targets : List Version) (sources : List Source) :
    (sourcesByVersion targets sources).keys.Nodup
      ∧ ∀ v ∈ (sourcesByVersion targets sources).keys, v ∈ targets := by
  let Asked (table : Table Version (List Source)) : Prop :=
    table.keys.Nodup ∧ ∀ v ∈ table.keys, v ∈ targets
  unfold sourcesByVersion
  refine List.foldlRecOn (motive := Asked) sources _ ⟨List.nodup_nil, nofun⟩ ?_
  intro table htable s hs
  refine List.foldlRecOn (motive := Asked) s.versions _ htable ?_
  intro table htable v _
  split
  · next hv =>
    refine ⟨Table.nodup_keys_set htable.1 v _, fun w hw => ?_⟩
    rcases Table.mem_keys_set.mp hw with rfl | hw
    · exact hv
    · exact htable.2 w hw
  · exact htable

theorem build_of_row_eq_ok {row : Version × List Source} {vp : Version × Protocol}
    (h : (match Protocol.build row.1 row.2 with
      | .ok p => pure (row.1, p)
      | .error e => throw (.protocol e) : Outcome (Version × Protocol)) = .ok vp) :
    vp.1 = row.1 ∧ Protocol.build row.1 row.2 = .ok vp.2 := by
  cases hp : Protocol.build row.1 row.2 with
  | error e =>
    rw [hp] at h
    cases h
  | ok p =>
    rw [hp] at h
    cases h
    exact ⟨rfl, rfl⟩

variable {files : Directory} {targets : List Version} {m : Model}

/-- **What a loaded model is made of**: each version once, and only versions asked for;
each is built from sources that were read. -/
theorem made_of_load (h : load files targets = .ok m) :
    m.protocols.keys.Nodup ∧ (∀ v ∈ m.protocols.keys, v ∈ targets)
      ∧ ∀ vp ∈ m.protocols, ∃ sources, Protocol.build vp.1 sources = .ok vp.2
        ∧ ∀ s ∈ sources, ∃ name text, readSource name text = .ok s := by
  obtain ⟨sources, hsources, h⟩ := bind_eq_ok_iff.mp h
  obtain ⟨protocols, hprotocols, h⟩ := bind_eq_ok_iff.mp h
  obtain rfl : protocols = m.protocols := by
    split at h <;> cases h
    rfl
  have hkeys : m.protocols.keys = (sourcesByVersion targets sources).keys := by
    have hall := (mapM_eq_ok_iff.mp hprotocols).imp fun row vp hbuild =>
      (build_of_row_eq_ok hbuild).1.symm
    rw [← List.forall₂_map_right_iff, ← List.forall₂_map_left_iff] at hall
    exact (List.forall₂_eq_eq_eq ▸ hall).symm
  obtain ⟨hnodup, hasked⟩ := keys_sourcesByVersion targets sources
  rw [hkeys]
  refine ⟨hnodup, hasked, fun vp hvp => ?_⟩
  obtain ⟨row, hmem, hbuild⟩ := exists_of_mem_of_mapM_eq_ok hprotocols hvp
  obtain ⟨heq, hp⟩ := build_of_row_eq_ok hbuild
  rw [heq]
  refine ⟨row.2, hp, fun s hs => ?_⟩
  obtain ⟨⟨name, text?⟩, -, hread⟩ :=
    exists_of_mem_of_mapM_eq_ok hsources (drawnFrom_sourcesByVersion _ _ _ hmem s hs)
  obtain ⟨text, -, hread⟩ := bind_eq_ok_iff.mp hread
  exact ⟨name, text, hread⟩

/-- **Whatever is loaded can be written.** -/
theorem legible_of_load (h : load files targets = .ok m) : ∀ vp ∈ m.protocols, vp.2.Legible := by
  intro vp hvp
  obtain ⟨sources, hbuild, hread⟩ := (made_of_load h).2.2 vp hvp
  refine Protocol.legible_of_build hbuild fun s hs => ?_
  obtain ⟨name, text, hread⟩ := hread s hs
  exact legible_of_readSource hread

theorem unified_of_load
    (h : load files targets = .ok m) : Unified.build m.protocols = .ok m.unified := by
  obtain ⟨_, -, h⟩ := bind_eq_ok_iff.mp h
  obtain ⟨protocols, -, h⟩ := bind_eq_ok_iff.mp h
  split at h
  · next u hu =>
    cases h
    exact hu
  · cases h

theorem isWord_of_readSource {name text : String} {s : Source}
    (h : readSource name text = .ok s) : ∀ c ∈ s.classes, isWord c.name = true := by
  obtain ⟨ds, hparse, hsource⟩ := exists_of_readSource h
  intro c hc
  obtain ⟨n, ps, up, lines, hd, hof⟩ := (Source.declared_of_ofDeclarations hsource).1 c hc
  rw [(Source.Class.ofDeclaration_spec hof).1]
  exact (Declaration.wellFormed_of_parse hparse _ hd).1

/-- **The classes of a loaded model are named by words.** -/
theorem isWord_of_load (h : load files targets = .ok m) :
    ∀ vp ∈ m.protocols, ∀ e ∈ vp.2.classes, isWord e.name = true := by
  intro vp hvp
  obtain ⟨sources, hbuild, hread⟩ := (made_of_load h).2.2 vp hvp
  refine Protocol.isWord_of_build hbuild fun s hs => ?_
  obtain ⟨name, text, hs⟩ := hread s hs
  exact isWord_of_readSource hs

end Model

end FlowBindings
