import FlowBindings.Model
import FlowBindings.Proofs.Construction
import FlowBindings.Proofs.Grammar.Accepted

/-!
# What a loaded model is made of

Nothing in a model is made up. A source holds what its file declares
(`Source.declared_of_ofDeclarations`), a protocol has the fields its sources declare,
in classes of its own or in those that identify others (`Protocol.Built.field_declared`),
and a model has the protocols of the sources it has read.

So what the grammar says of a text is true of every name in a model. A field has a word
for its name and a type of one of the written forms (`LegibleField`); a parameter of an
enum has a word for its value.
-/

namespace FlowBindings

open List

theorem exists_of_mem_of_mapM_eq_ok {ε α β : Type} {f : α → Except ε β} {l : List α} {r : List β}
    (h : l.mapM f = .ok r) {b : β} (hb : b ∈ r) : ∃ a ∈ l, f a = .ok b := by
  have hall := mapM_eq_ok_iff.mp h
  clear h
  induction hall with
  | nil => exact absurd hb not_mem_nil
  | cons hab _ ih =>
    rcases mem_cons.mp hb with rfl | hb
    · exact ⟨_, mem_cons_self, hab⟩
    · obtain ⟨a, ha, hf⟩ := ih hb
      exact ⟨a, mem_cons_of_mem _ ha, hf⟩

theorem exists_split_of_mapM_eq_ok {ε α β : Type} {f : α → Except ε β} {l l' : List α} {a : α}
    {r : List β} (h : (l ++ a :: l').mapM f = .ok r) :
    ∃ s b s', l.mapM f = .ok s ∧ f a = .ok b ∧ l'.mapM f = .ok s' ∧ r = s ++ b :: s' := by
  rw [mapM_append] at h
  obtain ⟨s, hs, h⟩ := bind_eq_ok_iff.mp h
  obtain ⟨rest, hrest, h⟩ := bind_eq_ok_iff.mp h
  rw [mapM_cons] at hrest
  obtain ⟨b, hb, hrest⟩ := bind_eq_ok_iff.mp hrest
  obtain ⟨s', hs', hrest⟩ := bind_eq_ok_iff.mp hrest
  cases hrest
  cases h
  exact ⟨s, b, s', hs, hb, hs', rfl⟩

theorem exists_mem_of_mapM_eq_ok {ε α β : Type} {f : α → Except ε β} {l : List α} {r : List β}
    (h : l.mapM f = .ok r) {a : α} (ha : a ∈ l) : ∃ b ∈ r, f a = .ok b := by
  have hall := mapM_eq_ok_iff.mp h
  clear h
  induction hall with
  | nil => exact absurd ha not_mem_nil
  | cons hab _ ih =>
    rcases mem_cons.mp ha with rfl | ha
    · exact ⟨_, mem_cons_self, hab⟩
    · obtain ⟨b, hb, hf⟩ := ih ha
      exact ⟨b, mem_cons_of_mem _ hb, hf⟩

/-- Readings have results together just when each has one. -/
theorem exists_mapM_iff {ε α β : Type} {f : α → Except ε β} {l : List α} :
    (∃ r, l.mapM f = .ok r) ↔ ∀ a ∈ l, ∃ b, f a = .ok b := by
  constructor
  · rintro ⟨r, hr⟩ a ha
    obtain ⟨b, -, hb⟩ := exists_mem_of_mapM_eq_ok hr ha
    exact ⟨b, hb⟩
  · intro h
    obtain ⟨r, hr, -⟩ := @exists_mapM_eq_ok _ _ _ _ (fun _ _ => True) f fun a ha => by
      obtain ⟨b, hb⟩ := h a ha
      exact ⟨b, hb, trivial⟩
    exact ⟨r, hr⟩

/-! ## Sources -/

namespace Source

variable {file : String} {ds : List Declaration} {s s' : Source}

theorem add_cases {d : Declaration} (h : s.add d = .ok s') :
    (∀ c ∈ s'.classes, c ∈ s.classes ∨ ∃ name ps up lines,
        d = .struct name ps up lines ∧ Class.ofDeclaration name ps up lines = .ok c)
      ∧ ∀ e ∈ s'.enums, e ∈ s.enums ∨ ∃ name ps entries,
        d = .enum name ps entries ∧ e = Enum.ofDeclaration name ps entries := by
  cases d with
  | struct name ps up lines =>
    obtain ⟨c, hc, hadd⟩ := bind_eq_ok_iff.mp h
    cases hadd
    refine ⟨fun d hd => (mem_append.mp hd).imp_right fun hd => ?_, fun e he => Or.inl he⟩
    rw [mem_singleton.mp hd]
    exact ⟨name, ps, up, lines, rfl, hc⟩
  | enum name ps entries =>
    cases h
    refine ⟨fun c hc => Or.inl hc, fun e he => (mem_append.mp he).imp_right fun he => ?_⟩
    exact ⟨name, ps, entries, rfl, mem_singleton.mp he⟩
  | metadata key value =>
    rw [Source.add] at h
    split at h
    · obtain ⟨vs, -, hadd⟩ := bind_eq_ok_iff.mp h
      cases hadd
      exact ⟨fun c hc => Or.inl hc, fun e he => Or.inl he⟩
    · cases h
      exact ⟨fun c hc => Or.inl hc, fun e he => Or.inl he⟩
  | unknown =>
    cases h
    exact ⟨fun c hc => Or.inl hc, fun e he => Or.inl he⟩

/-- **Everything in a source is declared.** -/
theorem declared_of_ofDeclarations (h : ofDeclarations file ds = .ok s) :
    (∀ c ∈ s.classes, ∃ name ps up lines,
        .struct name ps up lines ∈ ds ∧ Class.ofDeclaration name ps up lines = .ok c)
      ∧ ∀ e ∈ s.enums, ∃ name ps entries,
        .enum name ps entries ∈ ds ∧ e = Enum.ofDeclaration name ps entries := by
  obtain ⟨found, hfound, hrest⟩ := bind_eq_ok_iff.mp h
  obtain rfl : found = s := by
    split at hrest
    · cases hrest
    · cases hrest
      rfl
  refine foldlM_invariant (fun s => (∀ c ∈ s.classes, ∃ name ps up lines,
      .struct name ps up lines ∈ ds ∧ Class.ofDeclaration name ps up lines = .ok c)
    ∧ ∀ e ∈ s.enums, ∃ name ps entries,
      .enum name ps entries ∈ ds ∧ e = Enum.ofDeclaration name ps entries) ?_ hfound
    ⟨fun c hc => (nomatch hc), fun e he => (nomatch he)⟩
  rintro d hd before after hadd ⟨hclasses, henums⟩
  obtain ⟨hnewClass, hnewEnum⟩ := add_cases hadd
  constructor
  · intro c hc
    rcases hnewClass c hc with hc | ⟨name, ps, up, lines, rfl, hof⟩
    · exact hclasses c hc
    · exact ⟨name, ps, up, lines, hd, hof⟩
  · intro e he
    rcases hnewEnum e he with he | ⟨name, ps, entries, rfl, hof⟩
    · exact henums e he
    · exact ⟨name, ps, entries, hd, hof⟩

theorem Class.ofDeclaration_spec {name : String} {ps : List Declaration.Param}
    {up : Option String} {lines : List Declaration.Member} {c : Class}
    (h : Class.ofDeclaration name ps up lines = .ok c) :
    c.name = name ∧ lines.mapM Member.ofDeclaration = .ok c.members := by
  obtain ⟨members, hmembers, hrest⟩ := bind_eq_ok_iff.mp h
  dsimp only at hrest
  split at hrest
  · cases hrest
  · cases hrest
    exact ⟨rfl, hmembers⟩

end Source

/-! ## What can be written -/

/-- **A field that can be written**: its name is a word and its type has one of the
written forms. -/
def LegibleField (name type : String) : Prop :=
  Text.isWord name = true ∧ ∃ t : Declaration.TypeRef, t.WellFormed ∧ type = t.text

/-- A source all of whose fields and parameters of enums can be written. -/
structure Source.Legible (s : Source) : Prop where
  fields : ∀ c ∈ s.classes, ∀ name type role, .field name type role ∈ c.members →
    LegibleField name type
  /-- The values of its enums' parameters. -/
  enumParams : ∀ e ∈ s.enums, ∀ kv ∈ e.params, Text.isWord kv.2 = true

theorem legibleField_of_ofDeclaration {line : Declaration.Member} (hline : line.WellFormed)
    {name type : String} {role : Source.Role}
    (h : Source.Member.ofDeclaration line = .ok (.field name type role)) :
    LegibleField name type := by
  cases line with
  | pad => cases h
  | fixed t => cases h; exact ⟨hline.2, t, hline.1, rfl⟩
  | discriminator t => cases h; exact ⟨hline.2, t, hline.1, rfl⟩
  | fieldLength t => cases h; exact ⟨hline.2.1, t, hline.1, rfl⟩
  | data t => cases h; exact ⟨hline.2, t, hline.1, rfl⟩
  | unknown => cases h

/-- **What is read can be written.** -/
theorem Source.legible_of_read {text file : String} {ds : List Declaration} {s : Source}
    (hparse : Declaration.parse text = .ok ds) (hsource : Source.ofDeclarations file ds = .ok s) :
    s.Legible := by
  have hwell := Declaration.wellFormed_of_parse hparse
  obtain ⟨hclasses, henums⟩ := Source.declared_of_ofDeclarations hsource
  constructor
  · intro c hc name type role hmem
    obtain ⟨_, ps, up, lines, hd, hof⟩ := hclasses c hc
    obtain ⟨line, hline, hmember⟩ :=
      exists_of_mem_of_mapM_eq_ok (Source.Class.ofDeclaration_spec hof).2 hmem
    exact legibleField_of_ofDeclaration ((hwell _ hd).2.2.2 line hline) hmember
  · intro e he kv hkv
    obtain ⟨_, ps, entries, hd, rfl⟩ := henums e he
    exact ((hwell _ hd).2.1 kv (Table.mem_of_mem_ofPairs hkv)).2

/-! ## Protocols -/

namespace Protocol

/-- **Every field is declared**, in the class of its own or in one that its class
identifies. -/
theorem Built.field_declared {v : Version} {decls : Declared} {enums : List Enum}
    {done : List Class} {taken : Set String} (h : Built v decls enums done taken) {e : Class}
    (he : e ∈ done) {f : Field} (hf : f ∈ e.fields) :
    ∃ c file role, decls.get? c.name = some (c, file) ∧ .field f.name f.type role ∈ c.members := by
  induction h with
  | start => exact absurd he not_mem_nil
  | @layOut done taken c laid before step ih =>
    rcases mem_append.mp he with he | he
    · exact ih he
    · rw [mem_singleton.mp he] at hf
      obtain ⟨file, hget⟩ := step.declared
      obtain ⟨role, -, hmem, -⟩ := extent_of_mem_fields step.laidOut hf
      exact ⟨c, file, role, hget, hmem⟩
  | identify _ _ _ _ _ run ih =>
    rcases run.mem_cases he with he | ⟨c, ctx, -, -, step⟩
    · exact ih he
    · obtain ⟨file, hget⟩ := step.declared
      obtain ⟨role, -, hmem, -⟩ := extent_of_mem_fields step.laidOut hf
      exact ⟨c, file, role, hget, (mem_filter.mp hmem).1⟩

/-- A protocol all of whose fields and parameters of enums can be written. -/
structure Legible (p : Protocol) : Prop where
  fields : ∀ e ∈ p.classes, ∀ f ∈ e.fields, LegibleField f.name f.type
  /-- The values of its enums' parameters. -/
  enumParams : ∀ e ∈ p.enums, ∀ kv ∈ e.params, ∃ w, kv.2 = some w ∧ Text.isWord w = true

theorem legible_of_build {v : Version} {sources : List Source} {p : Protocol}
    (h : build v sources = .ok p) (hsources : ∀ s ∈ sources, s.Legible) : p.Legible := by
  obtain ⟨hbuilt, -⟩ := built_of_build h
  obtain ⟨-, -, -, -, henums⟩ := build_eq_ok_iff.mp h
  constructor
  · intro e he f hf
    obtain ⟨c, file, role, hget, hmem⟩ := hbuilt.field_declared he hf
    obtain ⟨s, hs, hc⟩ := mem_flatMap.mp (mem_classesOf_of_get? hget).1
    exact (hsources s hs).fields c hc _ _ role hmem
  · intro e he kv hkv
    rw [henums] at he
    obtain ⟨d, hd, rfl⟩ := mem_map.mp he
    obtain ⟨s, hs, hd⟩ := mem_flatMap.mp hd
    obtain ⟨param, hparam, rfl⟩ := mem_map.mp hkv
    exact ⟨param.2, rfl, (hsources s hs).enumParams d hd param hparam⟩

end Protocol

/-! ## Models -/

namespace Model

theorem exists_of_readSource {name text : String} {s : Source} (h : readSource name text = .ok s) :
    ∃ ds, Declaration.parse text = .ok ds ∧ Source.ofDeclarations name ds = .ok s := by
  unfold readSource at h
  split at h
  · cases h
  · cases h
  · next ds hparse =>
    split at h
    · next s' hsource =>
      cases h
      exact ⟨ds, hparse, hsource⟩
    · cases h
    · cases h

theorem legible_of_readSource {name text : String} {s : Source}
    (h : readSource name text = .ok s) : s.Legible := by
  obtain ⟨ds, hparse, hsource⟩ := exists_of_readSource h
  exact Source.legible_of_read hparse hsource

/-- All sources in a table are among given ones. -/
def DrawnFrom (sources : List Source) (table : Table Version (List Source)) : Prop :=
  ∀ row ∈ table, ∀ s ∈ row.2, s ∈ sources

theorem DrawnFrom.update {sources : List Source} {table : Table Version (List Source)}
    (h : DrawnFrom sources table) {s : Source} (hs : s ∈ sources) (v : Version) :
    DrawnFrom sources (table.update v [] (· ++ [s])) := by
  intro row hrow t ht
  rcases Table.mem_of_mem_set hrow with rfl | hrow
  · rcases mem_append.mp ht with ht | ht
    · cases hget : table.get? v with
      | none =>
        rw [hget] at ht
        exact absurd ht not_mem_nil
      | some known =>
        rw [hget] at ht
        exact h _ (Table.mem_of_get? hget) t ht
    · rw [mem_singleton.mp ht]
      exact hs
  · exact h row hrow t ht

theorem drawnFrom_sourcesByVersion (targets : List Version) (sources : List Source) :
    DrawnFrom sources (sourcesByVersion targets sources) := by
  unfold sourcesByVersion
  refine List.foldlRecOn (motive := DrawnFrom sources) sources _ (fun row hrow => nomatch hrow) ?_
  intro table htable s hs
  refine List.foldlRecOn (motive := DrawnFrom sources) s.versions _ htable ?_
  intro table htable v _
  split
  · exact htable.update hs v
  · exact htable

end Model

end FlowBindings
