import FlowBindings.Dissector.Field
import FlowBindings.ObjectModel.EnumType
import FlowBindings.Proofs.Names
import FlowBindings.Proofs.OrderIndependence
import FlowBindings.Proofs.Sorting

/-!
# Enums that are declared not to be bits

The parameter `bitmask` says that the constants of an enum are bits, and the enum is taken to say so
whatever value the parameter has. So `bitmask=False` is not the same as no parameter. This module
compares two directories that differ in such parameters alone (`LosesFlags`).

Both are loaded step by step, and each step goes together with the same step of the other: it fails
for the same reason, or its results are related (`Together`). Everything but the parameter comes out
the same, because classes are laid out without it. What differs in the end is told by
`unflagged_of_load`.
-/

namespace FlowBindings

open List Table

/-! ## Two runs side by side -/

section Together

variable {ε α α' β β' : Type}

/-- **Two outcomes go together**: both fail for the same reason, or both succeed with results that
are related. -/
def Together (R : α → α' → Prop) : Except ε α → Except ε α' → Prop
  | .ok a, .ok a' => R a a'
  | .error e, .error e' => e = e'
  | _, _ => False

variable {R : α → α' → Prop} {S : β → β' → Prop}

variable {x : Except ε α} {x' : Except ε α'} {l : List α} {l' : List α'} {f : α → Except ε β}

theorem Together.bind {f' : α' → Except ε β'} (h : Together R x x')
    (hf : ∀ a a', R a a' → Together S (f a) (f' a')) : Together S (x >>= f) (x' >>= f') := by
  cases x with
  | error e =>
    cases x' with
    | error e' => exact h
    | ok a' => exact h.elim
  | ok a =>
    cases x' with
    | error e' => exact h.elim
    | ok a' => exact hf a a' h

theorem together_foldlM {f : β → α → Except ε β} {f' : β' → α' → Except ε β'}
    (hl : Forall₂ R l l')
    (step : ∀ a a' b b', R a a' → S b b' → Together S (f b a) (f' b' a')) {b : β} {b' : β'}
    (hb : S b b') : Together S (l.foldlM f b) (l'.foldlM f' b') := by
  induction hl generalizing b b' with
  | nil => exact hb
  | cons ha _ ih =>
    rw [foldlM_cons, foldlM_cons]
    exact (step _ _ _ _ ha hb).bind fun _ _ h => ih h

theorem together_mapM {f' : α' → Except ε β'}
    (hl : Forall₂ R l l') (step : ∀ a a', R a a' → Together S (f a) (f' a')) :
    Together (Forall₂ S) (l.mapM f) (l'.mapM f') := by
  induction hl with
  | nil => exact Forall₂.nil
  | cons ha _ ih =>
    rw [mapM_cons, mapM_cons]
    exact (step _ _ ha).bind fun _ _ hb => ih.bind fun _ _ hbs => Forall₂.cons hb hbs

/-- **When results are the same**: each is the same as the one at its place. -/
theorem together_mapM_eq_iff {f' : α' → Except ε β} (hl : Forall₂ R l l') {P : α → α' → Prop}
    (step : ∀ a a', R a a' → Together (fun b b' => b' = b ↔ P a a') (f a) (f' a')) :
    Together (fun r r' => r' = r ↔ Forall₂ P l l') (l.mapM f) (l'.mapM f') := by
  induction hl with
  | nil => exact iff_of_true rfl .nil
  | cons ha _ ih =>
    rw [mapM_cons, mapM_cons]
    refine (step _ _ ha).bind fun _ _ hb => ih.bind fun _ _ hbs => ?_
    show _ :: _ = _ :: _ ↔ _
    rw [List.cons.injEq, hb, hbs, forall₂_cons]

theorem Together.imp {S : α → α' → Prop} (h : Together R x x')
    (hRS : ∀ a a', R a a' → S a a') : Together S x x' := by
  cases x <;> cases x'
  · exact h
  · exact h
  · exact h
  · exact hRS _ _ h

@[simp]
theorem together_self (x : Except ε α) : Together Eq x x := by
  cases x <;> rfl

theorem Together.of_ok (h : Together R x x') {a : α} {a' : α'}
    (hx : x = .ok a) (hx' : x' = .ok a') : R a a' := by
  rw [hx, hx'] at h
  exact h

end Together

namespace Table

variable {κ ν : Type} [DecidableEq κ] {R : ν → ν → Prop}

/-- **Two tables go together**: they have the same keys, with related values. -/
def Alike (R : ν → ν → Prop) : Table κ ν → Table κ ν → Prop :=
  Forall₂ fun p q => p.1 = q.1 ∧ R p.2 q.2

variable {t t' : Table κ ν}

theorem Alike.get? (h : Alike R t t') (k : κ) :
    Option.Rel R (t.get? k) (t'.get? k) := by
  induction h with
  | nil => exact .none
  | @cons p q t t' hpq _ ih =>
    rw [get?_cons, get?_cons, hpq.1]
    split
    · exact .some hpq.2
    · exact ih

theorem Alike.set (h : Alike R t t') (k : κ) {v v' : ν} (hv : R v v') :
    Alike R (t.set k v) (t'.set k v') := by
  induction h with
  | nil => exact .cons ⟨rfl, hv⟩ .nil
  | @cons p q t t' hpq htail ih =>
    rw [Table.set, Table.set, hpq.1]
    split
    · exact .cons ⟨rfl, hv⟩ htail
    · exact .cons hpq ih

theorem Alike.update (h : Alike R t t') (k : κ) {start start' : ν}
    (hstart : R start start') {f f' : ν → ν} (hf : ∀ v v', R v v' → R (f v) (f' v')) :
    Alike R (t.update k start f) (t'.update k start' f') := by
  refine h.set k (hf _ _ ?_)
  have hget := h.get? k
  cases hv : t.get? k <;> cases hv' : t'.get? k <;> rw [hv, hv'] at hget <;> cases hget
  · exact hstart
  · assumption

theorem Alike.ofPairs {pairs pairs' : List (κ × ν)} (h : Alike R pairs pairs') :
    Alike R (ofPairs pairs) (ofPairs pairs') := by
  suffices hall : ∀ t t' : Table κ ν, Alike R t t' → Alike R
      (pairs.foldl (fun t p => t.set p.1 p.2) t) (pairs'.foldl (fun t p => t.set p.1 p.2) t') from
    hall [] [] .nil
  induction h with
  | nil => exact fun _ _ h => h
  | @cons p q _ _ hpq _ ih =>
    intro t t' ht
    refine ih _ _ ?_
    show Alike R (t.set p.1 p.2) (t'.set q.1 q.2)
    rw [hpq.1]
    exact ht.set q.1 hpq.2

theorem Alike.mergeSort {t t' : Table String ν} (h : Alike R t t') :
    Alike R (t.mergeSort fun a b => a.1 ≤ b.1) (t'.mergeSort fun a b => a.1 ≤ b.1) := by
  obtain ⟨hlength, hall⟩ := forall₂_iff_zip.mp h
  -- Both are columns of one list of pairs, which is sorted by the keys of the first.
  have hleft := map_mergeSort (l := t.zip t') (f := Prod.fst)
    (r := fun a b => decide (a.1.1 ≤ b.1.1)) (s := fun a b => decide (a.1 ≤ b.1))
    fun _ _ _ _ => rfl
  have hright := map_mergeSort (l := t.zip t') (f := Prod.snd)
    (r := fun a b => decide (a.1.1 ≤ b.1.1)) (s := fun a b => decide (a.1 ≤ b.1))
    fun a ha b hb => by rw [(hall ha).1, (hall hb).1]
  rw [map_fst_zip hlength.le] at hleft
  rw [map_snd_zip hlength.ge] at hright
  rw [← hleft, ← hright]
  refine forall₂_map_left_iff.mpr (forall₂_map_right_iff.mpr ?_)
  exact forall₂_same.mpr fun pq hpq => hall ((mergeSort_perm _ _).subset hpq)

/-- Pairs that leave a key out give a table without it. -/
theorem get?_ofPairs_filter (pairs : List (κ × ν)) (k k' : κ) :
    (ofPairs (pairs.filter (·.1 ≠ k))).get? k'
      = if k' = k then none else (ofPairs pairs).get? k' := by
  induction pairs using reverseRecOn with
  | nil => simp [ofPairs, get?_nil]
  | append_singleton pairs p ih =>
    rw [filter_append, ofPairs_append_singleton]
    by_cases hp : p.1 = k
    · rw [filter_cons_of_neg (by simpa using hp), filter_nil, append_nil, ih]
      split
      · rfl
      · next hk => rw [get?_set_of_ne _ _ (by rw [hp]; exact hk)]
    · rw [filter_cons_of_pos (by simpa using hp), filter_nil, ofPairs_append_singleton]
      by_cases hpk : k' = p.1
      · rw [hpk, get?_set_self, get?_set_self, if_neg hp]
      · rw [get?_set_of_ne _ _ hpk, get?_set_of_ne _ _ hpk, ih]

end Table

/-! ## Declarations that lose the parameter -/

/-- **A declaration loses `bitmask=False`**: it is an enum that carries the parameter with this
value and carries none in the other text; or it is the same in both. -/
inductive Declaration.LosesFlag : Declaration → Declaration → Prop where
  | same (d : Declaration) : LosesFlag d d
  | enum (name : String) (params : List Declaration.Param) (entries : List Declaration.Entry)
      (flag : (ofPairs params).get? "bitmask" = some "False") :
      LosesFlag (.enum name params entries) (.enum name (params.filter (·.1 ≠ "bitmask")) entries)

/-- Texts that are the same, or whose declarations are but for the parameter. -/
def LosesFlags (text text' : String) : Prop :=
  text = text' ∨ ∃ ds ds', Declaration.parse text = .ok ds ∧ Declaration.parse text' = .ok ds'
    ∧ Forall₂ Declaration.LosesFlag ds ds'

/-- **Enums that are the same but for the parameter**, which one may have lost. -/
structure Enum.Unflagged (e e' : Enum) : Prop where
  name : e.name = e'.name
  params : ∀ k, k ≠ "bitmask" → e.params.get? k = e'.params.get? k
  flag : e.bitmask? = e'.bitmask? ∨ e.bitmask? = some "False" ∧ e'.bitmask? = none

/-- Sources that are the same but for their enums. -/
structure Source.Unflagged (s s' : Source) : Prop where
  file : s.file = s'.file
  versions : s.versions = s'.versions
  classes : s.classes = s'.classes
  enums : Forall₂ Enum.Unflagged (s.enums.map Protocol.enumOfSource)
    (s'.enums.map Protocol.enumOfSource)

/-- Protocols that are the same but for their enums. -/
structure Protocol.Unflagged (p p' : Protocol) : Prop where
  version : p.version = p'.version
  classes : p.classes = p'.classes
  enums : Forall₂ Enum.Unflagged p.enums p'.enums

theorem Enum.Unflagged.refl (e : Enum) : e.Unflagged e :=
  ⟨rfl, fun _ _ => rfl, .inl rfl⟩

theorem Enum.Unflagged.wireType?_eq {e e' : Enum} (h : e.Unflagged e') :
    e.wireType? = e'.wireType? := by
  unfold Enum.wireType?
  rw [h.params "wire_type" (by decide), h.name]

theorem unflagged_find? {es es' : List Enum} (h : Forall₂ Enum.Unflagged es es') (n : String) :
    Option.Rel Enum.Unflagged (es.find? (·.name = n)) (es'.find? (·.name = n)) := by
  induction h with
  | nil => exact .none
  | @cons e e' es es' he _ ih =>
    rw [find?_cons, find?_cons, he.name]
    split
    · exact .some he
    · exact ih

theorem Source.Unflagged.refl (s : Source) : s.Unflagged s :=
  ⟨rfl, rfl, rfl, forall₂_same.mpr fun e _ => Enum.Unflagged.refl e⟩

theorem unflagged_enumOfSource {params : List Declaration.Param}
    (flag : (ofPairs params).get? "bitmask" = some "False") (name : String)
    (entries : List Declaration.Entry) :
    (Protocol.enumOfSource (Source.Enum.ofDeclaration name params entries)).Unflagged
      (Protocol.enumOfSource
        (Source.Enum.ofDeclaration name (params.filter (·.1 ≠ "bitmask")) entries)) where
  name := rfl
  params k hk := by
    show get? (List.map _ (ofPairs params)) k
      = get? (List.map _ (ofPairs _)) k
    rw [get?_map, get?_map, get?_ofPairs_filter, if_neg hk]
  flag := by
    refine .inr ⟨?_, ?_⟩
    · show (get? (List.map _ (ofPairs params)) "bitmask").join = _
      rw [get?_map, flag]
      rfl
    · show (get? (List.map _ (ofPairs _)) "bitmask").join = _
      rw [get?_map, get?_ofPairs_filter, if_pos rfl]
      rfl

/-! ## From declarations to protocols -/

theorem together_add {s s' : Source} (hs : s.Unflagged s') {d d' : Declaration}
    (hd : d.LosesFlag d') : Together Source.Unflagged (s.add d) (s'.add d') := by
  cases hd with
  | enum name params entries flag =>
    refine ⟨hs.file, hs.versions, hs.classes, ?_⟩
    rw [map_append, map_append]
    exact rel_append hs.enums (.cons (unflagged_enumOfSource flag name entries) .nil)
  | same =>
    cases d with
    | struct name params parent members =>
      refine (together_self _).bind fun c c' hc => ⟨hs.file, hs.versions, ?_, hs.enums⟩
      rw [hs.classes, hc]
    | enum name params entries =>
      refine ⟨hs.file, hs.versions, hs.classes, ?_⟩
      rw [map_append, map_append]
      exact rel_append hs.enums (.cons (.refl _) .nil)
    | metadata key value =>
      rw [Source.add, Source.add]
      split
      · refine (together_self _).bind fun vs vs' hvs => ⟨hs.file, ?_, hs.classes, hs.enums⟩
        rw [hs.versions, hvs]
      · exact hs
    | unknown => exact hs

/-- **Files that lose the parameter are read alike.** -/
theorem unflagged_of_readSource {name text text' : String} (h : LosesFlags text text')
    {s s' : Source} (hs : Model.readSource name text = .ok s)
    (hs' : Model.readSource name text' = .ok s') : s.Unflagged s' := by
  obtain rfl | ⟨ds, ds', hds, hds', hall⟩ := h
  · cases hs.symm.trans hs'
    exact .refl s
  have htogether : Together Source.Unflagged (Source.ofDeclarations name ds)
      (Source.ofDeclarations name ds') := by
    unfold Source.ofDeclarations
    refine (together_foldlM hall (fun _ _ _ _ hd hs => together_add hs hd) (.refl _)).bind ?_
    intro s s' hs
    rw [hs.versions]
    split
    · rfl
    · exact hs
  obtain ⟨es, hes, hsource⟩ := Model.exists_of_readSource hs
  obtain ⟨es', hes', hsource'⟩ := Model.exists_of_readSource hs'
  cases hds.symm.trans hes
  cases hds'.symm.trans hes'
  exact htogether.of_ok hsource hsource'

/-- **Sources that lose the parameter make the same classes.** -/
theorem unflagged_of_build {v : Version} {sources sources' : List Source}
    (h : Forall₂ Source.Unflagged sources sources') {p p' : Protocol}
    (hp : Protocol.build v sources = .ok p) (hp' : Protocol.build v sources' = .ok p') :
    p.Unflagged p' := by
  obtain ⟨-, -, hclasses, hversion, henums⟩ := Protocol.build_eq_ok_iff.mp hp
  obtain ⟨-, -, hclasses', hversion', henums'⟩ := Protocol.build_eq_ok_iff.mp hp'
  have hall : Forall₂ Enum.Unflagged (Protocol.protocolEnums sources)
      (Protocol.protocolEnums sources') := by
    unfold Protocol.protocolEnums Protocol.enumsOf
    rw [map_flatMap, map_flatMap]
    exact rel_flatMap h fun _ _ hs => hs.enums
  have hof : Protocol.classesOf sources = Protocol.classesOf sources' := by
    rw [← forall₂_eq_eq_eq]
    exact rel_flatMap h fun s s' hs => by rw [hs.classes]; exact forall₂_same.mpr fun _ _ => rfl
  have hrows : Protocol.classRows sources = Protocol.classRows sources' := by
    rw [← forall₂_eq_eq_eq]
    refine rel_flatMap h fun s s' hs => ?_
    rw [hs.file, hs.classes]
    exact forall₂_same.mpr fun _ _ => rfl
  have hagree : Protocol.Agree (Protocol.classRows sources) (Protocol.classRows sources')
      (Protocol.protocolEnums sources) (Protocol.protocolEnums sources') := by
    refine ⟨fun n => by rw [hrows], fun n => ?_, by rw [hrows]⟩
    have hfind := unflagged_find? hall n
    generalize (Protocol.protocolEnums sources).find? _ = e? at hfind ⊢
    generalize (Protocol.protocolEnums sources').find? _ = e?' at hfind ⊢
    cases hfind with
    | none => rfl
    | some he => exact congrArg some he.wireType?_eq
  refine ⟨hversion.trans hversion'.symm, ?_, ?_⟩
  · rw [hagree.visitDeclared_eq, Protocol.sortedNames, hof] at hclasses
    exact Except.ok.inj (hclasses.symm.trans hclasses')
  · rw [henums, henums']
    exact hall

/-! ## Loading -/

/-- Results of steps that succeed, from the steps. -/
theorem forall₂_of_mapM {ε α α' β β' : Type} {R : α → α' → Prop} {S : β → β' → Prop}
    {f : α → Except ε β} {f' : α' → Except ε β'} {l : List α} {l' : List α'}
    (hl : Forall₂ R l l')
    (step : ∀ a a' b b', R a a' → f a = .ok b → f' a' = .ok b' → S b b') {r : List β}
    {r' : List β'} (h : l.mapM f = .ok r) (h' : l'.mapM f' = .ok r') : Forall₂ S r r' := by
  have hr := mapM_eq_ok_iff.mp h
  have hr' := mapM_eq_ok_iff.mp h'
  clear h h'
  induction hl generalizing r r' with
  | nil =>
    cases hr
    cases hr'
    exact .nil
  | cons ha _ ih =>
    obtain _ | ⟨hb, hr⟩ := hr
    obtain _ | ⟨hb', hr'⟩ := hr'
    exact .cons (step _ _ _ _ ha hb hb') (ih hr hr')

/-- The files of a directory that hold declarations, in directories that lose the parameter. -/
theorem alike_inputFiles {files files' : Directory} (h : Table.Alike LosesFlags files files') :
    Table.Alike (Option.Rel LosesFlags) (Model.inputFiles files) (Model.inputFiles files') := by
  have hcontents : Forall₂ (fun x y => x.1 = y.1 ∧ LosesFlags x.2 y.2) files.contents
      files'.contents := by
    refine rel_map (fun f f' hf => ?_) h
    exact ⟨congrArg Directory.components hf.1, hf.2⟩
  have hentries : Table.Alike (Option.Rel LosesFlags) files.entries files'.entries := by
    refine Table.Alike.ofPairs (rel_filterMap ?_ hcontents)
    rintro ⟨parts, text⟩ ⟨_, text'⟩ ⟨rfl, htext⟩
    rcases parts with _ | ⟨name, _ | ⟨_, _⟩⟩
    · exact .none
    · exact .some ⟨rfl, .some htext⟩
    · exact .some ⟨rfl, .none⟩
  refine Table.Alike.mergeSort (rel_filter ?_ hentries)
  rintro ⟨name, text⟩ ⟨_, text'⟩ ⟨rfl, -⟩
  rfl

theorem alike_sourcesByVersion (targets : List Version) {sources sources' : List Source}
    (h : Forall₂ Source.Unflagged sources sources') :
    Table.Alike (Forall₂ Source.Unflagged) (Model.sourcesByVersion targets sources)
      (Model.sourcesByVersion targets sources') := by
  refine rel_foldl (fun table table' htable s s' hs => ?_) .nil h
  rw [← hs.versions]
  refine rel_foldl (R := Eq) (fun table table' htable v _ hv => ?_) htable
    (forall₂_same.mpr fun _ _ => rfl)
  rw [← hv]
  split
  · exact htable.update v .nil fun _ _ hl => rel_append hl (.cons hs .nil)
  · exact htable

/-- **Directories that lose the parameter make protocols that do.** -/
theorem alike_of_load {files files' : Directory} (h : Table.Alike LosesFlags files files')
    {targets : List Version} {m m' : Model} (hm : Model.load files targets = .ok m)
    (hm' : Model.load files' targets = .ok m') :
    Table.Alike Protocol.Unflagged m.protocols m'.protocols := by
  obtain ⟨sources, hsources, hm⟩ := bind_eq_ok_iff.mp hm
  obtain ⟨protocols, hprotocols, hm⟩ := bind_eq_ok_iff.mp hm
  obtain ⟨sources', hsources', hm'⟩ := bind_eq_ok_iff.mp hm'
  obtain ⟨protocols', hprotocols', hm'⟩ := bind_eq_ok_iff.mp hm'
  obtain rfl : protocols = m.protocols := by
    split at hm <;> cases hm
    rfl
  obtain rfl : protocols' = m'.protocols := by
    split at hm' <;> cases hm'
    rfl
  have hunflagged : Forall₂ Source.Unflagged sources sources' := by
    refine forall₂_of_mapM (alike_inputFiles h) ?_ hsources hsources'
    rintro ⟨name, text?⟩ ⟨_, text?'⟩ s s' ⟨rfl, htext⟩ hs hs'
    cases htext with
    | none => cases hs
    | some htext => exact unflagged_of_readSource htext hs hs'
  refine forall₂_of_mapM (alike_sourcesByVersion targets hunflagged) ?_ hprotocols hprotocols'
  rintro row row' vp vp' ⟨hkey, hrow⟩ hp hp'
  obtain ⟨hv, hp⟩ := Model.build_of_row_eq_ok hp
  obtain ⟨hv', hp'⟩ := Model.build_of_row_eq_ok hp'
  rw [hkey] at hp
  exact ⟨hv.trans (hkey.trans hv'.symm), unflagged_of_build hrow hp hp'⟩

/-! ## What is shown of them -/

/-- An enum is read as bits no more only if it has lost the parameter. -/
theorem Enum.Unflagged.isBitmask_of {e e' : Enum} (h : e.Unflagged e')
    (hbits : e'.isBitmask = true) :
    e.isBitmask = true := by
  unfold Enum.isBitmask at hbits ⊢
  rcases h.flag with hflag | ⟨-, hnone⟩
  · rw [hflag, hbits]
  · rw [hnone] at hbits
    cases hbits

theorem orFault_together {α : Type} {R : α → α → Prop} {a? a?' : Option α} (h : Option.Rel R a? a?')
    (f : Fault) : Together R (orFault a? f) (orFault a?' f) := by
  cases h with
  | none => rfl
  | some h => exact h

namespace Dissector

/-- Whether the constants of a member are shown as bits. -/
def shownAsBits (x : Protocol × Class × FlowBindings.Field) : Bool :=
  !Text.startsWith x.2.2.type "list"
    && (enumOf? x.1 x.2.1.name x.2.2.name x.2.2.type).any (·.isBitmask)

/-- The members of two models at one place: they are the same, in protocols that are but for the
parameter. -/
def Beside (x x' : Protocol × Class × FlowBindings.Field) : Prop :=
  x.1.Unflagged x'.1 ∧ x.2 = x'.2

theorem unflagged_enumOf? {p p' : Protocol} (h : p.Unflagged p') (className name type : String) :
    Option.Rel Enum.Unflagged (enumOf? p className name type) (enumOf? p' className name type) := by
  have hown : ∀ n, Option.Rel Enum.Unflagged (p.enum? n) (p'.enum? n) := unflagged_find? h.enums
  unfold enumOf?
  have htype := hown type
  generalize p.enum? type = e? at htype ⊢
  generalize p'.enum? type = e?' at htype ⊢
  cases htype with
  | some he => exact .some he
  | none =>
    cases memberEnums.get? (className, name) with
    | none => exact .none
    | some n => exact hown n

/-- **A style stays as it is** exactly if the constants are shown as bits or are not, as before. -/
theorem together_styleIn {p p' : Protocol} (h : p.Unflagged p') (c : Class)
    (f : FlowBindings.Field) :
    Together (fun s s' => s' = s ↔ shownAsBits (p', c, f) = shownAsBits (p, c, f))
      (styleIn p c.name f.name f.type) (styleIn p' c.name f.name f.type) := by
  have henum := unflagged_enumOf? h c.name f.name f.type
  unfold styleIn
  by_cases hlist : Text.startsWith f.type "list" = true
  · have hbits : ∀ q, shownAsBits (q, c, f) = false := fun q => by simp [shownAsBits, hlist]
    rw [if_pos hlist, if_pos hlist, hbits, hbits]
    exact iff_of_true rfl rfl
  have hbits : ∀ q, shownAsBits (q, c, f)
      = (enumOf? q c.name f.name f.type).any (·.isBitmask) := fun q => by simp [shownAsBits, hlist]
  rw [if_neg hlist, if_neg hlist, hbits, hbits, h.version]
  generalize enumOf? p c.name f.name f.type = e? at henum ⊢
  generalize enumOf? p' c.name f.name f.type = e?' at henum ⊢
  cases henum with
  | none => exact (together_self _).bind fun base base' hbase => iff_of_true (by rw [hbase]) rfl
  | @some e e' he =>
    show Style.mk _ _ _ = Style.mk _ _ _ ↔ e'.isBitmask = e.isBitmask
    rw [he.name]
    cases e.isBitmask <;> cases e'.isBitmask <;> simp

/-- A member has the field it had exactly if its style stays as it is. -/
theorem together_fieldFor {x x' : Protocol × Class × FlowBindings.Field} (h : Beside x x') :
    Together (fun s s' => s' = s ↔ shownAsBits x' = shownAsBits x) (fieldFor x) (fieldFor x') := by
  obtain ⟨p, c, f⟩ := x
  obtain ⟨p', c', f'⟩ := x'
  obtain ⟨hp, heq⟩ := h
  obtain ⟨rfl, rfl⟩ := Prod.mk.inj heq
  refine (together_styleIn hp c f).bind fun style style' hstyle => ?_
  show Field.mk _ _ _ = Field.mk _ _ _ ↔ _
  have hversion : p.version = p'.version := hp.version
  rw [hversion, Field.mk.injEq, ← hstyle]
  simp

theorem beside_members {m m' : Model}
    (h : Table.Alike Protocol.Unflagged m.protocols m'.protocols) :
    Forall₂ Beside (members m) (members m') := by
  refine rel_flatMap h ?_
  rintro ⟨v, p⟩ ⟨v', p'⟩ ⟨-, hp⟩
  show Forall₂ _ (p.classes.flatMap _) (p'.classes.flatMap _)
  rw [show p.classes = p'.classes from hp.classes]
  refine rel_flatMap (forall₂_same.mpr fun _ _ => rfl) ?_
  rintro c _ rfl
  exact rel_map (fun f _ hf => ⟨hp, by rw [hf]⟩) (forall₂_same.mpr fun _ _ => rfl)

end Dissector

namespace ObjectModel

/-- Families of enums that are the same but for the parameter. -/
def EnumFamily.Unflagged (f f' : EnumFamily) : Prop :=
  f.isStable = f'.isStable ∧ Table.Alike Enum.Unflagged f.versions f'.versions

variable {e e' : Enum}

theorem isDeclaredStable_eq (h : e.Unflagged e') :
    isDeclaredStable e = isDeclaredStable e' := by
  unfold isDeclaredStable
  rw [h.params "stable" (by decide)]

theorem together_addToFamily (v : Version) {families families' : Table String EnumFamily}
    (h : Table.Alike EnumFamily.Unflagged families families') (he : e.Unflagged e') :
    Together (Table.Alike EnumFamily.Unflagged) (addToFamily v families e)
      (addToFamily v families' e') := by
  have hget := h.get? e.name
  unfold addToFamily
  rw [← he.name, ← isDeclaredStable_eq he]
  generalize families.get? e.name = f? at hget ⊢
  generalize families'.get? e.name = f?' at hget ⊢
  cases hget with
  | none => exact h.set e.name ⟨rfl, .cons ⟨rfl, he⟩ .nil⟩
  | @some f f' hf =>
    simp only [hf.1]
    split
    · exact h.set e.name ⟨rfl, hf.2.set v he⟩
    · rfl

theorem together_enumFamilies {m m' : Model}
    (h : Table.Alike Protocol.Unflagged m.protocols m'.protocols) (versions : List Version) :
    Together (Table.Alike EnumFamily.Unflagged) (enumFamilies m versions)
      (enumFamilies m' versions) := by
  refine together_foldlM (R := Eq) (forall₂_same.mpr fun _ _ => rfl) ?_ .nil
  rintro v _ families families' rfl hfamilies
  refine (orFault_together (h.get? v) _).bind fun p p' hp => ?_
  exact together_foldlM hp.enums (fun e e' families families' he h => together_addToFamily v h he)
    hfamilies

/-- Enums of the object model that stand for enums which are the same but for the parameter. -/
structure EnumType.Unflagged (e e' : EnumType) : Prop where
  declared : e.declared = e'.declared
  name : e.name = e'.name
  versions : Table.Alike Enum.Unflagged e.versions e'.versions

theorem constantType_eq (h : e.Unflagged e') :
    EnumType.constantType e = EnumType.constantType e' := by
  unfold EnumType.constantType
  rw [h.params "wire_type" (by decide)]

theorem together_build (declared : String) {f f' : EnumFamily} (h : f.Unflagged f') :
    Together EnumType.Unflagged (EnumType.build declared f.isStable f.versions)
      (EnumType.build declared f'.isStable f'.versions) := by
  obtain ⟨hstable, hversions⟩ := h
  unfold EnumType.build
  rw [hstable]
  generalize f.versions = versions at hversions ⊢
  generalize f'.versions = versions' at hversions ⊢
  have hall := hversions
  cases f'.isStable with
  | false => exact ⟨rfl, rfl, hall⟩
  | true =>
    cases hversions with
    | nil => exact ⟨rfl, rfl, hall⟩
    | cons hve _ =>
      simp only [constantType_eq hve.2]
      exact (together_self _).bind fun _ _ _ => ⟨rfl, rfl, hall⟩

/-- **The enums of the object model**, side by side. -/
theorem together_enumsOf {m m' : Model}
    (h : Table.Alike Protocol.Unflagged m.protocols m'.protocols) (versions : List Version) :
    Together (Forall₂ EnumType.Unflagged) (enumsOf m versions) (enumsOf m' versions) := by
  refine (together_enumFamilies h versions).bind fun families families' hfamilies => ?_
  refine (together_mapM (S := EnumType.Unflagged) hfamilies ?_).bind fun es es' hes => ?_
  · rintro ⟨n, f⟩ ⟨_, f'⟩ ⟨rfl, hf⟩
    exact together_build n hf
  · refine rel_filter (fun e e' he => ?_) hes
    show (!omittedEnums.contains e.name) = true ↔ (!omittedEnums.contains e'.name) = true
    rw [he.name]

theorem any_isBitmask_of_alike {t t' : Table Version Enum} (h : Table.Alike Enum.Unflagged t t')
    (hany : t'.any (·.2.isBitmask) = true) : t.any (·.2.isBitmask) = true := by
  induction h with
  | nil => exact hany
  | cons hpq _ ih =>
    rw [any_cons, Bool.or_eq_true] at hany ⊢
    exact hany.imp hpq.2.isBitmask_of ih

/-- **When an enum of the object model is a set of bits no more**: when it was one, and no version
carries the parameter any more. -/
theorem EnumType.Unflagged.isBitmask_ne_iff {e e' : EnumType} (h : e.Unflagged e') :
    e'.isBitmask ≠ e.isBitmask
      ↔ e.isBitmask = true ∧ ∀ ve ∈ e'.versions, ve.2.bitmask? = none := by
  have hmono : e'.isBitmask = true → e.isBitmask = true := any_isBitmask_of_alike h.versions
  have hnone : (∀ ve ∈ e'.versions, ve.2.bitmask? = none) ↔ e'.isBitmask = false := by
    unfold EnumType.isBitmask Enum.isBitmask
    simp
  rw [hnone]
  cases hbits : e.isBitmask <;> cases hbits' : e'.isBitmask <;> simp_all

end ObjectModel

/-! ## The two loads -/

/-- **What `bitmask=False` does.** Two directories are the same but for enums that carry
`bitmask=False` in the first and no such parameter in the second. The fields that the dissector
shows are the same exactly if the constants of every member are shown as bits in both or in
neither, and the work fails for the same reason otherwise. The enums of the object model stand for
the same declarations, and one is a set of bits in the first only exactly if no version carries the
parameter any more in the second. -/
theorem unflagged_of_load {files files' : Directory} (hfiles : Table.Alike LosesFlags files files')
    {targets : List Version} {m m' : Model} (hm : Model.load files targets = .ok m)
    (hm' : Model.load files' targets = .ok m') :
    List.Forall₂ Dissector.Beside (Dissector.members m) (Dissector.members m')
    ∧ Together (fun shown shown' => shown' = shown ↔
        List.Forall₂ (fun x x' => Dissector.shownAsBits x' = Dissector.shownAsBits x)
          (Dissector.members m) (Dissector.members m'))
      (Dissector.fields m) (Dissector.fields m')
    ∧ ∀ versions, Together (List.Forall₂ fun e e' => e.Unflagged e'
        ∧ (e'.isBitmask ≠ e.isBitmask
          ↔ e.isBitmask = true ∧ ∀ ve ∈ e'.versions, ve.2.bitmask? = none))
      (ObjectModel.enumsOf m versions) (ObjectModel.enumsOf m' versions) := by
  have hprotocols := alike_of_load hfiles hm hm'
  have hmembers := Dissector.beside_members hprotocols
  refine ⟨hmembers, together_mapM_eq_iff hmembers fun _ _ => Dissector.together_fieldFor, ?_⟩
  intro versions
  refine (ObjectModel.together_enumsOf hprotocols versions).imp fun _ _ hes => ?_
  exact hes.imp fun _ _ he => ⟨he, he.isBitmask_ne_iff⟩

/-- An enum with parameters, and a class that holds one of its constants. -/
def portFiles (params : String) : Directory :=
  [("a", "#version 1\nenum ofp_e(" ++ params ++ ") { A = 1 };\nstruct of_a { enum ofp_e x; };\n")]

def portDeclarations (params : List Declaration.Param) : List Declaration :=
  [.metadata "version" "1", .enum "ofp_e" params [⟨"A", [], 1⟩],
    .struct "of_a" [] none [.data (.enum "ofp_e") "x"]]

theorem alike_portFiles :
    Table.Alike LosesFlags (portFiles "wire_type=uint8_t,bitmask=False")
      (portFiles "wire_type=uint8_t") := by
  refine .cons ⟨rfl, .inr ⟨portDeclarations [("wire_type", "uint8_t"), ("bitmask", "False")],
    portDeclarations [("wire_type", "uint8_t")], ?_, ?_, ?_⟩⟩ .nil
  · exact ok_of_toOption (by decide +kernel)
  · exact ok_of_toOption (by decide +kernel)
  · exact .cons (.same _) (.cons (.enum _ _ _ rfl) (.cons (.same _) .nil))

/-- The bases of the fields that are shown, and whether the enums are sets of bits. -/
def portReading (m : Model) : Option (List String) × Option (List Bool) :=
  ((Dissector.fields m).toOption.map (·.map (·.style.base)),
    (ObjectModel.enumsOf m [.v10]).toOption.map (·.map (·.isBitmask)))

theorem exists_portModels :
    ∃ m m', Model.load (portFiles "wire_type=uint8_t,bitmask=False") [.v10] = .ok m
      ∧ Model.load (portFiles "wire_type=uint8_t") [.v10] = .ok m'
      ∧ portReading m = (some ["HEX"], some [true])
      ∧ portReading m' = (some ["DEC"], some [false]) := by
  have hflagged : (Model.load (portFiles "wire_type=uint8_t,bitmask=False") [.v10]).toOption.any
      (portReading · = (some ["HEX"], some [true])) = true := by
    simp only [Model.load, Model.inputFiles, mergeSort_files, Protocol.build, mergeSort_names]
    decide +kernel
  have hplain : (Model.load (portFiles "wire_type=uint8_t") [.v10]).toOption.any
      (portReading · = (some ["DEC"], some [false])) = true := by
    simp only [Model.load, Model.inputFiles, mergeSort_files, Protocol.build, mergeSort_names]
    decide +kernel
  obtain ⟨m, hload, hreading⟩ := exists_ok_of_any hflagged
  obtain ⟨m', hload', hreading'⟩ := exists_ok_of_any hplain
  exact ⟨m, m', hload, hload', of_decide_eq_true hreading, of_decide_eq_true hreading'⟩

/-- An enum with `bitmask=False` beside the same without it. -/
theorem unflagged_of_load_port :
    ∃ m m', Model.load (portFiles "wire_type=uint8_t,bitmask=False") [.v10] = .ok m
      ∧ Model.load (portFiles "wire_type=uint8_t") [.v10] = .ok m'
      ∧ List.Forall₂ Dissector.Beside (Dissector.members m) (Dissector.members m')
      ∧ Together (List.Forall₂ ObjectModel.EnumType.Unflagged) (ObjectModel.enumsOf m [.v10])
        (ObjectModel.enumsOf m' [.v10]) := by
  obtain ⟨m, m', hload, hload', -⟩ := exists_portModels
  obtain ⟨hmembers, -, henums⟩ := unflagged_of_load alike_portFiles hload hload'
  refine ⟨m, m', hload, hload', hmembers, (henums [.v10]).imp fun _ _ hes => ?_⟩
  exact hes.imp fun _ _ he => he.1

/-- **`bitmask=False` is not the absence of the parameter**: with it the constants of an enum are
shown as bits, and the enum of the object model is a set of bits. -/
theorem false_flag_shown_as_bits :
    ∃ m m', Model.load (portFiles "wire_type=uint8_t,bitmask=False") [.v10] = .ok m
      ∧ Model.load (portFiles "wire_type=uint8_t") [.v10] = .ok m'
      ∧ portReading m = (some ["HEX"], some [true])
      ∧ portReading m' = (some ["DEC"], some [false])
      ∧ Dissector.fields m' ≠ Dissector.fields m := by
  obtain ⟨m, m', hload, hload', hreading, hreading'⟩ := exists_portModels
  refine ⟨m, m', hload, hload', hreading, hreading', fun heq => ?_⟩
  have hbase := (Prod.mk.inj hreading).1
  rw [← heq] at hbase
  exact absurd (hbase.symm.trans (Prod.mk.inj hreading').1) (by decide)

end FlowBindings
