import FlowBindings.Proofs.IdentifierMacros
import FlowBindings.Proofs.Sorting

/-!
# The header of identifiers

Of a load, the header has each identifier once, and its macros tell of the constants that come to
it. `HeaderText` says which blocks of macros a text is made of, with nothing else between them but
what all headers have. `IdentifierBlock.Faithful` says what the macros of a block come to in each
version, told by the constants of the versions alone. The main theorem,
`Catalog.identifierHeader_faithful`, has both for the header of a catalog.

Where several constants of one version come to one identifier, the last one gives the value in the
version and the first one of all gives the value where no version is asked for. So a constant is
sure to be found under its identifier only where it is alone in its version.
-/

namespace FlowBindings.Loci

open Text
open List hiding concat concat_append concat_cons concat_nil

/-! ## The text of the header -/

/-- How the identifiers of an enum are written. -/
def SectionText (s : String × List IdentifierBlock) (text : String) : Prop :=
  ∃ texts, Forall₂ IdentifierBlock.WrittenAs s.2 texts
    ∧ text = "\n/****************************************************************\n"
      ++ (" * Identifiers from " ++ (s.1
      ++ "\n *****************************************************************/\n"))
      ++ concat texts

/-- The macros that all identifiers share. -/
def sharedText (f : ValueMacro) : String :=
  "\n/**\n * @brief True for the special case of all versions supported\n */\n"
    ++ ("#define OF_IDENT_IN_ALL_VERSIONS 1 /* Indicates identifier in all versions */\n"
    ++ ("\n/**\n * @brief General macro to map version to value where values given as params\n *\n"
    ++ (" * If unknown version is passed, use the latest version's value\n */\n" ++ f.text)))
    ++ Catalog.flagMacros

/-- **How a header is written**: the macros that all identifiers share, then those of the
identifiers, enum by enum, and nothing else. -/
def HeaderText (fileName : String) (f : ValueMacro)
    (sections : List (String × List IdentifierBlock)) (text : String) : Prop :=
  ∃ texts, Forall₂ SectionText sections texts
    ∧ text = Catalog.identifierPreface fileName ++ sharedText f ++ concat texts
      ++ "\n#endif /* Loci identifiers header file */\n"

namespace Catalog

variable {c : Catalog}

/-- The choice by version, for two versions or more. -/
theorem pickValue_eq {w w' : Version} {rest : List Version} (h : c.targets = w :: w' :: rest) :
    c.pickValue = .ok (join ", " (ValueMacro.ofVersions w (w' :: rest)).parameters,
      (ValueMacro.ofVersions w (w' :: rest)).body.text) := by
  have harm : (fun v : Version => "((version) == " ++ v.constant "OF_VERSION_" ++ ") ? ("
      ++ valueParameter v ++ ") : ") = MacroExpr.versionArm := by
    funext v
    unfold MacroExpr.versionArm MacroExpr.versionTest
    rw [show ") ? (" = ")" ++ " ? (" from rfl]
    simp only [String.append_assoc]
  have hmany : ¬ (w :: w' :: rest).length ≤ 1 := by
    rw [length_cons, length_cons]
    omega
  unfold pickValue
  rw [h, getLast?_eq_some_getLast (cons_ne_nil w (w' :: rest))]
  dsimp only
  rw [if_neg hmany, harm]
  dsimp only [ValueMacro.ofVersions]
  rw [MacroExpr.text_pick]
  rfl

theorem sharedMacros_eq (f : ValueMacro) :
    sharedMacros (join ", " f.parameters) f.body.text = sharedText f := by
  unfold sharedMacros sharedText ValueMacro.text
  refine congrArg (· ++ flagMacros) ?_
  apply Fills.form_eq
  · exact .text <| .text <| .text <| .text <| .text <| .hole "1" <| .text <| .hole "2" .last
  · decide +kernel

theorem exists_renderGroup (group : String) {macros : List IdentifierMacros}
    (h : ∀ x ∈ macros, ∀ wires, x.support = .only wires →
      ∀ w ∈ wires, ∃ v ∈ c.targets, v.wire = w) :
    ∃ text, c.renderGroup group macros = .ok text
      ∧ SectionText (group, macros.map (·.block)) text := by
  obtain ⟨texts, htexts, hwritten⟩ := exists_mapM_eq_ok fun x hx => renderMacros_eq x (h x hx)
  refine ⟨_, bind_eq_ok_iff.mpr ⟨texts, htexts, rfl⟩, texts, forall₂_map_left_iff.mpr hwritten,
    congrArg (· ++ concat texts) ?_⟩
  apply Fills.form_eq
  · exact .text <| .text <| .hole "1" .last
  · decide +kernel

/-- **The header is written as it is read.** -/
theorem exists_identifierHeader {f : ValueMacro} {groups : List (String × List IdentifierMacros)}
    (hpick : c.pickValue = .ok (join ", " f.parameters, f.body.text))
    (hmacros : c.identifierMacros = .ok groups)
    (h : ∀ g ∈ groups, ∀ x ∈ g.2, ∀ wires, x.support = .only wires →
      ∀ w ∈ wires, ∃ v ∈ c.targets, v.wire = w) (fileName : String) :
    ∃ text, c.identifierHeader fileName = .ok text
      ∧ HeaderText fileName f (groups.map fun g => (g.1, g.2.map (·.block))) text := by
  obtain ⟨texts, htexts, hwritten⟩ := exists_mapM_eq_ok fun g hg => exists_renderGroup g.1 (h g hg)
  refine ⟨_, ?_, texts, forall₂_map_left_iff.mpr hwritten, rfl⟩
  unfold identifierHeader
  rw [← sharedMacros_eq]
  refine bind_eq_ok_iff.mpr ⟨_, hpick, bind_eq_ok_iff.mpr ⟨groups, hmacros, ?_⟩⟩
  exact bind_eq_ok_iff.mpr ⟨texts, htexts, rfl⟩

end Catalog

/-! ## The macros of all identifiers -/

theorem map_eq_map_of_forall₂ {α β γ : Type} {f : α → γ} {g : β → γ} {l : List α} {r : List β}
    (h : Forall₂ (fun a b => f a = g b) l r) : l.map f = r.map g := by
  induction h with
  | nil => rfl
  | cons heq _ ih => rw [map_cons, map_cons, heq, ih]

namespace Catalog

variable {c : Catalog}

/-- The macros of an identifier that is registered. -/
theorem macrosOf_eq_ok_iff {name : String} {generic : Nat} {x : IdentifierMacros} :
    c.macrosOf name generic = .ok x ↔ ∃ i, c.identifiers.byName.get? name = some i
      ∧ x = i.macros c.targets name generic := by
  unfold macrosOf Table.need
  cases c.identifiers.byName.get? name with
  | none => exact ⟨nofun, nofun⟩
  | some i =>
    refine ⟨fun h => ?_, fun h => ?_⟩
    · cases h
      exact ⟨i, rfl, rfl⟩
    · obtain ⟨j, hj, rfl⟩ := h
      cases hj
      rfl

/-- **The macros of the groups**: those of each identifier, in order, numbered. -/
theorem exists_macrosFrom (start : Nat) {groups : List (String × List String)}
    (h : ∀ n ∈ groups.flatMap (·.2), n ∈ c.identifiers.byName.keys) :
    ∃ result, c.macrosFrom start groups = .ok result
      ∧ (result.flatMap (·.2)).map (·.name) = groups.flatMap (·.2)
      ∧ (result.flatMap (·.2)).map (·.generic) = List.range' start (groups.flatMap (·.2)).length
      ∧ ∀ x ∈ result.flatMap (·.2), ∃ generic, c.macrosOf x.name generic = .ok x := by
  induction groups generalizing start with
  | nil => exact ⟨[], rfl, rfl, rfl, fun x hx => absurd hx not_mem_nil⟩
  | cons g groups ih =>
    rw [flatMap_cons] at h
    have hstep : ∀ p ∈ g.2.zipIdx start, ∃ x, c.macrosOf p.1 p.2 = .ok x
        ∧ p.1 = x.name ∧ p.2 = x.generic := by
      intro p hp
      have hmem := h p.1 (mem_append_left _ (fst_mem_of_mem_zipIdx hp))
      obtain ⟨i, hi⟩ :=
        Option.ne_none_iff_exists'.mp (mt Table.get?_eq_none_iff.mp (not_not_intro hmem))
      exact ⟨_, macrosOf_eq_ok_iff.mpr ⟨i, hi, rfl⟩, rfl, rfl⟩
    obtain ⟨macros, hmacros, hall⟩ := exists_mapM_eq_ok hstep
    obtain ⟨rest, hrest, hnames, hnumbers, hmade⟩ :=
      ih (start + g.2.length) fun n hn => h n (mem_append_right _ hn)
    have hfirst : macros.map (·.name) = g.2 := by
      rw [← map_eq_map_of_forall₂ (hall.imp fun _ _ h => h.1), zipIdx_map_fst]
    have hfirstNumbers : macros.map (·.generic) = List.range' start g.2.length := by
      rw [← map_eq_map_of_forall₂ (hall.imp fun _ _ h => h.2), zipIdx_map_snd]
    refine ⟨(g.1, macros) :: rest, ?_, ?_, ?_, fun x hx => ?_⟩
    · exact bind_eq_ok_iff.mpr ⟨macros, hmacros, bind_eq_ok_iff.mpr ⟨rest, hrest, rfl⟩⟩
    · rw [flatMap_cons, flatMap_cons, map_append, hnames, hfirst]
    · rw [flatMap_cons, flatMap_cons, map_append, hnumbers, hfirstNumbers,
        length_append, range'_append_1]
    · rw [flatMap_cons] at hx
      rcases mem_append.mp hx with hx | hx
      · obtain ⟨p, -, hp⟩ := exists_of_mem_of_mapM_eq_ok hmacros hx
        obtain ⟨i, hi, rfl⟩ := macrosOf_eq_ok_iff.mp hp
        exact ⟨p.2, hp⟩
      · exact hmade x hx

end Catalog

/-! ## What the macros come to -/

/-- The constants of a version that come to an identifier. -/
def constantsOf (all : List Occurrence) (v : Version) (n : String) : List Occurrence :=
  all.filter fun o => o.version = v && o.identifier = n

/-- **The macros of an identifier are faithful to its constants.** -/
structure IdentifierBlock.Faithful (b : IdentifierBlock) (f : ValueMacro) (targets : List Version)
    (all : List Occurrence) : Prop where
  /-- A version has the identifier if one of its constants comes to it. -/
  supported : ∀ v ∈ targets, ∃ k, b.supported.eval f v = some k
    ∧ (k ≠ 0 ↔ ∃ o ∈ all, o.version = v ∧ o.identifier = b.name)
  /-- The value in a version is that of its only constant. -/
  byVersion : ∀ v ∈ targets, ∀ o, constantsOf all v b.name = [o] →
    b.byVersion.eval f v = some o.entry.value
  /-- There is a value for all versions if the constants agree, and it is theirs. -/
  common : (∀ v, (constantsOf all v b.name).length ≤ 1) →
    (b.common.isSome = true ↔ ∀ o ∈ all, ∀ o' ∈ all, o.identifier = b.name →
      o'.identifier = b.name → o.entry.value = o'.entry.value)
    ∧ ∀ digits ∈ b.common, ∀ o ∈ all, o.identifier = b.name →
      literalValue? digits = some o.entry.value

theorem lastValue_wire (all : List Occurrence) (n : String) (v : Version) :
    lastValue all n v.wire = (constantsOf all v n).getLast?.map (·.entry.value) := by
  unfold lastValue constantsOf
  congr 3
  funext o
  have hwire : o.version.wire = v.wire ↔ o.version = v :=
    ⟨Version.wire_injective, fun heq => by rw [heq]⟩
  rw [Bool.and_comm, decide_eq_decide.mpr hwire]

theorem lastValue_of_only {all : List Occurrence} {o : Occurrence} (ho : o ∈ all)
    (hone : (constantsOf all o.version o.identifier).length ≤ 1) :
    lastValue all o.identifier o.version.wire = some o.entry.value := by
  have hmem : o ∈ constantsOf all o.version o.identifier := by
    unfold constantsOf
    rw [mem_filter]
    exact ⟨ho, by simp⟩
  rw [lastValue_wire]
  match hlist : constantsOf all o.version o.identifier, hmem, hone with
  | [o'], hmem, _ =>
    rw [mem_singleton.mp hmem]
    rfl

namespace Identifier

variable {i : Identifier} {all : List Occurrence} {n : String} {targets : List Version}

theorem Tells.mem_keys_iff (h : i.Tells all n) (wire : Nat) :
    wire ∈ i.values.keys ↔ ∃ o ∈ all, o.version.wire = wire ∧ o.identifier = n := by
  rw [← isSome_lastValue_iff, ← not_iff_not, ← Table.get?_eq_none_iff, h.value_eq,
    Option.map_eq_none_iff, Option.not_isSome_iff_eq_none]

theorem Tells.keys_subset (h : i.Tells all n) (hall : ∀ o ∈ all, o.version ∈ targets) :
    i.values.keys ⊆ targets.map Version.wire := by
  intro wire hwire
  obtain ⟨o, ho, rfl, -⟩ := (h.mem_keys_iff wire).mp hwire
  exact mem_map_of_mem (hall o ho)

theorem Tells.wire_mem_keys_iff (h : i.Tells all n) (v : Version) :
    v.wire ∈ i.values.keys ↔ ∃ o ∈ all, o.version = v ∧ o.identifier = n := by
  rw [h.mem_keys_iff]
  constructor
  · rintro ⟨o, ho, hwire, hname⟩
    exact ⟨o, ho, Version.wire_injective hwire, hname⟩
  · rintro ⟨o, ho, rfl, hname⟩
    exact ⟨o, ho, rfl, hname⟩

/-- **Whether a version has an identifier.** -/
theorem Tells.eval_support (h : i.Tells all n) (hall : ∀ o ∈ all, o.version ∈ targets)
    (f : ValueMacro) (generic : Nat) {v : Version} (hv : v ∈ targets) :
    ∃ k, (i.macros targets n generic).support.body.eval f v = some k
      ∧ (k ≠ 0 ↔ ∃ o ∈ all, o.version = v ∧ o.identifier = n) := by
  have hperm := i.values.keys.mergeSort_perm fun a b => a ≤ b
  rw [← h.wire_mem_keys_iff]
  unfold macros
  dsimp only
  split
  · next hlength =>
    -- as many versions as were asked for, so all of them
    refine ⟨1, rfl, fun _ => ?_, fun _ => Nat.one_ne_zero⟩
    have hsubperm := subperm_of_subset h.nodup (h.keys_subset hall)
    have hsame := hsubperm.perm_of_length_le (by rw [← hperm.length_eq, hlength, length_map])
    exact hsame.mem_iff.mpr (mem_map_of_mem hv)
  · obtain ⟨vs, hvs, -⟩ := Catalog.exists_versions fun wire hwire =>
      mem_map.mp (h.keys_subset hall (hperm.mem_iff.mp hwire))
    rw [hvs] at hperm ⊢
    have hne : vs ≠ [] := by
      obtain ⟨k, hk, -⟩ := Option.map_eq_some_iff.mp h.common_eq
      obtain ⟨o, ho, hname, -⟩ := exists_of_firstValue hk
      rintro rfl
      exact not_mem_nil (hperm.mem_iff.mpr ((h.wire_mem_keys_iff _).mpr ⟨o, ho, rfl, hname⟩))
    refine ⟨if v ∈ vs then 1 else 0, ?_, ?_⟩
    · show MacroExpr.eval v _ _ = _
      rw [MacroExpr.eval, Catalog.filterMap_ofWire?, MacroExpr.eval_anyOf hne]
    · rw [← hperm.mem_iff, mem_map_of_injective fun _ _ => Version.wire_injective]
      split <;> simp [*]

theorem Tells.getD_eq (h : i.Tells all n) (wire : Nat) :
    (i.values.get? wire).getD 0 = ((lastValue all n wire).getD 0 : Nat) := by
  rw [h.value_eq]
  cases lastValue all n wire with
  | none => rfl
  | some k => rfl

/-- **The value of an identifier in a version** is that of the last constant. -/
theorem Tells.eval_value (h : i.Tells all n) (generic : Nat) {w : Version} {rest : List Version}
    {v : Version} (hv : v ∈ w :: rest) {k : Nat} (hlast : lastValue all n v.wire = some k) :
    (i.macros (w :: rest) n generic).value.body.eval (.ofVersions w rest) v = some k := by
  have hvalue : i.values.get? v.wire = some (k : Int) := by
    rw [h.value_eq, hlast]
    rfl
  unfold macros
  dsimp only
  split
  · next hagree =>
    have hcommon : (k : Int) = i.common := by
      have hall := all_eq_true.mp hagree v.wire (mem_map_of_mem hv)
      rw [hvalue] at hall
      simpa using hall
    show literalValue? (hexLiteral i.common) = some k
    rw [← hcommon, literalValue?_hexLiteral]
  · have harguments : (((w :: rest).map Version.wire).map fun wire =>
        (i.values.get? wire).getD 0).map hexLiteral
        = ((w :: rest).map fun u => (lastValue all n u.wire).getD 0).map fun k : Nat =>
          hexLiteral k := by
      rw [map_map, map_map, map_map]
      refine map_congr_left fun u _ => congrArg hexLiteral ?_
      exact h.getD_eq u.wire
    show Option.bind _ _ = _
    rw [harguments, mapM_literalValue?, Option.bind_some, ValueMacro.apply_ofVersions hv, hlast]
    rfl

/-- The versions agree if all constants do, where there is at most one in each version. -/
theorem Tells.agreesOn_iff (h : i.Tells all n) (hall : ∀ o ∈ all, o.version ∈ targets)
    (hone : ∀ v, (constantsOf all v n).length ≤ 1) :
    i.agreesOn (targets.map Version.wire) = true
      ↔ ∀ o ∈ all, o.identifier = n → (o.entry.value : Int) = i.common := by
  unfold agreesOn
  rw [all_eq_true]
  constructor
  · rintro hagree o ho rfl
    have hvalue := hagree _ (mem_map_of_mem (hall o ho))
    rw [h.value_eq, lastValue_of_only ho (hone o.version)] at hvalue
    simpa using hvalue
  · intro hagree wire _
    rw [h.value_eq]
    cases hlast : lastValue all n wire with
    | none => rfl
    | some k =>
      obtain ⟨o, ho, hname, -, rfl⟩ := exists_of_lastValue hlast
      exact decide_eq_true (hagree o ho hname)

/-- **Where an identifier has one value for all versions.** -/
theorem Tells.digits_spec (h : i.Tells all n) (hall : ∀ o ∈ all, o.version ∈ targets)
    (hone : ∀ v, (constantsOf all v n).length ≤ 1) (generic : Nat) :
    ((i.macros targets n generic).value.digits?.isSome = true ↔ ∀ o ∈ all, ∀ o' ∈ all,
        o.identifier = n → o'.identifier = n → o.entry.value = o'.entry.value)
      ∧ ∀ digits ∈ (i.macros targets n generic).value.digits?, ∀ o ∈ all, o.identifier = n →
        literalValue? digits = some o.entry.value := by
  unfold macros
  dsimp only
  split
  · next hagree =>
    have hvalue := (h.agreesOn_iff hall hone).mp hagree
    refine ⟨⟨fun _ o ho o' ho' hname hname' => ?_, fun _ => rfl⟩, ?_⟩
    · exact Int.ofNat.inj ((hvalue o ho hname).trans (hvalue o' ho' hname').symm)
    · rintro digits hdigits o ho hname
      cases hdigits
      rw [← hvalue o ho hname, literalValue?_hexLiteral]
  · next hagree =>
    refine ⟨⟨fun hsome => ?_, fun hsame => absurd ?_ hagree⟩, fun digits hdigits => ?_⟩
    · cases hsome
    · -- the common value is that of one of the constants
      obtain ⟨k, hk, hcommon⟩ := Option.map_eq_some_iff.mp h.common_eq
      obtain ⟨o', ho', hname', rfl⟩ := exists_of_firstValue hk
      refine (h.agreesOn_iff hall hone).mpr fun o ho hname => ?_
      rw [← hcommon, hsame o ho o' ho' hname hname']
      rfl
    · cases hdigits

theorem Tells.mem_of_support (h : i.Tells all n) (hall : ∀ o ∈ all, o.version ∈ targets)
    {generic : Nat} {wires : List Nat}
    (hwires : (i.macros targets n generic).support = .only wires) :
    ∀ wire ∈ wires, ∃ v ∈ targets, v.wire = wire := by
  intro wire hwire
  unfold macros at hwires
  dsimp only at hwires
  split at hwires
  · cases hwires
  · cases hwires
    exact mem_map.mp (h.keys_subset hall (mem_mergeSort.mp hwire))

/-- **An identifier has faithful macros.** -/
theorem Tells.faithful {w : Version} {rest : List Version} (h : i.Tells all n)
    (hall : ∀ o ∈ all, o.version ∈ w :: rest) (generic : Nat) :
    (i.macros (w :: rest) n generic).block.Faithful (.ofVersions w rest) (w :: rest) all where
  supported := fun v hv => h.eval_support hall _ generic hv
  byVersion := fun v hv o (ho : constantsOf all v n = [o]) =>
    h.eval_value generic hv (by rw [lastValue_wire, ho]; rfl)
  common := fun hone => h.digits_spec hall hone generic

end Identifier

/-! ## The header of a load -/

theorem version_mem_of_mem_occurrencesIn {protocols : Table Version Protocol} {o : Occurrence}
    (h : o ∈ occurrencesIn protocols) : o.version ∈ protocols.keys := by
  obtain ⟨vp, hvp, ho⟩ := mem_flatMap.mp h
  obtain ⟨e, -, ho⟩ := mem_flatMap.mp ho
  obtain ⟨x, -, rfl⟩ := mem_map.mp ho
  exact mem_map_of_mem hvp

namespace Catalog

variable {c : Catalog}

theorem flatMap_sortedGroups_perm (c : Catalog) :
    (c.sortedGroups.flatMap (·.2)).Perm (c.identifiers.groups.flatMap (·.2)) := by
  refine ((mergeSort_perm _ _).flatMap_right _).trans ?_
  rw [flatMap_map]
  exact Perm.flatMap_left _ fun g _ => mergeSort_perm _ _

/-- **The macros of all identifiers**: each identifier once, numbered from one. -/
theorem exists_identifierMacros {all : List Occurrence} (h : c.identifiers.Registers all) :
    ∃ groups, c.identifierMacros = .ok groups
      ∧ ((groups.flatMap (·.2)).map (·.name)).Perm c.identifiers.byName.keys
      ∧ (groups.flatMap (·.2)).map (·.generic) = List.range' 1 (groups.flatMap (·.2)).length
      ∧ ∀ x ∈ groups.flatMap (·.2), ∃ (i : Identifier) (generic : Nat), i.Tells all x.name
        ∧ x = i.macros c.targets x.name generic := by
  have hperm := c.flatMap_sortedGroups_perm.trans h.groups_perm
  obtain ⟨groups, hgroups, hnames, hnumbers, hmade⟩ :=
    exists_macrosFrom 1 fun n hn => hperm.mem_iff.mp hn
  refine ⟨groups, hgroups, hnames ▸ hperm, ?_, fun x hx => ?_⟩
  · rw [hnumbers, ← hnames, length_map]
  · obtain ⟨generic, hx⟩ := hmade x hx
    obtain ⟨i, hi, hx⟩ := macrosOf_eq_ok_iff.mp hx
    exact ⟨i, generic, h.tells _ i hi, hx⟩

/-- **The header of identifiers is faithful to the constants of a load.** For two versions or more
there is a header. It has the identifiers to which the constants come, each once, and numbers them
from one on; the macros of each are faithful. No macro is defined twice just when no identifier
with a value for all versions reads like another one with the ending of a macro. Of the catalog
only the versions and the identifiers matter, which are these in each catalog that is built
(`targets_of_build`, `identifiers_of_build`). -/
theorem identifierHeader_faithful {files : Directory} {targets : List Version} {m : Model}
    (hload : Model.load files targets = .ok m) (htargets : c.targets = targets)
    (hids : c.identifiers = m.protocols.foldl (fun ids (v, p) => addEnums ids v p) .empty)
    {v v' : Version} (hv : v ∈ targets) (hv' : v' ∈ targets) (hne : v ≠ v') (fileName : String) :
    ∃ text f sections, c.identifierHeader fileName = .ok text
      ∧ HeaderText fileName f sections text ∧ (targets.Nodup → f.parameters.Nodup)
      ∧ ((sections.flatMap (·.2)).map (·.name)).Nodup
      ∧ (∀ n, n ∈ (sections.flatMap (·.2)).map (·.name)
        ↔ ∃ o ∈ occurrencesIn m.protocols, o.identifier = n)
      ∧ (sections.flatMap (·.2)).map (·.generic) = List.range' 1 (sections.flatMap (·.2)).length
      ∧ (∀ b ∈ sections.flatMap (·.2), b.Faithful f targets (occurrencesIn m.protocols))
      ∧ (((sections.flatMap (·.2)).flatMap (·.macroNames)).Nodup ↔ ∀ b ∈ sections.flatMap (·.2),
        b.common.isSome = true → ∀ b' ∈ sections.flatMap (·.2), ∀ e ∈ b'.endings, e ≠ "" →
          b.name ≠ b'.name ++ e) := by
  subst htargets
  have hregisters : c.identifiers.Registers (occurrencesIn m.protocols) := by
    rw [hids, Identifiers.foldl_addEnums]
    exact Identifiers.registers_foldl _
  have hall : ∀ o ∈ occurrencesIn m.protocols, o.version ∈ c.targets := fun o ho =>
    (Model.made_of_load hload).2.1 _ (version_mem_of_mem_occurrencesIn ho)
  obtain ⟨w, w', rest, hcons⟩ : ∃ w w' rest, c.targets = w :: w' :: rest := by
    match hlist : c.targets, hv, hv' with
    | [w], hv, hv' =>
      exact absurd ((mem_singleton.mp hv).trans (mem_singleton.mp hv').symm) hne
    | w :: w' :: rest, _, _ => exact ⟨w, w', rest, rfl⟩
  obtain ⟨groups, hgroups, hperm, hnumbers, hmade⟩ := exists_identifierMacros hregisters
  obtain ⟨text, htext, hwritten⟩ := exists_identifierHeader (pickValue_eq hcons) hgroups
    (fun g hg x hx wires hwires => by
      obtain ⟨i, generic, htells, hx⟩ := hmade x (mem_flatMap.mpr ⟨g, hg, hx⟩)
      rw [hx] at hwires
      exact htells.mem_of_support hall hwires) fileName
  have hblocks : (groups.map fun g => (g.1, g.2.map (·.block))).flatMap (·.2)
      = (groups.flatMap (·.2)).map (·.block) := by
    rw [flatMap_map, map_flatMap]
  have hnames : ((groups.flatMap (·.2)).map (·.block)).map (·.name)
      = (groups.flatMap (·.2)).map (·.name) := map_map
  refine ⟨text, _, _, htext, hwritten, fun hnodup => ?_, ?_⟩
  · rw [hcons] at hnodup
    exact hnodup.map fun _ _ => ValueMacro.valueParameter_injective
  rw [hblocks, hnames, length_map, ← hnumbers]
  have hnodup : ((groups.flatMap (·.2)).map (·.name)).Nodup :=
    hperm.nodup_iff.mpr hregisters.nodup
  refine ⟨hnodup, fun n => ?_, map_map, fun b hb => ?_, nodup_macroNames_iff (hnames ▸ hnodup)⟩
  · rw [hperm.mem_iff, hregisters.mem_keys]
  · obtain ⟨x, hx, rfl⟩ := mem_map.mp hb
    obtain ⟨i, generic, htells, hx⟩ := hmade x hx
    rw [hx]
    rw [hcons] at hall ⊢
    exact htells.faithful hall generic

/-- Two versions whose constants have different values, or are missing in one of them. -/
def reasonFiles : Directory :=
  [("new-1.1",
    "#version 2\nenum ofp_reason { OFPR_NO_MATCH = 0, OFPR_ACTION = 2, OFPR_TTL = 3 };\n"),
   ("old-1.0", "#version 1\nenum ofp_reason { OFPR_NO_MATCH = 0, OFPR_ACTION = 1 };\n")]

/-- The constants of the two versions. -/
def reasonConstants : List Occurrence :=
  [⟨.v11, "ofp_reason", ⟨"OFPR_NO_MATCH", 0, []⟩⟩, ⟨.v11, "ofp_reason", ⟨"OFPR_ACTION", 2, []⟩⟩,
   ⟨.v11, "ofp_reason", ⟨"OFPR_TTL", 3, []⟩⟩, ⟨.v10, "ofp_reason", ⟨"OFPR_NO_MATCH", 0, []⟩⟩,
   ⟨.v10, "ofp_reason", ⟨"OFPR_ACTION", 1, []⟩⟩]

/-- An identifier whose value depends on the version has no other one; no macro is defined
twice. -/
theorem identifierHeader_faithful_reasons :
    ∃ (m : Model) (c : Catalog) (text : String) (f : ValueMacro)
      (sections : List (String × List IdentifierBlock)),
      Model.load reasonFiles [.v10, .v11] = .ok m ∧ build m [.v10, .v11] = .ok c
      ∧ c.identifierHeader "reasons.h" = .ok text ∧ HeaderText "reasons.h" f sections text
      ∧ (∃ b ∈ sections.flatMap (·.2), b.name = "OF_PACKET_IN_REASON_ACTION" ∧ b.common = none
        ∧ b.byVersion.eval f .v10 = some 1 ∧ b.byVersion.eval f .v11 = some 2)
      ∧ (∃ b ∈ sections.flatMap (·.2), b.name = "OF_PACKET_IN_REASON_NO_MATCH"
        ∧ b.common.bind literalValue? = some 0)
      ∧ (∃ b ∈ sections.flatMap (·.2), b.name = "OF_PACKET_IN_REASON_TTL"
        ∧ b.supported.eval f .v10 = some 0)
      ∧ ((sections.flatMap (·.2)).flatMap (·.macroNames)).Nodup := by
  have htest : (Model.load reasonFiles [.v10, .v11]).toOption.any (fun m =>
      occurrencesIn m.protocols = reasonConstants
      ∧ (build m [.v10, .v11]).toOption.isSome) = true := by
    simp only [Model.load, Model.inputFiles, mergeSort_files, Protocol.build, mergeSort_names,
      build, buildRecords, mergeSort_newest, sortNames]
    decide +kernel
  obtain ⟨m, hload, hm⟩ := exists_ok_of_any htest
  obtain ⟨hconstants, hm⟩ := of_decide_eq_true hm
  obtain ⟨c, hc⟩ := Option.isSome_iff_exists.mp hm
  have hbuild := ok_of_toOption hc
  obtain ⟨text, f, sections, htext, hwritten, -, -, hnames, -, hfaithful, hmacros⟩ :=
    identifierHeader_faithful hload (targets_of_build hbuild) (identifiers_of_build hbuild)
      (show Version.v10 ∈ [Version.v10, .v11] by decide) (show Version.v11 ∈ _ by decide)
      (by decide) "reasons.h"
  rw [hconstants] at hnames hfaithful
  have hblock : ∀ n, (∃ o ∈ reasonConstants, o.identifier = n) →
      ∃ b ∈ sections.flatMap (·.2), b.name = n := fun n hn => mem_map.mp ((hnames n).mpr hn)
  obtain ⟨action, haction, hactionName⟩ := hblock "OF_PACKET_IN_REASON_ACTION" (by decide)
  obtain ⟨noMatch, hnoMatch, hnoMatchName⟩ :=
    hblock "OF_PACKET_IN_REASON_NO_MATCH" (by decide)
  obtain ⟨ttl, httl, httlName⟩ := hblock "OF_PACKET_IN_REASON_TTL" (by decide)
  have hone : ∀ v ∈ Version.all,
      (constantsOf reasonConstants v "OF_PACKET_IN_REASON_ACTION").length ≤ 1
      ∧ (constantsOf reasonConstants v "OF_PACKET_IN_REASON_NO_MATCH").length ≤ 1 := by
    decide
  have hactionCommon := (hfaithful action haction).common fun v => by
    rw [hactionName]
    exact (hone v (Version.mem_all v)).1
  have hnoMatchCommon := (hfaithful noMatch hnoMatch).common fun v => by
    rw [hnoMatchName]
    exact (hone v (Version.mem_all v)).2
  refine ⟨m, c, text, f, sections, hload, hbuild, htext, hwritten,
    ⟨action, haction, hactionName, ?_, ?_, ?_⟩, ⟨noMatch, hnoMatch, hnoMatchName, ?_⟩,
    ⟨ttl, httl, httlName, ?_⟩, hmacros.mpr fun b hb _ b' hb' e he hne => ?_⟩
  · rw [← Option.not_isSome_iff_eq_none, hactionCommon.1, hactionName]
    decide
  · exact (hfaithful action haction).byVersion .v10 (by decide)
      ⟨.v10, "ofp_reason", ⟨"OFPR_ACTION", 1, []⟩⟩ (by rw [hactionName]; decide)
  · exact (hfaithful action haction).byVersion .v11 (by decide)
      ⟨.v11, "ofp_reason", ⟨"OFPR_ACTION", 2, []⟩⟩ (by rw [hactionName]; decide)
  · have hsome : noMatch.common.isSome = true := by
      rw [hnoMatchCommon.1, hnoMatchName]
      decide
    obtain ⟨digits, hdigits⟩ := Option.isSome_iff_exists.mp hsome
    rw [hdigits, Option.bind_some]
    exact hnoMatchCommon.2 digits hdigits ⟨.v10, "ofp_reason", ⟨"OFPR_NO_MATCH", 0, []⟩⟩ (by decide)
      (by rw [hnoMatchName]; decide)
  · obtain ⟨k, hk, hiff⟩ := (hfaithful ttl httl).supported .v10 (by decide)
    rw [httlName] at hiff
    rw [hk, Option.some.injEq]
    exact not_not.mp (mt hiff.mp (by decide))
  · have hapart : ∀ o ∈ reasonConstants, ∀ o' ∈ reasonConstants, ∀ e ∈ macroEndings, e ≠ "" →
        o.identifier ≠ o'.identifier ++ e := by
      decide
    obtain ⟨o, ho, hname⟩ := (hnames b.name).mp (mem_map_of_mem hb)
    obtain ⟨o', ho', hname'⟩ := (hnames b'.name).mp (mem_map_of_mem hb')
    rw [← hname, ← hname']
    exact hapart o ho o' ho' e ((endings_sublist b').subset he) hne

end Catalog

end FlowBindings.Loci
