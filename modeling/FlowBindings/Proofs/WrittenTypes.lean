import FlowBindings.Loci.WireTypes
import FlowBindings.Proofs.MacroText
import FlowBindings.Proofs.MergedClasses
import FlowBindings.Proofs.Sorting

/-!
# What is written into new objects

The values that tell a class on the wire are written by one function for all versions, in which
versions that write the same share a case. What a version itself writes is `Writes`, one
condition for each of its fixed fields; `written_of_build` says that the cases go through the
versions of a class in ascending order, that the case of a version writes what the version asks
for, and that no case could be joined with the next one.

Sharing rests on the field for the version: its value is not the same number in any two
versions, but the text that takes it from the object is. So the text alone does not say which
number is written, and `valueIn` reads it in an object of a given version.
-/

namespace FlowBindings.Loci

open Text Unified List Table

/-! ## Neighbours put together -/

section Neighbours

variable {κ ν : Type} [DecidableEq ν]

/-- **Spelled out entry by entry, the groups are the list.** -/
theorem flatMap_mergeAdjacent (l : List (κ × ν)) :
    ((mergeAdjacent l).flatMap fun g => g.2.map fun k => (k, g.1)) = l := by
  fun_induction mergeAdjacent l with
  | case1 => rfl
  | case2 k v rest hrest ih =>
    rw [hrest] at ih
    rw [← ih]
    rfl
  | case3 k rest w ks groups hrest ih =>
    rw [hrest] at ih
    rw [← ih]
    rfl
  | case4 k v rest w ks groups hrest hne ih =>
    rw [hrest] at ih
    rw [← ih]
    rfl

theorem ne_nil_of_mem_mergeAdjacent {l : List (κ × ν)} :
    ∀ g ∈ mergeAdjacent l, g.2 ≠ [] := by
  fun_induction mergeAdjacent l with
  | case1 => exact fun g hg => absurd hg not_mem_nil
  | case2 k v rest hrest ih => simp
  | case3 k rest w ks groups hrest ih =>
    rw [hrest] at ih
    rw [forall_mem_cons] at ih ⊢
    exact ⟨cons_ne_nil k ks, ih.2⟩
  | case4 k v rest w ks groups hrest hne ih =>
    rw [hrest] at ih
    exact forall_mem_cons.mpr ⟨cons_ne_nil k [], ih⟩

/-- **No group has the value of the next one.** -/
theorem isChain_mergeAdjacent (l : List (κ × ν)) :
    (mergeAdjacent l).IsChain fun g g' => g.1 ≠ g'.1 := by
  fun_induction mergeAdjacent l with
  | case1 => exact .nil
  | case2 k v rest hrest ih => exact .singleton _
  | case3 k rest w ks groups hrest ih =>
    rw [hrest] at ih
    rw [isChain_cons] at ih ⊢
    exact ih
  | case4 k v rest w ks groups hrest hne ih =>
    rw [hrest] at ih
    exact .cons_cons hne ih

end Neighbours

/-! ## What one version writes -/

variable (v : Version)

/-- The number that a written text comes to in an object of a version. -/
def valueIn (text : String) : Option Nat :=
  (literalValue? text).or (if text = "obj->version" then some v.wire else none)

/-- **A field is written as its class asks for**, in the objects of a version. -/
structure Writes (v : Version) (f : Field) (w : WrittenField) : Prop where
  name : w.name = f.name
  offset : w.offset = f.offset
  /-- It takes as many bytes as the field always does. -/
  length : f.isFixedLength = true ∧ w.length = f.baseLength
  /-- The number of the version is taken from the object, all others are spelled out; either
  text comes to the field's value. -/
  value : ∃ n, f.fixedValue? = some n
    ∧ w.value = (if f.name = "version" ∧ n = v.wire then "obj->version" else hex n)
    ∧ valueIn v w.value = some n

theorem valueIn_valueText (name : String) (n : Nat) :
    valueIn v (WrittenTypes.valueText v name n) = some n := by
  unfold WrittenTypes.valueText
  split
  · next h =>
    have hnone : literalValue? "obj->version" = none := by decide
    rw [valueIn, hnone, h.2]
    rfl
  · have hsome : literalValue? (hex n) = some n := literalValue?_hexLiteral n
    rw [valueIn, hsome]
    rfl

theorem exactLength_eq_ok_iff {f : Field} {className : String} {n : Nat} :
    (Member.field f).exactLength className = .ok n ↔ f.isFixedLength = true ∧ n = f.baseLength := by
  unfold Member.exactLength
  show (if f.isFixedLength = true then .ok f.baseLength else _) = Except.ok n ↔ _
  split
  · next hfixed => simp [hfixed, eq_comm]
  · next hfixed => simp [hfixed]

theorem writes_of_exactLength {v : Version} {f : Field} {className : String} {n length : Nat}
    (hvalue : f.fixedValue? = some n)
    (h : (Member.field f).exactLength className = .ok length) :
    Writes v f ⟨f.name, f.offset, length, WrittenTypes.valueText v f.name n⟩ :=
  ⟨rfl, rfl, exactLength_eq_ok_iff.mp h, n, hvalue, rfl, valueIn_valueText v f.name n⟩

/-- **A version writes all its fixed fields**, in the order in which they are declared. -/
theorem forall₂_writes {v : Version} {c : FlowBindings.Class} {ws : List WrittenField}
    (h : WrittenTypes.ofVersion v c = .ok ws) :
    Forall₂ (Writes v) (c.fields.filter (·.isFixed)) ws := by
  unfold WrittenTypes.ofVersion at h
  generalize c.fields = fields at h ⊢
  induction fields generalizing ws with
  | nil =>
    cases h
    exact .nil
  | cons f fields ih =>
    rw [filterMapM_cons] at h
    obtain ⟨w?, hw, h⟩ := bind_eq_ok_iff.mp h
    cases hvalue : f.fixedValue? with
    | none =>
      rw [hvalue] at hw
      cases hw
      rw [filter_cons_of_neg (by simp [Field.isFixed, hvalue])]
      exact ih h
    | some n =>
      rw [hvalue] at hw
      obtain ⟨length, hlength, hw⟩ := bind_eq_ok_iff.mp hw
      cases hw
      obtain ⟨rest, hrest, h⟩ := bind_eq_ok_iff.mp h
      cases h
      rw [filter_cons_of_pos (by simp [Field.isFixed, hvalue])]
      exact .cons (writes_of_exactLength hvalue hlength) (ih hrest)

/-- A version whose fixed fields are of fixed length can be written. -/
theorem exists_ofVersion {c : FlowBindings.Class}
    (h : ∀ f ∈ c.fields, f.isFixed = true → f.isFixedLength = true) :
    ∃ ws, WrittenTypes.ofVersion v c = .ok ws := by
  unfold WrittenTypes.ofVersion
  generalize c.fields = fields at h ⊢
  induction fields with
  | nil => exact ⟨[], rfl⟩
  | cons f fields ih =>
    rw [forall_mem_cons] at h
    obtain ⟨ws, hws⟩ := ih h.2
    rw [filterMapM_cons]
    cases hvalue : f.fixedValue? with
    | none => exact ⟨ws, hws⟩
    | some n =>
      have hlength : (Member.field f).exactLength c.name = .ok f.baseLength :=
        exactLength_eq_ok_iff.mpr ⟨h.1 (by simp [Field.isFixed, hvalue]), rfl⟩
      refine ⟨⟨f.name, f.offset, f.baseLength, WrittenTypes.valueText v f.name n⟩ :: ws,
        bind_eq_ok_iff.mpr ⟨some _, bind_eq_ok_iff.mpr ⟨f.baseLength, hlength, rfl⟩, ?_⟩⟩
      exact bind_eq_ok_iff.mpr ⟨ws, hws, rfl⟩

/-! ## The versions of a class -/

namespace WrittenTypes

variable {x : Unified.Class}

/-- The versions of a class ascend, if it has none of them twice. -/
theorem pairwise_versionsOf (h : x.versions.keys.Nodup) :
    ((versionsOf x).map (·.1)).Pairwise fun v w => v.wire < w.wire := by
  have hsorted : ((versionsOf x).map (·.1)).Pairwise fun v w => v.wire ≤ w.wire := by
    rw [pairwise_map]
    refine (pairwise_mergeSort ?_ ?_ x.versions).imp fun hle => of_decide_eq_true hle
    · intro a b c hab hbc
      exact decide_eq_true ((of_decide_eq_true hab).trans (of_decide_eq_true hbc))
    · intro a b
      simpa using Nat.le_total a.1.wire b.1.wire
  have hnodup : ((versionsOf x).map (·.1)).Nodup :=
    ((mergeSort_perm _ _).map _).nodup_iff.mpr h
  exact (hsorted.and hnodup).imp fun hvw =>
    Nat.lt_of_le_of_ne hvw.1 fun heq => hvw.2 (Version.wire_injective heq)

theorem mem_versionsOf {vc : Version × FlowBindings.Class} :
    vc ∈ versionsOf x ↔ vc ∈ x.versions :=
  (mergeSort_perm _ _).mem_iff

/-- A version with what it writes. -/
def writtenIn (vc : Version × FlowBindings.Class) : Outcome (Version × List WrittenField) :=
  do pure (vc.1, ← ofVersion vc.1 vc.2)

theorem writtenIn_eq_ok_iff {vc : Version × FlowBindings.Class} {r : Version × List WrittenField} :
    writtenIn vc = .ok r ↔ r.1 = vc.1 ∧ ofVersion vc.1 vc.2 = .ok r.2 := by
  rw [writtenIn, bind_eq_ok_iff]
  constructor
  · rintro ⟨ws, hws, hr⟩
    cases hr
    exact ⟨rfl, hws⟩
  · rintro ⟨hv, hws⟩
    exact ⟨r.2, hws, congrArg Except.ok (Prod.ext hv.symm rfl)⟩

/-- The cases are what the versions write, with neighbours put together. -/
theorem ofClass_eq_some_iff {t : WrittenTypes} :
    ofClass x = .ok (some t) ↔ x.isVirtual = false ∧ x.hasFixedFields = true
      ∧ ∃ rows, (versionsOf x).mapM writtenIn = .ok rows ∧ t = ⟨x.name, mergeAdjacent rows⟩ := by
  have hunfold : ofClass x = if (x.isVirtual || !x.hasFixedFields) = true then .ok none
      else (versionsOf x).mapM writtenIn
        >>= fun rows => .ok (some ⟨x.name, mergeAdjacent rows⟩) := rfl
  rw [hunfold]
  split
  · next hnone =>
    refine iff_of_false (fun h => ?_) fun h => ?_
    · cases h
    · simp [h.1, h.2.1] at hnone
  · next hsome =>
    obtain ⟨hvirtual, hfixed⟩ : x.isVirtual = false ∧ x.hasFixedFields = true := by
      simpa using hsome
    rw [bind_eq_ok_iff]
    simp [hvirtual, hfixed, @eq_comm _ t]

/-- What is written for a class is known if all its fixed fields are of fixed length. -/
theorem exists_ofClass_iff :
    (∃ t, ofClass x = .ok (some t)) ↔ x.isVirtual = false ∧ x.hasFixedFields = true
      ∧ ∀ vc ∈ x.versions, ∀ f ∈ vc.2.fields, f.isFixed = true → f.isFixedLength = true := by
  constructor
  · rintro ⟨t, ht⟩
    obtain ⟨hvirtual, hfixed, rows, hrows, -⟩ := ofClass_eq_some_iff.mp ht
    refine ⟨hvirtual, hfixed, fun vc hvc f hf hvalue => ?_⟩
    obtain ⟨r, -, hr⟩ := exists_mem_of_mapM_eq_ok hrows (mem_versionsOf.mpr hvc)
    have hwrites := forall₂_writes (writtenIn_eq_ok_iff.mp hr).2
    exact ((forall₂_and_left _ _).mp (hwrites.imp fun f w hw => ⟨hw.length.1, hw⟩)).1 f
      (mem_filter.mpr ⟨hf, hvalue⟩)
  · rintro ⟨hvirtual, hfixed, hlengths⟩
    have heach : ∀ vc ∈ versionsOf x, ∃ r, writtenIn vc = .ok r := by
      intro vc hvc
      obtain ⟨ws, hws⟩ := exists_ofVersion vc.1 (hlengths vc (mem_versionsOf.mp hvc))
      exact ⟨(vc.1, ws), writtenIn_eq_ok_iff.mpr ⟨rfl, hws⟩⟩
    obtain ⟨rows, hrows⟩ := exists_mapM_iff.mpr heach
    exact ⟨_, ofClass_eq_some_iff.mpr ⟨hvirtual, hfixed, rows, hrows, rfl⟩⟩

theorem flatMap_cases {rows : List (Version × List WrittenField)}
    (h : (versionsOf x).mapM writtenIn = .ok rows) :
    (mergeAdjacent rows).flatMap (·.2) = (versionsOf x).map (·.1) := by
  calc (mergeAdjacent rows).flatMap (·.2)
      = ((mergeAdjacent rows).flatMap fun g => g.2.map fun v => (v, g.1)).map (·.1) := by
        rw [map_flatMap]
        refine flatMap_congr fun g _ => ?_
        rw [map_map]
        exact (map_id g.2).symm
    _ = rows.map (·.1) := by rw [flatMap_mergeAdjacent]
    _ = (versionsOf x).map (·.1) := by
      rw [eq_comm, ← forall₂_eq_eq_eq, forall₂_map_left_iff, forall₂_map_right_iff]
      exact (mapM_eq_ok_iff.mp h).imp fun vc r hr => (writtenIn_eq_ok_iff.mp hr).1.symm

/-- A version of a case writes the fields of the case. -/
theorem exists_ofVersion_of_mem_cases
    {rows : List (Version × List WrittenField)} (h : (versionsOf x).mapM writtenIn = .ok rows)
    {g : List WrittenField × List Version} (hg : g ∈ mergeAdjacent rows) {v : Version}
    (hv : v ∈ g.2) : ∃ c, (v, c) ∈ x.versions ∧ ofVersion v c = .ok g.1 := by
  have hrow : (v, g.1) ∈ rows := by
    rw [← flatMap_mergeAdjacent rows]
    exact mem_flatMap.mpr ⟨g, hg, mem_map_of_mem hv⟩
  obtain ⟨⟨v', c⟩, hvc, hr⟩ := exists_of_mem_of_mapM_eq_ok h hrow
  obtain ⟨rfl, hws⟩ := writtenIn_eq_ok_iff.mp hr
  exact ⟨c, mem_versionsOf.mp hvc, hws⟩

end WrittenTypes

/-- **What is written into new objects of a unified class.** The cases go through the versions
that define the class, each once and in ascending order. The case of a version writes the fixed
fields of the version's own class, and no case writes the same as the next one. There are such
cases for each class that has fixed fields, all of fixed length, and is not virtual. -/
theorem written_of_build {protocols : Table Version Protocol} {u : Unified}
    (h : Unified.build protocols = .ok u) {x : Unified.Class} (hx : x ∈ u.classes) :
    (∀ t, WrittenTypes.ofClass x = .ok (some t) →
      t.className = x.name
      ∧ (t.cases.flatMap (·.2)).Pairwise (fun v w => v.wire < w.wire)
      ∧ (∀ v, v ∈ t.cases.flatMap (·.2) ↔ v ∈ (definitionsOf protocols x.name).keys)
      ∧ (∀ g ∈ t.cases, g.2 ≠ [] ∧ ∀ v ∈ g.2, ∃ c, x.versions.get? v = some c
        ∧ (v, c) ∈ definitionsOf protocols x.name
        ∧ List.Forall₂ (Writes v) (c.fields.filter (·.isFixed)) g.1)
      ∧ t.cases.IsChain fun g g' => g.1 ≠ g'.1)
    ∧ ((∃ t, WrittenTypes.ofClass x = .ok (some t)) ↔ x.isVirtual = false
      ∧ x.hasFixedFields = true
      ∧ ∀ vc ∈ x.versions, ∀ f ∈ vc.2.fields, f.isFixed = true → f.isFixedLength = true) := by
  refine ⟨fun t ht => ?_, WrittenTypes.exists_ofClass_iff⟩
  have hversions := (merged_of_build h hx).versions
  have hnodup : x.versions.keys.Nodup := hversions ▸ nodup_keys_ofPairs _
  obtain ⟨-, -, rows, hrows, rfl⟩ := WrittenTypes.ofClass_eq_some_iff.mp ht
  dsimp only
  refine ⟨rfl, ?_, fun v => ?_, fun g hg => ⟨ne_nil_of_mem_mergeAdjacent g hg, fun v hv => ?_⟩,
    isChain_mergeAdjacent rows⟩
  · rw [WrittenTypes.flatMap_cases hrows]
    exact WrittenTypes.pairwise_versionsOf hnodup
  · have hkeys : v ∈ (WrittenTypes.versionsOf x).map (·.1) ↔ v ∈ x.versions.keys :=
      ((mergeSort_perm _ _).map _).mem_iff
    rw [WrittenTypes.flatMap_cases hrows, hkeys, hversions, mem_keys_ofPairs]
  · obtain ⟨c, hc, hws⟩ := WrittenTypes.exists_ofVersion_of_mem_cases hrows hg hv
    exact ⟨c, (get?_eq_some_iff hnodup).mpr hc, mem_of_mem_ofPairs (hversions ▸ hc),
      forall₂_writes hws⟩

/-- A greeting of a version, with the number that is its type. -/
def greeting (kind : Nat) : Source where
  file := "standard"
  versions := [v]
  classes :=
    [⟨"of_hello", none, [.field "version" "uint8_t" (.fixed v.wire), .pad 2,
      .field "type" "uint8_t" (.fixed kind)], false, []⟩]
  enums := []

/-- Greetings of three versions, the newest of which has another type: the two others share a
case. -/
theorem written_of_build_greetings :
    ∃ p q r u x t, Protocol.build .v10 [greeting .v10 0] = .ok p
      ∧ Protocol.build .v11 [greeting .v11 0] = .ok q
      ∧ Protocol.build .v12 [greeting .v12 0x1f] = .ok r
      ∧ Unified.build [(.v12, r), (.v10, p), (.v11, q)] = .ok u ∧ x ∈ u.classes
      ∧ WrittenTypes.ofClass x = .ok (some t)
      ∧ t.cases = [([⟨"version", some 0, 1, "obj->version"⟩, ⟨"type", some 3, 1, "0x0"⟩],
          [.v10, .v11]),
        ([⟨"version", some 0, 1, "obj->version"⟩, ⟨"type", some 3, 1, "0x1f"⟩], [.v12])]
      ∧ (t.cases.flatMap (·.2)).Pairwise (fun v w => v.wire < w.wire)
      ∧ (∀ g ∈ t.cases, ∀ v ∈ g.2, ∃ c, x.versions.get? v = some c
        ∧ List.Forall₂ (Writes v) (c.fields.filter (·.isFixed)) g.1)
      ∧ t.cases.IsChain fun g g' => g.1 ≠ g'.1 := by
  have htest : (Protocol.build .v10 [greeting .v10 0]).toOption.any (fun p =>
      (Protocol.build .v11 [greeting .v11 0]).toOption.any fun q =>
      (Protocol.build .v12 [greeting .v12 0x1f]).toOption.any fun r =>
      (Unified.build [(.v12, r), (.v10, p), (.v11, q)]).toOption.any fun u => u.classes.any fun x =>
      (WrittenTypes.ofClass x).toOption.any fun t? => t?.any fun t => t.cases =
        [([⟨"version", some 0, 1, "obj->version"⟩, ⟨"type", some 3, 1, "0x0"⟩], [.v10, .v11]),
        ([⟨"version", some 0, 1, "obj->version"⟩, ⟨"type", some 3, 1, "0x1f"⟩], [.v12])])
      = true := by
    simp only [Protocol.build, mergeSort_names, WrittenTypes.ofClass, WrittenTypes.versionsOf,
      mergeSort_oldest]
    decide +kernel
  obtain ⟨p, hp, htest⟩ := exists_ok_of_any htest
  obtain ⟨q, hq, htest⟩ := exists_ok_of_any htest
  obtain ⟨r, hr, htest⟩ := exists_ok_of_any htest
  obtain ⟨u, hu, htest⟩ := exists_ok_of_any htest
  obtain ⟨x, hx, htest⟩ := any_eq_true.mp htest
  obtain ⟨t?, ht, htest⟩ := exists_ok_of_any htest
  obtain ⟨t, rfl, htest⟩ := (Option.any_eq_true _ _).mp htest
  obtain ⟨-, hascending, -, hgroups, hchain⟩ := (written_of_build hu hx).1 t ht
  refine ⟨p, q, r, u, x, t, hp, hq, hr, hu, hx, ht, of_decide_eq_true htest, hascending,
    fun g hg v hv => ?_, hchain⟩
  obtain ⟨c, hc, -, hwrites⟩ := (hgroups g hg).2 v hv
  exact ⟨c, hc, hwrites⟩

end FlowBindings.Loci
