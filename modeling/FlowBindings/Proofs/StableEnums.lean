import FlowBindings.ObjectModel.EnumType
import FlowBindings.Proofs.MergedEnums
import FlowBindings.Proofs.Names
import FlowBindings.Proofs.Sorting

/-!
# Stable enums

An enum of the object model stands for the enums of its name in the versions asked for. It is
called stable when these are, and then a constant has one value, which is read off the first
version that has it and compared with no other. That this is right rests on two checks which
know nothing of each other. Grouping enums by name refuses a name whose enums are not all stable
or all unstable (`Grouped`), so that all enums behind a stable one are stable; and unifying
versions compares the numbers of stable definitions with those it has kept
(`Unified.number_of_stable`). Both are folds, and both are told by what they make of the enums
of one name: `familyOf` of the families, `get?_valuesByName` of the values of constants.
`stableValue_of_load` puts them together.

The refusal is meant to be out of reach, since unifying is to notice enums that are not stable
alike. It notices marks that differ, as it notices any parameter that does, but a missing mark
differs from nothing. `stability_of_build` says that this gap is all that is left.
-/

namespace FlowBindings

open List Table

namespace ObjectModel

open Unified (IsStable DeclaresParam enumDefinitions)

/-! ## Families -/

section Families

variable {m : Model} {seen : Table Version Enum} {families : Table String EnumFamily}

def askedEnums (m : Model) (versions : List Version) : Table Version Enum :=
  versions.flatMap fun v => ((m.protocol? v).elim [] (·.enums)).map (v, ·)

theorem mem_askedEnums {versions : List Version} {v : Version} {e : Enum} :
    (v, e) ∈ askedEnums m versions ↔ v ∈ versions ∧ ∃ p, m.protocol? v = some p ∧ e ∈ p.enums := by
  unfold askedEnums
  rw [mem_flatMap]
  constructor
  · rintro ⟨w, hw, hmem⟩
    obtain ⟨e', he', heq⟩ := mem_map.mp hmem
    cases heq
    cases hp : m.protocol? v with
    | none =>
      rw [hp] at he'
      exact absurd he' not_mem_nil
    | some p =>
      rw [hp] at he'
      exact ⟨hw, p, rfl, he'⟩
  · rintro ⟨hv, p, hp, he⟩
    refine ⟨v, hv, mem_map_of_mem ?_⟩
    rw [hp]
    exact he

theorem isDeclaredStable_iff {e : Enum} : isDeclaredStable e = true ↔ IsStable e :=
  decide_eq_true_iff

/-- Enums of one name agree when both are stable or neither is. -/
def sameStability (ve ve' : Version × Enum) : Bool :=
  isDeclaredStable ve.2 = isDeclaredStable ve'.2

/-- **Two enums of one name, of which only one is stable.** -/
def Inconsistent (seen : Table Version Enum) : Prop := Clash (·.2.name) sameStability seen

/-- What is said when only one of two enums is stable. -/
def inconsistency : Fault := .refused "Inconsistent enum stability (should be caught  by IR)"

/-- The family of the enums of one name: it is as stable as the first of them, and of those of
one version it has the last. -/
def familyOf : Table Version Enum → Option EnumFamily
  | [] => none
  | ve :: rest => some ⟨isDeclaredStable ve.2, ofPairs (ve :: rest)⟩

theorem familyOf_append_singleton (rows : Table Version Enum) (ve : Version × Enum) :
    familyOf (rows ++ [ve]) = some ((familyOf rows).elim ⟨isDeclaredStable ve.2, [ve]⟩
      fun f => { f with versions := f.versions.set ve.1 ve.2 }) := by
  cases rows with
  | nil => rfl
  | cons first rest =>
    rw [cons_append, familyOf, ← cons_append, ofPairs_append_singleton]
    rfl

theorem familyOf_eq_none_iff {rows : Table Version Enum} : familyOf rows = none ↔ rows = [] := by
  cases rows <;> simp [familyOf]

variable {f : EnumFamily}

/-- A family has the enums it is made of, and is as stable as one of them. -/
theorem familyOf_spec {rows : Table Version Enum} (h : familyOf rows = some f) :
    f.versions = ofPairs rows ∧ ∃ ve ∈ rows, isDeclaredStable ve.2 = f.isStable := by
  cases rows with
  | nil => cases h
  | cons first rest =>
    cases h
    exact ⟨rfl, first, mem_cons_self, rfl⟩

/-- **Enums that have been grouped**: under each name stands the family of the enums of that
name, and they are consistent. -/
structure Grouped (seen : Table Version Enum) (families : Table String EnumFamily) : Prop where
  /-- Each name once. -/
  nodup : families.keys.Nodup
  get?_eq : ∀ n, families.get? n = familyOf (seen.filter (·.2.name = n))
  /-- No two enums of a name differ. -/
  consistent : ¬ Inconsistent seen

theorem grouped_nil : Grouped [] [] where
  nodup := nodup_nil
  get?_eq := fun _ => rfl
  consistent := fun ⟨_, hve, _⟩ => not_mem_nil hve

/-- An enum more stands in the family of its name. -/
theorem Grouped.place (h : Grouped seen families) {ve : Version × Enum}
    (hf : familyOf (seen.filter (·.2.name = ve.2.name) ++ [ve]) = some f)
    (hagree : ∀ ve' ∈ seen, ve'.2.name = ve.2.name →
      isDeclaredStable ve'.2 = isDeclaredStable ve.2) :
    Grouped (seen ++ [ve]) (families.set ve.2.name f) where
  nodup := nodup_keys_set h.nodup _ _
  get?_eq := by
    intro n
    rw [filter_append]
    by_cases hn : n = ve.2.name
    · subst hn
      rw [get?_set_self, ← hf]
      simp
    · have hn' : ¬ ve.2.name = n := fun heq => hn heq.symm
      rw [get?_set_of_ne _ _ hn, h.get?_eq]
      simp [hn']
  consistent := by
    refine not_clash_append_singleton h.consistent (decide_eq_true rfl) fun ve' hve' hname => ?_
    exact ⟨decide_eq_true (hagree ve' hve' hname), decide_eq_true (hagree ve' hve' hname).symm⟩

/-- Where enums are consistent, those of a family are as stable as it is. -/
theorem Grouped.isStable_eq (h : Grouped seen families) {n : String}
    (hf : families.get? n = some f) {ve : Version × Enum} (hve : ve ∈ seen)
    (hname : ve.2.name = n) : isDeclaredStable ve.2 = f.isStable := by
  rw [h.get?_eq] at hf
  obtain ⟨first, hfirst, hstable⟩ := (familyOf_spec hf).2
  rw [mem_filter, decide_eq_true_eq] at hfirst
  rw [← hstable]
  by_contra hne
  exact h.consistent ⟨ve, hve, first, hfirst.1, hname.trans hfirst.2.symm, decide_eq_false hne⟩

/-- One enum more is grouped, or it is inconsistent with one before it. -/
theorem Grouped.addToFamily_endsIn (h : Grouped seen families) (ve : Version × Enum) :
    EndsIn (Grouped (seen ++ [ve])) (fun err => err = inconsistency ∧ Inconsistent (seen ++ [ve]))
      (addToFamily ve.1 families ve.2) := by
  have hfamily := h.get?_eq ve.2.name
  unfold addToFamily
  cases hget : families.get? ve.2.name with
  | none =>
    rw [hget] at hfamily
    refine h.place (by rw [familyOf_append_singleton, ← hfamily]; rfl) fun ve' hve' hname => ?_
    -- there is no other enum of this name
    have hnil := familyOf_eq_none_iff.mp hfamily.symm
    exact absurd (decide_eq_true hname) (filter_eq_nil_iff.mp hnil ve' hve')
  | some f =>
    rw [hget] at hfamily
    dsimp only
    by_cases hstable : f.isStable = isDeclaredStable ve.2
    · rw [if_pos hstable]
      refine h.place (by rw [familyOf_append_singleton, ← hfamily]; rfl) fun ve' hve' hname => ?_
      rw [h.isStable_eq hget hve' hname, hstable]
    · rw [if_neg hstable]
      obtain ⟨first, hfirst, hsame⟩ := (familyOf_spec hfamily.symm).2
      rw [mem_filter, decide_eq_true_eq] at hfirst
      refine ⟨rfl, first, mem_append_left _ hfirst.1, ve,
        mem_append_right _ (mem_singleton_self _), hfirst.2, decide_eq_false ?_⟩
      rwa [hsame]

/-- **The enums of the versions asked for are grouped**; or a version is not there, or two enums
are inconsistent. -/
theorem enumFamilies_endsIn (m : Model) (versions : List Version) :
    EndsIn (Grouped (askedEnums m versions))
      (fun err => (∃ v ∈ versions, m.protocol? v = none)
        ∨ err = inconsistency ∧ Inconsistent (askedEnums m versions))
      (enumFamilies m versions) := by
  refine endsIn_foldlM_seen (fun seen => Grouped (askedEnums m seen))
    (fun seen err => (∃ v ∈ seen, m.protocol? v = none)
      ∨ err = inconsistency ∧ Inconsistent (askedEnums m seen))
    ?_ ?_ [] (by exact grouped_nil) versions
  · rintro seen seen' err hstart (⟨v, hv, hnone⟩ | ⟨herr, hclash⟩)
    · exact .inl ⟨v, hstart.subset hv, hnone⟩
    · exact .inr ⟨herr, hclash.mono (hstart.flatMap _).subset⟩
  intro seen v families hfamilies
  cases hp : m.protocol? v with
  | none => exact .inl ⟨v, mem_append_right _ (mem_singleton_self v), hp⟩
  | some p =>
    have hasked : askedEnums m (seen ++ [v]) = askedEnums m seen ++ p.enums.map (v, ·) := by
      unfold askedEnums
      rw [flatMap_append, flatMap_singleton, hp]
      rfl
    rw [hasked]
    show EndsIn _ _ (p.enums.foldlM (addToFamily v) families)
    have hends := endsIn_foldlM_seen Grouped (fun l err => err = inconsistency ∧ Inconsistent l)
      (fun _ _ _ hstart herr => ⟨herr.1, herr.2.mono hstart.subset⟩)
      (fun _ ve _ hmid => hmid.addToFamily_endsIn ve) _ hfamilies (p.enums.map (v, ·))
    rw [foldlM_map] at hends
    exact hends.imp (fun _ h => h) fun _ => .inr

end Families

/-! ## Constants -/

section Constants

variable (versions : Table Version Enum) (declared : String)

def constantRows : List (Version × Entry) :=
  versions.flatMap fun ve => ve.2.entries.map (ve.1, ·)

/-- A constant's value in one version more. -/
def withValue (values : Table Version Nat) (r : Version × Entry) : Table Version Nat :=
  values.set r.1 r.2.value

theorem valuesByName_eq :
    valuesByName versions = (constantRows versions).foldl
      (fun (t : Table String (Table Version Nat)) r =>
        t.update r.2.name [] (withValue · r)) [] := by
  unfold valuesByName constantRows
  rw [foldl_flatMap]
  simp only [foldl_map, withValue]

/-- **The values of a constant** are those it has in the versions, by version. -/
theorem get?_valuesByName (n : String) :
    (valuesByName versions).get? n
      = if n ∈ (constantRows versions).map (·.2.name) then
          some (ofPairs (((constantRows versions).filter (·.2.name = n)).map
            fun r => (r.1, r.2.value)))
        else none := by
  rw [valuesByName_eq, get?_foldl_update (fun r : Version × Entry => r.2.name) [] withValue,
    ofPairs, foldl_map]
  rfl

theorem nodup_keys_valuesByName :
    (valuesByName versions).keys.Nodup := by
  rw [valuesByName_eq]
  exact nodup_keys_foldl_update (fun r : Version × Entry => r.2.name) [] withValue _

variable {versions : Table Version Enum}

theorem mem_constantRows {v : Version} {x : Entry} :
    (v, x) ∈ constantRows versions ↔ ∃ e, (v, e) ∈ versions ∧ x ∈ e.entries := by
  unfold constantRows
  rw [mem_flatMap]
  constructor
  · rintro ⟨⟨w, e⟩, he, hx⟩
    obtain ⟨x', hx', heq⟩ := mem_map.mp hx
    cases heq
    exact ⟨e, he, hx'⟩
  · rintro ⟨e, he, hx⟩
    exact ⟨(v, e), he, mem_map_of_mem hx⟩

theorem exists_value {v : Version} {x : Entry} (h : (v, x) ∈ constantRows versions) :
    ∃ values k, (valuesByName versions).get? x.name = some values ∧ values.get? v = some k := by
  have hget := get?_valuesByName versions x.name
  rw [if_pos (mem_map_of_mem h)] at hget
  have hkey : v ∈ keys (((constantRows versions).filter (·.2.name = x.name)).map
      fun r => (r.1, r.2.value)) := by
    rw [Table.keys, map_map]
    exact mem_map.mpr ⟨(v, x), mem_filter.mpr ⟨h, decide_eq_true rfl⟩, rfl⟩
  rw [← mem_keys_ofPairs, ← not_not (a := v ∈ _), ← get?_eq_none_iff] at hkey
  obtain ⟨k, hk⟩ := Option.ne_none_iff_exists'.mp hkey
  exact ⟨_, k, hget, hk⟩

/-- **A constant whose number does not depend on the version** has that number as each of its
values, and has a value. -/
theorem values_of_constant {number : String → Option Nat}
    (hnumber : ∀ r ∈ constantRows versions, number r.2.name = some r.2.value) {name : String}
    {values : Table Version Nat} (h : (valuesByName versions).get? name = some values) :
    ∃ k, number name = some k ∧ values ≠ [] ∧ ∀ p ∈ values, p.2 = k := by
  have hrows := get?_valuesByName versions name
  rw [h] at hrows
  by_cases hname : name ∈ (constantRows versions).map (·.2.name)
  · rw [if_pos hname, Option.some.injEq] at hrows
    have hall : ∀ p ∈ values, number name = some p.2 := by
      intro p hp
      rw [hrows] at hp
      obtain ⟨r, hr, rfl⟩ := mem_map.mp (mem_of_mem_ofPairs hp)
      rw [mem_filter, decide_eq_true_eq] at hr
      rw [← hr.2]
      exact hnumber r hr.1
    obtain ⟨⟨v, x⟩, hr, rfl⟩ := mem_map.mp hname
    obtain ⟨values', k, hget, hk⟩ := exists_value hr
    obtain rfl : values = values' := Option.some.inj (h.symm.trans hget)
    have hmem := mem_of_get? hk
    refine ⟨k, hall _ hmem, ne_nil_of_mem hmem, fun p hp => ?_⟩
    exact Option.some.inj ((hall p hp).symm.trans (hall _ hmem))
  · rw [if_neg hname] at hrows
    cases hrows

/-- The name of a constant in the object model. -/
def constantName (name : String) : String :=
  EnumType.lead (EnumType.nameOf declared) ++ Text.upper (behindUnderscore name)

/-- Whether the constant of a name is left out. -/
def isOmitted (name : String) : Bool :=
  ((omittedConstants.get? (EnumType.nameOf declared)).getD []).contains name

/-- The constants of the enums of one name, by version. -/
def constantsOf (versions : Table Version Enum) : List Constant :=
  ((valuesByName versions).map fun r => ⟨constantName declared r.1, r.2⟩).filter
    fun c => !isOmitted declared c.name

theorem mem_constantsOf {declared : String} {c : Constant} :
    c ∈ constantsOf declared versions
      ↔ (∃ name, (valuesByName versions).get? name = some c.values
        ∧ c.name = constantName declared name) ∧ isOmitted declared c.name = false := by
  unfold constantsOf
  rw [mem_filter, Bool.not_eq_true', mem_map]
  refine and_congr_left fun _ => ?_
  constructor
  · rintro ⟨⟨name, values⟩, hr, rfl⟩
    exact ⟨name, (get?_eq_some_iff (nodup_keys_valuesByName versions)).mpr hr, rfl⟩
  · rintro ⟨name, hr, hname⟩
    exact ⟨(name, c.values), mem_of_get? hr, by rw [← hname]⟩

/-- **What an enum of the object model is made of.** -/
theorem EnumType.build_endsIn (isStable : Bool) (versions : Table Version Enum) :
    EndsIn (fun t => t.declared = declared ∧ t.isStable = isStable
        ∧ t.constants = constantsOf declared versions)
      (fun err => err ≠ inconsistency) (EnumType.build declared isStable versions) := by
  have htype : ∀ e : Enum, EndsIn (fun _ => True) (fun err => err ≠ inconsistency)
      (EnumType.constantType e) := by
    intro e
    unfold EnumType.constantType
    split
    · next type _ =>
      cases type.bind constantTypes.get? with
      | some t => trivial
      | none => exact Fault.noConfusion
    · trivial
  unfold EnumType.build
  dsimp only
  split
  · exact (htype _).andThen fun _ => ⟨rfl, rfl, rfl⟩
  · exact ⟨rfl, rfl, rfl⟩

end Constants

/-! ## Enums -/

section Enums

variable {m : Model} {versions : List Version}

/-- The enums that an enum of the object model stands for, by version. -/
def ownEnums (m : Model) (versions : List Version) (n : String) : Table Version Enum :=
  ofPairs ((askedEnums m versions).filter (·.2.name = n))

/-- **Where an enum of the object model comes from**: it has the constants of the enums of its
name in the versions asked for, and all of these are stable or none is. -/
theorem enumType_spec {es : List EnumType} (h : enumsOf m versions = .ok es) {e : EnumType}
    (he : e ∈ es) :
    e.constants = constantsOf e.declared (ownEnums m versions e.declared)
      ∧ ∀ ve ∈ askedEnums m versions, ve.2.name = e.declared →
        isDeclaredStable ve.2 = e.isStable := by
  unfold enumsOf at h
  obtain ⟨families, hfamilies, h⟩ := bind_eq_ok_iff.mp h
  obtain ⟨all, hall, h⟩ := bind_eq_ok_iff.mp h
  cases h
  obtain ⟨⟨n, f⟩, hr, hbuild⟩ := exists_of_mem_of_mapM_eq_ok hall (mem_of_mem_filter he)
  have hgrouped := (enumFamilies_endsIn m versions).of_ok hfamilies
  have hf : families.get? n = some f := (get?_eq_some_iff hgrouped.nodup).mpr hr
  obtain ⟨rfl, hstable, hconstants⟩ :=
    (EnumType.build_endsIn n f.isStable f.versions).of_ok hbuild
  constructor
  · have hfamily := (familyOf_spec ((hgrouped.get?_eq _).symm.trans hf)).1
    rw [hconstants, hfamily, ownEnums]
  · intro ve hve hname
    rw [hstable]
    exact hgrouped.isStable_eq hf hve hname

/-- **When the enums of the object model are refused**: where the versions are there, exactly
if two enums are inconsistent. -/
theorem enumsOf_eq_inconsistency_iff (hversions : ∀ v ∈ versions, v ∈ m.versions) :
    enumsOf m versions = .error inconsistency ↔ Inconsistent (askedEnums m versions) := by
  have hpresent : ¬ ∃ v ∈ versions, m.protocol? v = none := by
    rintro ⟨v, hv, hnone⟩
    exact get?_eq_none_iff.mp hnone (hversions v hv)
  have hends := enumFamilies_endsIn m versions
  unfold enumsOf
  cases hfamilies : enumFamilies m versions with
  | error err =>
    obtain ⟨rfl, hinconsistent⟩ := (hends.of_error hfamilies).resolve_left hpresent
    exact ⟨fun _ => hinconsistent, fun _ => rfl⟩
  | ok families =>
    refine ⟨fun herr => ?_, fun hclash => absurd hclash (hends.of_ok hfamilies).consistent⟩
    -- making an enum of a family fails for other reasons
    have hmade : EndsIn (fun _ : List EnumType => True) (fun err => err ≠ inconsistency)
        (families.mapM (fun r => EnumType.build r.1 r.2.isStable r.2.versions) >>= fun all =>
          pure (all.filter fun e => !omittedEnums.contains e.name)) :=
      (endsIn_mapM fun r _ => EnumType.build_endsIn r.1 r.2.isStable r.2.versions).bind
        fun _ _ => trivial
    exact absurd rfl (hmade.of_error herr)

end Enums

/-! ## Stable values -/

section StableValues

variable {m : Model} {versions : List Version} {n : String}

theorem mem_ownEnums {v : Version} {d : Enum} (h : (v, d) ∈ ownEnums m versions n) :
    (v, d) ∈ askedEnums m versions ∧ d.name = n := by
  have hmem := mem_of_mem_ofPairs h
  rw [mem_filter, decide_eq_true_eq] at hmem
  exact hmem

/-- **The constants of stable enums have the numbers of the unified enum.** -/
theorem number_of_ownEnums (hunified : Unified.build m.protocols = .ok m.unified)
    (hstable : ∀ ve ∈ askedEnums m versions, ve.2.name = n → IsStable ve.2) :
    ∀ r ∈ constantRows (ownEnums m versions n),
      (Unified.numbers ((m.unified.enum? n).getD ⟨n, [], []⟩).entries).get? r.2.name
        = some r.2.value := by
  rintro ⟨v, x⟩ hr
  obtain ⟨d, hd, hx⟩ := mem_constantRows.mp hr
  obtain ⟨hasked, rfl⟩ := mem_ownEnums hd
  obtain ⟨-, p, hp, hdp⟩ := mem_askedEnums.mp hasked
  refine Unified.number_of_stable hunified ?_ (hstable _ hasked rfl) hx
  exact mem_flatMap.mpr ⟨(v, p), mem_of_get? hp, hdp⟩

/-- Where each version has one enum of a name, each of them has its place. -/
theorem mem_ownEnums_of_mem (hnodup : ∀ vp ∈ m.protocols, (vp.2.enums.map (·.name)).Nodup)
    {v : Version} (hv : v ∈ versions) {p : Protocol} (hp : m.protocol? v = some p) {d : Enum}
    (hd : d ∈ p.enums) : (v, d) ∈ ownEnums m versions d.name := by
  have hasked : (v, d) ∈ (askedEnums m versions).filter (·.2.name = d.name) :=
    mem_filter.mpr ⟨mem_askedEnums.mpr ⟨hv, p, hp, hd⟩, decide_eq_true rfl⟩
  have hkey : v ∈ (ownEnums m versions d.name).keys :=
    mem_keys_ofPairs.mpr (mem_map_of_mem hasked)
  obtain ⟨⟨w, d'⟩, hd', rfl⟩ := mem_map.mp hkey
  obtain ⟨hasked', hname⟩ := mem_ownEnums hd'
  obtain ⟨-, p', hp', hdp'⟩ := mem_askedEnums.mp hasked'
  obtain rfl : p = p' := Option.some.inj (hp.symm.trans hp')
  obtain rfl : d' = d :=
    inj_on_of_nodup_map (hnodup _ (mem_of_get? hp)) hdp' hd hname
  exact hd'

theorem stableValue_eq {e : EnumType} (hstable : e.isStable = true) {c : Constant} {k : Nat}
    (hne : c.values ≠ []) (hall : ∀ p ∈ c.values, p.2 = k) : e.stableValue c = .ok k := by
  unfold EnumType.stableValue
  rw [if_pos hstable]
  cases hvalues : c.values with
  | nil => exact absurd hvalues hne
  | cons first rest =>
    have hfirst : first.2 = k := hall first (by rw [hvalues]; exact mem_cons_self)
    exact congrArg Except.ok hfirst

/-- **The values of a stable enum do not depend on the version.** Each of its constants has a
stable value, and this is its value in every version that has the constant. And the constants
are those of the versions: the number of a constant in a version asked for is the stable value
of a constant that has it in that version. -/
theorem stableValue_of_load {files : Directory} {targets : List Version}
    (hload : Model.load files targets = .ok m) {es : List EnumType}
    (henums : enumsOf m versions = .ok es) {e : EnumType} (he : e ∈ es)
    (hstable : e.isStable = true) :
    (∀ c ∈ e.constants, ∃ k, e.stableValue c = .ok k
      ∧ ∀ v value, c.values.get? v = some value → value = k)
    ∧ ∀ v ∈ versions, ∀ p, m.protocol? v = some p → ∀ d ∈ p.enums, d.name = e.declared →
      ∀ x ∈ d.entries, isOmitted e.declared (constantName e.declared x.name) = false →
        ∃ c ∈ e.constants, c.name = constantName e.declared x.name
          ∧ c.values.get? v = some x.value ∧ e.stableValue c = .ok x.value := by
  obtain ⟨hconstants, hsame⟩ := enumType_spec henums he
  have hnumber := number_of_ownEnums (n := e.declared) (Model.unified_of_load hload)
    fun ve hve hname => isDeclaredStable_iff.mp ((hsame ve hve hname).trans hstable)
  constructor
  · intro c hc
    rw [hconstants, mem_constantsOf] at hc
    obtain ⟨⟨name, hvalues, -⟩, -⟩ := hc
    obtain ⟨k, -, hne, hall⟩ := values_of_constant hnumber hvalues
    exact ⟨k, stableValue_eq hstable hne hall,
      fun v value hget => hall (v, value) (mem_of_get? hget)⟩
  · intro v hv p hp d hd hname x hx homitted
    have hnodup : ∀ vp ∈ m.protocols, (vp.2.enums.map (·.name)).Nodup := by
      intro vp hvp
      obtain ⟨sources, hbuild, -⟩ := (Model.made_of_load hload).2.2 vp hvp
      exact Protocol.nodup_enums_of_build hbuild
    have hrow : (v, x) ∈ constantRows (ownEnums m versions e.declared) :=
      mem_constantRows.mpr ⟨d, hname ▸ mem_ownEnums_of_mem hnodup hv hp hd, hx⟩
    obtain ⟨values, value, hvalues, hget⟩ := exists_value hrow
    obtain ⟨k, hk, hne, hall⟩ := values_of_constant hnumber hvalues
    -- the number that all values share is the one declared in `v`
    obtain rfl : x.value = k := Option.some.inj ((hnumber _ hrow).symm.trans hk)
    obtain rfl : value = x.value := hall _ (mem_of_get? hget)
    refine ⟨⟨constantName e.declared x.name, values⟩, ?_, rfl, hget,
      stableValue_eq hstable hne hall⟩
    rw [hconstants, mem_constantsOf]
    exact ⟨⟨x.name, hvalues, rfl⟩, homitted⟩

/-- Two versions of a stable enum, of which the newer one has one constant more. -/
def statusFiles : Directory :=
  [("new-1.1",
    "#version 2\nenum ofp_bsn_status(stable=True) { OFP_BSN_UP = 1, OFP_BSN_DOWN = 4 };\n"),
   ("old-1.0", "#version 1\nenum ofp_bsn_status(stable=True) { OFP_BSN_UP = 1 };\n")]

/-- A constant of two versions and a constant of one. -/
theorem stableValue_of_load_status :
    ∃ (m : Model) (es : List EnumType) (e : EnumType), Model.load statusFiles [.v10, .v11] = .ok m
      ∧ enumsOf m [.v10, .v11] = .ok es ∧ e ∈ es ∧ e.isStable = true
      ∧ (∃ c ∈ e.constants, c.name = "BSN_UP" ∧ c.values = [(.v10, 1), (.v11, 1)]
        ∧ e.stableValue c = .ok 1)
      ∧ ∃ c ∈ e.constants, c.name = "BSN_DOWN" ∧ c.values.get? .v10 = none
        ∧ c.values.get? .v11 = some 4 ∧ e.stableValue c = .ok 4 := by
  have htest : (Model.load statusFiles [.v10, .v11]).toOption.any (fun m =>
      (enumsOf m [.v10, .v11]).toOption.any fun es => es.any fun e =>
        e.isStable ∧ e.constants = [⟨"BSN_UP", [(.v10, 1), (.v11, 1)]⟩, ⟨"BSN_DOWN", [(.v11, 4)]⟩])
      = true := by
    simp only [Model.load, Model.inputFiles, mergeSort_files, Protocol.build, mergeSort_names]
    decide +kernel
  obtain ⟨m, hload, htest⟩ := exists_ok_of_any htest
  obtain ⟨es, henums, htest⟩ := exists_ok_of_any htest
  obtain ⟨e, he, htest⟩ := any_eq_true.mp htest
  obtain ⟨hstable, hconstants⟩ := of_decide_eq_true htest
  obtain ⟨hvalue, -⟩ := stableValue_of_load hload henums he hstable
  rw [hconstants] at hvalue
  obtain ⟨up, hup, hupAll⟩ := hvalue _ mem_cons_self
  obtain ⟨down, hdown, hdownAll⟩ := hvalue _ (mem_cons_of_mem _ mem_cons_self)
  obtain rfl : 1 = up := hupAll .v10 1 rfl
  obtain rfl : 4 = down := hdownAll .v11 4 rfl
  refine ⟨m, es, e, hload, henums, he, hstable, ⟨_, ?_, rfl, rfl, hup⟩, _, ?_, rfl, rfl, rfl, hdown⟩
  · rw [hconstants]
    exact mem_cons_self
  · rw [hconstants]
    exact mem_cons_of_mem _ mem_cons_self

end StableValues

/-! ## What the unified protocol catches -/

/-- **Which inconsistent enums are caught when versions are unified.** Where two versions mark an
enum as stable in different ways, they are not unified. Where one marks it as stable and another
does not mark it at all, this is not noticed, and the enums of the object model are refused; and
they are refused for no other reason. -/
theorem stability_of_build (protocols : Table Version Protocol) :
    (∀ n w w', DeclaresParam protocols n "stable" w → DeclaresParam protocols n "stable" w' →
      w ≠ w' → ∃ err, Unified.build protocols = .error err)
    ∧ ∀ u versions, Unified.build protocols = .ok u → (∀ v ∈ versions, v ∈ protocols.keys) →
      (enumsOf ⟨protocols, u⟩ versions
          = .error (.refused "Inconsistent enum stability (should be caught  by IR)")
        ↔ ∃ ve ∈ askedEnums ⟨protocols, u⟩ versions, ∃ ve' ∈ askedEnums ⟨protocols, u⟩ versions,
          ve.2.name = ve'.2.name ∧ IsStable ve.2 ∧ ve'.2.params.get? "stable" = none) := by
  have hmarks : ∀ u, Unified.build protocols = .ok u → ∀ n w w',
      DeclaresParam protocols n "stable" w → DeclaresParam protocols n "stable" w' → w = w' := by
    intro u hu n w w' hw hw'
    have hparams := (((Unified.build_unites protocols).of_ok hu).unites n).params
    have hname : "stable" ≠ "wire_type" := by decide
    have hget := hparams.get?_of_mem (Unified.mem_params_iff.mpr hw) hname
    rw [hparams.get?_of_mem (Unified.mem_params_iff.mpr hw') hname] at hget
    exact (Option.some.inj hget).symm
  constructor
  · intro n w w' hw hw' hne
    cases hu : Unified.build protocols with
    | error err => exact ⟨err, rfl⟩
    | ok u => exact absurd (hmarks u hu n w w' hw hw') hne
  · intro u versions hu hversions
    have hdeclares : ∀ ve ∈ askedEnums ⟨protocols, u⟩ versions, ∀ w,
        ve.2.params.get? "stable" = some w → DeclaresParam protocols ve.2.name "stable" w := by
      rintro ⟨v, e⟩ hve w hw
      obtain ⟨-, p, hp, he⟩ := mem_askedEnums.mp hve
      exact ⟨(v, p), mem_of_get? hp, e, he, rfl, mem_of_get? hw⟩
    -- of two inconsistent enums, the one that is not stable has no mark
    have hunmarked : ∀ ve ∈ askedEnums ⟨protocols, u⟩ versions,
        ∀ ve' ∈ askedEnums ⟨protocols, u⟩ versions, ve.2.name = ve'.2.name → IsStable ve.2 →
        ¬ IsStable ve'.2 → ve'.2.params.get? "stable" = none := by
      intro ve hve ve' hve' hname hstable hunstable
      cases hmark : ve'.2.params.get? "stable" with
      | none => rfl
      | some w =>
        have hw := hmarks u hu ve.2.name _ _ (hdeclares ve hve _ hstable)
          (hname ▸ hdeclares ve' hve' w hmark)
        exact absurd (hmark.trans (congrArg some hw.symm)) hunstable
    show enumsOf ⟨protocols, u⟩ versions = .error inconsistency ↔ _
    rw [enumsOf_eq_inconsistency_iff hversions]
    constructor
    · rintro ⟨ve, hve, ve', hve', hname, hclash⟩
      have hclash : ¬ (isDeclaredStable ve.2 = isDeclaredStable ve'.2) := of_decide_eq_false hclash
      rw [Bool.eq_iff_iff, isDeclaredStable_iff, isDeclaredStable_iff] at hclash
      by_cases hstable : IsStable ve.2
      · have hunstable : ¬ IsStable ve'.2 := fun h => hclash ⟨fun _ => h, fun _ => hstable⟩
        exact ⟨ve, hve, ve', hve', hname, hstable,
          hunmarked ve hve ve' hve' hname hstable hunstable⟩
      · have hstable' : IsStable ve'.2 := by
          by_contra h
          exact hclash ⟨fun h' => absurd h' hstable, fun h' => absurd h' h⟩
        exact ⟨ve', hve', ve, hve, hname.symm, hstable',
          hunmarked ve' hve' ve hve hname.symm hstable' hstable⟩
    · rintro ⟨ve, hve, ve', hve', hname, hstable, hnone⟩
      refine ⟨ve, hve, ve', hve', hname, decide_eq_false ?_⟩
      rw [Bool.eq_iff_iff, isDeclaredStable_iff, isDeclaredStable_iff, IsStable, IsStable, hnone]
      exact fun h => absurd (h.mp hstable) (by decide)

/-- A version with one enum of the given parameters. -/
def markedVersion (v : Version) (params : Table String (Option String)) : Version × Protocol :=
  (v, ⟨v, [], [⟨"ofp_bsn_status", [⟨"OFP_BSN_UP", v.wire, []⟩], params⟩]⟩)

/-- Marks that differ are caught. A missing one is not, and shows when its version is asked for
together with one that has the mark. -/
theorem stability_of_build_marked :
    (∃ err, Unified.build [markedVersion .v10 [("stable", some "True")],
        markedVersion .v11 [("stable", some "False")]] = .error err)
    ∧ ∃ u, Unified.build [markedVersion .v10 [("stable", some "True")], markedVersion .v11 [],
          markedVersion .v12 []] = .ok u
      ∧ enumsOf ⟨[markedVersion .v10 [("stable", some "True")], markedVersion .v11 [],
          markedVersion .v12 []], u⟩ [.v12, .v10]
        = .error (.refused "Inconsistent enum stability (should be caught  by IR)") := by
  constructor
  · refine (stability_of_build _).1 "ofp_bsn_status" (some "True") (some "False") ?_ ?_ (by decide)
    · exact ⟨_, mem_cons_self, _, mem_cons_self, rfl, mem_cons_self⟩
    · exact ⟨_, mem_cons_of_mem _ mem_cons_self, _, mem_cons_self, rfl,
        mem_cons_self⟩
  · refine ⟨_, rfl, ((stability_of_build _).2 _ [.v12, .v10] rfl (by decide)).mpr ?_⟩
    exact ⟨_, mem_cons_of_mem _ mem_cons_self, _, mem_cons_self, rfl, rfl, rfl⟩

/-- The declaration of the enum of such a version. -/
def markedSource (v : Version) (params : Table String String) : Source where
  file := "status"
  versions := [v]
  classes := []
  enums := [⟨"ofp_bsn_status", [⟨"OFP_BSN_UP", v.wire, []⟩], params⟩]

/-- **A version that does not say that an enum is stable** goes together with one that says so,
although the number of a constant is not the same; the enums are refused only later. -/
theorem unmarked_stability_uncaught :
    Protocol.build .v10 [markedSource .v10 [("stable", "True")]]
        = .ok (markedVersion .v10 [("stable", some "True")]).2
      ∧ Protocol.build .v11 [markedSource .v11 []] = .ok (markedVersion .v11 []).2
      ∧ ∃ u, Unified.build [markedVersion .v10 [("stable", some "True")], markedVersion .v11 []]
        = .ok u
        ∧ enumsOf ⟨[markedVersion .v10 [("stable", some "True")], markedVersion .v11 []], u⟩
            [.v10, .v11]
          = .error (.refused "Inconsistent enum stability (should be caught  by IR)") := by
  refine ⟨?_, ?_, _, rfl, rfl⟩
  · rw [Protocol.build_eq_walk .v10 (by decide) (by decide),
      Protocol.sortedNames_of_pairwise (by decide)]
    rfl
  · rw [Protocol.build_eq_walk .v11 (by decide) (by decide),
      Protocol.sortedNames_of_pairwise (by decide)]
    rfl

end ObjectModel

end FlowBindings
