import FlowBindings.Proofs.MemberTable
import FlowBindings.Proofs.Names

/-!
# What a catalog is made of

A catalog is built in steps that may fail, and put together from what they give
(`Loci.Catalog.build_eq`). The records unite the classes of all versions: a class has the fields
that some version gives it (`Loci.Catalog.has_union_iff`), and its name is a word. The lengths
are those the versions have (`Loci.Catalog.get?_baseLengths`).
-/

namespace FlowBindings

open Table

namespace Loci

/-! ## Building -/

namespace Catalog

/-- The lengths of all classes, then those of all lists. -/
def lengthPairs (m : Model) : List ((String × Nat) × Nat) :=
  m.protocols.flatMap (fun (v, p) => lengthsOf v p)
    ++ m.protocols.flatMap fun (v, p) => (listClasses p).map fun l => ((l, v.wire), 0)

/-- The catalog of given parts. -/
def assemble (m : Model) (targets : List Version) (matchFields : MatchFields)
    (families : Table String (List String)) (followers : Table (String × String) String)
    (records : Records) : Catalog :=
  let (messages, others) := records.partition fun (_, r) => isMessageRecord r
  let (lists, nonMessages) := others.partition fun (name, _) => WireType.isListClass name
  { model := m
    targets := targets
    matchFields := matchFields
    identifiers := m.protocols.foldl (fun ids (v, p) => addEnums ids v p) .empty
    families := families
    baseLengths := Table.ofPairs (lengthPairs m)
    fixedLengths := m.protocols.flatMap fun (v, p) =>
      (p.classes.filter (·.isFixedLength)).map fun c => (c.name, v.wire)
    followers := followers
    records := records
    messages := sortNames (messages.map (·.1))
    nonMessages := sortNames (nonMessages.map (·.1))
    lists := sortNames (lists.map (·.1)) }

variable {m : Model} {targets : List Version} {c : Catalog}

/-- **A catalog is assembled from its parts**, if there are any. -/
theorem build_eq (m : Model) (targets : List Version) :
    build m targets = (do
      let matchFields ← MatchFields.build m.unified
      let families ← buildFamilies m
      let followers ← buildFollowers m
      let records ← buildRecords m
      pure (assemble m targets matchFields families followers records)) := rfl

theorem exists_parts_of_build (h : build m targets = .ok c) :
    ∃ matchFields families followers, buildRecords m = .ok c.records
      ∧ c = assemble m targets matchFields families followers c.records := by
  rw [build_eq] at h
  obtain ⟨matchFields, -, h⟩ := bind_eq_ok_iff.mp h
  obtain ⟨families, -, h⟩ := bind_eq_ok_iff.mp h
  obtain ⟨followers, -, h⟩ := bind_eq_ok_iff.mp h
  obtain ⟨records, hrecords, h⟩ := bind_eq_ok_iff.mp h
  cases h
  exact ⟨matchFields, families, followers, hrecords, rfl⟩

theorem records_of_build (h : build m targets = .ok c) : buildRecords m = .ok c.records := by
  obtain ⟨_, _, _, hrecords, -⟩ := exists_parts_of_build h
  exact hrecords

theorem targets_of_build (h : build m targets = .ok c) : c.targets = targets := by
  obtain ⟨_, _, _, -, hc⟩ := exists_parts_of_build h
  rw [hc]
  rfl

theorem model_of_build (h : build m targets = .ok c) : c.model = m := by
  obtain ⟨_, _, _, -, hc⟩ := exists_parts_of_build h
  rw [hc]
  rfl

theorem identifiers_of_build (h : build m targets = .ok c) :
    c.identifiers = m.protocols.foldl (fun ids (v, p) => addEnums ids v p) .empty := by
  obtain ⟨_, _, _, -, hc⟩ := exists_parts_of_build h
  rw [hc]
  rfl

theorem versionConstant_of_mem {v : Version} (hv : v ∈ c.targets) :
    c.versionConstant v.wire = .ok (v.constant "OF_VERSION_") := by
  have hfind : c.targets.find? (·.wire = v.wire) = some v := by
    cases hw : c.targets.find? (·.wire = v.wire) with
    | none => exact absurd (List.find?_eq_none.mp hw v hv) (by simp)
    | some w =>
      have hwire : w.wire = v.wire := by simpa using List.find?_some hw
      rw [Version.wire_injective hwire]
  unfold versionConstant
  rw [hfind]
  rfl

end Catalog

/-! ## Records and what was added to them -/

namespace Record

variable {r r' : Record} {wire : Nat} {ms : List Slot}

/-- Whether a name counts as padding. -/
def isPadding (name : String) : Bool := Text.startsWith name "pad"

/-- **The union takes in all names**, padding apart. -/
theorem has_mergeSlots {rank : Nat} (h : r.mergeSlots rank ms = (r', true)) (x : String) :
    r'.union.has x = true ↔
      r.union.has x = true ∨ ∃ s ∈ ms, s.name = x ∧ isPadding x = false := by
  induction ms generalizing r rank with
  | nil =>
    cases h
    simp
  | cons m ms ih =>
    unfold mergeSlots at h
    split at h
    · next hpad =>
      rw [ih h]
      simp only [List.mem_cons, exists_eq_or_imp]
      refine or_congr_right (or_iff_right ?_).symm
      rintro ⟨rfl, hnot⟩
      rw [isPadding, hpad] at hnot
      cases hnot
    · next hpad =>
      dsimp only at h
      have hname : ∀ y, m.name = y → isPadding y = false := by
        rintro y rfl
        exact Bool.not_eq_true _ ▸ hpad
      simp only [List.mem_cons, exists_eq_or_imp]
      split at h
      · next u hu =>
        split at h
        · rw [ih h]
          dsimp only
          rw [← or_assoc]
          refine or_congr_left (or_iff_left_of_imp ?_).symm
          rintro ⟨rfl, -⟩
          rw [has_eq_isSome, hu]
          rfl
        · cases h
      · rw [ih h, ← or_assoc]
        refine or_congr_left ?_
        rw [show Table.has (r.union ++ [(m.name, (⟨m.type, rank⟩ : UnionMember))]) x
            = (r.union.has x || decide (m.name = x)) by simp [Table.has], Bool.or_eq_true,
          decide_eq_true_eq]
        exact or_congr_right ⟨fun heq => ⟨heq, hname x heq⟩, fun heq => heq.1⟩

/-- What adding a version does to the union: nothing if it looks like one before. -/
theorem union_of_add (h : r.add wire ms = (r', true)) :
    (∃ other, r'.layouts = r.layouts ++ [(wire, .sameAs other)] ∧ r'.union = r.union)
      ∨ r'.layouts = r.layouts ++ [(wire, .own ms)] ∧ ∀ x, r'.union.has x = true ↔
        r.union.has x = true ∨ ∃ s ∈ ms, s.name = x ∧ isPadding x = false := by
  unfold add at h
  split at h
  · cases h
  · split at h
    · next other _ =>
      cases h
      exact Or.inl ⟨other, rfl, rfl⟩
    · have hmerge := layouts_mergeSlots { r with layouts := r.layouts ++ [(wire, .own ms)] } 0 ms
      have hunion := has_mergeSlots h
      rw [h] at hmerge
      exact Or.inr ⟨hmerge, hunion⟩

/-- The members of a version are spelled out somewhere. -/
theorem exists_own_of_mem_members {s : Slot} (h : s ∈ r.members wire) :
    ∃ w ms, (w, .own ms) ∈ r.layouts ∧ s ∈ ms := by
  unfold members at h
  split at h
  · next ms hget => exact ⟨wire, ms, mem_of_get? hget, h⟩
  · next w _ =>
    split at h
    · next ms hget => exact ⟨w, ms, mem_of_get? hget, h⟩
    · exact absurd h List.not_mem_nil
  · exact absurd h List.not_mem_nil

/-- **A record unites the members by version.** -/
structure Unites (r : Record) (rows : Table Nat (List Slot)) : Prop where
  /-- Each name in the union is that of a member. -/
  member : ∀ x, r.union.has x = true → ∃ row ∈ rows, ∃ s ∈ row.2, s.name = x
  /-- Members that are spelled out are in the union. -/
  covers : ∀ w ms, (w, .own ms) ∈ r.layouts → ∀ s ∈ ms, isPadding s.name = false →
    r.union.has s.name = true

/-- **Adding a version.** -/
theorem Unites.add {rows : Table Nat (List Slot)} (h : r.Unites rows)
    (hadd : r.add wire ms = (r', true)) : r'.Unites (rows ++ [(wire, ms)]) := by
  have hmember : ∀ x, r.union.has x = true →
      ∃ row ∈ rows ++ [(wire, ms)], ∃ s ∈ row.2, s.name = x := by
    intro x hx
    obtain ⟨row, hrow, hs⟩ := h.member x hx
    exact ⟨row, List.mem_append_left _ hrow, hs⟩
  rcases union_of_add hadd with ⟨other, hlayouts, hunion⟩ | ⟨hlayouts, hunion⟩
  · refine ⟨by rwa [hunion], fun w own hown s hs hpad => ?_⟩
    rw [hlayouts, List.mem_append, List.mem_singleton] at hown
    rw [hunion]
    refine h.covers w own (hown.resolve_right fun heq => ?_) s hs hpad
    cases heq
  · refine ⟨fun x hx => ?_, fun w own hown s hs hpad => ?_⟩
    · rcases (hunion x).mp hx with hx | ⟨s, hs, hname, -⟩
      · exact hmember x hx
      · exact ⟨_, List.mem_append_right _ (List.mem_singleton_self _), s, hs, hname⟩
    · rw [hlayouts, List.mem_append, List.mem_singleton] at hown
      rw [hunion]
      rcases hown with hown | heq
      · exact Or.inl (h.covers w own hown s hs hpad)
      · cases heq
        exact Or.inr ⟨s, hs, rfl, hpad⟩

end Record

/-- **The records unite what was added**: each class has one record, which unites its members. -/
structure Records.Unites (t : Records) (adds : List Addition) : Prop where
  /-- Each class once. -/
  nodup : t.keys.Nodup
  /-- The classes that were added. -/
  mem_keys : ∀ n, n ∈ t.keys ↔ ∃ a ∈ adds, a.name = n
  /-- The record of each class. -/
  record : ∀ n, ((t.get? n).getD .empty).Unites (rowsOf n adds)

namespace Records

variable {t t' : Records} {adds : List Addition} {a : Addition}

theorem unites_nil : Records.Unites [] [] where
  nodup := List.nodup_nil
  mem_keys := by simp [Table.keys]
  record _ := ⟨fun _ h => (by cases h), fun _ _ h => absurd h List.not_mem_nil⟩

/-- **Adding a class of a version.** -/
theorem Unites.add (h : t.Unites adds) (hadd : t.add a.wire a.name a.members = (t', true)) :
    t'.Unites (adds ++ [a]) := by
  have hrecord := record_of_add Record.Unites.add h.record hadd
  obtain ⟨r, -, rfl⟩ := exists_of_add hadd
  refine ⟨nodup_keys_set h.nodup _ _, fun n => ?_, hrecord⟩
  rw [mem_keys_set, h.mem_keys n, or_comm]
  simp only [List.mem_append, List.mem_singleton, or_and_right, exists_or, exists_eq_left]
  exact or_congr_right eq_comm

end Records

/-! ## Names -/

open Text List

theorem isWord_listNames {t : Declaration.TypeRef} (ht : t.WellFormed)
    (hlist : WireType.isList t.text = true) : isWord (WireForm.listNames t.text).1 = true := by
  by_cases hform : ∃ element, t = .list element
  · obtain ⟨element, rfl⟩ := hform
    rw [Declaration.TypeRef.text, listNames_list]
    exact isWord_append (by decide) (((wordChars_of_isWord ht).trimLead _).trimTail _)
  · have hparen := paren_not_mem_text ht fun element heq => hform ⟨element, heq⟩
    rw [isList_eq_false hparen] at hlist
    cases hlist

namespace Catalog

variable {files : Directory} {targets : List Version} {m : Model}

variable {records : Records} {n : String}

/-- **What each addition keeps, the records keep.** -/
theorem buildRecords_invariant {I : Records → List Addition → Prop} (start : I [] [])
    (step : ∀ {t adds a t'}, I t adds → Records.add t a.wire a.name a.members = (t', true) →
      I t' (adds ++ [a])) (h : buildRecords m = .ok records) :
    I records (allAdditions m) := by
  have hversion : ∀ (vp : Version × Protocol) {t adds}, I t adds →
      EndsIn (fun t => I t (adds ++ additions vp)) (fun _ => True) (addVersion t vp.1 vp.2) := by
    intro vp t adds ht
    unfold addVersion additions
    refine endsIn_foldlM (fun seen t => I t (adds ++ seen.map fun n =>
      ⟨vp.1.wire, n, ((versionClasses vp.2).members.get? n).getD []⟩)) ?_ (by simpa using ht)
    intro seen n _ t ht
    split
    · next hadd =>
      rw [map_append, ← append_assoc]
      exact step (a := ⟨_, _, _⟩) ht hadd
    · trivial
  have hends : EndsIn (fun t => I t (allAdditions m)) (fun _ => True) (buildRecords m) := by
    unfold buildRecords allAdditions
    refine endsIn_foldlM (fun seen t => I t (seen.flatMap additions)) ?_ start
    intro seen vp _ t ht
    rw [flatMap_append, flatMap_singleton]
    exact hversion vp ht
  exact hends.of_ok h

theorem unites_of_buildRecords (h : buildRecords m = .ok records) :
    records.Unites (allAdditions m) :=
  buildRecords_invariant Records.unites_nil Records.Unites.add h

/-- The classes that have a record are those some version has. -/
theorem mem_keys_records (h : buildRecords m = .ok records) :
    n ∈ records.keys ↔ ∃ vp ∈ m.protocols, n ∈ (versionClasses vp.2).order := by
  rw [(unites_of_buildRecords h).mem_keys]
  constructor
  · rintro ⟨a, ha, rfl⟩
    obtain ⟨vp, hvp, ha⟩ := mem_flatMap.mp ha
    obtain ⟨n, hn, rfl⟩ := mem_map.mp ha
    exact ⟨vp, mem_mergeSort.mp hvp, hn⟩
  · rintro ⟨vp, hvp, hn⟩
    exact ⟨_, additions_subset hvp (mem_map_of_mem hn), rfl⟩

/-- **A class that some version gives a field has the field in its record**, and has no other
fields there. -/
theorem has_union_iff (hload : Model.load files targets = .ok m)
    (hrecords : buildRecords m = .ok records) {r : Record}
    (hr : records.get? n = some r) {x : String} (hx : Record.isPadding x = false) :
    r.union.has x = true ↔
      ∃ vp ∈ m.protocols, ∃ e ∈ vp.2.classes, e.name = n ∧ ∃ f ∈ e.fields, f.name = x := by
  have hrecord := (unites_of_buildRecords hrecords).record n
  rw [hr, Option.getD_some] at hrecord
  have hlists := lists_of_buildRecords hrecords
  constructor
  · intro hhas
    obtain ⟨row, hrow, s, hs, rfl⟩ := hrecord.member x hhas
    obtain ⟨a, ha, rfl⟩ := mem_map.mp hrow
    obtain ⟨ha, hname⟩ := mem_filter.mp ha
    obtain ⟨vp, hvp, ha⟩ := mem_flatMap.mp ha
    obtain ⟨n', hn, rfl⟩ := mem_map.mp ha
    obtain rfl := of_decide_eq_true hname
    dsimp only at hs
    cases hget : (versionClasses vp.2).members.get? n' with
    | none =>
      rw [hget] at hs
      exact absurd hs not_mem_nil
    | some slots =>
      rw [hget] at hs
      rcases mem_members_cases (mem_of_get? hget) with ⟨e, he, hname, rfl⟩ | rfl
      · obtain ⟨f, hf, rfl⟩ := mem_map.mp hs
        exact ⟨vp, mem_mergeSort.mp hvp, e, he, hname, f, hf, rfl⟩
      · exact absurd hs not_mem_nil
  · rintro ⟨vp, hvp, e, he, rfl, f, hf, rfl⟩
    obtain ⟨r', hr', -, hmembers⟩ := hlists.members_eq
      (clean_of_mem_allAdditions (Model.legible_of_load hload)) (mem_allAdditions hlists hvp he)
    rw [hr, Option.some.injEq] at hr'
    subst hr'
    have hslot : slot vp.2 f ∈ r.members vp.1.wire := by
      rw [hmembers]
      exact mem_map_of_mem hf
    obtain ⟨w, ms, hown, hms⟩ := Record.exists_own_of_mem_members hslot
    exact hrecord.covers w ms hown _ hms hx

theorem isWord_of_mem_order (hload : Model.load files targets = .ok m)
    {vp : Version × Protocol} (hvp : vp ∈ m.protocols) :
    ∀ n ∈ (versionClasses vp.2).order, isWord n = true := by
  intro n hn
  rcases mem_append.mp hn with hn | hn
  · obtain ⟨e, he, rfl⟩ := mem_map.mp hn
    exact Model.isWord_of_load hload vp hvp e he
  · obtain ⟨e, he, hn⟩ := mem_flatMap.mp (mem_eraseDups.mp hn)
    obtain ⟨f, hf, hn⟩ := mem_filterMap.mp hn
    obtain ⟨-, t, ht, htype⟩ := (Model.legible_of_load hload vp hvp).fields e he f hf
    split at hn
    · next hcond =>
      cases hn
      rw [Bool.and_eq_true] at hcond
      rw [htype] at hcond ⊢
      exact isWord_listNames ht hcond.2
    · cases hn

/-- **A class that has a record is named by a word.** -/
theorem isWord_of_mem_keys (hload : Model.load files targets = .ok m)
    (hrecords : buildRecords m = .ok records) (hn : n ∈ records.keys) :
    isWord n = true := by
  obtain ⟨vp, hvp, hn⟩ := (mem_keys_records hrecords).mp hn
  exact isWord_of_mem_order hload hvp n hn

/-! ## Lengths -/

/-- **The least length of a class in a version**: that of the version's class of the name, and 0
for a class of lists that the version needs. -/
def lengthIn (m : Model) (n : String) (v : Version) : Option Nat :=
  (m.protocols.get? v).bind fun p =>
    match p.class? n with
    | some e => some e.baseLength
    | none => if n ∈ listClasses p then some 0 else none

/-- The lengths of a version's classes and lists. -/
def versionLengths (vp : Version × Protocol) : List ((String × Nat) × Nat) :=
  lengthsOf vp.1 vp.2 ++ (listClasses vp.2).map fun l => ((l, vp.1.wire), 0)

theorem keys_versionLengths (vp : Version × Protocol) :
    Table.keys (versionLengths vp) = (versionClasses vp.2).order.map fun n => (n, vp.1.wire) := by
  simp [versionLengths, lengthsOf, Table.keys, versionClasses, Function.comp_def]

/-- All lengths, each version's together. -/
theorem lengthPairs_perm (m : Model) :
    (lengthPairs m).Perm (m.protocols.flatMap versionLengths) :=
  flatMap_append_perm _ _ _

theorem nodup_keys_lengthPairs (hload : Model.load files targets = .ok m)
    (hrecords : buildRecords m = .ok records) : (Table.keys (lengthPairs m)).Nodup := by
  have hlists := lists_of_buildRecords hrecords
  have hperm : (Table.keys (lengthPairs m)).Perm
      (m.protocols.flatMap fun vp => Table.keys (versionLengths vp)) := by
    refine ((lengthPairs_perm m).map Prod.fst).trans ?_
    rw [map_flatMap]
    exact List.Perm.refl _
  rw [hperm.nodup_iff, nodup_flatMap]
  refine ⟨fun vp hvp => ?_, ?_⟩
  · rw [keys_versionLengths]
    exact (nodup_order hlists hvp).map fun _ _ heq => (Prod.mk.inj heq).1
  · have hversions := (Model.made_of_load hload).1
    unfold Table.keys at hversions
    rw [nodup_iff_pairwise_ne, pairwise_map] at hversions
    refine hversions.imp fun {vp wp} hne k hv hw => ?_
    dsimp only at hv hw
    rw [keys_versionLengths] at hv hw
    obtain ⟨n, -, rfl⟩ := mem_map.mp hv
    obtain ⟨n', -, heq⟩ := mem_map.mp hw
    exact hne (Version.wire_injective (Prod.mk.inj heq).2).symm

theorem mem_versionLengths_iff {p : Protocol} (hnodup : (versionClasses p).order.Nodup)
    (v : Version) {k : Nat} : ((n, v.wire), k) ∈ versionLengths (v, p) ↔
      (match p.class? n with
        | some e => some e.baseLength
        | none => if n ∈ listClasses p then some 0 else none) = some k := by
  have hclasses : (p.classes.map (·.name)).Nodup := (nodup_append.mp hnodup).1
  unfold versionLengths lengthsOf
  rw [mem_append, mem_map, mem_map]
  cases hclass : p.class? n with
  | some e =>
    obtain ⟨he, rfl⟩ := (find?_name_eq_some_iff hclasses).mp hclass
    simp only [Option.some.injEq]
    constructor
    · rintro (⟨e', he', heq⟩ | ⟨l, hl, heq⟩)
      · obtain ⟨hname, rfl⟩ := Prod.mk.inj heq
        have hclass' : p.class? e.name = some e' :=
          (find?_name_eq_some_iff hclasses).mpr ⟨he', (Prod.mk.inj hname).1⟩
        rw [hclass, Option.some.injEq] at hclass'
        rw [hclass']
      · obtain ⟨hname, -⟩ := Prod.mk.inj heq
        rw [(Prod.mk.inj hname).1] at hl
        exact absurd rfl ((nodup_append.mp hnodup).2.2 e.name (mem_map_of_mem he) _ hl)
    · rintro rfl
      exact Or.inl ⟨e, he, rfl⟩
  | none =>
    constructor
    · rintro (⟨e', he', heq⟩ | ⟨l, hl, heq⟩)
      · obtain ⟨hname, -⟩ := Prod.mk.inj heq
        have hclass' := (find?_name_eq_some_iff hclasses).mpr ⟨he', (Prod.mk.inj hname).1⟩
        rw [show p.classes.find? (fun x => x.name = n) = none from hclass] at hclass'
        cases hclass'
      · obtain ⟨hname, rfl⟩ := Prod.mk.inj heq
        rw [(Prod.mk.inj hname).1] at hl
        exact if_pos hl
    · intro h
      change (if n ∈ listClasses p then some 0 else none) = some k at h
      split at h
      · next hl =>
        cases h
        exact Or.inr ⟨n, hl, rfl⟩
      · cases h

/-- **The length of a class by version** is what the version says. -/
theorem get?_baseLengths (hload : Model.load files targets = .ok m) {c : Catalog}
    (hbuild : build m targets = .ok c) (n : String) (v : Version) :
    c.baseLengths.get? (n, v.wire) = lengthIn m n v := by
  obtain ⟨matchFields, families, followers, hrecords, hc⟩ := exists_parts_of_build hbuild
  have hkeys := nodup_keys_lengthPairs hload hrecords
  have hlists := lists_of_buildRecords hrecords
  have hversions := (Model.made_of_load hload).1
  have hlengths : c.baseLengths = lengthPairs m := by
    rw [hc]
    exact ofPairs_eq_self hkeys
  refine Option.ext fun k => ?_
  rw [hlengths, get?_eq_some_iff hkeys, (lengthPairs_perm m).mem_iff, mem_flatMap, lengthIn,
    Option.bind_eq_some_iff]
  constructor
  · rintro ⟨⟨w, p⟩, hvp, hmem⟩
    have hkey : (n, v.wire) ∈ Table.keys (versionLengths (w, p)) := mem_map_of_mem hmem
    rw [keys_versionLengths] at hkey
    obtain ⟨_, -, heq⟩ := mem_map.mp hkey
    obtain rfl : w = v := Version.wire_injective (Prod.mk.inj heq).2
    exact ⟨p, (get?_eq_some_iff hversions).mpr hvp,
      (mem_versionLengths_iff (nodup_order hlists hvp) w).mp hmem⟩
  · rintro ⟨p, hp, hlength⟩
    have hvp := mem_of_get? hp
    exact ⟨(v, p), hvp, (mem_versionLengths_iff (nodup_order hlists hvp) v).mpr hlength⟩

end Catalog

end Loci

end FlowBindings
