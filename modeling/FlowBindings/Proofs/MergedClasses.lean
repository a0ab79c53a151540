import FlowBindings.Proofs.SuperclassCircles
import FlowBindings.Proofs.UnifiedHierarchy

/-!
# What a unified class says

A class of the unified protocol is put together from its definitions in the single versions,
one after another. The order in which they come does not show in what it says of lengths,
parameters and fields: `Merged` tells it from the definitions alone, without an order, and
`merged_of_build` says that every unified class is so. Two of the numbers are kept in a way
that hides this. The base length is a running minimum that starts with no value, and the flag
for a fixed length is cleared by a definition of variable length as well as by one whose length
is not the minimum so far; the invariant that ties the two together is `Summed`.

Where all versions agree on superclasses and there are no enums, versions fail to be unified
because of a clash between definitions (`Disagree`), which has no order either. Protocols that
were built leave one more reason: a class that lies above itself is not there when its
superclass is looked up (`circle_not_unified`). Without such classes a clash is the only reason,
and `build_merges` puts the two halves together.
-/

namespace FlowBindings

open List Table

namespace Unified

/-! ## Drafts -/

variable {d : Draft} {drafts : Table String Draft} {protocols : Table Version Protocol}
  {x : Unified.Class}

/-- **A draft sums up definitions**: whether some definition is virtual, the least base length,
whether all lengths are fixed and equal, and the definitions by version. -/
structure Summed (defs : Table Version FlowBindings.Class) (d : Draft) : Prop where
  /-- Virtual if some definition is. -/
  isVirtual : d.isVirtual = true ↔ ∃ c ∈ defs.values, c.isVirtual = true
  /-- The least base length, if there is a definition. -/
  baseLength : d.baseLength = (defs.values.map (·.baseLength)).min?
  /-- Of fixed length if all definitions are, with one base length. -/
  isFixedLength : d.isFixedLength = true
    ↔ ∃ n, ∀ c ∈ defs.values, c.isFixedLength = true ∧ c.baseLength = n
  /-- The last definition of each version. -/
  versions : d.versions = ofPairs defs

theorem summed_empty : Summed [] .empty where
  isVirtual := by simp [Draft.empty, values]
  baseLength := rfl
  isFixedLength := by simp [Draft.empty, values]
  versions := rfl

theorem values_append_singleton (defs : Table Version FlowBindings.Class) (v : Version)
    (c : FlowBindings.Class) : values (defs ++ [(v, c)]) = defs.values ++ [c] :=
  map_append

theorem min?_append_singleton (l : List Nat) (a : Nat) :
    (l ++ [a]).min? = some ((l.min?.getD a).min a) := by
  cases l with
  | nil => simp
  | cons x l =>
    rw [cons_append, min?_cons', min?_cons', foldl_append]
    rfl

theorem exists_min?_of_ne_nil {l : List Nat} (h : l ≠ []) : ∃ m, l.min? = some m := by
  rw [← Option.isSome_iff_exists, Option.isSome_iff_ne_none, ne_eq, min?_eq_none_iff]
  exact h

/-- The lengths so far and one more are all fixed and equal if those so far are, the new one is
fixed, and it is the least so far: where all are equal, each of them is the least. -/
theorem fixed_append_iff (defs : List FlowBindings.Class) (c : FlowBindings.Class) :
    (∃ n, ∀ e ∈ defs ++ [c], e.isFixedLength = true ∧ e.baseLength = n)
      ↔ (∃ n, ∀ e ∈ defs, e.isFixedLength = true ∧ e.baseLength = n) ∧ c.isFixedLength = true
        ∧ ∀ m ∈ (defs.map (·.baseLength)).min?, m = c.baseLength := by
  constructor
  · rintro ⟨n, h⟩
    have hc := h c (mem_append_right _ (mem_singleton_self c))
    refine ⟨⟨n, fun e he => h e (mem_append_left _ he)⟩, hc.1, fun m hm => ?_⟩
    obtain ⟨hmem, -⟩ := min?_eq_some_iff.mp hm
    obtain ⟨e, he, rfl⟩ := mem_map.mp hmem
    rw [(h e (mem_append_left _ he)).2, hc.2]
  · rintro ⟨⟨n, h⟩, hfixed, hleast⟩
    refine ⟨c.baseLength, fun e he => ?_⟩
    rcases mem_append.mp he with he | he
    · have hne : defs.map (·.baseLength) ≠ [] := ne_nil_of_mem (mem_map_of_mem he)
      obtain ⟨m, hm⟩ := exists_min?_of_ne_nil hne
      obtain ⟨hmem, -⟩ := min?_eq_some_iff.mp hm
      obtain ⟨d, hd, hdm⟩ := mem_map.mp hmem
      refine ⟨(h e he).1, ?_⟩
      rw [(h e he).2, ← (h d hd).2, hdm, hleast m hm]
    · rw [mem_singleton.mp he]
      exact ⟨hfixed, rfl⟩

/-- **A definition more is summed up.** -/
theorem Summed.add {defs : Table Version FlowBindings.Class} {d' : Draft} {v : Version}
    {c : FlowBindings.Class} (h : Summed defs d) (hadd : d.add v c = .ok d') :
    Summed (defs ++ [(v, c)]) d' := by
  obtain ⟨fields, -, hadd⟩ := bind_eq_ok_iff.mp hadd
  obtain ⟨params, -, hadd⟩ := bind_eq_ok_iff.mp hadd
  cases hadd
  constructor
  · rw [values_append_singleton]
    simp [h.isVirtual, or_and_right, exists_or]
  · rw [values_append_singleton, map_append, map_singleton, min?_append_singleton,
      ← h.baseLength]
  · rw [values_append_singleton, fixed_append_iff, ← h.isFixedLength, ← h.baseLength]
    simp [and_assoc, Option.all_eq_true]
  · show d.versions.set v c = ofPairs (defs ++ [(v, c)])
    rw [h.versions, ofPairs, ofPairs, foldl_append]
    rfl

/-- The definitions of one name, each with its version. -/
def definitionsOf (protocols : Table Version Protocol) (n : String) :
    Table Version FlowBindings.Class :=
  (versionedClasses protocols).filter (·.2.name = n)

/-- **The drafts of all versions sum up the definitions of their names.** -/
theorem summed_of_foldlM
    (h : (versionedClasses protocols).foldlM (fun drafts vc => addClass vc.1 drafts vc.2) []
      = .ok drafts) (n : String) :
    Summed (definitionsOf protocols n) ((drafts.get? n).getD .empty) := by
  refine foldlM_invariant_seen (fun seen (drafts : Table String Draft) =>
    ∀ n, Summed (seen.filter (·.2.name = n)) ((drafts.get? n).getD .empty)) ?_ ?_ h n
  case refine_2 => exact fun _ => summed_empty
  rintro seen ⟨v, c⟩ drafts drafts' hdrafts hadd m
  obtain ⟨d, hd, hset⟩ := bind_eq_ok_iff.mp hadd
  cases hset
  rw [filter_append]
  by_cases hm : c.name = m
  · subst hm
    rw [get?_set_self]
    simpa using (hdrafts c.name).add hd
  · rw [get?_set_of_ne _ _ (Ne.symm hm)]
    simpa [hm] using hdrafts m

/-! ## Finished classes -/

/-- A finished class says what its draft says. -/
structure Finishes (r : String × Draft) (x : Unified.Class) : Prop where
  name : x.name = r.1
  members : x.members = r.2.fields.map .field
  isVirtual : x.isVirtual = r.2.isVirtual
  params : x.params = r.2.params
  isFixedLength : x.isFixedLength = r.2.isFixedLength
  baseLength : x.baseLength = r.2.baseLength.getD 0
  versions : x.versions = r.2.versions

theorem finishes_of_finish {n : String} {done : List Unified.Class}
    (h : d.finish n done = .ok x) : Finishes (n, d) x := by
  unfold Draft.finish at h
  dsimp only at h
  split at h
  · cases h
    exact ⟨rfl, rfl, rfl, rfl, rfl, rfl, rfl⟩
  · split at h
    · cases h
      exact ⟨rfl, rfl, rfl, rfl, rfl, rfl, rfl⟩
    · cases h

theorem exists_finishes {classes : List Unified.Class}
    (h : drafts.foldlM finishNext [] = .ok classes) :
    ∀ x ∈ classes, ∃ r ∈ drafts, Finishes r x := by
  refine foldlM_invariant_seen (fun seen done => ∀ x ∈ done, ∃ r ∈ seen, Finishes r x) ?_ ?_ h
  · intro seen r done done' hdone hnext x hx
    obtain ⟨y, hy, hdone'⟩ := bind_eq_ok_iff.mp hnext
    cases hdone'
    rcases mem_append.mp hx with hx | hx
    · obtain ⟨r', hr', hfinishes⟩ := hdone x hx
      exact ⟨r', mem_append_left _ hr', hfinishes⟩
    · rw [mem_singleton.mp hx]
      exact ⟨r, mem_append_right _ (mem_singleton_self r), finishes_of_finish hy⟩
  · exact fun x hx => absurd hx not_mem_nil

/-! ## Unified classes -/

/-- **What a unified class says**, in terms of its definitions. -/
structure Merged (defs : Table Version FlowBindings.Class) (x : Unified.Class) : Prop where
  /-- Its base length is the least of theirs. -/
  baseLength : (defs.values.map (·.baseLength)).min? = some x.baseLength
  /-- It is of fixed length if all of them are, with one common base length. -/
  isFixedLength : x.isFixedLength = true
    ↔ ∃ n, ∀ c ∈ defs.values, c.isFixedLength = true ∧ c.baseLength = n
  /-- It is virtual if some of them are. -/
  isVirtual : x.isVirtual = true ↔ ∃ c ∈ defs.values, c.isVirtual = true
  /-- It has no parameter twice. -/
  paramKeys : x.params.keys.Nodup
  /-- It has the parameters of all of them. -/
  params : ∀ p, p ∈ x.params ↔ ∃ c ∈ defs.values, p ∈ c.params
  members : x.members = x.fields.map .field
  /-- It has one field for each of their fields' names, in the order of first occurrences; it
  is the first one of the name. -/
  fields : Firsts (·.name) (defs.values.flatMap (·.fields)) x.fields
  /-- It keeps the versions with their own classes. -/
  versions : x.versions = ofPairs defs

/-- Where only equal values agree, what was gathered is what was there. -/
theorem mem_iff_of_gathered {seen known : Table String String}
    (h : Gathered (·.1) sameValue seen known) {p : String × String} : p ∈ known ↔ p ∈ seen := by
  refine ⟨fun hp => h.subset hp, fun hp => ?_⟩
  obtain ⟨q, hq, hkey, hvalue⟩ := h.covers p hp
  rwa [← Prod.ext hkey (of_decide_eq_true hvalue)]

theorem values_definitionsOf (protocols : Table Version Protocol) (n : String) :
    (definitionsOf protocols n).values = (definitions protocols).filter (·.name = n) := by
  unfold definitionsOf versionedClasses definitions values
  rw [filter_flatMap, filter_flatMap, map_flatMap]
  refine flatMap_congr fun vp _ => ?_
  rw [filter_map, map_map]
  exact map_id _

theorem keys_drafts {defs : List FlowBindings.Class}
    (h : Drafted defs drafts) : drafts.keys = (superclassTable defs).keys := by
  rw [← h.outline_eq, outline, Table.keys, Table.keys, map_map]
  rfl

/-- **Every unified class says what its definitions say.** -/
theorem merged_of_build {u : Unified} (h : build protocols = .ok u) (hx : x ∈ u.classes) :
    Merged (definitionsOf protocols x.name) x := by
  rw [build_eq] at h
  obtain ⟨⟨drafts, enums⟩, hs, h⟩ := bind_eq_ok_iff.mp h
  obtain ⟨classes, hclasses, h⟩ := bind_eq_ok_iff.mp h
  cases h
  have hdrafted : Drafted (definitions protocols) drafts := (addProtocols_endsIn protocols).of_ok hs
  obtain ⟨hfold, -⟩ := addProtocols_eq_ok_iff.mp hs
  obtain ⟨⟨n, d⟩, hr, hfinish⟩ := exists_finishes hclasses x hx
  have hnodup : drafts.keys.Nodup := by
    rw [keys_drafts hdrafted]
    exact nodup_keys_superclassTable
  obtain rfl : x.name = n := hfinish.name
  have hget : drafts.get? x.name = some d := (get?_eq_some_iff hnodup).mpr hr
  have hsum := summed_of_foldlM hfold x.name
  have hgathers := hdrafted.gathers x.name
  rw [hget, Option.getD_some] at hsum hgathers
  rw [← values_definitionsOf] at hgathers
  have hfields : x.fields = d.fields := by
    rw [Class.fields, hfinish.members, filterMap_map]
    exact filterMap_some
  have hdefs : (definitionsOf protocols x.name).values ≠ [] := by
    have hname : x.name ∈ (definitions protocols).map (·.name) := by
      rw [← mem_keys_superclassTable, ← keys_drafts hdrafted]
      exact mem_map_of_mem hr
    obtain ⟨c, hc, hcx⟩ := mem_map.mp hname
    rw [values_definitionsOf]
    exact ne_nil_of_mem (mem_filter.mpr ⟨hc, decide_eq_true hcx⟩)
  constructor
  · obtain ⟨m, hm⟩ := exists_min?_of_ne_nil (mt map_eq_nil_iff.mp hdefs)
    rw [hm, hfinish.baseLength, hsum.baseLength, hm, Option.getD_some]
  · rw [hfinish.isFixedLength]
    exact hsum.isFixedLength
  · rw [hfinish.isVirtual]
    exact hsum.isVirtual
  · rw [hfinish.params]
    exact hgathers.params.nodup
  · intro p
    rw [hfinish.params, ← mem_flatMap]
    exact mem_iff_of_gathered hgathers.params
  · rw [hfields, hfinish.members]
  · rw [hfields]
    exact hgathers.fields.firsts
  · rw [hfinish.versions]
    exact hsum.versions

/-- A version has one definition of a name, where its classes have different names. -/
theorem nodup_keys_definitionsOf (hmap : protocols.keys.Nodup)
    (hnames : ∀ vp ∈ protocols, (Protocol.names vp.2.classes).Nodup) (n : String) :
    (definitionsOf protocols n).keys.Nodup := by
  have hkeys : (definitionsOf protocols n).keys
      = protocols.flatMap fun vp => (vp.2.classes.filter (·.name = n)).map fun _ => vp.1 := by
    unfold definitionsOf versionedClasses Table.keys
    rw [filter_flatMap, map_flatMap]
    refine flatMap_congr fun vp _ => ?_
    rw [filter_map, map_map]
    rfl
  rw [hkeys, nodup_flatMap]
  constructor
  · intro vp hvp
    have hsub : ((vp.2.classes.filter (·.name = n)).map (·.name)).Nodup :=
      (filter_sublist.map _).nodup (hnames vp hvp)
    refine Nodup.map_on (fun c hc d hd _ => ?_) (Nodup.of_map _ hsub)
    refine inj_on_of_nodup_map hsub hc hd ?_
    rw [of_decide_eq_true (mem_filter.mp hc).2, of_decide_eq_true (mem_filter.mp hd).2]
  · refine (pairwise_map.mp hmap).imp fun {vp vq} hne v hv hv' => hne ?_
    obtain ⟨-, -, rfl⟩ := mem_map.mp hv
    obtain ⟨-, -, h⟩ := mem_map.mp hv'
    exact h.symm

/-! ## Versions in another order -/

/-- **Two unified classes say the same** of lengths, parameters and the names of fields. -/
structure SameMerge (x y : Unified.Class) : Prop where
  /-- They have one name. -/
  name : x.name = y.name
  /-- They have one base length. -/
  baseLength : x.baseLength = y.baseLength
  /-- Both are of fixed length, or none is. -/
  isFixedLength : x.isFixedLength = y.isFixedLength
  /-- Both are virtual, or none is. -/
  isVirtual : x.isVirtual = y.isVirtual
  /-- They have the same parameters. -/
  params : ∀ k, x.params.get? k = y.params.get? k
  /-- They have fields of the same names. -/
  fieldNames : ∀ f, f ∈ x.fields.map (·.name) ↔ f ∈ y.fields.map (·.name)

/-- **What a unified class says does not depend on the order of its definitions.** -/
theorem Merged.sameMerge {defs defs' : Table Version FlowBindings.Class} {y : Unified.Class}
    (hx : Merged defs x) (hy : Merged defs' y) (hname : x.name = y.name) (hdefs : defs.Perm defs') :
    SameMerge x y := by
  have hvalues : ∀ c, c ∈ defs.values ↔ c ∈ defs'.values := fun c => (hdefs.map _).mem_iff
  refine ⟨hname, ?_, ?_, ?_, fun k => ?_, fun f => ?_⟩
  · obtain ⟨hmem, hle⟩ := min?_eq_some_iff.mp hx.baseLength
    obtain ⟨hmem', hle'⟩ := min?_eq_some_iff.mp hy.baseLength
    have hlengths := (hdefs.map Prod.snd).map (·.baseLength)
    exact le_antisymm (hle _ (hlengths.mem_iff.mpr hmem')) (hle' _ (hlengths.mem_iff.mp hmem))
  · rw [Bool.eq_iff_iff, hx.isFixedLength, hy.isFixedLength]
    simp only [hvalues]
  · rw [Bool.eq_iff_iff, hx.isVirtual, hy.isVirtual]
    simp only [hvalues]
  · refine Option.ext fun w => ?_
    rw [get?_eq_some_iff hx.paramKeys, get?_eq_some_iff hy.paramKeys, hx.params,
      hy.params]
    simp only [hvalues]
  · rw [hx.fields.keys_eq, hy.fields.keys_eq, mem_eraseDups, mem_eraseDups]
    simp only [mem_map, mem_flatMap, hvalues]

section Permuted

variable {protocols protocols' : Table Version Protocol}

theorem definitionsOf_perm (h : protocols.Perm protocols') (n : String) :
    (definitionsOf protocols n).Perm (definitionsOf protocols' n) :=
  (h.flatMap_right _).filter _

theorem mem_definitions_of_perm (h : protocols.Perm protocols') {c : FlowBindings.Class} :
    c ∈ definitions protocols ↔ c ∈ definitions protocols' :=
  (h.flatMap_right _).mem_iff

theorem mem_names_of_build {u : Unified} (h : build protocols = .ok u) {n : String} :
    n ∈ u.classes.map (·.name) ↔ n ∈ (definitions protocols).map (·.name) := by
  obtain ⟨-, hfinished⟩ := (build_endsIn protocols).of_ok h
  rw [hfinished.names_eq, mem_keys_superclassTable]

/-- **In another order versions make the same classes**, as far as lengths, parameters and the
names of fields go. -/
theorem sameMerge_of_perm (hperm : protocols.Perm protocols') {u u' : Unified}
    (h : build protocols = .ok u) (h' : build protocols' = .ok u') (n : String) :
    Option.Rel SameMerge (u.class? n) (u'.class? n) := by
  have hnames : n ∈ u.classes.map (·.name) ↔ n ∈ u'.classes.map (·.name) := by
    rw [mem_names_of_build h, mem_names_of_build h', mem_map, mem_map]
    simp only [mem_definitions_of_perm hperm]
  unfold class?
  cases hx : u.classes.find? (·.name = n) with
  | none =>
    cases hy : u'.classes.find? (·.name = n) with
    | none => exact .none
    | some y =>
      have hyn : y.name = n := by simpa using find?_some hy
      have hmem : n ∈ u'.classes.map (·.name) :=
        hyn ▸ mem_map_of_mem (mem_of_find?_eq_some hy)
      obtain ⟨x, hx'⟩ := exists_find?_name_of_mem (hnames.mpr hmem)
      rw [hx] at hx'
      cases hx'
  | some x =>
    have hxn : x.name = n := by simpa using find?_some hx
    have hxu := mem_of_find?_eq_some hx
    obtain ⟨y, hy⟩ := exists_find?_name_of_mem (hnames.mp (hxn ▸ mem_map_of_mem hxu))
    have hyn : y.name = n := by simpa using find?_some hy
    rw [hy]
    refine .some ((merged_of_build h hxu).sameMerge
      (merged_of_build h' (mem_of_find?_eq_some hy)) (hxn.trans hyn.symm) ?_)
    rw [hxn, hyn]
    exact definitionsOf_perm hperm n

end Permuted

/-! ## When versions are not unified -/

section Failing

variable {protocols : Table Version Protocol}

/-- Where versions agree on superclasses, so do all definitions. -/
theorem superclass?_eq_of_agree (hagree : ¬ SuperclassConflict protocols)
    {c c' : FlowBindings.Class} (hc : c ∈ definitions protocols) (hc' : c' ∈ definitions protocols)
    (hname : c.name = c'.name) : c.superclass? = c'.superclass? := by
  obtain ⟨vp, hvp, hc⟩ := mem_flatMap.mp hc
  obtain ⟨vp', hvp', hc'⟩ := mem_flatMap.mp hc'
  by_contra hne
  exact hagree ⟨vp, hvp, vp', hvp', c, hc, c', hc', hname, hne⟩

/-- **A class that lies above itself is not unified.** The unified protocol has superclasses
first, and all versions agree on who extends whom. -/
theorem circle_not_unified (hagree : ¬ SuperclassConflict protocols) {u : Unified}
    (h : build protocols = .ok u) {vp : Version × Protocol} (hvp : vp ∈ protocols) :
    Acyclic (ExtendsAmong vp.2.classes) := by
  obtain ⟨-, hfinished⟩ := (build_endsIn protocols).of_ok h
  have hnodup : ((u.classes.map (·.toClass)).map (·.name)).Nodup := by
    rw [map_map]
    exact hfinished.names_eq ▸ nodup_keys_superclassTable
  have hfree := hfinished.superclassesFirst.grounded.acyclic hnodup
  refine fun n hn => hfree n (Relation.TransGen.mono ?_ _ _ hn)
  rintro a b ⟨c, hc, rfl, hsuper⟩
  have hdef : c ∈ definitions protocols := mem_flatMap.mpr ⟨vp, hvp, hc⟩
  obtain ⟨x, hx, hxc⟩ := mem_map.mp ((mem_names_of_build h).mpr (mem_map_of_mem hdef))
  obtain ⟨d, hd, hdx, hdsuper⟩ := hfinished.exists_definition hx
  refine ⟨x.toClass, mem_map_of_mem hx, hxc, ?_⟩
  rw [← hsuper, ← superclass?_eq_of_agree hagree hd hdef (hdx.trans hxc)]
  exact hdsuper.symm

/-- **Why versions are not unified**, where they were built, agree on superclasses and have no
enums: two definitions of a class disagree, or a class of some version lies above itself. -/
theorem exists_error_iff
    (hbuilt : ∀ vp ∈ protocols, ∃ v sources, Protocol.build v sources = .ok vp.2)
    (henums : ∀ vp ∈ protocols, vp.2.enums = []) (hagree : ¬ SuperclassConflict protocols) :
    (∃ err, build protocols = .error err)
      ↔ (∃ n, Disagree (definitions protocols) n)
        ∨ ∃ vp ∈ protocols, ¬ Acyclic (ExtendsAmong vp.2.classes) := by
  constructor
  · rintro ⟨err, herr⟩
    rcases (build_endsIn protocols).of_error herr with ⟨n, -, hdisagree⟩ | ⟨vp, hvp, e, he, -⟩
      | ⟨-, n, s, before, after, -, hsplit, hnot⟩
    · exact .inl ⟨n, hdisagree⟩
    · rw [henums vp hvp] at he
      exact absurd he not_mem_nil
    · right
      by_contra hnone
      have hground : ∀ vp ∈ protocols, Grounded vp.2.classes := by
        intro vp hvp
        obtain ⟨v, sources, hbuild⟩ := hbuilt vp hvp
        refine (Protocol.grounded_or_circular_of_build hbuild).resolve_right fun hcircle => ?_
        exact hnone ⟨vp, hvp, hcircle⟩
      exact hnot (superclassTable_grounded (definitions_grounded hground)
        (fun c hc c' hc' => superclass?_eq_of_agree hagree hc hc') before _ after hsplit s rfl)
  · intro hcause
    cases hbuild : build protocols with
    | error err => exact ⟨err, rfl⟩
    | ok u =>
      rcases hcause with ⟨n, hdisagree⟩ | ⟨vp, hvp, hcircle⟩
      · exact absurd hdisagree (((build_endsIn protocols).of_ok hbuild).1 n)
      · exact absurd (circle_not_unified hagree hbuild hvp) hcircle

end Failing

theorem Disagree.of_perm {protocols' : Table Version Protocol} {n : String}
    (hperm : protocols.Perm protocols') (h : Disagree (definitions protocols) n) :
    Disagree (definitions protocols') n :=
  h.mono fun _ hc => (mem_definitions_of_perm hperm).mp hc

theorem exists_ok_iff {ε α : Type} {x : Except ε α} : (∃ a, x = .ok a) ↔ ¬ ∃ e, x = .error e := by
  cases x <;> simp

/-- **Unifying merges classes, whatever the order of versions.** Every unified class says what
its definitions say, and it keeps the versions that have one, each with its own, as long as no
version and no name within a version occurs twice.

Let the versions be built, agree on superclasses and have no enums. Then they are not unified if
and only if two definitions of a class disagree on the kind of a field or on the value of a
parameter, or a class of some version lies above itself. So whether they are unified does not
depend on their order, nor does what the unified classes say of lengths, of parameters, of being
virtual and of the names of their fields. No class lies above itself before version 1.3 or where
the hierarchy below the roots is undisturbed. -/
theorem build_merges (protocols : Table Version Protocol) :
    (∀ u, build protocols = .ok u → ∀ x ∈ u.classes,
        Merged (definitionsOf protocols x.name) x
          ∧ (protocols.keys.Nodup →
            (∀ vp ∈ protocols, (Protocol.names vp.2.classes).Nodup) →
              x.versions = definitionsOf protocols x.name))
      ∧ ((∀ vp ∈ protocols, ∃ v sources, Protocol.build v sources = .ok vp.2) →
        (∀ vp ∈ protocols, vp.2.enums = []) → ¬ SuperclassConflict protocols →
          ((∃ err, build protocols = .error err)
              ↔ (∃ n, Disagree (definitions protocols) n)
                ∨ ∃ vp ∈ protocols, ¬ Acyclic (ExtendsAmong vp.2.classes))
            ∧ ∀ protocols', protocols.Perm protocols' →
              ((∃ u, build protocols = .ok u) ↔ ∃ u, build protocols' = .ok u)
                ∧ ∀ u u', build protocols = .ok u → build protocols' = .ok u' →
                  ∀ n, Option.Rel SameMerge (u.class? n) (u'.class? n))
      ∧ ∀ v sources p, Protocol.build v sources = .ok p →
        v.wire < 4 ∨ Protocol.Orderly v sources p → Acyclic (ExtendsAmong p.classes) := by
  refine ⟨fun u hu x hx => ⟨merged_of_build hu hx, fun hmap hnames => ?_⟩,
    fun hbuilt henums hagree => ⟨exists_error_iff hbuilt henums hagree, fun protocols' hperm =>
      ⟨?_, fun u u' hu hu' => sameMerge_of_perm hperm hu hu'⟩⟩,
    fun v sources p hp => Protocol.acyclic_superclasses_of_orderly hp⟩
  · rw [(merged_of_build hu hx).versions,
      Table.ofPairs_eq_self (nodup_keys_definitionsOf hmap hnames x.name)]
  · have hagree' : ¬ SuperclassConflict protocols' := by
      rintro ⟨vp, hvp, vp', hvp', hconflict⟩
      exact hagree ⟨vp, hperm.mem_iff.mpr hvp, vp', hperm.mem_iff.mpr hvp', hconflict⟩
    rw [exists_ok_iff, exists_ok_iff, exists_error_iff hbuilt henums hagree,
      exists_error_iff (fun vp hvp => hbuilt vp (hperm.mem_iff.mpr hvp))
        (fun vp hvp => henums vp (hperm.mem_iff.mpr hvp)) hagree', not_iff_not]
    refine or_congr (exists_congr fun n => ⟨Disagree.of_perm hperm, Disagree.of_perm hperm.symm⟩)
      (exists_congr fun vp => and_congr_left' hperm.mem_iff)

/-- A port of three bytes. -/
def narrowPort : Source where
  file := "standard-1.0"
  versions := [.v10]
  classes :=
    [⟨"of_port", none, [.field "number" "uint16_t" .data, .field "queue" "uint8_t" .data], false,
      []⟩]
  enums := []

/-- A port of four bytes. -/
def widePort : Source where
  file := "standard-1.1"
  versions := [.v11]
  classes :=
    [⟨"of_port", none, [.field "number" "uint32_t" .data], false,
      [("length_includes_align", "True")]⟩]
  enums := []

/-- Ports of different lengths make one of the smaller length, which is not fixed, in either
order of the versions. -/
theorem build_merges_ports :
    ∃ p q u u', Protocol.build .v10 [narrowPort] = .ok p ∧ Protocol.build .v11 [widePort] = .ok q
      ∧ build [(.v10, p), (.v11, q)] = .ok u ∧ build [(.v11, q), (.v10, p)] = .ok u'
      ∧ (∀ n, Option.Rel SameMerge (u.class? n) (u'.class? n))
      ∧ ∃ x ∈ u.classes, Merged (definitionsOf [(.v10, p), (.v11, q)] x.name) x
        ∧ x.baseLength = 3 ∧ x.isFixedLength = false ∧ x.versions.keys = [.v10, .v11] := by
  have htest : (Protocol.build .v10 [narrowPort]).toOption.any (fun p =>
      (Protocol.build .v11 [widePort]).toOption.any fun q => p.enums = [] ∧ q.enums = []
        ∧ ¬ SuperclassConflict [(.v10, p), (.v11, q)]
        ∧ ((build [(.v10, p), (.v11, q)]).toOption.any fun u => u.classes.any fun x =>
          x.baseLength = 3 ∧ x.isFixedLength = false ∧ x.versions.keys = [.v10, .v11]) = true)
        = true := by
    rw [Protocol.build_eq_walk .v10 (by decide) (by decide),
      Protocol.sortedNames_of_pairwise (by decide),
      Protocol.build_eq_walk .v11 (by decide) (by decide),
      Protocol.sortedNames_of_pairwise (by decide)]
    decide +kernel
  obtain ⟨p, hp, htest⟩ := exists_ok_of_any htest
  obtain ⟨q, hq, htest⟩ := exists_ok_of_any htest
  obtain ⟨hpenums, hqenums, hagree, htest⟩ := of_decide_eq_true htest
  obtain ⟨u, hu, htest⟩ := exists_ok_of_any htest
  obtain ⟨x, hx, htest⟩ := any_eq_true.mp htest
  obtain ⟨hmerged, hfail, -⟩ := build_merges [(.v10, p), (.v11, q)]
  have hbuilt : ∀ vp ∈ [(Version.v10, p), (Version.v11, q)],
      ∃ v sources, Protocol.build v sources = .ok vp.2 := by
    simp only [forall_mem_cons]
    exact ⟨⟨_, _, hp⟩, ⟨_, _, hq⟩, fun _ h => absurd h not_mem_nil⟩
  obtain ⟨-, hperm⟩ := hfail hbuilt (by simp [hpenums, hqenums]) hagree
  obtain ⟨hiff, hsame⟩ := hperm [(.v11, q), (.v10, p)] (Perm.swap _ _ _)
  obtain ⟨u', hu'⟩ := hiff.mp ⟨u, hu⟩
  exact ⟨p, q, u, u', hp, hq, hu, hu', hsame u u' hu hu', x, hx, (hmerged u hu x hx).1,
    of_decide_eq_true htest⟩

/-- An action that is not named after its root. -/
def dropSource : Source where
  file := "standard-1.3"
  versions := [.v13]
  classes :=
    [⟨"drop", some "of_action", [.field "type" "uint16_t" (.fixed 1)], false, []⟩,
     ⟨"of_action", none, [.field "type" "uint16_t" .discriminator], true, []⟩]
  enums := []

/-- **A version without a clash that is not unified.** The class that identifies `drop` has the
name of the one that identifies `of_action`, takes its place and so extends itself. -/
theorem clash_free_version_not_unified :
    ∃ p, Protocol.build .v13 [dropSource] = .ok p ∧ p.enums = []
      ∧ ¬ SuperclassConflict [(.v13, p)] ∧ (∀ n, ¬ Disagree (definitions [(.v13, p)]) n)
      ∧ build [(.v13, p)] = .error (.superclassNotYet "of_action_id" "of_action_id") := by
  have htest : (Protocol.build .v13 [dropSource]).toOption.any (fun p => p.enums = []
      ∧ ¬ SuperclassConflict [(.v13, p)]
      ∧ EndsIn (fun _ => False) (· = .superclassNotYet "of_action_id" "of_action_id")
        (build [(.v13, p)])) = true := by
    rw [Protocol.build_eq_walk .v13 (by decide) (by decide),
      Protocol.sortedNames_of_pairwise (by decide)]
    decide +kernel
  obtain ⟨p, hp, htest⟩ := exists_ok_of_any htest
  obtain ⟨henums, hagree, hends⟩ := of_decide_eq_true htest
  refine ⟨p, hp, henums, hagree, ?_, hends.eq_error⟩
  rcases (build_endsIn [(.v13, p)]).of_error hends.eq_error with
    ⟨_, hclass, -⟩ | ⟨_, -, _, -, henum⟩
    | ⟨hnone, -⟩
  · cases hclass
  · cases henum
  · exact hnone

end Unified

end FlowBindings
