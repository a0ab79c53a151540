import FlowBindings.Loci.Accessor
import FlowBindings.Proofs.Names
import FlowBindings.Proofs.Records

/-!
# The member table of a catalog

The records of a catalog are compressed: versions share layouts, and the table of where a
member lies is read through the references. This module shows that it says what the
versions say (`memberTable_faithful`). Each class of each version is listed with its own
fields, at their own offsets, with the types by which the C library knows them, and a type
with a form of its own in each version is resolved for the version that is asked about,
not for the one whose layout it shares.

How the C library sees a type is told apart from the code that computes it: `SeenAs` has
one rule for lists, one for enums with a wire type and one for everything else. What is
loaded has words for names, so no separator of a signature occurs in it, and sharing by
signature is sharing of equal layouts.
-/

namespace FlowBindings.Loci

open List Text Table

/-! ## No separators -/

section Separators

variable {s : String}

theorem separatorFree_ofList {cs : List Char} (h : SeparatorFree s)
    (hsub : cs ⊆ s.toList) : SeparatorFree (String.ofList cs) := by
  unfold SeparatorFree
  rw [String.toList_ofList]
  exact ⟨fun hc => h.1 (hsub hc), fun hc => h.2 (hsub hc)⟩

theorem SeparatorFree.append {t : String} (hs : SeparatorFree s) (ht : SeparatorFree t) :
    SeparatorFree (s ++ t) := by
  unfold SeparatorFree
  rw [String.toList_append, mem_append, mem_append, not_or, not_or]
  exact ⟨⟨hs.1, ht.1⟩, hs.2, ht.2⟩

theorem SeparatorFree.trimTail (h : SeparatorFree s) (tail : String) :
    SeparatorFree (trimTail s tail) := by
  unfold Text.trimTail
  split
  · exact separatorFree_ofList h (take_subset _ _)
  · exact h

theorem SeparatorFree.trimLead (h : SeparatorFree s) (lead : String) :
    SeparatorFree (trimLead s lead) := by
  unfold Text.trimLead
  split
  · exact separatorFree_ofList h (drop_subset _ _)
  · exact h

theorem not_mem_of_isWord {w : String} (h : isWord w = true) {c : Char}
    (hc : (c.isAlphanum || c == '_') = false) : c ∉ w.toList := by
  unfold isWord at h
  rw [Bool.and_eq_true, all_eq_true] at h
  intro hmem
  rw [h.2 c hmem] at hc
  cases hc

theorem separatorFree_of_isWord {w : String} (h : isWord w = true) : SeparatorFree w :=
  ⟨not_mem_of_isWord h (by decide), not_mem_of_isWord h (by decide)⟩

theorem separatorFree_text {t : Declaration.TypeRef} (h : t.WellFormed) :
    SeparatorFree t.text := by
  cases t with
  | scalar name => exact separatorFree_of_isWord h.1
  | enum name => exact separatorFree_of_isWord h
  | array element count =>
    exact (((separatorFree_of_isWord h.1).append (by decide)).append
      (separatorFree_of_isWord h.2.1)).append (by decide)
  | list element =>
    exact (SeparatorFree.append (by decide) (separatorFree_of_isWord h)).append (by decide)

end Separators

/-! ## How the C library sees a field -/

/-- **The type by which the C library knows a field's type** in a version. -/
inductive SeenAs (p : Protocol) (type : String) : String → Prop where
  /-- A list is known by the class of its lists. -/
  | list {element : String} (h : type = "list(" ++ element ++ ")") :
      SeenAs p type ("of_list_" ++ trimTail (trimLead element "of_") "_t" ++ "_t")
  /-- An enum is known by the wire type it declares. -/
  | enum {e : Enum} {wireType : String} (hlist : ∀ element, type ≠ "list(" ++ element ++ ")")
      (henum : p.enum? type = some e) (hwire : e.params.get? "wire_type" = some (some wireType)) :
      SeenAs p type wireType
  /-- Everything else is known by its own name. -/
  | plain (hlist : ∀ element, type ≠ "list(" ++ element ++ ")")
      (henum : ∀ e, p.enum? type = some e → e.params.get? "wire_type" = none) :
      SeenAs p type type

/-- **A field and its member in a layout**: the same name, the type as it is seen, and the
offset, or -1 if there is none. -/
structure Shows (p : Protocol) (f : Field) (m : Slot) : Prop where
  name : m.name = f.name
  type : SeenAs p f.type m.type
  offset : m.offset = (f.offset.map Int.ofNat).getD (-1)

section Slots

theorem listNames_list (element : String) :
    WireForm.listNames ("list(" ++ element ++ ")")
      = ("of_list_" ++ trimTail (trimLead element "of_") "_t", element) := by
  have hlead : "list(".toList.length = 5 := rfl
  have hdrop : dropFirst 5 ("list(" ++ element ++ ")") = element ++ ")" := by
    rw [dropFirst, String.append_assoc, String.toList_append, ← hlead, drop_left,
      String.ofList_toList]
  have hinner : dropLast 1 (element ++ ")") = element := by
    rw [Text.dropLast, String.length_append, show ")".length = 1 from rfl, Nat.add_sub_cancel,
      String.toList_append, ← String.length_toList, take_left, String.ofList_toList]
  unfold WireForm.listNames
  rw [hdrop, hinner]

/-- Of the written forms, only that of a list has a parenthesis in it. -/
theorem paren_not_mem_text {t : Declaration.TypeRef} (h : t.WellFormed)
    (hlist : ∀ element, t ≠ .list element) : '(' ∉ t.text.toList := by
  cases t with
  | scalar name => exact not_mem_of_isWord h.1 (by decide)
  | enum name => exact not_mem_of_isWord h (by decide)
  | array element count =>
    intro hmem
    simp only [Declaration.TypeRef.text, String.toList_append, mem_append] at hmem
    rcases hmem with ((hmem | hmem) | hmem) | hmem
    · exact not_mem_of_isWord h.1 (by decide) hmem
    · exact absurd hmem (by decide)
    · exact not_mem_of_isWord h.2.1 (by decide) hmem
    · exact absurd hmem (by decide)
  | list element => exact absurd rfl (hlist element)

theorem isList_list (element : String) : WireType.isList ("list(" ++ element ++ ")") = true :=
  startsWith_append _ (startsWith_append _ (startsWith_self _))

theorem isList_eq_false {type : String} (h : '(' ∉ type.toList) : WireType.isList type = false := by
  unfold WireType.isList startsWith
  rw [Bool.eq_false_iff, ne_eq, isPrefixOf_iff_prefix]
  exact fun hpre => h (hpre.subset (by decide))

variable {p : Protocol}

/-- **The type a layout has for a field is the one by which the library knows it.** -/
theorem seenAs_slotType (hp : p.Legible) {t : Declaration.TypeRef} (ht : t.WellFormed) :
    SeenAs p t.text (Catalog.slotType p t.text) ∧ SeparatorFree (Catalog.slotType p t.text) := by
  unfold Catalog.slotType
  by_cases hlist : ∃ element, t = .list element
  · obtain ⟨element, rfl⟩ := hlist
    rw [Declaration.TypeRef.text, if_pos (isList_list element), listNames_list]
    refine ⟨.list rfl, (SeparatorFree.append (by decide) ?_).append (by decide)⟩
    exact ((separatorFree_of_isWord ht).trimLead _).trimTail _
  · have hparen := paren_not_mem_text ht fun element heq => hlist ⟨element, heq⟩
    have hnone : ∀ element, t.text ≠ "list(" ++ element ++ ")" := by
      intro element heq
      rw [heq] at hparen
      refine hparen ?_
      rw [String.append_assoc, String.toList_append]
      exact mem_append_left _ (by decide)
    rw [if_neg (by rw [isList_eq_false hparen]; exact Bool.false_ne_true)]
    cases henum : p.enum? t.text with
    | none =>
      refine ⟨.plain hnone fun e he => ?_, separatorFree_text ht⟩
      rw [henum] at he
      cases he
    | some e =>
      rw [Option.bind_some]
      cases hwire : e.params.get? "wire_type" with
      | none =>
        refine ⟨.plain hnone fun e' he' => ?_, separatorFree_text ht⟩
        rw [henum] at he'
        cases he'
        exact hwire
      | some declared =>
        obtain ⟨w, hw, hword⟩ := hp.enumParams e (mem_of_find?_eq_some henum) _
          (mem_of_get? hwire)
        obtain rfl : declared = some w := hw
        exact ⟨.enum hnone henum hwire, separatorFree_of_isWord hword⟩

theorem shows_slot (hp : p.Legible) {f : Field} (hf : LegibleField f.name f.type) :
    Shows p f (Catalog.slot p f) := by
  obtain ⟨-, t, ht, htype⟩ := hf
  refine ⟨rfl, ?_, rfl⟩
  show SeenAs p f.type (Catalog.slotType p f.type)
  rw [htype]
  exact (seenAs_slotType hp ht).1

theorem clean_slot (hp : p.Legible) {f : Field} (hf : LegibleField f.name f.type) :
    (Catalog.slot p f).Clean := by
  obtain ⟨hname, t, ht, htype⟩ := hf
  refine ⟨?_, separatorFree_of_isWord hname⟩
  show SeparatorFree (Catalog.slotType p f.type)
  rw [htype]
  exact (seenAs_slotType hp ht).2

end Slots

/-! ## What the versions add -/

namespace Catalog

/-- What a version adds to the records, in order. -/
def additions (vp : Version × Protocol) : List Addition :=
  (versionClasses vp.2).order.map fun n =>
    ⟨vp.1.wire, n, ((versionClasses vp.2).members.get? n).getD []⟩

/-- What all versions add to the records, newest version first. -/
def allAdditions (m : Model) : List Addition :=
  (m.protocols.mergeSort fun a b => b.1.wire ≤ a.1.wire).flatMap additions

variable {records : Records}

/-- A version adds its classes, or the records are not made. -/
theorem addVersion_endsIn {adds : List Addition} (h : records.Lists adds)
    (vp : Version × Protocol) :
    EndsIn (fun records => Records.Lists records (adds ++ additions vp)) (fun _ => True)
      (addVersion records vp.1 vp.2) := by
  unfold addVersion additions
  refine endsIn_foldlM (fun seen (records : Records) => records.Lists (adds ++ seen.map fun n =>
    ⟨vp.1.wire, n, ((versionClasses vp.2).members.get? n).getD []⟩)) ?_ (by simpa using h)
  intro seen n _ records hrecords
  split
  · next hadd =>
    rw [map_append, ← append_assoc]
    exact Records.Lists.add (a := ⟨_, _, _⟩) hrecords hadd
  · trivial

/-- **The records stand for what the versions add.** -/
theorem lists_of_buildRecords {m : Model}
    (h : buildRecords m = .ok records) : records.Lists (allAdditions m) := by
  have hends : EndsIn (fun records => Records.Lists records (allAdditions m)) (fun _ => True)
      (buildRecords m) := by
    unfold buildRecords allAdditions
    refine endsIn_foldlM (fun seen (records : Records) => records.Lists (seen.flatMap additions)) ?_
      Records.lists_nil
    intro seen vp _ records hrecords
    rw [flatMap_append, flatMap_singleton]
    exact addVersion_endsIn hrecords vp
  exact hends.of_ok h

variable {m : Model} {vp : Version × Protocol}

theorem additions_subset (hvp : vp ∈ m.protocols) : additions vp ⊆ allAdditions m :=
  fun _ ha => mem_flatMap.mpr ⟨vp, mem_mergeSort.mpr hvp, ha⟩

theorem mem_members_cases {p : Protocol} {n : String} {slots : List Slot}
    (h : (n, slots) ∈ (versionClasses p).members) :
    (∃ e ∈ p.classes, e.name = n ∧ slots = e.fields.map (slot p)) ∨ slots = [] := by
  rcases mem_append.mp (mem_of_mem_ofPairs h) with hclass | hlist
  · obtain ⟨e, he, heq⟩ := mem_map.mp hclass
    obtain ⟨rfl, rfl⟩ := Prod.mk.inj heq
    exact Or.inl ⟨e, he, rfl, rfl⟩
  · obtain ⟨l, -, heq⟩ := mem_map.mp hlist
    obtain ⟨-, rfl⟩ := Prod.mk.inj heq
    exact Or.inr rfl

/-- Everything the versions of a loaded model add is clean. -/
theorem clean_of_mem_allAdditions (hm : ∀ vp ∈ m.protocols, vp.2.Legible) :
    ∀ a ∈ allAdditions m, ∀ s ∈ a.members, s.Clean := by
  intro a ha s hs
  obtain ⟨vp, hvp, ha⟩ := mem_flatMap.mp ha
  have hp := hm vp (mem_mergeSort.mp hvp)
  obtain ⟨n, -, rfl⟩ := mem_map.mp ha
  dsimp only at hs
  cases hget : (versionClasses vp.2).members.get? n with
  | none =>
    rw [hget] at hs
    exact absurd hs not_mem_nil
  | some slots =>
    rw [hget] at hs
    rcases mem_members_cases (mem_of_get? hget) with ⟨e, he, -, rfl⟩ | rfl
    · obtain ⟨f, hf, rfl⟩ := mem_map.mp hs
      exact clean_slot hp (hp.fields e he f hf)
    · exact absurd hs not_mem_nil

/-- Each version adds a name once, since a second time fails. -/
theorem nodup_order (h : records.Lists (allAdditions m))
    (hvp : vp ∈ m.protocols) : (versionClasses vp.2).order.Nodup := by
  have hsub : (additions vp).Sublist (allAdditions m) := by
    rw [allAdditions, flatMap_def]
    exact sublist_flatten_of_mem (mem_map_of_mem (mem_mergeSort.mpr hvp))
  have hnodup := h.nodup.sublist (hsub.map _)
  rw [additions, map_map] at hnodup
  exact hnodup.of_map _

/-- **A class is added with its fields.** -/
theorem mem_allAdditions (h : records.Lists (allAdditions m))
    (hvp : vp ∈ m.protocols) {e : Class} (he : e ∈ vp.2.classes) :
    ⟨vp.1.wire, e.name, e.fields.map (slot vp.2)⟩ ∈ allAdditions m := by
  have hkeys : keys (vp.2.classes.map (fun c => (c.name, c.fields.map (slot vp.2)))
      ++ (listClasses vp.2).map fun l => (l, [])) = (versionClasses vp.2).order := by
    simp [Table.keys, versionClasses, Function.comp_def]
  have hnodup := nodup_order h hvp
  have hget : (versionClasses vp.2).members.get? e.name = some (e.fields.map (slot vp.2)) := by
    rw [← hkeys] at hnodup
    show (ofPairs _).get? e.name = _
    rw [ofPairs_eq_self hnodup, get?_eq_some_iff hnodup]
    exact mem_append_left _ (mem_map.mpr ⟨e, he, rfl⟩)
  refine additions_subset hvp (mem_map.mpr ⟨e.name, ?_, by rw [hget]; rfl⟩)
  exact mem_append_left _ (mem_map_of_mem he)

theorem get?_filterMap_keys {α ν : Type} (find : Nat → Option α) (value : Nat → α → ν)
    (keys : List Nat) (w : Nat) :
    get? (keys.filterMap fun k => (find k).map fun x => (k, value k x)) w
      = if w ∈ keys then (find w).map (value w) else none := by
  induction keys with
  | nil => rfl
  | cons k keys ih =>
    have hmem : w ∈ k :: keys ↔ w = k ∨ w ∈ keys := mem_cons
    cases hfind : find k with
    | none =>
      rw [filterMap_cons_none (by rw [hfind]; rfl), ih]
      by_cases hk : w = k
      · subst hk
        rw [if_pos mem_cons_self, hfind]
        split <;> rfl
      · simp only [hmem, hk, false_or]
    | some x =>
      rw [filterMap_cons_some (by rw [hfind]; rfl), get?_cons, ih]
      by_cases hk : w = k
      · subst hk
        rw [if_pos rfl, if_pos mem_cons_self, hfind]
        rfl
      · simp only [hmem, hk, Ne.symm hk, if_false, false_or]

section Questions

variable {c : Catalog} {n : String} {r : Record}

theorem record_eq_ok_iff : c.record n = .ok r ↔ c.records.get? n = some r := by
  unfold record need
  cases c.records.get? n <;> simp

/-- The members of a class are those of its record. -/
theorem memberTypes_eq (hr : c.record n = .ok r) (wire : Nat) :
    ∃ types, c.memberTypes n wire = .ok (r.members wire, types) := by
  unfold memberTypes
  rw [hr]
  exact ⟨_, rfl⟩

/-- Where a member lies in a version is read off the first of its name. -/
theorem placements_eq (hr : c.record n = .ok r) (member : String) :
    ∃ t, c.placements n member = .ok t ∧ ∀ wire, t.get? wire
      = if wire ∈ r.layouts.keys then ((r.members wire).find? (·.name = member)).map fun m =>
          ⟨(WireForm.mixedForm? m.type wire).join.getD m.type, m.offset⟩
        else none := by
  unfold placements
  rw [hr]
  exact ⟨_, rfl, get?_filterMap_keys _ (fun wire (m : Slot) =>
    (⟨(WireForm.mixedForm? m.type wire).join.getD m.type, m.offset⟩ : Placement)) _⟩

end Questions

/-- **The member table is faithful.** Let the records of a catalog be made from a loaded
model. Then each class of each version is listed there with its own fields in order, as
the C library sees them. The table of where a member lies has the version if and only if
the class has a field of that name in it; it has the offset of the first such field, and
its type, with the form that type has in this very version. In the records, each version
has one entry, and what an entry refers to is no reference. -/
theorem memberTable_faithful {files : Directory} {targets : List Version} {m : Model}
    (hload : Model.load files targets = .ok m) {c : Catalog}
    (hrecords : buildRecords m = .ok c.records) :
    (∀ vp ∈ m.protocols, ∀ e ∈ vp.2.classes,
        (∃ slots types, c.memberTypes e.name vp.1.wire = .ok (slots, types)
          ∧ List.Forall₂ (Shows vp.2) e.fields slots)
        ∧ ∀ n, ∃ t, c.placements e.name n = .ok t
          ∧ (t.has vp.1.wire = true ↔ ∃ f ∈ e.fields, f.name = n)
          ∧ ∀ f, e.field? n = some f → ∃ type, SeenAs vp.2 f.type type
            ∧ t.get? vp.1.wire = some
              ⟨(WireForm.mixedForm? type vp.1.wire).join.getD type,
                (f.offset.map Int.ofNat).getD (-1)⟩)
      ∧ ∀ n r, c.record n = .ok r → r.layouts.keys.Nodup
        ∧ ∀ w other, (w, .sameAs other) ∈ r.layouts → ∃ ms, (other, .own ms) ∈ r.layouts := by
  have hlegible := Model.legible_of_load hload
  have hlists := lists_of_buildRecords hrecords
  refine ⟨fun vp hvp e he => ?_, fun n r hr => ?_⟩
  · have hp := hlegible vp hvp
    obtain ⟨r, hget, hkey, hmembers⟩ :=
      hlists.members_eq (clean_of_mem_allAdditions hlegible) (mem_allAdditions hlists hvp he)
    dsimp only at hget hkey hmembers
    have hrecord : c.record e.name = .ok r := record_eq_ok_iff.mpr hget
    constructor
    · obtain ⟨types, htypes⟩ := memberTypes_eq hrecord vp.1.wire
      refine ⟨_, types, htypes, ?_⟩
      rw [hmembers, forall₂_map_right_iff, forall₂_same]
      exact fun f hf => shows_slot hp (hp.fields e he f hf)
    · intro n
      obtain ⟨t, ht, hlookup⟩ := placements_eq hrecord n
      -- the first member of the name is the slot of the first field of the name
      have hfirst : t.get? vp.1.wire = (e.field? n).map fun f =>
          ⟨(WireForm.mixedForm? (slotType vp.2 f.type) vp.1.wire).join.getD (slotType vp.2 f.type),
            (f.offset.map Int.ofNat).getD (-1)⟩ := by
        rw [hlookup, if_pos hkey, hmembers, find?_map, Option.map_map]
        rfl
      refine ⟨t, ht, ?_, fun f hf => ⟨slotType vp.2 f.type, ?_, ?_⟩⟩
      · rw [Table.has_eq_isSome, hfirst, Option.isSome_map, Class.field?, find?_isSome]
        simp only [decide_eq_true_eq]
      · exact (shows_slot hp (hp.fields e he f (mem_of_find?_eq_some hf))).type
      · rw [hfirst, hf]
        rfl
  · have hrecord := hlists.record n
    rw [record_eq_ok_iff.mp hr] at hrecord
    exact ⟨hrecord.nodup, fun w other href => hrecord.own_of_sameAs href⟩

/-- Records are added as they come where newer versions come first. -/
theorem buildRecords_of_pairwise {m : Model}
    (h : m.protocols.Pairwise fun a b => b.1.wire ≤ a.1.wire) :
    buildRecords m = m.protocols.foldlM (fun records vp => addVersion records vp.1 vp.2) [] := by
  unfold buildRecords
  rw [mergeSort_of_pairwise (h.imp decide_eq_true)]

/-- Two versions that lay a class out alike, although a port takes four bytes in the one
and two in the other. -/
def portFiles : Directory :=
  [("new-1.1", "#version 2\nstruct of_hop { of_port_no_t port; };\n"),
   ("old-1.0", "#version 1\nstruct of_hop { of_port_no_t port; };\n")]

/-- A catalog that has records and nothing else. -/
def ofRecords (records : Records) : Catalog := { (default : Catalog) with records := records }

/-- The older version refers to the newer one, and has its own form of the type. -/
theorem memberTable_faithful_shared :
    ∃ (m : Model) (c : Catalog), Model.load portFiles [.v10, .v11] = .ok m
      ∧ buildRecords m = .ok c.records
      ∧ (∃ r, c.record "of_hop" = .ok r ∧ (1, .sameAs 2) ∈ r.layouts)
      ∧ c.placements "of_hop" "port" = .ok [(2, ⟨"uint32_t", 0⟩), (1, ⟨"uint16_t", 0⟩)]
      ∧ ∀ vp ∈ m.protocols, ∀ e ∈ vp.2.classes, ∃ slots types,
        c.memberTypes e.name vp.1.wire = .ok (slots, types)
          ∧ List.Forall₂ (Shows vp.2) e.fields slots := by
  have hfiles : Model.inputFiles portFiles = portFiles.map fun file => (file.1, some file.2) := by
    unfold Model.inputFiles
    exact (mergeSort_of_pairwise (by decide)).trans (by decide)
  have htest : (Model.load portFiles [.v10, .v11]).toOption.any (fun m =>
      m.protocols.Pairwise (fun a b => b.1.wire ≤ a.1.wire)
        ∧ (m.protocols.foldlM (fun records vp => addVersion records vp.1 vp.2) []).toOption.any
          (fun records => (∃ r ∈ records.get? "of_hop", (1, Layout.sameAs 2) ∈ r.layouts)
            ∧ ((ofRecords records).placements "of_hop" "port").toOption.any (fun t =>
              t = [(2, Placement.mk "uint32_t" 0), (1, Placement.mk "uint16_t" 0)]) = true)
            = true) = true := by
    unfold Model.load
    rw [hfiles]
    decide +kernel
  obtain ⟨m, hload, hm⟩ := exists_ok_of_any htest
  obtain ⟨hnewest, hm⟩ := of_decide_eq_true hm
  obtain ⟨records, hrecords, hq⟩ := exists_ok_of_any hm
  rw [← buildRecords_of_pairwise hnewest] at hrecords
  obtain ⟨⟨r, hr, hshared⟩, hplaced⟩ := of_decide_eq_true hq
  obtain ⟨t, ht, heq⟩ := exists_ok_of_any hplaced
  rw [of_decide_eq_true heq] at ht
  have hfaithful := @memberTable_faithful _ _ _ hload (ofRecords records) hrecords
  exact ⟨m, ofRecords records, hload, hrecords, ⟨r, record_eq_ok_iff.mpr hr, hshared⟩, ht,
    fun vp hvp e he => (hfaithful.1 vp hvp e he).1⟩

end Catalog

end FlowBindings.Loci
