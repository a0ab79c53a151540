import FlowBindings.Dissector.Field
import FlowBindings.Proofs.Measuring
import FlowBindings.Proofs.Names
import FlowBindings.Proofs.Sorting

/-!
# The fields of the dissector

Every member of every class but the padding has a field, in the order of the versions, of the
classes and of the wire. The base of a field comes from a cascade of tables (`intendedBase`): lists
have none, constants have that of their enum, some fields have one under their own name, and the
rest have that of their type.

The table of single fields is keyed by the names of fields, but whether it has an entry is asked
with the type. So a field with an entry is `Unnoticed` unless its type has one too, and is shown as
its type is; and a field whose type has an entry is `Misread` if its name has none, and ends the
work. A type has an entry only where a class has its name less two letters, because nothing else
measures such a type (`class_of_namedType`).
-/

namespace FlowBindings.Dissector

open Text Protocol List Table WireType

/-! ## The base of a field -/

/-- The base of a type. -/
def typeBase (type : String) : String := (bases.get? type).getD "NONE"

/-- A field that is no list and holds no constants. -/
def Plain (p : Protocol) (c : Class) (f : FlowBindings.Field) : Prop :=
  startsWith f.type "list" = false ∧ enumOf? p c.name f.name f.type = none

/-- **The base that a field is meant to have.** -/
def intendedBase (p : Protocol) (c : Class) (f : FlowBindings.Field) : String :=
  if startsWith f.type "list" then "NONE"
  else
    match enumOf? p c.name f.name f.type with
    | some e => if e.isBitmask then "HEX" else "DEC"
    | none => (namedBases.get? f.name).getD (typeBase f.type)

/-- A field that has a base of its own, which is not looked for. -/
def Unnoticed (p : Protocol) (c : Class) (f : FlowBindings.Field) : Prop :=
  Plain p c f ∧ namedBases.has f.name = true ∧ namedBases.has f.type = false

/-- A field that has no base of its own, but is asked for it. -/
def Misread (p : Protocol) (c : Class) (f : FlowBindings.Field) : Prop :=
  Plain p c f ∧ namedBases.has f.type = true ∧ namedBases.has f.name = false

variable {c : Class} {f : FlowBindings.Field} {p : Protocol} {v : Version}

theorem intendedBase_of_plain (h : Plain p c f) :
    intendedBase p c f = (namedBases.get? f.name).getD (typeBase f.type) := by
  unfold intendedBase
  rw [h.1, if_neg Bool.false_ne_true, h.2]

/-- The single fields with a base of their own are shown in hexadecimal digits. -/
theorem Unnoticed.intendedBase_eq (h : Unnoticed p c f) : intendedBase p c f = "HEX" := by
  have hall : ∀ row ∈ namedBases, row.2 = "HEX" := by decide
  obtain ⟨hplain, hname, -⟩ := h
  rw [has_eq_isSome] at hname
  obtain ⟨base, hbase⟩ := Option.isSome_iff_exists.mp hname
  rw [intendedBase_of_plain hplain, hbase]
  exact hall _ (mem_of_get? hbase)

/-- A base that is meant for a field, or shown in place of the one that is not noticed. -/
def BaseShown (p : Protocol) (c : Class) (f : FlowBindings.Field) (base : String) : Prop :=
  (¬ Unnoticed p c f → base = intendedBase p c f) ∧ (Unnoticed p c f → base = typeBase f.type)

/-- **How the base of a plain field comes out.** The table is asked with the type, and read with
the name. -/
theorem plainBase_endsIn (hplain : Plain p c f) :
    EndsIn (fun base => ¬ Misread p c f ∧ BaseShown p c f base) (fun _ => Misread p c f)
      (plainBase f.name f.type) := by
  unfold plainBase
  by_cases htype : namedBases.has f.type = true
  · have hnoticed : ¬ Unnoticed p c f := fun h => Bool.false_ne_true (h.2.2.symm.trans htype)
    rw [if_pos htype]
    cases hget : namedBases.get? f.name with
    | none =>
      have hname : namedBases.has f.name = false := by rw [has_eq_isSome, hget]; rfl
      exact ⟨hplain, htype, hname⟩
    | some base =>
      refine ⟨fun h => Bool.false_ne_true (h.2.2.symm.trans (has_of_get? hget)), ?_, ?_⟩
      · intro _
        rw [intendedBase_of_plain hplain, hget]
        rfl
      · exact fun h => absurd h hnoticed
  · rw [if_neg htype]
    refine ⟨fun h => htype h.2.1, fun h => ?_, fun _ => rfl⟩
    have hname : namedBases.get? f.name = none := by
      rw [← Option.not_isSome_iff_eq_none, ← has_eq_isSome]
      exact fun hname => h ⟨hplain, hname, Bool.eq_false_iff.mpr htype⟩
    rw [intendedBase_of_plain hplain, hname]
    rfl

/-- **How the style of a field comes out.** -/
theorem styleIn_endsIn (p : Protocol) (c : Class) (f : FlowBindings.Field) :
    EndsIn (fun s => ¬ Misread p c f ∧ BaseShown p c f s.base) (fun _ => Misread p c f)
      (styleIn p c.name f.name f.type) := by
  -- A field that is not plain is neither misread nor unnoticed.
  have hother : ∀ base, ¬ Plain p c f → base = intendedBase p c f →
      ¬ Misread p c f ∧ BaseShown p c f base := fun base hplain hbase =>
    ⟨fun h => hplain h.1, fun _ => hbase, fun h => absurd h.1 hplain⟩
  unfold styleIn
  by_cases hlist : startsWith f.type "list" = true
  · rw [if_pos hlist]
    refine hother _ (fun h => Bool.false_ne_true (h.1.symm.trans hlist)) ?_
    rw [intendedBase, if_pos hlist]
  · rw [if_neg hlist]
    cases henum : enumOf? p c.name f.name f.type with
    | some e =>
      refine hother _ (fun h => ?_) ?_
      · cases henum.symm.trans h.2
      · rw [intendedBase, if_neg hlist, henum]
    | none => exact (plainBase_endsIn ⟨Bool.eq_false_iff.mpr hlist, henum⟩).bind fun _ h => h

/-! ## One field for each member -/

/-- The members of a model that are no padding, by version, class and place on the wire. -/
def memberRows (m : Model) : List (Version × Protocol × Class × FlowBindings.Field) :=
  m.protocols.flatMap fun (v, p) => p.classes.flatMap fun c =>
    (c.members.filterMap Member.field?).map fun f => (v, p, c, f)

/-- A field shows a member: under its name, and in the base that is meant or shown in its place. -/
def Shows : Version × Protocol × Class × FlowBindings.Field → Field → Prop
  | (v, p, c, f), s => s.fullName = fullName v c.name f.name ∧ s.name = f.name
      ∧ BaseShown p c f s.style.base

theorem members_eq (m : Model) : members m = (memberRows m).map Prod.snd := by
  simp [members, memberRows, map_flatMap, Function.comp_def, Class.fields]

theorem mem_memberRows {m : Model} :
    (v, p, c, f) ∈ memberRows m ↔ (v, p) ∈ m.protocols ∧ c ∈ p.classes ∧ f ∈ c.fields := by
  simp only [memberRows, mem_flatMap, mem_map, Prod.exists, Prod.mk.injEq, Class.fields]
  constructor
  · rintro ⟨v, p, hp, c, hc, f, hf, rfl, rfl, rfl, rfl⟩
    exact ⟨hp, hc, hf⟩
  · rintro ⟨hp, hc, hf⟩
    exact ⟨v, p, hp, c, hc, f, hf, rfl, rfl, rfl, rfl⟩

/-- **How the fields come out**: one for each member, unless a member is misread. -/
theorem fields_endsIn {m : Model} (hversion : ∀ vp ∈ m.protocols, vp.2.version = vp.1) :
    EndsIn (fun shown => Forall₂ (fun x s => ¬ Misread x.2.1 x.2.2.1 x.2.2.2 ∧ Shows x s)
        (memberRows m) shown)
      (fun _ => ∃ x ∈ memberRows m, Misread x.2.1 x.2.2.1 x.2.2.2) (fields m) := by
  rw [fields, members_eq, mapM_map]
  refine endsIn_mapM ?_
  rintro ⟨v, p, c, f⟩ hrow
  have hstyle := (styleIn_endsIn p c f).imp (fun _ h => h)
    fun _ h => (⟨(v, p, c, f), hrow, h⟩ : ∃ x ∈ memberRows m, Misread x.2.1 x.2.2.1 x.2.2.2)
  refine hstyle.bind fun style hshown => ⟨hshown.1, ?_, rfl, hshown.2⟩
  rw [hversion (v, p) (mem_memberRows.mp hrow).1]

/-! ## Which types are asked for a base of their own -/

/-- Such a type is measured only as a class. -/
theorem class_of_extent? {done : List Class} {enums : List Enum} {type : String}
    (htype : type ∈ namedBases.keys) (henum : enums.find? (·.name = type) = none) {e : Extent}
    (h : Context.extent? ⟨v, done, enums⟩ type = some e) : dropLast 2 type ∈ names done := by
  have hform : isList type = false ∧ startsWith type "struct" = false ∧ type ≠ "octets"
      ∧ resolve? v type = some (1, type) ∧ baseExtents.get? type = none := by
    have hall : ∀ v ∈ Version.all, ∀ type ∈ namedBases.keys, isList type = false
        ∧ startsWith type "struct" = false ∧ type ≠ "octets"
        ∧ resolve? v type = some (1, type) ∧ baseExtents.get? type = none := by
      decide
    exact hall v (Version.mem_all v) type htype
  obtain ⟨hlist, hstruct, hoctets, hresolve, htable⟩ := hform
  rw [Context.extent?, hlist, if_neg Bool.false_ne_true, hstruct, if_neg Bool.false_ne_true,
    if_neg hoctets, hresolve, Option.bind_some, Context.baseExtent?] at h
  cases hfind : done.find? (·.name = dropLast 2 type) with
  | some c =>
    have hname : c.name = dropLast 2 type := by simpa using find?_some hfind
    exact hname ▸ mem_map_of_mem (mem_of_find?_eq_some hfind)
  | none =>
    simp only [hfind, Context.tableName, henum, htable] at h
    cases h

/-- **A member of such a type stands beside a class** that has its name less two letters. -/
theorem class_of_namedType {decls : Declared} {enums : List Enum}
    {done : List Class} {taken : Set String} (h : Built v decls enums done taken) {e : Class}
    (he : e ∈ done) (hf : f ∈ e.fields) (htype : f.type ∈ namedBases.keys)
    (henum : enums.find? (·.name = f.type) = none) : dropLast 2 f.type ∈ names done := by
  induction h with
  | start => exact absurd he not_mem_nil
  | @layOut done taken c laid before step ih =>
    refine names_subset_of_isPrefix (prefix_append _ _) ?_
    rcases mem_append.mp he with he | he
    · exact ih he
    · rw [mem_singleton.mp he] at hf
      exact class_of_extent? htype henum (extent?_of_mem_fields step.laidOut hf)
  | @identify done found taken root d before hversion hroot hd hbelow run ih =>
    refine names_subset_of_isPrefix run.isPrefix ?_
    rcases run.mem_cases he with he | ⟨c, ctx, -, -, step⟩
    · exact ih he
    · have hmem := class_of_extent? htype henum (extent?_of_mem_fields step.laidOut hf)
      rcases step.added _ hmem with hmem | ⟨up, -, m, -, heq⟩
      · exact hmem
      · -- The names that identify classes begin with another letter.
        have hfirst : ∀ root ∈ idRoots, ∀ type ∈ namedBases.keys,
            (dropLast 2 type).toList.head? ≠ root.toList.head? := by decide
        have hhead : (idName root m).toList.head? = root.toList.head? := by
          have hne : ∀ root ∈ idRoots, root.toList ≠ [] := by decide
          rw [idName, String.toList_append, String.toList_append, append_assoc,
            head?_append_of_ne_nil _ (hne root hroot)]
        exact absurd (heq ▸ hhead) (hfirst root hroot f.type htype)

/-! ## The fields of a loaded model -/

/-- **The fields of a loaded model.** There is one field for each member that is no padding, in the
order of the versions, the classes and the wire, unless a member is misread, which none is where no
class has the name of such a type less two letters. A field has the base that is meant for it,
unless it has one of its own that is not noticed and is not that of its type. -/
theorem fields_of_load {files : Directory} {targets : List Version} {m : Model}
    (hload : Model.load files targets = .ok m) :
    ((∃ shown, fields m = .ok shown) ↔ ∀ x ∈ memberRows m, ¬ Misread x.2.1 x.2.2.1 x.2.2.2)
    ∧ ((∀ vp ∈ m.protocols, ∀ t ∈ namedBases.keys, dropLast 2 t ∉ names vp.2.classes) →
      ∃ shown, fields m = .ok shown)
    ∧ ∀ shown, fields m = .ok shown → List.Forall₂ (fun x s => Shows x s
        ∧ (s.style.base = intendedBase x.2.1 x.2.2.1 x.2.2.2
          ↔ (Unnoticed x.2.1 x.2.2.1 x.2.2.2 → typeBase x.2.2.2.type = "HEX")))
      (memberRows m) shown := by
  obtain ⟨-, -, hmade⟩ := Model.made_of_load hload
  have hversion : ∀ vp ∈ m.protocols, vp.2.version = vp.1 := by
    intro vp hvp
    obtain ⟨sources, hbuild, -⟩ := hmade vp hvp
    exact (build_eq_ok_iff.mp hbuild).2.2.2.1
  have hends := fields_endsIn hversion
  have hreturns : (∃ shown, fields m = .ok shown)
      ↔ ∀ x ∈ memberRows m, ¬ Misread x.2.1 x.2.2.1 x.2.2.2 := by
    constructor
    · rintro ⟨shown, hshown⟩ x hx
      exact ((forall₂_and_left _ _).mp (hends.of_ok hshown)).1 x hx
    · intro hnone
      cases hfields : fields m with
      | ok shown => exact ⟨shown, rfl⟩
      | error e =>
        obtain ⟨x, hx, hmisread⟩ := hends.of_error hfields
        exact absurd hmisread (hnone x hx)
  refine ⟨hreturns, fun hfree => hreturns.mpr ?_, fun shown hshown => ?_⟩
  · rintro ⟨v, p, c, f⟩ hrow ⟨⟨-, hplain⟩, htype, -⟩
    obtain ⟨hp, hc, hf⟩ := mem_memberRows.mp hrow
    obtain ⟨sources, hbuild, -⟩ := hmade _ hp
    have henum : (protocolEnums sources).find? (·.name = f.type) = none := by
      rw [← (build_eq_ok_iff.mp hbuild).2.2.2.2]
      exact (Option.or_eq_none_iff.mp hplain).1
    have hkey : f.type ∈ namedBases.keys := by
      rw [Table.has_eq_isSome] at htype
      obtain ⟨base, hbase⟩ := Option.isSome_iff_exists.mp htype
      exact mem_map_of_mem (Table.mem_of_get? hbase)
    exact hfree _ hp _ hkey (class_of_namedType (built_of_build hbuild).1 hc hf hkey henum)
  · refine (hends.of_ok hshown).imp fun x s hs => ⟨hs.2, ?_⟩
    by_cases hunnoticed : Unnoticed x.2.1 x.2.2.1 x.2.2.2
    · rw [hs.2.2.2.2 hunnoticed, hunnoticed.intendedBase_eq]
      exact ⟨fun h _ => h, fun h => h hunnoticed⟩
    · exact iff_of_true (hs.2.2.2.1 hunnoticed) fun h => absurd h hunnoticed

/-- A class with constants, padding and a field that is listed under its name. -/
def flowFiles : Directory :=
  [("standard-1.0", "#version 1
enum ofp_table { ALL = 255 };
struct of_flow_mod { uint8_t table_id; pad(3); uint64_t cookie; };
")]

theorem exists_flow_fields :
    ∃ (m : Model) (shown : List Field), Model.load flowFiles [.v10] = .ok m ∧ fields m = .ok shown
      ∧ shown.map (fun s => (s.fullName, s.style.base))
        = [("of10.flow_mod.table_id", "DEC"), ("of10.flow_mod.cookie", "DEC")]
      ∧ (memberRows m).map (fun x => (x.2.2.2.name, intendedBase x.2.1 x.2.2.1 x.2.2.2))
        = [("table_id", "DEC"), ("cookie", "HEX")] := by
  have htest : (Model.load flowFiles [.v10]).toOption.any (fun m =>
      (fields m).toOption.any fun shown => shown.map (fun s => (s.fullName, s.style.base))
          = [("of10.flow_mod.table_id", "DEC"), ("of10.flow_mod.cookie", "DEC")]
        ∧ (memberRows m).map (fun x => (x.2.2.2.name, intendedBase x.2.1 x.2.2.1 x.2.2.2))
          = [("table_id", "DEC"), ("cookie", "HEX")]) = true := by
    simp only [Model.load, Model.inputFiles, mergeSort_files, Protocol.build, mergeSort_names]
    decide +kernel
  obtain ⟨m, hload, htest⟩ := exists_ok_of_any htest
  obtain ⟨shown, hshown, htest⟩ := exists_ok_of_any htest
  exact ⟨m, shown, hload, hshown, of_decide_eq_true htest⟩

/-- The two fields of a message are shown. -/
theorem fields_of_load_flow :
    ∃ (m : Model) (shown : List Field), Model.load flowFiles [.v10] = .ok m ∧ fields m = .ok shown
      ∧ List.Forall₂ Shows (memberRows m) shown
      ∧ shown.map (·.fullName) = ["of10.flow_mod.table_id", "of10.flow_mod.cookie"] := by
  obtain ⟨m, shown, hload, hshown, hall, -⟩ := exists_flow_fields
  have hforall := (fields_of_load hload).2.2 shown hshown
  refine ⟨m, shown, hload, hshown, hforall.imp fun _ _ h => h.1, ?_⟩
  simpa [Function.comp_def] using congrArg (List.map Prod.fst) hall

/-- **The base of a single field is not noticed**: a cookie is listed to be shown in hexadecimal
digits, and is shown in decimal ones. -/
theorem cookie_unnoticed :
    ∃ (m : Model) (shown : List Field), Model.load flowFiles [.v10] = .ok m ∧ fields m = .ok shown
      ∧ namedBases.get? "cookie" = some "HEX"
      ∧ shown.map (·.style.base) = ["DEC", "DEC"]
      ∧ (memberRows m).map (fun x => intendedBase x.2.1 x.2.2.1 x.2.2.2) = ["DEC", "HEX"] := by
  obtain ⟨m, shown, hload, hshown, hall, hrows⟩ := exists_flow_fields
  refine ⟨m, shown, hload, hshown, rfl, ?_, ?_⟩
  · simpa [Function.comp_def] using congrArg (List.map Prod.snd) hall
  · simpa [Function.comp_def] using congrArg (List.map Prod.snd) hrows

end FlowBindings.Dissector
