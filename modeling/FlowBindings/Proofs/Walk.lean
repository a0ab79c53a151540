import FlowBindings.Proofs.Layout

/-!
# The walk, step by step

`Protocol.build` reaches its classes through two recursions that share one list:
`visit` lays out declared classes behind everything they need, and `visitId` adds
the classes that identify actions and instructions. This module says once what
one step of either can do, and that every run is a sequence of such steps; what
holds of a protocol is then an induction over steps, and never again over the
recursions.

* A step of the walk (`Layable`) appends the layout of a declared class whose name
  is new and whose prerequisites are all there. `visit_walk` reads `visit` as a
  sequence of these.
* A step of an identification (`Identifiable`) puts an identifying class in its
  place. It may take the place of one that the same run has put there, never of a
  class from before the run: what was laid out stays where it was and as it was
  (`IdWalk.isPrefix`).
-/

namespace FlowBindings.Protocol

open List

/-- The names of classes, in order. -/
def names (done : List Class) : List String := done.map (·.name)

variable {done : List Class}

@[simp]
theorem names_append_singleton (done : List Class) (e : Class) :
    names (done ++ [e]) = names done ++ [e.name] := map_append

theorem any_name_eq_true_iff {name : String} :
    (done.any fun c => c.name = name) = true ↔ name ∈ names done := by
  unfold names
  rw [any_eq_true, mem_map]
  simp only [decide_eq_true_eq]

theorem names_subset_of_isPrefix {done' : List Class} (h : done <+: done') :
    names done ⊆ names done' := (h.map Class.name).subset

/-- A class that stands among the first ones stands there with all that was there before it. -/
theorem isPrefix_of_mem_names {ctx own : List Class} {e : Class} (hctx : ctx <+: done)
    (hown : own ++ [e] <+: done) (hfresh : e.name ∉ names own) (hmem : e.name ∈ names ctx) :
    own ++ [e] <+: ctx := by
  rcases prefix_or_prefix_of_prefix hown hctx with hshort | hlong
  · exact hshort
  · rcases prefix_concat_iff.mp hlong with rfl | hlong
    · exact prefix_rfl
    · exact absurd (names_subset_of_isPrefix hlong hmem) hfresh

/-- A sequence of steps goes from each state to a later one and leaves behind what
each of its steps brings about. -/
theorem foldlM_reaches {ε α β : Type} {f : β → α → Except ε β} {R : β → β → Prop}
    {P : α → β → Prop} (hrefl : ∀ b, R b b) (htrans : ∀ {a b c}, R a b → R b c → R a c)
    (hkeep : ∀ {a b b'}, R b b' → P a b → P a b') {l : List α}
    (hstep : ∀ a ∈ l, ∀ b b', f b a = .ok b' → R b b' ∧ P a b') {b b' : β}
    (h : l.foldlM f b = .ok b') : R b b' ∧ ∀ a ∈ l, P a b' := by
  induction l generalizing b with
  | nil =>
    cases h
    exact ⟨hrefl _, fun a ha => absurd ha not_mem_nil⟩
  | cons a l ih =>
    rw [foldlM_cons, bind_eq_ok_iff] at h
    obtain ⟨mid, hmid, hrest⟩ := h
    obtain ⟨hR, hP⟩ := hstep a mem_cons_self b mid hmid
    obtain ⟨hR', hP'⟩ := ih (fun x hx => hstep x (mem_cons_of_mem a hx)) hrest
    refine ⟨htrans hR hR', fun x hx => ?_⟩
    rcases mem_cons.mp hx with rfl | hx
    · exact hkeep hR' hP
    · exact hP' x hx

section Steps

variable (v : Version) (decls : Declared) (enums : List Enum)

/-- Every class is declared under its own name. -/
def Named : Prop := ∀ {n c file}, decls.get? n = some (c, file) → c.name = n

/-! ## Laying out declared classes -/

/-- What must be laid out before a class: its superclass and the classes its
members name. -/
def prerequisites (c : Source.Class) : List String :=
  c.superclass.toList ++ c.members.flatMap (dependencies decls)

variable {e : Class} {base done done' : List Class} {fuel : Nat} {c : Source.Class}
  {n name root up : String}

theorem mem_prerequisites_of_superclass
    (h : c.superclass = some up) : up ∈ prerequisites decls c := by
  refine mem_append_left _ ?_
  rw [h]
  exact mem_singleton_self up

theorem mem_prerequisites_of_member {m : Source.Member} (hm : m ∈ c.members)
    (hn : n ∈ dependencies decls m) : n ∈ prerequisites decls c :=
  mem_append_right _ (mem_flatMap.mpr ⟨m, hm, hn⟩)

/-- **A step of the walk**: the layout of a declared class whose name is new and
whose prerequisites are all laid out. -/
structure Layable (done : List Class) (c : Source.Class) (laid : Class) : Prop where
  /-- The class is declared. -/
  declared : ∃ file, decls.get? c.name = some (c, file)
  /-- Its name is new. -/
  fresh : c.name ∉ names done
  /-- What it needs is there. -/
  ready : ∀ n ∈ prerequisites decls c, n ∈ names done
  /-- Its layout follows from what is there. -/
  laidOut : Class.ofSource ⟨v, done, enums⟩ (visit.lineage done c.superclass) c = .ok laid

/-- Any number of steps of the walk. -/
inductive Walk (start : List Class) : List Class → Prop where
  /-- No step. -/
  | stay : Walk start start
  /-- One more step. -/
  | layOut {done : List Class} {c : Source.Class} {laid : Class} (before : Walk start done)
      (step : Layable v decls enums done c laid) : Walk start (done ++ [laid])

variable {v decls enums}

/-- The superclass of a class that the walk lays out is there. -/
theorem Layable.superclass_mem {ctx : List Class}
    (h : Layable v decls enums ctx c e) (hup : c.superclass = some up) :
    up ∈ names ctx :=
  h.ready up (mem_prerequisites_of_superclass decls hup)

/-- What the members of a class that the walk lays out name is there. -/
theorem Layable.dependencies_mem {ctx : List Class}
    (h : Layable v decls enums ctx c e) {m : Source.Member} (hm : m ∈ c.members)
    (hn : n ∈ dependencies decls m) : n ∈ names ctx :=
  h.ready n (mem_prerequisites_of_member decls hm hn)

theorem Walk.trans {a b c : List Class} (hab : Walk v decls enums a b)
    (hbc : Walk v decls enums b c) : Walk v decls enums a c := by
  induction hbc with
  | stay => exact hab
  | layOut _ step ih => exact .layOut ih step

theorem Walk.isPrefix {a b : List Class} (h : Walk v decls enums a b) : a <+: b := by
  induction h with
  | stay => exact prefix_rfl
  | layOut _ _ ih => exact ih.trans (prefix_append _ _)

/-- The recursion of the walk, with the superclass as one of the things a class
needs. -/
theorem visit_succ (fuel : Nat) (path : List String) (name : String) (done : List Class) :
    visit v decls enums (fuel + 1) path name done
      = if name ∈ names done then .ok done
        else if name ∈ path then .error (.cycle (path ++ [name]))
        else match decls.get? name with
          | none => .error (.classNotFound name)
          | some (c, _) => (do
            let ready ← (prerequisites decls c).foldlM
              (fun done n => visit v decls enums fuel (path ++ [name]) n done) done
            let laid ← Class.ofSource ⟨v, ready, enums⟩ (visit.lineage ready c.superclass) c
            pure (ready ++ [laid])) := by
  rw [visit]
  by_cases hdone : name ∈ names done
  · rw [if_pos hdone, if_pos (any_name_eq_true_iff.mpr hdone)]
    rfl
  rw [if_neg hdone, if_neg (fun h => hdone (any_name_eq_true_iff.mp h))]
  by_cases hpath : name ∈ path
  · rw [if_pos hpath, if_pos (contains_iff_mem.mpr hpath)]
    rfl
  rw [if_neg hpath, if_neg (fun h => hpath (contains_iff_mem.mp h))]
  cases decls.get? name with
  | none => rfl
  | some p =>
    obtain ⟨c, file⟩ := p
    unfold prerequisites
    cases hsuper : c.superclass with
    | none => simp [hsuper]
    | some up => simp [hsuper, foldlM_cons]

/-- What a successful visit did: nothing, for a class that is there already, or
the visits of everything the class needs and then its layout. -/
theorem visit_cases {path : List String} (h : visit v decls enums fuel path name done = .ok done') :
    (name ∈ names done ∧ done' = done)
      ∨ ∃ fuel' c file ready laid, fuel = fuel' + 1 ∧ name ∉ names done ∧ name ∉ path
        ∧ decls.get? name = some (c, file)
        ∧ (prerequisites decls c).foldlM
            (fun done n => visit v decls enums fuel' (path ++ [name]) n done) done = .ok ready
        ∧ Class.ofSource ⟨v, ready, enums⟩ (visit.lineage ready c.superclass) c = .ok laid
        ∧ done' = ready ++ [laid] := by
  cases fuel with
  | zero => cases h
  | succ fuel =>
    rw [visit_succ] at h
    split at h
    · cases h
      exact Or.inl ⟨‹_›, rfl⟩
    split at h
    · cases h
    split at h
    · cases h
    · rename_i hdone hpath _ c file hget
      obtain ⟨ready, hready, h⟩ := bind_eq_ok_iff.mp h
      obtain ⟨laid, hlaid, h⟩ := bind_eq_ok_iff.mp h
      cases h
      exact Or.inr ⟨fuel, c, file, ready, laid, rfl, hdone, hpath, hget, hready, hlaid, rfl⟩

/-- **A visit is a sequence of steps of the walk.** It ends with the class it was
asked for, and adds no class the walk is inside of. -/
theorem visit_walk (hnamed : Named decls)
    {path : List String} (h : visit v decls enums fuel path name done = .ok done') :
    (Walk v decls enums done done' ∧ ∀ n ∈ names done', n ∈ names done ∨ n ∉ path)
      ∧ name ∈ names done' := by
  induction fuel generalizing path name done done' with
  | zero => cases h
  | succ fuel ih =>
    obtain ⟨hname, rfl⟩ | ⟨fuel', c, file, ready, laid, hfuel, hdone, hpath, hget, hready, hlaid,
      rfl⟩ := visit_cases h
    · exact ⟨⟨.stay, fun n hn => Or.inl hn⟩, hname⟩
    cases hfuel
    obtain rfl := hnamed hget
    have hlaidName : laid.name = c.name := (ofSource_fields hlaid).1
    -- the visits of what the class needs keep clear of the path and of the class itself
    obtain ⟨⟨hwalk, hclear⟩, hneeds⟩ := foldlM_reaches
      (R := fun a b => Walk v decls enums a b
        ∧ ∀ n ∈ names b, n ∈ names a ∨ n ∉ path ++ [c.name])
      (P := fun n b => n ∈ names b)
      (fun a => ⟨.stay, fun n hn => Or.inl hn⟩)
      (fun hab hbc => ⟨hab.1.trans hbc.1, fun n hn => (hbc.2 n hn).elim (hab.2 n) Or.inr⟩)
      (fun hab hn => names_subset_of_isPrefix hab.1.isPrefix hn)
      (fun n _ _ _ hn => ih hn) hready
    have hfresh : c.name ∉ names ready := fun hmem =>
      (hclear c.name hmem).elim hdone
        (fun hpath' => hpath' (mem_append_right _ mem_cons_self))
    refine ⟨⟨.layOut hwalk ⟨⟨file, hget⟩, hfresh, hneeds, hlaid⟩, ?_⟩, ?_⟩
    · intro n hn
      rw [names_append_singleton, hlaidName, mem_append, mem_singleton] at hn
      rcases hn with hn | rfl
      · exact (hclear n hn).imp_right fun hn' hmem => hn' (mem_append_left _ hmem)
      · exact .inr hpath
    · simp [hlaidName]

/-! ## Identifying classes -/

/-- The declaration of the class that identifies a declared class below `root`:
what identifies it, under a name of its own. -/
def idDeclaration (root : String) (c : Source.Class) : Source.Class where
  name := idName root c.name
  superclass := c.superclass.map (idName root)
  members := c.members.filter identifies
  isVirtual := c.isVirtual
  params := []

variable (v decls enums)

/-- The declared classes from a name upwards. -/
inductive Above (name : String) : String → Prop where
  /-- The name itself. -/
  | self : Above name name
  /-- The superclass of a class on the way. -/
  | up {n up file : String} {c : Source.Class} (below : Above name n)
      (hget : decls.get? n = some (c, file)) (hsuper : c.superclass = some up) : Above name up

/-- **A step of an identification** that began with the classes `base`: the layout
of an identifying class whose name was new at the beginning. -/
structure Identifiable (root : String) (base done : List Class) (c : Source.Class)
    (laid : Class) : Prop where
  /-- The class to be identified is declared. -/
  declared : ∃ file, decls.get? c.name = some (c, file)
  /-- The name of the identifying class was new at the beginning. -/
  fresh : idName root c.name ∉ names base
  /-- What identifies the superclass is there. -/
  ready : ∀ up, c.superclass = some up → idName root up ∈ names done
  /-- What was added since the beginning identifies classes further up. -/
  added : ∀ n ∈ names done, n ∈ names base
    ∨ ∃ up, c.superclass = some up ∧ ∃ m, Above decls up m ∧ n = idName root m
  /-- The layout follows from what is there. -/
  laidOut : Class.ofSource ⟨v, done, enums⟩
    (visit.lineage done (idDeclaration root c).superclass) (idDeclaration root c) = .ok laid

/-- Any number of steps of the identification of a name, which began with the
classes `base`. -/
inductive IdWalk (root name : String) (base : List Class) : List Class → Prop where
  /-- No step. -/
  | stay : IdWalk root name base base
  /-- One more step, for a class on the way up from the name. -/
  | identify {done : List Class} {c : Source.Class} {laid : Class}
      (before : IdWalk root name base done) (above : Above decls name c.name)
      (step : Identifiable v decls enums root base done c laid) :
      IdWalk root name base (place done laid)

variable {v decls enums}

theorem Above.trans {a b c : String} (hab : Above decls a b) (hbc : Above decls b c) :
    Above decls a c := by
  induction hbc with
  | self => exact hab
  | up _ hget hsuper ih => exact .up ih hget hsuper

/-- Identifying a superclass is part of identifying the class. -/
theorem IdWalk.of_above
    (habove : Above decls name up) (h : IdWalk v decls enums root up base done) :
    IdWalk v decls enums root name base done := by
  induction h with
  | stay => exact .stay
  | identify _ above step ih => exact .identify ih (habove.trans above) step

theorem names_place (done : List Class) (c : Class) :
    names (place done c) = if c.name ∈ names done then names done else names done ++ [c.name] := by
  unfold place
  by_cases hc : c.name ∈ names done
  · rw [if_pos hc, if_pos (any_name_eq_true_iff.mpr hc)]
    unfold names
    rw [map_map]
    refine map_congr_left fun d _ => ?_
    by_cases hd : d.name = c.name
    · rw [Function.comp_apply, if_pos hd, hd]
    · rw [Function.comp_apply, if_neg hd]
  · rw [if_neg hc, if_neg (fun h => hc (any_name_eq_true_iff.mp h)), names_append_singleton]

/-- What stands in a list after a class was placed: the class, and what has another
name. -/
theorem mem_place {c : Class} (h : e ∈ place done c) :
    e = c ∨ e ∈ done := by
  unfold place at h
  split at h
  · obtain ⟨d, hd, rfl⟩ := mem_map.mp h
    split
    · exact Or.inl rfl
    · exact Or.inr hd
  · rcases mem_append.mp h with h | h
    · exact Or.inr h
    · exact Or.inl (mem_singleton.mp h)

/-- Placing a class leaves alone what stands before all classes of its name. -/
theorem isPrefix_place {c : Class} (h : base <+: done)
    (hc : c.name ∉ names base) : base <+: place done c := by
  obtain ⟨rest, rfl⟩ := h
  unfold place
  split
  · rw [map_append]
    have hbase : (base.map fun d => if d.name = c.name then c else d) = base := by
      conv_rhs => rw [← map_id base]
      refine map_congr_left fun d hd => if_neg fun hdc => hc ?_
      rw [← hdc]
      exact mem_map_of_mem hd
    rw [hbase]
    exact prefix_append _ _
  · exact (prefix_append _ _).trans (prefix_append _ _)

/-- **An identification leaves what was laid out before it alone.** -/
theorem IdWalk.isPrefix (h : IdWalk v decls enums root name base done) : base <+: done := by
  induction h with
  | stay => exact prefix_rfl
  | identify _ _ step ih =>
    refine isPrefix_place ih ?_
    rw [(ofSource_fields step.laidOut).1]
    exact step.fresh

theorem IdWalk.nodup (h : IdWalk v decls enums root name base done) (hbase : (names base).Nodup) :
    (names done).Nodup := by
  induction h with
  | stay => exact hbase
  | identify _ _ _ ih =>
    rw [names_place]
    split
    · exact ih
    · rename_i hnew
      rw [nodup_append]
      exact ⟨ih, nodup_singleton _, fun a ha b hb hab =>
        hnew (by rw [← mem_singleton.mp hb, ← hab]; exact ha)⟩

/-- What an identification adds identifies a class on the way up. -/
theorem IdWalk.mem_cases (h : IdWalk v decls enums root name base done) (he : e ∈ done) :
    e ∈ base ∨ ∃ c ctx, Above decls name c.name ∧ base <+: ctx
      ∧ Identifiable v decls enums root base ctx c e := by
  induction h with
  | stay => exact Or.inl he
  | @identify ctx c laid before above step ih =>
    rcases mem_place he with rfl | he
    · exact Or.inr ⟨c, ctx, above, before.isPrefix, step⟩
    · exact ih he

/-- An identification adds names that identify classes on the way up. -/
theorem IdWalk.names_cases (h : IdWalk v decls enums root name base done) (hn : n ∈ names done) :
    n ∈ names base ∨ ∃ m, Above decls name m ∧ n = idName root m := by
  obtain ⟨e, he, rfl⟩ := mem_map.mp hn
  rcases h.mem_cases he with he | ⟨c, ctx, above, -, step⟩
  · exact Or.inl (mem_map_of_mem he)
  · exact Or.inr ⟨c.name, above, (ofSource_fields step.laidOut).1⟩

/-- The recursion of an identification, with the superclass as a list of one. -/
theorem visitId_succ (hnamed : Named decls)
    (root : String) (fuel : Nat) (name : String) (done : List Class) :
    visitId v decls enums root (fuel + 1) name done
      = if idName root name ∈ names done then .ok done
        else match decls.get? name with
          | none => .error (.undeclaredId name)
          | some (c, _) => (do
            let ready ← c.superclass.toList.foldlM
              (fun done up => visitId v decls enums root fuel up done) done
            let laid ← Class.ofSource ⟨v, ready, enums⟩
              (visit.lineage ready (idDeclaration root c).superclass) (idDeclaration root c)
            if !laid.isVirtual && !laid.isFixedLength then
              throw (.variableId (idName root name))
            pure (place ready laid)) := by
  rw [visitId]
  by_cases hdone : idName root name ∈ names done
  · rw [if_pos hdone, if_pos (any_name_eq_true_iff.mpr hdone)]
    rfl
  rw [if_neg hdone, if_neg (fun h => hdone (any_name_eq_true_iff.mp h))]
  cases hget : decls.get? name with
  | none => rfl
  | some p =>
    obtain ⟨c, file⟩ := p
    obtain rfl := hnamed hget
    unfold idDeclaration
    cases hsuper : c.superclass with
    | none => simp [hsuper]
    | some up => simp [hsuper, foldlM_cons]

/-- What a successful identification did: nothing, for a class that is identified already,
or the identification of the superclass and then the layout of the identifying class. -/
theorem visitId_cases (hnamed : Named decls)
    (h : visitId v decls enums root fuel name done = .ok done') :
    (idName root name ∈ names done ∧ done' = done)
      ∨ ∃ fuel' c file ready laid, fuel = fuel' + 1 ∧ idName root name ∉ names done
        ∧ decls.get? name = some (c, file)
        ∧ (c.superclass = none ∧ ready = done
          ∨ ∃ up, c.superclass = some up
            ∧ visitId v decls enums root fuel' up done = .ok ready)
        ∧ Class.ofSource ⟨v, ready, enums⟩
            (visit.lineage ready (idDeclaration root c).superclass) (idDeclaration root c)
              = .ok laid
        ∧ done' = place ready laid := by
  cases fuel with
  | zero => cases h
  | succ fuel =>
    rw [visitId_succ hnamed] at h
    split at h
    · cases h
      exact Or.inl ⟨‹_›, rfl⟩
    split at h
    · cases h
    rename_i hfresh _ c file hget
    obtain ⟨ready, hready, h⟩ := bind_eq_ok_iff.mp h
    obtain ⟨laid, hlaid, h⟩ := bind_eq_ok_iff.mp h
    split at h
    · cases h
    cases h
    refine Or.inr ⟨fuel, c, file, ready, laid, rfl, hfresh, hget, ?_, hlaid, rfl⟩
    cases hsuper : c.superclass with
    | none =>
      rw [hsuper] at hready
      cases hready
      exact Or.inl ⟨rfl, rfl⟩
    | some up =>
      rw [hsuper, Option.toList_some, foldlM_cons, bind_eq_ok_iff] at hready
      obtain ⟨mid, hmid, hready⟩ := hready
      cases hready
      exact Or.inr ⟨up, rfl, hmid⟩

/-- **An identification is a sequence of its steps**, and ends with the class that
identifies what it was asked for. -/
theorem visitId_idWalk (hnamed : Named decls)
    (h : visitId v decls enums root fuel name done = .ok done') :
    IdWalk v decls enums root name done done' ∧ idName root name ∈ names done' := by
  induction fuel generalizing name done' with
  | zero => cases h
  | succ fuel ih =>
    obtain ⟨hname, rfl⟩ | ⟨fuel', c, file, ready, laid, hfuel, hfresh, hget, hready, hlaid, rfl⟩ :=
      visitId_cases hnamed h
    · exact ⟨.stay, hname⟩
    cases hfuel
    obtain rfl := hnamed hget
    have hup : IdWalk v decls enums root c.name done ready
        ∧ (∀ up, c.superclass = some up → idName root up ∈ names ready)
        ∧ ∀ n ∈ names ready, n ∈ names done
          ∨ ∃ up, c.superclass = some up ∧ ∃ m, Above decls up m ∧ n = idName root m := by
      rcases hready with ⟨hsuper, rfl⟩ | ⟨up, hsuper, hmid⟩
      · refine ⟨.stay, fun up hup => ?_, fun n hn => Or.inl hn⟩
        rw [hsuper] at hup
        cases hup
      · obtain ⟨hwalk, hname⟩ := ih hmid
        refine ⟨hwalk.of_above (.up .self hget hsuper), fun up' hup' => ?_, fun n hn => ?_⟩
        · rw [hsuper, Option.some.injEq] at hup'
          exact hup' ▸ hname
        · exact (hwalk.names_cases hn).imp_right fun hm => ⟨up, hsuper, hm⟩
    refine ⟨.identify hup.1 .self ⟨⟨file, hget⟩, hfresh, hup.2.1, hup.2.2, hlaid⟩, ?_⟩
    have hname : laid.name = idName root c.name := (ofSource_fields hlaid).1
    rw [names_place, hname]
    split
    · assumption
    · exact mem_append_right _ (mem_singleton_self _)

end Steps

end FlowBindings.Protocol
