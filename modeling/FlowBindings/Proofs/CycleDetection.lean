import FlowBindings.Proofs.IdentifiedClasses
import FlowBindings.Proofs.Names

/-!
# Circles of declarations

Classes that need each other in a circle have no layout. The walk finds every circle it runs
into and reports it name by name, and it reports nothing else as a circle: each name on the
path leads to the next (`LeadsTo`), and the last one occurs before.

It is complete because every declared class is visited. What the walk lays out stands behind
all it needs, so in a protocol whose declared classes are all there in their own right nothing
leads back to itself (`Built.not_circular`). A declaration whose name an identifying class has
taken is never looked at, and a circle through it goes unnoticed. Worse, an identification that
comes to such a declaration may follow its superclasses without end. Neither happens before
version 1.3, nor where no declared name begins as identifying names do. `build_findsCircles`
says all of this, and what the other two complaints about names mean.
-/

namespace FlowBindings

open List Text

/-- Nothing leads back to itself. -/
def Acyclic {α : Type} (R : α → α → Prop) : Prop := ∀ a, ¬ Relation.TransGen R a a

/-! ## Types that name a class -/

theorem Text.exists_eq_append_of_endsWith {s tail : String} (h : Text.endsWith s tail = true) :
    ∃ front, s = front ++ tail := by
  unfold endsWith at h
  obtain ⟨front, hfront⟩ := isSuffixOf_iff_suffix.mp h
  refine ⟨String.ofList front, ?_⟩
  rw [← String.toList_inj, String.toList_append, String.toList_ofList, hfront]

theorem type_of_className {type n : String} (h : WireType.className type = n)
    (hn : '\n' ∉ n.toList) : type = n ++ "_t" ∨ type = n := by
  have htrim : ∀ s : String, trimTail s "_t" = n → s = n ++ "_t" ∨ s = n := by
    intro s hs
    unfold trimTail at hs
    split at hs
    · rename_i hends
      obtain ⟨front, rfl⟩ := exists_eq_append_of_endsWith hends
      left
      rw [← hs]
      exact congrArg (· ++ "_t") (dropLast_append_t front).symm
    · exact Or.inr hs
  unfold WireType.className trimLineTail at h
  dsimp only at h
  split at h
  · exact htrim type h
  split at h
  · -- the name would end in a line break
    refine absurd ?_ hn
    rw [← h, String.toList_append]
    exact mem_append_right _ (by decide)
  · exact htrim type h

theorem newline_not_mem_of_isWord {s : String} (h : isWord s = true) : '\n' ∉ s.toList :=
  (wordChars_of_isWord h).not_mem (by decide)

namespace Protocol

/-! ## What a declared class leads to -/

/-- **One declared class leads to another** when it extends it, or when one of its fields has
the type `T_t` or `T` for the other's name `T`. -/
def LeadsTo (sources : List Source) (a b : String) : Prop :=
  b ∈ (classesOf sources).map (·.name) ∧ ∃ c ∈ classesOf sources, c.name = a
    ∧ (c.superclass = some b
      ∨ ∃ m ∈ c.members, ∃ type ∈ m.type?, type = b ++ "_t" ∨ type = b)

instance (sources : List Source) (a b : String) : Decidable (LeadsTo sources a b) :=
  inferInstanceAs (Decidable (_ ∧ _))

section LeadsTo

variable {sources : List Source} {a b : String}

theorem LeadsTo.needs (hnodup : ((classesOf sources).map (·.name)).Nodup)
    (h : LeadsTo sources a b) : Needs (classRows sources) a b := by
  obtain ⟨hb, c, hc, rfl, hcause⟩ := h
  obtain ⟨file, hget⟩ := exists_get?_of_mem_classesOf hnodup hc
  have hhas : (classRows sources).has b = true := has_classRows_iff.mpr hb
  refine ⟨c, file, hget, ?_⟩
  rcases hcause with hsuper | ⟨m, hm, type, htype, hname⟩
  · exact mem_prerequisites_of_superclass _ hsuper
  · refine mem_prerequisites_of_member _ hm ?_
    unfold dependencies
    rw [htype, mem_filter]
    refine ⟨?_, hhas⟩
    rcases hname with rfl | rfl
    · rw [className_append_t]
      exact mem_cons_self
    · exact mem_cons_of_mem _ (mem_singleton_self _)

theorem Needs.leadsTo (hwords : ∀ c ∈ classesOf sources, isWord c.name = true)
    (h : Needs (classRows sources) a b) (hb : (classRows sources).has b = true) :
    LeadsTo sources a b := by
  obtain ⟨c, file, hget, hneeded⟩ := h
  obtain ⟨hc, rfl⟩ := mem_classesOf_of_get? hget
  have hmem : b ∈ (classesOf sources).map (·.name) := has_classRows_iff.mp hb
  refine ⟨hmem, c, hc, rfl, ?_⟩
  rcases mem_append.mp hneeded with hsuper | hmember
  · exact Or.inl (Option.mem_toList.mp hsuper)
  · right
    obtain ⟨m, hm, hdep⟩ := mem_flatMap.mp hmember
    unfold dependencies at hdep
    split at hdep
    · exact absurd hdep not_mem_nil
    · rename_i type htype
      refine ⟨m, hm, type, htype, ?_⟩
      obtain ⟨d, hd, rfl⟩ := mem_map.mp hmem
      rcases mem_cons.mp (mem_filter.mp hdep).1 with hname | hname
      · exact type_of_className hname.symm (newline_not_mem_of_isWord (hwords d hd))
      · exact Or.inr (mem_singleton.mp hname).symm

end LeadsTo

/-! ## States without circles -/

section Built

variable {v : Version} {decls : Declared} {enums : List Enum} {done : List Class}
  {taken : Set String}

/-- **What declared classes need stands before them**, where no declared name is taken. -/
theorem Built.own_of_needs (h : Built v decls enums done taken) (hnamed : Named decls)
    (hfree : ∀ n, decls.has n = true → n ∉ taken) {n m : String} (hn : n ∈ names done)
    (hneeds : Needs decls n m) :
    ∃ own, own <+: done ∧ n ∉ names own ∧ m ∈ names own ∧
      ∀ ctx, ctx <+: done → n ∈ names ctx → own <+: ctx := by
  obtain ⟨c, file, hget, hm⟩ := hneeds
  obtain rfl := hnamed hget
  obtain ⟨own, e, hpre, hstep⟩ := h.own hget hn (hfree c.name (Table.has_of_get? hget))
  have hname : e.name = c.name := (ofSource_fields hstep.laidOut).1
  refine ⟨own, (prefix_append _ _).trans hpre, hstep.fresh, hstep.ready m hm,
    fun ctx hctx hmem => (prefix_append _ _).trans
      (isPrefix_of_mem_names hctx hpre (by rw [hname]; exact hstep.fresh) (by rwa [hname]))⟩

/-- The first classes need nothing that stands behind them. -/
theorem Built.mem_of_needs (h : Built v decls enums done taken) (hnamed : Named decls)
    (hfree : ∀ n, decls.has n = true → n ∉ taken) {ctx : List Class} (hctx : ctx <+: done)
    {n m : String} (hn : n ∈ names ctx) (hneeds : Relation.ReflTransGen (Needs decls) n m) :
    m ∈ names ctx := by
  induction hneeds with
  | refl => exact hn
  | tail _ hstep ih =>
    obtain ⟨own, -, -, hm, hfront⟩ :=
      h.own_of_needs hnamed hfree (names_subset_of_isPrefix hctx ih) hstep
    exact names_subset_of_isPrefix (hfront ctx hctx ih) hm

/-- **Nothing that is there leads back to itself**, where no declared name is taken. -/
theorem Built.not_circular (h : Built v decls enums done taken) (hnamed : Named decls)
    (hfree : ∀ n, decls.has n = true → n ∉ taken) {n : String} (hn : n ∈ names done) :
    ¬ Relation.TransGen (Needs decls) n n := by
  intro hcircle
  obtain ⟨m, hstep, hback⟩ := Relation.TransGen.head'_iff.mp hcircle
  obtain ⟨own, hpre, hnew, hm, -⟩ := h.own_of_needs hnamed hfree hn hstep
  exact hnew (h.mem_of_needs hnamed hfree hpre hm hback)

/-- **No declared name is taken** before version 1.3, or where none begins as identifying names
do. -/
theorem Built.not_mem_taken (h : Built v decls enums done taken)
    (hclear : v.wire < 4 ∨ ∀ n, decls.has n = true → ∀ root ∈ idRoots,
      startsWith n (root ++ "_id") = false) (n : String) (hn : decls.has n = true) :
    n ∉ taken := by
  intro htaken
  obtain ⟨hversion, e, -, rfl, root, hroot, c, base, ctx, hstep⟩ := h.taken_cases htaken
  rcases hclear with hold | hclear
  · omega
  · have hbegins : startsWith e.name (root ++ "_id") = true := by
      rw [(ofSource_fields hstep.laidOut).1]
      exact startsWith_idName root c.name
    rw [hclear e.name hn root hroot] at hbegins
    cases hbegins

end Built

/-! ## What is reported -/

section Reported

variable {v : Version} {sources : List Source}

/-- **A reported circle is one.** -/
theorem isChain_of_cycle (hwords : ∀ c ∈ classesOf sources, isWord c.name = true)
    {path : List String} (h : build v sources = .error (.cycle path)) :
    path.IsChain (LeadsTo sources) ∧ ∃ inside again, path = inside ++ [again] ∧ again ∈ inside := by
  obtain ⟨-, hfails⟩ := fails_of_build h rfl
  cases hfails with
  | @circle inside again chain hagain =>
    refine ⟨chain.imp_of_mem_imp fun a b _ hb hneeds => ?_, inside, again, rfl, hagain⟩
    -- every name on the path leads on from somewhere on it, so it is declared
    have hinside : b ∈ inside := by
      rcases mem_append.mp hb with hb | hb
      · exact hb
      · rw [mem_singleton.mp hb]
        exact hagain
    obtain ⟨_, c, file, hget, -⟩ := exists_rel_of_isChain chain hinside
    exact hneeds.leadsTo hwords (Table.has_of_get? hget)
  | layout _ _ _ herror => cases isLayout_of_ofSource herror
  | idLayout _ _ _ _ herror => cases isLayout_of_ofSource herror

/-- **A class that is not found is extended** and not declared. -/
theorem up_of_classNotFound {n : String} (h : build v sources = .error (.classNotFound n)) :
    n ∉ (classesOf sources).map (·.name) ∧ ∃ c ∈ classesOf sources, c.superclass = some n := by
  obtain ⟨-, hfails⟩ := fails_of_build h rfl
  cases hfails with
  | missing hup hnone =>
    obtain ⟨c, file, hget, hsuper⟩ := hup
    refine ⟨?_, c, (mem_classesOf_of_get? hget).1, hsuper⟩
    rw [← keys_classRows]
    exact Table.get?_eq_none_iff.mp hnone
  | layout _ _ _ herror => cases isLayout_of_ofSource herror
  | idLayout _ _ _ _ herror => cases isLayout_of_ofSource herror

/-- What a state shows of names is said of declarations. -/
theorem clear_classRows (hclear : v.wire < 4 ∨ ∀ c ∈ classesOf sources, ∀ root ∈ idRoots,
      startsWith c.name (root ++ "_id") = false) :
    v.wire < 4 ∨ ∀ n, (classRows sources).has n = true → ∀ root ∈ idRoots,
      startsWith n (root ++ "_id") = false := by
  refine hclear.imp_right fun hclear n hn => ?_
  obtain ⟨c, hc, rfl⟩ := mem_map.mp (has_classRows_iff.mp hn)
  exact hclear c hc

/-- **No walk is endless** before version 1.3, or where no declared name begins as identifying
names do. -/
theorem build_ne_endless (hclear : v.wire < 4 ∨ ∀ c ∈ classesOf sources, ∀ root ∈ idRoots,
      startsWith c.name (root ++ "_id") = false) (n : String) :
    build v sources ≠ .error (.endless n) := by
  intro h
  obtain ⟨-, hfails⟩ := fails_of_build h rfl
  cases hfails with
  | idCircle start way circle =>
    -- the way up stays among the classes that are there
    have hfree := start.built.not_mem_taken (clear_classRows hclear)
    have hneeds := Relation.ReflTransGen.mono (fun _ _ => Up.needs) _ _ (above_iff.mp way)
    have hthere := start.built.mem_of_needs (name_of_get?_classRows sources) hfree prefix_rfl
      (mem_map_of_mem start.mem) hneeds
    exact start.built.not_circular (name_of_get?_classRows sources) hfree hthere
      (Relation.TransGen.mono (fun _ _ => Up.needs) _ _ circle)
  | layout _ _ _ herror => cases isLayout_of_ofSource herror
  | idLayout _ _ _ _ herror => cases isLayout_of_ofSource herror

/-- **What makes a protocol is free of circles** before version 1.3, or where no declared name
begins as identifying names do. -/
theorem acyclic_of_build (hclear : v.wire < 4 ∨ ∀ c ∈ classesOf sources, ∀ root ∈ idRoots,
      startsWith c.name (root ++ "_id") = false) {p : Protocol}
    (h : build v sources = .ok p) : Acyclic (LeadsTo sources) := by
  intro n hcircle
  obtain ⟨hbuilt, hall⟩ := built_of_build h
  obtain ⟨hnodup, -⟩ := build_eq_ok_iff.mp h
  have hfree := hbuilt.not_mem_taken (clear_classRows hclear)
  obtain ⟨m, ⟨-, c, hc, rfl, -⟩, -⟩ := Relation.TransGen.head'_iff.mp hcircle
  exact hbuilt.not_circular (name_of_get?_classRows sources) hfree (hall c hc)
    (Relation.TransGen.mono (fun _ _ => LeadsTo.needs hnodup) _ _ hcircle)

end Reported

/-- **Circles of declarations are found, and nothing else is taken for one.** Where a circle is
reported, each name on the path leads to the next and the last one occurs before; so none is
reported where nothing leads back to itself. Before version 1.3, and where no declared name
begins with a root and `_id`, the construction always comes to an end, and with a protocol only
if nothing leads back to itself. A redefinition is reported exactly where a class name or an
enum name is declared twice, and a class that is not found is one that is not declared and that
a declared class extends.

The names of classes that come from a text are words (`Model.isWord_of_readSource`). -/
theorem build_findsCircles (v : Version) (sources : List Source)
    (hwords : ∀ c ∈ classesOf sources, Text.isWord c.name = true) :
    (∀ path, build v sources = .error (.cycle path) → path.IsChain (LeadsTo sources)
        ∧ ∃ inside again, path = inside ++ [again] ∧ again ∈ inside)
      ∧ (Acyclic (LeadsTo sources) → ∀ path, build v sources ≠ .error (.cycle path))
      ∧ ((v.wire < 4 ∨ ∀ c ∈ classesOf sources, ∀ root ∈ idRoots,
            Text.startsWith c.name (root ++ "_id") = false) →
          (∀ n, build v sources ≠ .error (.endless n))
            ∧ ∀ p, build v sources = .ok p → Acyclic (LeadsTo sources))
      ∧ ((∃ file n previous, build v sources = .error (.classRedefined file n previous)
            ∨ build v sources = .error (.enumRedefined file n previous))
          ↔ ¬ ((classesOf sources).map (·.name)).Nodup
            ∨ ¬ ((enumsOf sources).map (·.name)).Nodup)
      ∧ ∀ n, build v sources = .error (.classNotFound n) →
          n ∉ (classesOf sources).map (·.name)
            ∧ ∃ c ∈ classesOf sources, c.superclass = some n := by
  refine ⟨fun path => isChain_of_cycle hwords, fun hacyclic path h => ?_,
    fun hclear => ⟨build_ne_endless hclear, fun p => acyclic_of_build hclear⟩, ?_,
    fun n => up_of_classNotFound⟩
  · obtain ⟨hchain, inside, again, rfl, hagain⟩ := isChain_of_cycle hwords h
    exact hacyclic again (transGen_of_isChain hchain hagain)
  · rw [← exists_isRedefinition_iff (v := v)]
    constructor
    · rintro ⟨file, n, previous, h | h⟩
      · exact ⟨_, h, rfl⟩
      · exact ⟨_, h, rfl⟩
    · rintro ⟨e, h, hredefined⟩
      cases e with
      | classRedefined file n previous => exact ⟨file, n, previous, .inl h⟩
      | enumRedefined file n previous => exact ⟨file, n, previous, .inr h⟩
      | _ => cases hredefined

/-- Two classes that need each other: `a` holds a `b`, and `b` extends `a`. -/
def circularSource : Source where
  file := "standard-1.0"
  versions := [.v10]
  classes :=
    [⟨"a", none, [.field "x" "b_t" .data], false, []⟩,
     ⟨"b", some "a", [], false, []⟩]
  enums := []

/-- The circle is reported as a way round. -/
theorem build_circularSource :
    build .v10 [circularSource] = .error (.cycle ["a", "b", "a"])
      ∧ ["a", "b", "a"].IsChain (LeadsTo [circularSource])
      ∧ ¬ Acyclic (LeadsTo [circularSource])
      ∧ ∀ n, build .v10 [circularSource] ≠ .error (.endless n) := by
  have hwords : ∀ c ∈ classesOf [circularSource], Text.isWord c.name = true := by decide
  obtain ⟨hchain, hacyclic, hends, -, -⟩ := build_findsCircles .v10 [circularSource] hwords
  have hbuild : build .v10 [circularSource] = .error (.cycle ["a", "b", "a"]) := by
    rw [build_eq_walk .v10 (by decide) (by decide), sortedNames_of_pairwise (by decide)]
    decide +kernel
  exact ⟨hbuild, (hchain _ hbuild).1, fun hfree => hacyclic hfree _ hbuild,
    (hends (.inl (by decide))).1⟩

end Protocol

end FlowBindings
