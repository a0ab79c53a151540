import FlowBindings.Proofs.Loading

/-!
# The wire layout of a protocol

In every class of a protocol the members lie one after another
(`Class.LaidOut`). A member whose type names a declared class takes as many bytes
as that class takes in the finished protocol, and is fixed when that class is.

The second statement is about time. A member is measured when its class is laid
out, against the classes that are there then, and the protocol is what is there
at the end. For a class laid out by the walk the two agree: everything its members
name was laid out before it, and nothing that was laid out ever changes
(`Layable.measured`). A class that identifies another takes over members that were
declared for the other, so it can only be measured rightly if the other had its
turn before it. That is so for every class that stands below its root in its own
right (`Built.own_of_above`); it fails when the identification starts at a
displaced declaration, whose members the walk never looked at
(`displaced_member_measured_early`).
-/

namespace FlowBindings

open List

theorem roundUp8_spec (n : Nat) :
    8 ∣ Context.roundUp8 n ∧ n ≤ Context.roundUp8 n ∧ Context.roundUp8 n < n + 8 := by
  unfold Context.roundUp8
  omega

/-- **A field takes what a class takes**: as many bytes, rounded up to a multiple of
eight exactly when the class leaves its alignment out of its length, and always
the same number when the class does. -/
structure Field.Takes (f : Field) (t : Class) : Prop where
  /-- The length of the class, when it counts its alignment. -/
  exact : t.hasExternalAlignment = false → f.baseLength = t.baseLength
  /-- The next multiple of eight, when it does not. -/
  aligned : t.hasExternalAlignment = true →
    8 ∣ f.baseLength ∧ t.baseLength ≤ f.baseLength ∧ f.baseLength < t.baseLength + 8
  /-- Fixed when the class is. -/
  isFixedLength : f.isFixedLength = t.isFixedLength

namespace Protocol

section Measured

variable {v : Version} {decls : Declared} {enums : List Enum}

/-- The members of a class that name declared classes take what those classes
take. -/
def Measured (decls : Declared) (done : List Class) (e : Class) : Prop :=
  ∀ f ∈ e.fields, ∀ n, decls.has n = true → Text.isWord n = true → f.type = n ++ "_t" →
    WireType.mixedTypes.get? f.type = none →
      ∃ t, done.find? (fun c => c.name = n) = some t ∧ f.Takes t

variable {e : Class} {done : List Class} {taken : Set String}

/-- What is measured rightly stays so when classes are added behind. -/
theorem Measured.of_isPrefix {done' : List Class} (h : Measured decls done e)
    (hpre : done <+: done') : Measured decls done' e := by
  intro f hf n hn hword htype hmixed
  obtain ⟨t, ht, htakes⟩ := h f hf n hn hword htype hmixed
  exact ⟨t, hpre.find?_eq_some ht, htakes⟩

theorem mem_dependencies_append_t {name n : String} {role : Source.Role}
    (hn : decls.has n = true) : n ∈ dependencies decls (.field name (n ++ "_t") role) := by
  show n ∈ [WireType.className (n ++ "_t"), n ++ "_t"].filter decls.has
  rw [mem_filter, className_append_t]
  exact ⟨mem_cons_self, hn⟩

/-- **A class is measured rightly if what its members name was there** before the
step that laid it out. -/
theorem measured_of_ofSource {base ctx : List Class} {ancestors : List Ancestor} {d : Source.Class}
    (h : Class.ofSource ⟨v, ctx, enums⟩ ancestors d = .ok e) (hpre : base <+: ctx)
    (hready : ∀ m ∈ d.members, ∀ n ∈ dependencies decls m, n ∈ names base) :
    Measured decls base e := by
  intro f hf n hn hword htype hmixed
  obtain ⟨role, extent, hmem, hextent, hlength, hfixed⟩ := extent_of_mem_fields h hf
  rw [htype] at hmem hextent hmixed
  obtain ⟨t, ht⟩ := exists_find?_name_of_mem (hready _ hmem n (mem_dependencies_append_t hn))
  refine ⟨t, ht, ?_⟩
  rw [memberExtent_eq_of_class hword hmixed (hpre.find?_eq_some ht) hextent] at hlength hfixed
  refine ⟨fun halign => ?_, fun halign => ?_, hfixed⟩
  · rw [hlength, if_neg (by rw [halign]; exact Bool.false_ne_true)]
  · rw [hlength, if_pos halign]
    exact roundUp8_spec t.baseLength

/-- **A class that the walk lays out is measured rightly.** -/
theorem Layable.measured {ctx : List Class} {c : Source.Class}
    (h : Layable v decls enums ctx c e) : Measured decls ctx e :=
  measured_of_ofSource h.laidOut prefix_rfl fun _ hm _ hn => h.dependencies_mem hm hn

/-! ## Classes below a root -/

/-- A class whose name is not taken is there in its own right. -/
theorem Built.own_of_mem
    (h : Built v decls enums done taken) (he : e ∈ done) (hfree : e.name ∉ taken)
    {c : Source.Class} {file : String} (hget : decls.get? e.name = some (c, file))
    (hname : c.name = e.name) :
    ∃ ctx, ctx ++ [e] <+: done ∧ Layable v decls enums ctx c e := by
  obtain ⟨ctx, e', hpre, hstep⟩ := h.own (by rw [hname]; exact hget)
    (by rw [hname]; exact mem_map_of_mem he) (by rw [hname]; exact hfree)
  have he' : e' ∈ done := hpre.subset (mem_append_right _ mem_cons_self)
  have hsame : e' = e := inj_on_of_nodup_map h.nodup he' he
    (((ofSource_fields hstep.laidOut).1).trans hname)
  exact ⟨ctx, hsame ▸ hpre, hsame ▸ hstep⟩

/-- The class of a declaration that is not displaced is there in its own right. -/
theorem own_of_declared {sources : List Source} {p : Protocol} (h : build v sources = .ok p)
    (he : e ∈ p.classes) (hdeclared : e.name ∈ (classesOf sources).map (·.name))
    (hfree : e.name ∉ displaced v sources) : ∃ c ∈ classesOf sources, ∃ ctx,
      ctx ++ [e] <+: p.classes ∧ Layable v (classRows sources) (protocolEnums sources) ctx c e := by
  obtain ⟨c, hc, hname⟩ := mem_map.mp hdeclared
  obtain ⟨file, hget⟩ := exists_get?_of_mem_classesOf (build_eq_ok_iff.mp h).1 hc
  rw [hname] at hget
  exact ⟨c, hc, (built_of_build h).1.own_of_mem he hfree hget hname⟩

/-- No name of a class below a root is taken: every class that counts as an action
or an instruction is there in its own right. -/
def RootsUndisturbed (done : List Class) (taken : Set String) : Prop :=
  ∀ e ∈ done, ∀ root ∈ idRoots, e.isInstanceOf root = true → e.name ∉ taken

/-- The superclass of a class below a root, unless the class is the root. -/
theorem isInstanceOf_of_lineage {u : Class} {root : String}
    (h : e.isInstanceOf root = true) (hne : e.name ≠ root)
    (hanc : e.ancestors = u.asAncestor :: u.ancestors) : u.isInstanceOf root = true := by
  unfold Class.isInstanceOf at h ⊢
  rw [Bool.or_eq_true, decide_eq_true_iff] at h
  have hany := h.resolve_left hne
  rw [hanc, any_cons] at hany
  exact hany

variable (hnamed : Named decls)
  (hup : ∀ root ∈ idRoots, ∀ c file, decls.get? root = some (c, file) → c.superclass = none)
  (h : Built v decls enums done taken) (hroots : RootsUndisturbed done taken)

include hnamed hup h hroots

/-- **The way up from a class below a root** stays below the root, and everything on
it is there in its own right, as long as the roots have no superclass. -/
theorem Built.own_of_above (he : e ∈ done) {root : String} (hroot : root ∈ idRoots)
    (hbelow : e.isInstanceOf root = true) {n : String} (habove : Above decls e.name n) :
    ∃ u ∈ done, u.name = n ∧ u.isInstanceOf root = true
      ∧ ∀ c file, decls.get? n = some (c, file) →
        ∃ ctx, ctx ++ [u] <+: done ∧ Layable v decls enums ctx c u := by
  induction habove with
  | self =>
    exact ⟨e, he, rfl, hbelow, fun c file hget =>
      h.own_of_mem he (hroots e he root hroot hbelow) hget (hnamed hget)⟩
  | @up n up file c _ hget hsuper ih =>
    obtain ⟨u, hu, rfl, hubelow, hown⟩ := ih
    obtain ⟨ctx, hpre, hstep⟩ := hown c file hget
    -- the root itself has no superclass, so the way up ends there
    have hne : u.name ≠ root := by
      intro hname
      rw [hup root hroot c file (by rw [← hname]; exact hget)] at hsuper
      cases hsuper
    have hready : up ∈ names ctx := hstep.superclass_mem hsuper
    obtain ⟨w, hw⟩ := exists_find?_name_of_mem hready
    have hwname : w.name = up := by simpa using find?_some hw
    have hwdone : w ∈ done :=
      ((prefix_append _ _).trans hpre).subset (mem_of_find?_eq_some hw)
    have hanc : u.ancestors = w.asAncestor :: w.ancestors := by
      rw [(ofSource_fields hstep.laidOut).2.1, hsuper, visit.lineage, Option.bind_some, hw]
    have hwbelow := isInstanceOf_of_lineage hubelow hne hanc
    subst hwname
    exact ⟨w, hwdone, rfl, hwbelow, fun c file hget =>
      h.own_of_mem hwdone (hroots w hwdone root hroot hwbelow) hget (hnamed hget)⟩

/-- **Every class is measured rightly** where the classes below the roots are there
in their own right. -/
theorem Built.measured (he : e ∈ done) : Measured decls done e := by
  induction h with
  | start => exact absurd he not_mem_nil
  | @layOut done taken c laid before step ih =>
    have hpre : done <+: done ++ [laid] := prefix_append _ _
    rcases mem_append.mp he with he | he
    · exact (ih (fun d hd => hroots d (hpre.subset hd)) he).of_isPrefix hpre
    · rw [mem_singleton.mp he]
      exact step.measured.of_isPrefix hpre
  | @identify done found taken root c before hversion hroot hc hbelow run ih =>
    have hroots' : RootsUndisturbed done taken := fun d hd root' hroot' hd' ht =>
      hroots d (run.isPrefix.subset hd) root' hroot' hd' (Or.inl ht)
    rcases run.mem_cases he with he | ⟨d, ctx, habove, hctx, hstep⟩
    · exact (ih hroots' he).of_isPrefix run.isPrefix
    · -- the class that is identified had its turn, with all that its members name
      obtain ⟨u, -, -, -, hown⟩ := before.own_of_above hnamed hup hroots' hc hroot hbelow habove
      obtain ⟨file, hget⟩ := hstep.declared
      obtain ⟨own, hpre, hlaid⟩ := hown d file hget
      refine (measured_of_ofSource hstep.laidOut hctx ?_).of_isPrefix run.isPrefix
      intro m hm n hn
      exact names_subset_of_isPrefix ((prefix_append _ _).trans hpre)
        (hlaid.dependencies_mem (mem_filter.mp hm).1 hn)

end Measured

/-! ## Protocols -/

/-- **The wire layout of a protocol.** In every class the members lie one after
another. A member whose type is `T_t` for a declared class `T` takes what the
protocol's class `T` takes, types with a form of their own in each version apart:
in the class of every declaration that is not displaced, and in all other classes
too if no displaced declaration counts as an action or an instruction. The name of
a class that comes from a text is a word (`Model.isWord_of_readSource`). -/
theorem build_wireLayout {v : Version} {sources : List Source} {p : Protocol}
    (h : build v sources = .ok p)
    (hup : ∀ c ∈ classesOf sources, c.name ∈ idRoots → c.superclass = none) :
    ∀ e ∈ p.classes, e.LaidOut
      ∧ ((e.name ∈ (classesOf sources).map (·.name) ∧ e.name ∉ displaced v sources
            ∨ ∀ d ∈ p.classes, d.name ∈ displaced v sources → ∀ root ∈ idRoots,
              d.isInstanceOf root = false) →
          ∀ f ∈ e.fields, ∀ c ∈ classesOf sources, Text.isWord c.name = true →
            f.type = c.name ++ "_t" → WireType.mixedTypes.get? f.type = none →
              ∃ t, p.class? c.name = some t ∧ f.Takes t) := by
  obtain ⟨hbuilt, -⟩ := built_of_build h
  obtain ⟨hclassNames, -, -, -, -⟩ := build_eq_ok_iff.mp h
  have hnamed := @name_of_get?_classRows sources
  intro e he
  refine ⟨hbuilt.laidOut he, fun hcase f hf c hc hword htype hmixed => ?_⟩
  have hmeasured : Measured (classRows sources) p.classes e := by
    rcases hcase with ⟨hdeclared, hfree⟩ | hroots
    · -- the walk laid this class out, whatever became of the others
      obtain ⟨d, -, ctx, hpre, hstep⟩ := own_of_declared h he hdeclared hfree
      exact hstep.measured.of_isPrefix ((prefix_append _ _).trans hpre)
    · refine hbuilt.measured hnamed (fun root hroot c file hget => ?_) ?_ he
      · obtain ⟨hc, rfl⟩ := mem_classesOf_of_get? hget
        exact hup c hc hroot
      · intro d hd root hroot hbelow hdisplaced
        rw [hroots d hd hdisplaced root hroot] at hbelow
        cases hbelow
  obtain ⟨file, hget⟩ := exists_get?_of_mem_classesOf hclassNames hc
  refine hmeasured f hf c.name ?_ hword htype hmixed
  rw [Table.has_eq_isSome, hget]
  rfl

/-- An action that holds a struct which leaves its alignment out of its length. -/
def portSource : Source where
  file := "standard-1.3"
  versions := [.v13]
  classes :=
    [⟨"of_action", none, [.field "type" "uint16_t" .discriminator], true, []⟩,
     ⟨"of_action_output", some "of_action", [.field "type" "uint16_t" (.fixed 0), .pad 6,
      .field "port" "of_port_t" .data], false, []⟩,
     ⟨"of_port", none, [.field "number" "uint32_t" .data, .field "queue" "uint8_t" .data], false,
      [("length_includes_align", "False")]⟩]
  enums := []

/-- The five bytes of a port take eight in an action. -/
theorem build_wireLayout_port :
    ∃ p, build .v13 [portSource] = .ok p
      ∧ ∃ e ∈ p.classes, e.LaidOut ∧ ∃ f ∈ e.fields, f.type = "of_port_t" ∧ f.baseLength = 8
        ∧ ∃ t, p.class? "of_port" = some t ∧ f.Takes t := by
  have htest : (build .v13 [portSource]).toOption.any (fun p => p.classes.any fun e =>
      e.fields.any fun f => f.type = "of_port_t" ∧ f.baseLength = 8) = true := by
    rw [build_eq_walk .v13 (by decide) (by decide), sortedNames_of_pairwise (by decide)]
    decide +kernel
  have hdisplaced : displaced .v13 [portSource] = [] := by
    unfold displaced
    rw [sortedNames_of_pairwise (by decide)]
    decide +kernel
  obtain ⟨p, hp, hq⟩ := exists_ok_of_any htest
  obtain ⟨e, he, hfields⟩ := any_eq_true.mp hq
  obtain ⟨f, hf, hport⟩ := any_eq_true.mp hfields
  obtain ⟨htype, hlength⟩ := of_decide_eq_true hport
  obtain ⟨hlaid, htakes⟩ := build_wireLayout hp (by decide) e he
  refine ⟨p, hp, e, he, hlaid, f, hf, htype, hlength, ?_⟩
  refine htakes (.inr ?_) f hf _ (mem_of_getLast? rfl) rfl htype (by rw [htype]; decide)
  intro d _ hd
  rw [hdisplaced] at hd
  exact absurd hd not_mem_nil

/-- Structs named so that the class which identifies `of_action_a` takes the name
of the struct `of_action_id_a` and counts as an action. The members of that struct
are then taken over by an identifying class, although the walk never looked at
them. -/
def tangledSource : Source where
  file := "standard-1.3"
  versions := [.v13]
  classes :=
    [⟨"a", none, [.field "x" "of_action_id_t" .data], false, []⟩,
     ⟨"of_action", none, [.field "type" "uint8_t" .discriminator], true, []⟩,
     ⟨"of_action_a", some "of_action", [.field "type" "uint8_t" (.fixed 2)], false, []⟩,
     ⟨"of_action_id", some "of_action", [.field "type" "uint8_t" (.fixed 1)], false, []⟩,
     ⟨"of_action_id_a", none, [.field "k" "uint16_t" (.fixed 7)], false, []⟩,
     ⟨"uint16", none, [.field "v" "uint8_t" .data], false, []⟩]
  enums := []

/-- **A member can be measured before its class is there.** The two bytes of the
number are counted, where the declared class of the name has one. -/
theorem displaced_member_measured_early :
    (∀ c ∈ classesOf [tangledSource], c.name ∈ idRoots → c.superclass = none)
      ∧ ∃ p, build .v13 [tangledSource] = .ok p
        ∧ ∃ e ∈ p.classes, ∃ f ∈ e.fields, ∃ c ∈ classesOf [tangledSource],
          Text.isWord c.name = true ∧ f.type = c.name ++ "_t"
            ∧ WireType.mixedTypes.get? f.type = none
            ∧ ∀ t, p.class? c.name = some t → ¬ f.Takes t := by
  have htest : (build .v13 [tangledSource]).toOption.any (fun p => p.classes.any fun e =>
      e.fields.any fun f => f.type = "uint16_t" ∧ f.baseLength = 2
        ∧ ∀ t ∈ p.class? "uint16", t.baseLength = 1 ∧ t.hasExternalAlignment = false) = true := by
    rw [build_eq_walk .v13 (by decide) (by decide), sortedNames_of_pairwise (by decide)]
    decide +kernel
  obtain ⟨p, hp, hq⟩ := exists_ok_of_any htest
  obtain ⟨e, he, hfields⟩ := any_eq_true.mp hq
  obtain ⟨f, hf, hnumber⟩ := any_eq_true.mp hfields
  obtain ⟨htype, hlength, hclass⟩ := of_decide_eq_true hnumber
  refine ⟨by decide, p, hp, e, he, f, hf, _, mem_of_getLast? rfl, rfl, htype,
    by rw [htype]; decide, fun t ht htakes => ?_⟩
  obtain ⟨hone, halign⟩ := hclass t ht
  have htwo := htakes.exact halign
  rw [hlength, hone] at htwo
  cases htwo

end Protocol

end FlowBindings
