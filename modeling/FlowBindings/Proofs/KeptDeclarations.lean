import FlowBindings.Proofs.Construction

/-!
# What becomes of a declared class

Every declared class has exactly one class under its name in the protocol. It is
the declared class itself, member for member, with its parameters and below the
protocol's class of its superclass, unless the declaration is displaced: then an
identifying class has taken the name first, and what stands under it are the
identifying members of another declared class.

Declared names are checked against each other and names of identifying classes
against what is laid out already, but the walk does not check a declared name
against the identifying classes. A struct called `of_action_id` next to the
struct `of_action` is lost that way from version 1.3 on
(`declared_class_lost`), since `of_action` comes first in the alphabet and is
identified by a class of that name.
-/

namespace FlowBindings

open List

/-- **A class says what its declaration says**: the same members in the same order,
the same parameters, and virtual or not as declared. -/
structure Class.Keeps (v : Version) (e : Class) (c : Source.Class) : Prop where
  /-- It stands under the declared name. -/
  name : e.name = c.name
  /-- Its members are the declared ones, in order. -/
  members : Forall₂ (Source.Member.Becomes v) c.members e.members
  /-- Its parameters are the declared ones. -/
  params : e.params = c.params
  /-- It is virtual if its declaration is. -/
  isVirtual : e.isVirtual = c.isVirtual

theorem keeps_of_ofSource {ctx : Context} {ancestors : List Ancestor} {c : Source.Class}
    {laid : Class} (h : Class.ofSource ctx ancestors c = .ok laid) :
    laid.Keeps ctx.version c := by
  obtain ⟨hname, -, hvirtual, hparams⟩ := ofSource_fields h
  exact ⟨hname, members_of_ofSource h, hparams, hvirtual⟩

namespace Protocol

/-- A class stands directly below the protocol's class of the given name, and so
below all classes that one stands below; without a name, below nothing. -/
def Extends (p : Protocol) (e : Class) : Option String → Prop
  | none => e.ancestors = []
  | some up => ∃ u, p.class? up = some u ∧ e.ancestors = u.asAncestor :: u.ancestors

/-- The ancestors of a class are those of its superclass, with the superclass in
front. -/
theorem extends_of_lineage {p : Protocol} {ctx : List Class} {e : Class}
    {superclass : Option String} (hpre : ctx <+: p.classes)
    (hready : ∀ up, superclass = some up → up ∈ names ctx)
    (he : e.ancestors = visit.lineage ctx superclass) : p.Extends e superclass := by
  cases superclass with
  | none => exact he
  | some up =>
    obtain ⟨u, hu⟩ := exists_find?_name_of_mem (hready up rfl)
    refine ⟨u, hpre.find?_eq_some hu, ?_⟩
    rw [he, visit.lineage, Option.bind_some, hu]

theorem Layable.keeps {v : Version} {decls : Declared} {enums : List Enum} {p : Protocol}
    {c : Source.Class} {before : List Class} {e : Class} (step : Layable v decls enums before c e)
    (hpre : before <+: p.classes) : e.Keeps v c ∧ p.Extends e c.superclass :=
  ⟨keeps_of_ofSource step.laidOut, extends_of_lineage hpre (fun _ hup => step.superclass_mem hup)
    (ofSource_fields step.laidOut).2.1⟩

/-- **What becomes of a declared class.** Exactly one class stands under its name.
If the name is not displaced, that class keeps the declaration and extends the
protocol's class of the declared superclass; if it is, that class keeps the
declaration of a class which identifies another declared class. -/
theorem build_keeps_declarations {v : Version} {sources : List Source} {p : Protocol}
    (h : build v sources = .ok p) {c : Source.Class} (hc : c ∈ classesOf sources) :
    (names p.classes).count c.name = 1 ∧ ∃ e ∈ p.classes, e.name = c.name
      ∧ (c.name ∉ displaced v sources → e.Keeps v c ∧ p.Extends e c.superclass)
      ∧ (c.name ∈ displaced v sources → 4 ≤ v.wire ∧ ∃ root ∈ idRoots, ∃ d ∈ classesOf sources,
          e.Keeps v (idDeclaration root d)) := by
  obtain ⟨hbuilt, hall⟩ := built_of_build h
  obtain ⟨hclassNames, -, -, -, -⟩ := build_eq_ok_iff.mp h
  obtain ⟨file, hget⟩ := exists_get?_of_mem_classesOf hclassNames hc
  have hname := hall c hc
  refine ⟨count_eq_one_of_mem hbuilt.nodup hname, ?_⟩
  by_cases hfree : c.name ∈ displaced v sources
  · obtain ⟨hversion, e, he, hen, root, hroot, d, base, ctx, hstep⟩ := hbuilt.taken_cases hfree
    obtain ⟨file', hget'⟩ := hstep.declared
    exact ⟨e, he, hen, fun hnot => absurd hfree hnot, fun _ =>
      ⟨hversion, root, hroot, d, (mem_classesOf_of_get? hget').1, keeps_of_ofSource hstep.laidOut⟩⟩
  · obtain ⟨ctx, e, hpre, hstep⟩ := hbuilt.own hget hname hfree
    have hkeeps := hstep.keeps ((prefix_append _ _).trans hpre)
    exact ⟨e, hpre.subset (mem_append_right _ mem_cons_self), hkeeps.1.name,
      fun _ => hkeeps, fun hin => absurd hin hfree⟩

/-- Two structs of version 1.3: actions, and a struct that looks like the head of
an action but stands alone. -/
def actionSource : Source where
  file := "standard-1.3"
  versions := [.v13]
  classes :=
    [⟨"of_action", none, [.field "type" "uint16_t" .discriminator,
      .field "len" "uint16_t" .length, .pad 4], true, []⟩,
     ⟨"of_action_id", none, [.field "type" "uint16_t" .data, .field "len" "uint16_t" .length],
      false, []⟩]
  enums := []

/-- The protocol the two structs make: under the name of the second stands what
identifies the first. -/
def actionProtocol : Protocol where
  version := .v13
  classes :=
    [{ name := "of_action"
       ancestors := []
       members :=
         [.field ⟨"type", "uint16_t", .discriminator, true, 2, some 0⟩,
          .field ⟨"len", "uint16_t", .length, true, 2, some 2⟩, .pad 4 (some 4)]
       isVirtual := true
       params := []
       isFixedLength := false
       baseLength := 8 },
     { name := "of_action_id"
       ancestors := []
       members :=
         [.field ⟨"type", "uint16_t", .discriminator, true, 2, some 0⟩,
          .field ⟨"len", "uint16_t", .length, true, 2, some 2⟩]
       isVirtual := true
       params := []
       isFixedLength := false
       baseLength := 4 }]
  enums := []

theorem build_actionSource : build .v13 [actionSource] = .ok actionProtocol := by
  rw [build_eq_walk .v13 (by decide) (by decide), sortedNames_of_pairwise (by decide)]
  decide +kernel

/-- The declaration of `of_action_id` is displaced, and its class identifies
actions. -/
theorem build_keeps_declarations_action :
    build .v13 [actionSource] = .ok actionProtocol
      ∧ "of_action_id" ∈ displaced .v13 [actionSource]
      ∧ ∃ c ∈ classesOf [actionSource], c.name = "of_action_id"
        ∧ (names actionProtocol.classes).count c.name = 1
        ∧ ∃ e ∈ actionProtocol.classes, e.name = c.name
          ∧ ∃ root ∈ idRoots, ∃ d ∈ classesOf [actionSource],
            e.Keeps .v13 (idDeclaration root d) := by
  have hdisplaced : "of_action_id" ∈ displaced .v13 [actionSource] := by
    unfold displaced
    rw [sortedNames_of_pairwise (by decide)]
    decide +kernel
  obtain ⟨c, hc, hname⟩ : ∃ c ∈ classesOf [actionSource], c.name = "of_action_id" := by decide
  obtain ⟨hcount, e, he, hen, -, htaken⟩ := build_keeps_declarations build_actionSource hc
  refine ⟨build_actionSource, hdisplaced, c, hc, hname, hcount, e, he, hen, ?_⟩
  exact (htaken (by rw [hname]; exact hdisplaced)).2

/-- **A declared class can be lost.** No class of the protocol keeps the
declaration of `of_action_id`. -/
theorem declared_class_lost :
    build .v13 [actionSource] = .ok actionProtocol
      ∧ ∃ c ∈ classesOf [actionSource], ∀ e ∈ actionProtocol.classes, ¬ e.Keeps .v13 c := by
  refine ⟨build_actionSource, _, mem_cons_of_mem _ mem_cons_self, ?_⟩
  intro e he hkeeps
  -- the only class of that name is virtual, and the declared one is not
  have hvirtual : ∀ e ∈ actionProtocol.classes, e.name = "of_action_id" → e.isVirtual = true := by
    decide
  exact absurd (hkeeps.isVirtual.symm.trans (hvirtual e he hkeeps.name)) Bool.false_ne_true

end Protocol

end FlowBindings
