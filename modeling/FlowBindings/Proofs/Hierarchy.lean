import FlowBindings.Protocol.Basic
import Mathlib.Data.List.Induction

/-!
# Classes behind their superclasses

A class carries the names of all classes above it. In a list where every class
stands behind the class it extends (`SuperclassesFirst`), these names are what one
meets on the way up: from a class one comes to its superclass, which stands further
in front, and so after at most as many steps as there are classes to a class that
extends nothing. `Chain` is that way. Whether a class is an instance of a name and
what its root is are questions about the chain (`Chain.isInstanceOf_iff`,
`Chain.inheritanceRoot?_eq`), so going up step by step always ends with an answer,
and with the one the names give.

The names above a class follow from the superclass names alone
(`ancestorNames_eq`): two such lists that agree on who extends whom agree on who is
an instance of what.
-/

namespace FlowBindings

open List

/-! ## What stands before an element -/

section EachAfter

variable {α : Type}

/-- Every element of a list stands in a relation to what comes before it. -/
def EachAfter (P : List α → α → Prop) (l : List α) : Prop :=
  ∀ before a after, l = before ++ a :: after → P before a

variable {P : List α → α → Prop}

@[simp]
theorem eachAfter_nil : EachAfter P [] := by
  intro before a after h
  exact absurd h.symm (append_ne_nil_of_right_ne_nil _ (cons_ne_nil a after))

variable {l : List α}

/-- What comes behind a list is preceded by all of it. -/
theorem eachAfter_append {l' : List α} :
    EachAfter P (l ++ l') ↔ EachAfter P l ∧ EachAfter (fun before => P (l ++ before)) l' := by
  constructor
  · intro h
    constructor
    · rintro before a after rfl
      exact h before a (after ++ l') (by rw [append_assoc, cons_append])
    · rintro before a after rfl
      exact h (l ++ before) a after (append_assoc _ _ _).symm
  · rintro ⟨hl, hl'⟩ before a after hsplit
    rcases append_eq_append_iff.mp hsplit with ⟨c, rfl, hc⟩ | ⟨c, rfl, hc⟩
    · exact hl' c a after hc
    · cases c with
      | nil =>
        have hfirst := hl' [] a after hc.symm
        rwa [append_nil, append_nil] at hfirst
      | cons b c =>
        rw [cons_append, List.cons.injEq] at hc
        obtain ⟨rfl, -⟩ := hc
        exact hl before a c rfl

theorem eachAfter_append_singleton {a : α} :
    EachAfter P (l ++ [a]) ↔ EachAfter P l ∧ P l a := by
  rw [eachAfter_append, and_congr_right_iff]
  intro _
  constructor
  · intro h
    simpa using h [] a [] rfl
  · intro h before b after hsplit
    cases before with
    | nil =>
      obtain ⟨rfl, -⟩ := List.cons.inj hsplit
      rwa [append_nil]
    | cons c before =>
      have hnil := (List.cons.inj hsplit).2
      exact absurd hnil.symm (append_ne_nil_of_right_ne_nil _ (cons_ne_nil b after))

/-- Seen place by place: an element is preceded by those at smaller places. -/
theorem eachAfter_iff_get :
    EachAfter P l ↔ ∀ i : Fin l.length, P (l.take i) (l.get i) := by
  constructor
  · intro h i
    refine h (l.take i) (l.get i) (l.drop (i + 1)) ?_
    rw [get_eq_getElem, ← drop_eq_getElem_cons i.isLt, take_append_drop]
  · rintro h before a after rfl
    have hlt : before.length < (before ++ a :: after).length := by simp
    have hplace := h ⟨before.length, hlt⟩
    simpa using hplace

instance [∀ before a, Decidable (P before a)] (l : List α) : Decidable (EachAfter P l) :=
  decidable_of_iff _ eachAfter_iff_get.symm

theorem EachAfter.imp {Q : List α → α → Prop} (h : EachAfter P l)
    (himp : ∀ before a, P before a → Q before a) : EachAfter Q l :=
  fun before a after hsplit => himp before a (h before a after hsplit)

end EachAfter

/-! ## The class above -/

namespace Class

/-- **A class stands directly below another**: above it are the other and what is
above the other. -/
def DirectlyBelow (e u : Class) : Prop :=
  e.ancestors = u.asAncestor :: u.ancestors

instance (e u : Class) : Decidable (e.DirectlyBelow u) :=
  inferInstanceAs (Decidable (e.ancestors = u.asAncestor :: u.ancestors))

variable {e u : Class}

theorem superclass?_eq_none_iff : e.superclass? = none ↔ e.ancestors = [] := by
  rw [superclass?, Option.map_eq_none_iff, head?_eq_none_iff]

theorem DirectlyBelow.superclass?_eq (h : e.DirectlyBelow u) : e.superclass? = some u.name := by
  rw [superclass?, h]
  rfl

theorem DirectlyBelow.isInstanceOf_iff (h : e.DirectlyBelow u) (s : String) :
    e.isInstanceOf s = true ↔ e.name = s ∨ u.isInstanceOf s = true := by
  unfold isInstanceOf
  rw [h, any_cons, Bool.or_eq_true, decide_eq_true_iff]
  rfl

theorem isInstanceOf_iff_of_top (h : e.ancestors = []) (s : String) :
    e.isInstanceOf s = true ↔ e.name = s := by
  unfold isInstanceOf
  rw [h, any_nil, Bool.or_false, decide_eq_true_iff]

theorem DirectlyBelow.inheritanceRoot?_eq (h : e.DirectlyBelow u) :
    e.inheritanceRoot? = u.inheritanceRoot? := by
  unfold inheritanceRoot?
  rw [h]
  cases hup : u.ancestors with
  | nil => rfl
  | cons a up =>
    rw [getLast?_cons_cons, getLast?_cons]

/-- What a class is an instance of follows from its name and the names above it. -/
theorem isInstanceOf_eq_of_names {d : Class} (hname : e.name = d.name)
    (hup : e.ancestors.map (·.name) = d.ancestors.map (·.name)) (s : String) :
    e.isInstanceOf s = d.isInstanceOf s := by
  have hany : ∀ l : List Ancestor, l.any (fun a => a.name = s) = (l.map (·.name)).any (· = s) :=
    fun l => by rw [any_map]; rfl
  unfold isInstanceOf
  rw [hname, hany, hany, hup]

end Class

/-! ## Superclasses first -/

/-- **Superclasses come first**: a class extends nothing, or stands behind the class
it extends. -/
def SuperclassesFirst (classes : List Class) : Prop :=
  EachAfter (fun before e => e.ancestors = [] ∨ ∃ u ∈ before, e.DirectlyBelow u) classes

instance (classes : List Class) : Decidable (SuperclassesFirst classes) :=
  inferInstanceAs (Decidable (EachAfter _ classes))

variable {e : Class} {classes : List Class}

theorem SuperclassesFirst.cases (h : SuperclassesFirst classes) (he : e ∈ classes) :
    e.ancestors = [] ∨ ∃ u ∈ classes, e.DirectlyBelow u := by
  obtain ⟨before, after, hsplit⟩ := append_of_mem he
  refine (h before e after hsplit).imp_right ?_
  rintro ⟨u, hu, hbelow⟩
  rw [hsplit]
  exact ⟨u, mem_append_left _ hu, hbelow⟩

/-- **Superclass names come first**: what a class extends is the name of a class before
it. -/
def Grounded (classes : List Class) : Prop :=
  EachAfter (fun before c => ∀ s, c.superclass? = some s → s ∈ before.map (·.name)) classes

theorem SuperclassesFirst.grounded (h : SuperclassesFirst classes) :
    Grounded classes := by
  refine EachAfter.imp h ?_
  rintro before c (htop | ⟨u, hu, hbelow⟩) s hs
  · rw [Class.superclass?_eq_none_iff.mpr htop] at hs
    cases hs
  · rw [hbelow.superclass?_eq, Option.some.injEq] at hs
    exact hs ▸ mem_map_of_mem hu

theorem Grounded.append (h : Grounded classes)
    (he : ∀ s, e.superclass? = some s → s ∈ classes.map (·.name)) : Grounded (classes ++ [e]) :=
  eachAfter_append_singleton.mpr ⟨h, he⟩

/-- **The way up** from a class, superclass by superclass, to one that extends
nothing. -/
inductive Chain (classes : List Class) : Class → List Class → Prop where
  /-- A class that extends nothing. -/
  | top {e : Class} (h : e.ancestors = []) : Chain classes e [e]
  /-- A class, and the way up from its superclass. -/
  | up {e u : Class} {above : List Class} (hu : u ∈ classes) (hbelow : e.DirectlyBelow u)
      (rest : Chain classes u above) : Chain classes e (e :: above)

namespace Chain

variable {classes : List Class} {e : Class} {chain : List Class}

theorem mono {classes' : List Class} (h : Chain classes e chain) (hsub : classes ⊆ classes') :
    Chain classes' e chain := by
  induction h with
  | top h => exact .top h
  | up hu hbelow _ ih => exact .up (hsub hu) hbelow ih

/-- **A class is an instance of what it meets on the way up.** -/
theorem isInstanceOf_iff (h : Chain classes e chain) (s : String) :
    e.isInstanceOf s = true ↔ ∃ c ∈ chain, c.name = s := by
  induction h with
  | top h =>
    rw [Class.isInstanceOf_iff_of_top h]
    simp only [mem_singleton, exists_eq_left]
  | up _ hbelow _ ih =>
    rw [hbelow.isInstanceOf_iff, ih]
    simp only [mem_cons, exists_eq_or_imp]

/-- **The root of a class is the last one on the way up**, if it is virtual. -/
theorem inheritanceRoot?_eq (h : Chain classes e chain) :
    e.inheritanceRoot? = (chain.getLast?.filter (·.isVirtual)).map (·.name) := by
  induction h with
  | @top e h =>
    unfold Class.inheritanceRoot?
    rw [h]
    cases hvirtual : e.isVirtual <;> simp [Option.filter, hvirtual]
  | up _ hbelow rest ih =>
    rw [hbelow.inheritanceRoot?_eq, ih]
    cases rest <;> rfl

end Chain

/-- **The way up always ends.** It leads through classes that stand further and
further in front, so it is no longer than the list. -/
theorem SuperclassesFirst.exists_chain (h : SuperclassesFirst classes) (he : e ∈ classes) :
    ∃ chain, Chain classes e chain ∧ chain.reverse.Sublist classes := by
  induction classes using reverseRecOn generalizing e with
  | nil => exact absurd he not_mem_nil
  | append_singleton classes d ih =>
    obtain ⟨hfirst, hlast⟩ := eachAfter_append_singleton.mp h
    have hsub : classes ⊆ classes ++ [d] := subset_append_left _ _
    rcases mem_append.mp he with he | he
    · obtain ⟨chain, hchain, hsorted⟩ := ih hfirst he
      exact ⟨chain, hchain.mono hsub, hsorted.trans (sublist_append_left _ _)⟩
    · obtain rfl := mem_singleton.mp he
      rcases hlast with htop | ⟨u, hu, hbelow⟩
      · exact ⟨[e], .top htop, sublist_append_right _ _⟩
      · obtain ⟨chain, hchain, hsorted⟩ := ih hfirst hu
        refine ⟨e :: chain, .up (hsub hu) hbelow (hchain.mono hsub), ?_⟩
        rw [reverse_cons]
        exact hsorted.append_right [e]

/-- **The names above a class follow from the superclass names.** In two lists that
put superclasses first and agree on the superclass of each name, the classes above a
class have the same names. -/
theorem ancestorNames_eq {classes' : List Class} (h : SuperclassesFirst classes)
    (h' : SuperclassesFirst classes')
    (hsame : ∀ e ∈ classes, ∀ e' ∈ classes', e.name = e'.name → e.superclass? = e'.superclass?)
    {e' : Class} (he : e ∈ classes) (he' : e' ∈ classes') (hname : e.name = e'.name) :
    e.ancestors.map (·.name) = e'.ancestors.map (·.name) := by
  -- by induction on the way up: each step leaves fewer classes above
  induction hlen : e.ancestors.length using Nat.strongRecOn generalizing e e' with
  | ind n ih =>
    have hsuper := hsame e he e' he' hname
    rcases h.cases he with htop | ⟨u, hu, hbelow⟩
    · rw [Class.superclass?_eq_none_iff.mpr htop] at hsuper
      rw [htop, Class.superclass?_eq_none_iff.mp hsuper.symm]
    · rw [hbelow.superclass?_eq] at hsuper
      rcases h'.cases he' with htop' | ⟨u', hu', hbelow'⟩
      · rw [Class.superclass?_eq_none_iff.mpr htop'] at hsuper
        cases hsuper
      · rw [hbelow'.superclass?_eq, Option.some.injEq] at hsuper
        have hshorter : u.ancestors.length < n := by
          rw [← hlen, hbelow, length_cons]
          exact Nat.lt_succ_self _
        rw [hbelow, hbelow', map_cons, map_cons, ih _ hshorter hu hu' hsuper rfl]
        exact congrArg (· :: _) hsuper

end FlowBindings
