import FlowBindings.Proofs.DependencyOrder
import FlowBindings.Proofs.Measuring

/-!
# One type, one length

A field is measured when its class is laid out, against the classes that are there then. The
classes are laid out in the order in which they stand, so a field takes what its type takes
*where its class stands*: if the class that the type asks for stands before it, what that class
takes in the finished protocol, and otherwise what the built-in type takes
(`extent?_eq_ite`).

So fields of one type can only differ if the type is both, a built-in type and the name of a
class, and then they do differ across the place of that class, unless it happens to take as
much. For a type that is written `T_t` and asks for the declared class `T` this never shows,
since the walk lays `T` out first. It shows where the class is only found after the array
notation is taken off or the form of a version is put in (`match_of_two_lengths`).
-/

namespace FlowBindings.Protocol

open List

/-- The class that a type asks for is among these. -/
def Knows (v : Version) (classes : List Class) (type : String) : Prop :=
  ∃ n ∈ WireType.asksFor? v type, n ∈ names classes

instance (v : Version) (classes : List Class) (type : String) :
    Decidable (Knows v classes type) :=
  inferInstanceAs (Decidable (∃ _ ∈ _, _))

/-- **What a type takes among the first classes**: what it takes among all of them, or what it
takes without any. -/
theorem extent?_eq_ite {v : Version} {before all : List Class} (enums : List Enum)
    (hpre : before <+: all) (type : String) :
    Context.extent? ⟨v, before, enums⟩ type
      = if Knows v before type then Context.extent? ⟨v, all, enums⟩ type
        else Context.extent? ⟨v, [], enums⟩ type := by
  by_cases hknows : Knows v before type
  · rw [if_pos hknows]
    obtain ⟨n, hask, hmem⟩ := hknows
    refine Context.extent?_congr fun m hm => ?_
    cases hask.symm.trans hm
    obtain ⟨c, hc⟩ := exists_find?_name_of_mem hmem
    rw [hc, hpre.find?_eq_some hc]
  · rw [if_neg hknows]
    refine Context.extent?_congr fun n hn => ?_
    rw [find?_nil, find?_eq_none]
    intro c hc hname
    exact hknows ⟨n, hn, of_decide_eq_true hname ▸ mem_map_of_mem hc⟩

/-! ## Classes that stand where they were laid out -/

/-- **A class that stands where it was laid out**: every class before version 1.3, the class of
every declaration that is not displaced, and every class at all if the hierarchy below the roots
is undisturbed. -/
def Settled (v : Version) (sources : List Source) (p : Protocol) (e : Class) : Prop :=
  v.wire < 4
    ∨ (e.name ∈ (classesOf sources).map (·.name) ∧ e.name ∉ displaced v sources)
    ∨ Orderly v sources p

section Settled

variable {v : Version} {sources : List Source} {p : Protocol}

variable {e : Class} {before : List Class}

/-- **Where a settled class comes from.** -/
theorem Settled.origin (hsettled : Settled v sources p e)
    (h : build v sources = .ok p) {after : List Class}
    (hsplit : p.classes = before ++ e :: after) :
    Origin v (classRows sources) (protocolEnums sources) before e := by
  rcases hsettled with hold | ⟨hdeclared, hfree⟩ | horderly
  · obtain ⟨hbuilt, -⟩ := built_of_build h
    obtain ⟨hnone, hall⟩ := hbuilt.declared_of_old hold
    have he : e ∈ p.classes := by
      rw [hsplit]
      exact mem_append_right _ mem_cons_self
    refine origin_of_declared h hsplit (has_classRows_iff.mp (hall e he)) fun hdisplaced => ?_
    exact Set.notMem_empty e.name (hnone ▸ hdisplaced)
  · exact origin_of_declared h hsplit hdeclared hfree
  · exact horderly.origins h before e after hsplit

/-- The fields of a class take what their types take where the class was laid out. -/
theorem Origin.extent? {decls : Declared} {enums : List Enum}
    (h : Origin v decls enums before e) {f : Field} (hf : f ∈ e.fields) :
    Context.extent? ⟨v, before, enums⟩ f.type = some ⟨f.baseLength, f.isFixedLength⟩ := by
  cases h with
  | layOut step => exact extent?_of_mem_fields step.laidOut hf
  | identify _ step _ _ _ => exact extent?_of_mem_fields step.laidOut hf

/-- A type that is written as the class it asks for finds it. -/
theorem Origin.knows {decls : Declared} {enums : List Enum}
    (h : Origin v decls enums before e) {f : Field} (hf : f ∈ e.fields) {n : String}
    (hn : n ∈ decls.keys) (hask : WireType.asksFor? v f.type = some n)
    (htype : f.type = n ++ "_t" ∨ f.type = n) : Knows v before f.type :=
  ⟨n, hask, h.follows.members f hf n hn htype⟩

end Settled

/-! ## Lengths -/

/-- **A type with one reading**: one that is not built in, one that takes as much without any
class as among the classes of the protocol, or one that is written as the declared class it asks
for. -/
def OneReading (v : Version) (sources : List Source) (p : Protocol) (type : String) : Prop :=
  Context.extent? ⟨v, [], p.enums⟩ type = none
    ∨ Context.extent? ⟨v, [], p.enums⟩ type = Context.extent? ⟨v, p.classes, p.enums⟩ type
    ∨ ∃ c ∈ classesOf sources, WireType.asksFor? v type = some c.name
      ∧ (type = c.name ++ "_t" ∨ type = c.name)

instance (v : Version) (sources : List Source) (p : Protocol) (type : String) :
    Decidable (OneReading v sources p type) :=
  inferInstanceAs (Decidable (_ ∨ _))

/-- Two answers, each taken from one of two places, agree if they are taken from the same place
or the places hold the same. -/
theorem eq_iff_of_ite {α : Type} {a b : Option α} {x y : α} {P Q : Prop} [Decidable P]
    [Decidable Q] (hx : (if P then a else b) = some x) (hy : (if Q then a else b) = some y) :
    x = y ↔ (P ↔ Q) ∨ b = a := by
  by_cases hP : P
  · rw [if_pos hP] at hx
    by_cases hQ : Q
    · rw [if_pos hQ] at hy
      exact iff_of_true (Option.some.inj (hx.symm.trans hy)) (.inl (iff_of_true hP hQ))
    · rw [if_neg hQ] at hy
      rw [hx, hy, Option.some.injEq, iff_false_right hQ, or_iff_right (not_not_intro hP)]
      exact eq_comm
  · rw [if_neg hP] at hx
    by_cases hQ : Q
    · rw [if_pos hQ] at hy
      rw [hx, hy, Option.some.injEq, iff_false_left hP, or_iff_right (not_not_intro hQ)]
    · rw [if_neg hQ] at hy
      exact iff_of_true (Option.some.inj (hx.symm.trans hy)) (.inl (iff_of_false hP hQ))

/-- **One type, one length.** Two fields of one type take the same and are both fixed or both
not, wherever they stand, if the type has one reading. Otherwise they do exactly if the class
that the type asks for stands before both of their classes or before none of them, or takes what
the built-in type takes.

This is for classes that stand where they were laid out, which before version 1.3 all do. -/
theorem build_oneLength {v : Version} {sources : List Source} {p : Protocol}
    (h : build v sources = .ok p) {before before' after after' : List Class} {e e' : Class}
    (hsplit : p.classes = before ++ e :: after) (hsplit' : p.classes = before' ++ e' :: after')
    (hsettled : Settled v sources p e) (hsettled' : Settled v sources p e') {f g : Field}
    (hf : f ∈ e.fields) (hg : g ∈ e'.fields) (htype : f.type = g.type) :
    (OneReading v sources p f.type →
        f.baseLength = g.baseLength ∧ f.isFixedLength = g.isFixedLength)
      ∧ (f.baseLength = g.baseLength ∧ f.isFixedLength = g.isFixedLength
        ↔ (Knows v before f.type ↔ Knows v before' f.type)
          ∨ Context.extent? ⟨v, [], p.enums⟩ f.type
            = Context.extent? ⟨v, p.classes, p.enums⟩ f.type) := by
  obtain ⟨-, -, -, -, henums⟩ := build_eq_ok_iff.mp h
  have horigin := hsettled.origin h hsplit
  have horigin' := hsettled'.origin h hsplit'
  rw [← henums] at horigin horigin'
  have hlength := horigin.extent? hf
  have hlength' := horigin'.extent? hg
  rw [extent?_eq_ite p.enums ⟨e :: after, hsplit.symm⟩] at hlength
  rw [← htype, extent?_eq_ite p.enums ⟨e' :: after', hsplit'.symm⟩] at hlength'
  have hagree := eq_iff_of_ite hlength hlength'
  rw [Extent.mk.injEq] at hagree
  refine ⟨fun hreading => hagree.mpr ?_, hagree⟩
  rcases hreading with hnone | hsame | ⟨c, hc, hask, hwritten⟩
  · -- nothing but the class gives the type a length
    left
    have hknows : ∀ {classes : List Class} {x : Extent},
        (if Knows v classes f.type then Context.extent? ⟨v, p.classes, p.enums⟩ f.type
          else Context.extent? ⟨v, [], p.enums⟩ f.type) = some x → Knows v classes f.type := by
      intro classes x hx
      by_contra hunknown
      rw [if_neg hunknown, hnone] at hx
      cases hx
    exact iff_of_true (hknows hlength) (hknows hlength')
  · exact .inr hsame
  · -- the walk has laid the class out before both
    have hkey : c.name ∈ (classRows sources).keys := by
      rw [keys_classRows]
      exact mem_map_of_mem hc
    have hknows' := horigin'.knows hg hkey (htype ▸ hask) (htype ▸ hwritten)
    rw [← htype] at hknows'
    exact .inl (iff_of_true (horigin.knows hf hkey hask hwritten) hknows')

/-- In a version 1.3 with a port and an action, every type has one length, also in the classes
that identify the actions. -/
theorem build_oneLength_port :
    ∃ p, build .v13 [portSource] = .ok p ∧ Orderly .v13 [portSource] p
      ∧ "of_action_id_output" ∈ names p.classes
      ∧ ∀ e ∈ p.classes, ∀ e' ∈ p.classes, ∀ f ∈ e.fields, ∀ g ∈ e'.fields, f.type = g.type →
        f.baseLength = g.baseLength ∧ f.isFixedLength = g.isFixedLength := by
  have htest : (build .v13 [portSource]).toOption.any (fun p =>
      "of_action_id_output" ∈ names p.classes
      ∧ (∀ e ∈ p.classes, ∀ root ∈ idRoots, e.isInstanceOf root = true →
        Text.startsWith e.name root = true)
      ∧ ∀ e ∈ p.classes, ∀ f ∈ e.fields, OneReading .v13 [portSource] p f.type) = true := by
    rw [build_eq_walk .v13 (by decide) (by decide), sortedNames_of_pairwise (by decide)]
    decide +kernel
  have hdisplaced : displaced .v13 [portSource] = [] := by
    unfold displaced
    rw [sortedNames_of_pairwise (by decide)]
    decide +kernel
  obtain ⟨p, hp, hq⟩ := exists_ok_of_any htest
  obtain ⟨hid, hbegin, hreading⟩ := of_decide_eq_true hq
  have horderly : Orderly .v13 [portSource] p := by
    refine ⟨by decide, hbegin, fun e _ he => ?_⟩
    rw [hdisplaced] at he
    exact absurd he not_mem_nil
  refine ⟨p, hp, horderly, hid, fun e he e' he' f hf g hg htype => ?_⟩
  obtain ⟨before, after, hsplit⟩ := append_of_mem he
  obtain ⟨before', after', hsplit'⟩ := append_of_mem he'
  exact (build_oneLength hp hsplit hsplit' (.inr (.inr horderly)) (.inr (.inr horderly)) hf hg
    htype).1 (hreading e he f hf)

/-- Two structs with a match, one before and one behind the struct that gives matches of version
1.0 their form. -/
def matchSource : Source where
  file := "standard-1.0"
  versions := [.v10]
  classes :=
    [⟨"a", none, [.field "m" "of_match_t" .data], false, []⟩,
     ⟨"of_match_v1", none, [.field "x" "uint8_t" .data], false, []⟩,
     ⟨"z", none, [.field "m" "of_match_t" .data], false, []⟩]
  enums := []

/-- **A match of two lengths**: the forty bytes of the built-in type before the struct, and the
one byte of the struct behind it. -/
theorem match_of_two_lengths :
    ∃ p, build .v10 [matchSource] = .ok p
      ∧ ∃ e ∈ p.classes, ∃ e' ∈ p.classes, ∃ f ∈ e.fields, ∃ g ∈ e'.fields,
        f.type = g.type ∧ f.baseLength = 40 ∧ g.baseLength = 1 := by
  have htest : (build .v10 [matchSource]).toOption.any (fun p =>
      ∃ e ∈ p.classes, ∃ e' ∈ p.classes, ∃ f ∈ e.fields, ∃ g ∈ e'.fields,
        f.type = g.type ∧ f.baseLength = 40 ∧ g.baseLength = 1) = true := by
    rw [build_eq_walk .v10 (by decide) (by decide), sortedNames_of_pairwise (by decide)]
    decide +kernel
  obtain ⟨p, hp, hq⟩ := exists_ok_of_any htest
  exact ⟨p, hp, of_decide_eq_true hq⟩

end FlowBindings.Protocol
