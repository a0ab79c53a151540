import FlowBindings.Proofs.CycleDetection
import FlowBindings.Proofs.DependencyOrder

/-!
# Superclass names

Whoever follows the superclass names of a protocol from class to class goes to the front: a
class stands behind the class it extends (`Grounded`), so the names lead nowhere twice
(`Grounded.acyclic`).

There is one way in which this fails, and it is no near miss. An identification that gives two
classes on one way up the same name puts the lower one in the place of the upper one. It then
stands in front of its superclass; but it also stands above it, for the way up from its
superclass led to the class it has replaced (`visitId_ascends`). So there is no protocol in
which a superclass is merely late: either every superclass comes first, or some class lies
above itself (`grounded_or_circular_of_build`). The latter takes a version from 1.3 on and a
class below a root that is not named after it (`acyclic_superclasses_of_orderly`).
-/

namespace FlowBindings

open Relation List

/-! ## Redirected ways -/

section Redirect

variable {α : Type} {R S : α → α → Prop} {n x y : α}

/-- Where only one element leads elsewhere, a way stays a way, at least as far as that
element. -/
theorem reflTransGen_redirect (h : ∀ a b, R a b → a ≠ n → S a b) (hxy : ReflTransGen R x y) :
    ReflTransGen S x y ∨ ReflTransGen S x n := by
  induction hxy using ReflTransGen.head_induction_on with
  | refl => exact .inl .refl
  | @head a c hac _ ih =>
    by_cases ha : a = n
    · rw [ha]
      exact .inr .refl
    · exact ih.imp (.head (h a c hac ha)) (.head (h a c hac ha))

theorem transGen_redirect (h : ∀ a b, R a b → a ≠ n → S a b) (hxy : TransGen R x y) :
    TransGen S x y ∨ ReflTransGen S x n := by
  obtain ⟨z, hxz, hzy⟩ := TransGen.head'_iff.mp hxy
  by_cases hx : x = n
  · rw [hx]
    exact .inr .refl
  · have hS := h x z hxz hx
    exact (reflTransGen_redirect h hzy).imp (TransGen.head' hS) (ReflTransGen.head hS)

end Redirect

/-! ## Superclass names -/

/-- Among some classes, the class of one name extends the other name. -/
def ExtendsAmong (classes : List Class) (n s : String) : Prop :=
  ∃ c ∈ classes, c.name = n ∧ c.superclass? = some s

section Names

variable {classes classes' : List Class}

theorem ExtendsAmong.mono (hsub : classes ⊆ classes') (n s : String)
    (h : ExtendsAmong classes n s) : ExtendsAmong classes' n s := by
  obtain ⟨c, hc, hname, hsuper⟩ := h
  exact ⟨c, hsub hc, hname, hsuper⟩

theorem not_acyclic_mono (hsub : classes ⊆ classes') (h : ¬ Acyclic (ExtendsAmong classes)) :
    ¬ Acyclic (ExtendsAmong classes') :=
  fun hfree => h fun n hn => hfree n (TransGen.mono (ExtendsAmong.mono hsub) _ _ hn)

/-- Superclass names lead to the front. -/
theorem Grounded.idxOf_lt (h : Grounded classes) (hnodup : (classes.map (·.name)).Nodup)
    {n s : String} (hext : ExtendsAmong classes n s) :
    (classes.map (·.name)).idxOf s < (classes.map (·.name)).idxOf n := by
  obtain ⟨c, hc, rfl, hs⟩ := hext
  obtain ⟨before, after, rfl⟩ := append_of_mem hc
  have hmem : s ∈ before.map (·.name) := h before c after rfl s hs
  have hnew : c.name ∉ before.map (·.name) := by
    rw [map_append, map_cons, nodup_append] at hnodup
    exact fun hold => hnodup.2.2 c.name hold c.name mem_cons_self rfl
  rw [map_append, idxOf_append_of_mem hmem, idxOf_append_of_notMem hnew]
  exact (idxOf_lt_length_iff.mpr hmem).trans_le (Nat.le_add_right _ _)

/-- **Where superclass names come first, no class lies above itself.** -/
theorem Grounded.acyclic (h : Grounded classes) (hnodup : (classes.map (·.name)).Nodup) :
    Acyclic (ExtendsAmong classes) := by
  intro n hn
  have hfront : ∀ {a b}, TransGen (ExtendsAmong classes) a b →
      (classes.map (·.name)).idxOf b < (classes.map (·.name)).idxOf a := by
    intro a b hab
    induction hab with
    | single hstep => exact h.idxOf_lt hnodup hstep
    | tail _ hstep ih => exact (h.idxOf_lt hnodup hstep).trans ih
  exact lt_irrefl _ (hfront hn)

end Names

namespace Protocol

section Steps

variable {v : Version} {decls : Declared} {enums : List Enum}

variable {e : Class} {done : List Class}

theorem superclass?_of_ofSource {ctx : List Class} {d : Source.Class}
    (h : Class.ofSource ⟨v, ctx, enums⟩ (visit.lineage ctx d.superclass) d = .ok e)
    (hup : ∀ up, d.superclass = some up → up ∈ names ctx) : e.superclass? = d.superclass := by
  rw [Class.superclass?, (ofSource_fields h).2.1]
  cases hsuper : d.superclass with
  | none => rfl
  | some up =>
    obtain ⟨u, hu⟩ := exists_find?_name_of_mem (hup up hsuper)
    have hname : u.name = up := by simpa using List.find?_some hu
    rw [visit.lineage, Option.bind_some, hu]
    exact congrArg some hname

theorem Layable.grounded {c : Source.Class} {laid : Class}
    (step : Layable v decls enums done c laid) (h : Grounded done) :
    Grounded (done ++ [laid]) := by
  refine h.append fun s hs => ?_
  rw [superclass?_of_ofSource step.laidOut fun _ hup => step.superclass_mem hup] at hs
  exact step.superclass_mem hs

theorem Walk.grounded {done' : List Class} (h : Walk v decls enums done done')
    (hdone : Grounded done) : Grounded done' := by
  induction h with
  | stay => exact hdone
  | layOut _ step ih => exact step.grounded ih

/-- Before version 1.3 there is nothing but steps of the walk. -/
theorem Built.grounded_of_old (hold : v.wire < 4) {taken : Set String}
    (h : Built v decls enums done taken) : Grounded done := by
  induction h with
  | start => exact eachAfter_nil
  | layOut _ step ih => exact step.grounded ih
  | identify _ hversion _ _ _ _ _ => exact absurd hversion (Nat.not_le.mpr hold)

/-! ## Identifications -/

/-- Placing a class changes what its own name extends and nothing else. -/
theorem extendsAmong_place {a b : String}
    (h : ExtendsAmong done a b) (hne : a ≠ e.name) : ExtendsAmong (place done e) a b := by
  obtain ⟨c, hc, rfl, hsuper⟩ := h
  refine ⟨c, ?_, rfl, hsuper⟩
  unfold place
  split
  · exact mem_map.mpr ⟨c, hc, if_neg hne⟩
  · exact mem_append_left _ hc

@[simp]
theorem mem_place_self (done : List Class) (e : Class) : e ∈ place done e := by
  unfold place
  split
  · rename_i hany
    obtain ⟨d, hd, hname⟩ := any_eq_true.mp hany
    exact mem_map.mpr ⟨d, hd, if_pos (of_decide_eq_true hname)⟩
  · exact mem_append_right _ (mem_singleton_self e)

/-- From a name the superclass names lead into a circle. -/
def LeadsIntoCircle (classes : List Class) (n : String) : Prop :=
  ∃ m, ReflTransGen (ExtendsAmong classes) n m ∧ TransGen (ExtendsAmong classes) m m

theorem LeadsIntoCircle.not_acyclic {classes : List Class} {n : String}
    (h : LeadsIntoCircle classes n) : ¬ Acyclic (ExtendsAmong classes) := by
  obtain ⟨m, -, hm⟩ := h
  exact fun hfree => hfree m hm

/-- **The way up from what was just identified** meets everything the identification has
added, and superclass names still come first; or else it leads into a circle. -/
def Ascends (base done : List Class) (n : String) : Prop :=
  LeadsIntoCircle done n
    ∨ (∀ m ∈ names done, m ∉ names base → ReflTransGen (ExtendsAmong done) n m)
      ∧ (Grounded base → Grounded done)

/-- An identifying class is put behind the others when its name is new. -/
theorem ascends_append {base ready : List Class}
    (hready : ready = base ∨ ∃ up, e.superclass? = some up ∧ Ascends base ready up)
    (hsuper : ∀ s, e.superclass? = some s → s ∈ names ready) :
    Ascends base (ready ++ [e]) e.name := by
  have hsub : ready ⊆ ready ++ [e] := subset_append_left _ _
  have he : e ∈ ready ++ [e] := mem_append_right _ (mem_singleton_self e)
  have hmono := ExtendsAmong.mono hsub
  rcases hready with rfl | ⟨up, hup, ⟨m, hm, hcircle⟩ | ⟨hmeets, hground⟩⟩
  · refine .inr ⟨fun m hm hnew => ?_, fun hbase => hbase.append hsuper⟩
    rw [names_append_singleton, mem_append, mem_singleton] at hm
    rcases hm with hm | rfl
    · exact absurd hm hnew
    · exact .refl
  · exact .inl ⟨m, .head ⟨e, he, rfl, hup⟩ (ReflTransGen.mono hmono _ _ hm),
      TransGen.mono hmono _ _ hcircle⟩
  · refine .inr ⟨fun m hm hnew => ?_, fun hbase => (hground hbase).append hsuper⟩
    rw [names_append_singleton, mem_append, mem_singleton] at hm
    rcases hm with hm | rfl
    · exact .head ⟨e, he, rfl, hup⟩ (ReflTransGen.mono hmono _ _ (hmeets m hm hnew))
    · exact .refl

/-- **An identifying class that takes the place of one further up lies above itself**: the way
up from its superclass came to the class it replaces. -/
theorem leadsIntoCircle_place {base ready : List Class} {up : String}
    (hup : e.superclass? = some up) (hready : Ascends base ready up)
    (hmem : e.name ∈ names ready) (hnew : e.name ∉ names base) :
    LeadsIntoCircle (place ready e) e.name := by
  have hredirect : ∀ a b, ExtendsAmong ready a b → a ≠ e.name → ExtendsAmong (place ready e) a b :=
    fun a b hab hne => extendsAmong_place hab hne
  have hstep : ExtendsAmong (place ready e) e.name up := ⟨e, mem_place_self ready e, rfl, hup⟩
  have hback : ReflTransGen (ExtendsAmong (place ready e)) up e.name →
      LeadsIntoCircle (place ready e) e.name :=
    fun h => ⟨e.name, .refl, .head' hstep h⟩
  rcases hready with ⟨m, hm, hcircle⟩ | ⟨hmeets, -⟩
  · -- an older circle is still there, unless it went through the class that was replaced
    rcases reflTransGen_redirect hredirect hm with hm' | hm'
    · rcases transGen_redirect hredirect hcircle with hcircle' | hto
      · exact ⟨m, .head hstep hm', hcircle'⟩
      · exact hback (hm'.trans hto)
    · exact hback hm'
  · exact hback ((reflTransGen_redirect hredirect (hmeets _ hmem hnew)).elim id id)

/-- **An identification ascends.** By induction on its depth: the superclass is identified
first, and then the class itself is put behind everything or in the place of a class that
the way up from the superclass meets. -/
theorem visitId_ascends (hnamed : Named decls)
    {root : String} {fuel : Nat} {name : String} {done' : List Class}
    (h : visitId v decls enums root fuel name done = .ok done')
    (hnew : idName root name ∉ names done) : Ascends done done' (idName root name) := by
  induction fuel generalizing name done' with
  | zero => cases h
  | succ fuel ih =>
    obtain ⟨hold, -⟩ | ⟨fuel', c, file, ready, laid, hfuel, -, hget, hready, hlaid, rfl⟩ :=
      visitId_cases hnamed h
    · exact absurd hold hnew
    cases hfuel
    obtain rfl := hnamed hget
    have hname : laid.name = idName root c.name := (ofSource_fields hlaid).1
    have hup : ∀ s, (idDeclaration root c).superclass = some s → s ∈ names ready := by
      intro s hs
      rcases hready with ⟨hnone, -⟩ | ⟨up, hsome, hmid⟩
      · rw [idDeclaration, hnone] at hs
        cases hs
      · rw [idDeclaration, hsome] at hs
        cases hs
        exact (visitId_idWalk hnamed hmid).2
    have hsuper := superclass?_of_ofSource hlaid hup
    rw [← hsuper] at hup
    -- either nothing was added above the class, or the superclass ascends
    have hcases : ready = done ∨ ∃ up, laid.superclass? = some up ∧ Ascends done ready up := by
      rcases hready with ⟨-, rfl⟩ | ⟨up, hsome, hmid⟩
      · exact .inl rfl
      · by_cases hold : idName root up ∈ names done
        · obtain ⟨-, rfl⟩ | ⟨_, _, _, _, _, -, hfresh, -⟩ := visitId_cases hnamed hmid
          · exact .inl rfl
          · exact absurd hold hfresh
        · refine .inr ⟨idName root up, ?_, ih hmid hold⟩
          rw [hsuper, idDeclaration, hsome]
          rfl
    rw [← hname] at hnew ⊢
    by_cases hplace : laid.name ∈ names ready
    · obtain rfl | ⟨up, hup, hascends⟩ := hcases
      · exact absurd hplace hnew
      · exact .inl (leadsIntoCircle_place hup hascends hplace hnew)
    · rw [place_of_fresh hplace]
      exact ascends_append hcases hup

end Steps

/-! ## Protocols -/

variable {sources : List Source} {p : Protocol} {v : Version}

/-- **What visits and identifications keep holds of every protocol.** -/
theorem build_invariant (I : List Class → Prop) (h : build v sources = .ok p) (hstart : I [])
    (hvisit : ∀ {fuel path name done done'},
      visit v (classRows sources) (protocolEnums sources) fuel path name done = .ok done' →
        I done → I done')
    (hidentify : ∀ {root fuel name done done'},
      visitId v (classRows sources) (protocolEnums sources) root fuel name done = .ok done' →
        I done → I done') : I p.classes := by
  obtain ⟨-, -, hwalk, -, -⟩ := build_eq_ok_iff.mp h
  refine foldlM_invariant I (fun name _ done found hstep hdone => ?_) hwalk hstart
  obtain ⟨laid, hlaid, hstep⟩ := bind_eq_ok_iff.mp hstep
  have hI := hvisit hlaid hdone
  split at hstep
  · split at hstep
    · cases hstep
      exact hI
    · refine foldlM_invariant I (fun root _ mid found hroot hmid => ?_) hstep hI
      split at hroot
      · exact hidentify hroot hmid
      · cases hroot
        exact hmid
  · cases hstep
    exact hI

/-- **In a protocol superclass names come first, or some class lies above itself.** -/
theorem grounded_or_circular_of_build (h : build v sources = .ok p) :
    Grounded p.classes ∨ ¬ Acyclic (ExtendsAmong p.classes) := by
  have hnamed := @name_of_get?_classRows sources
  refine build_invariant (fun done => Grounded done ∨ ¬ Acyclic (ExtendsAmong done)) h
    (.inl eachAfter_nil) ?_ ?_
  · intro fuel path name done done' hvisit hdone
    obtain ⟨⟨hwalk, -⟩, -⟩ := visit_walk hnamed hvisit
    exact hdone.imp hwalk.grounded (not_acyclic_mono hwalk.isPrefix.subset)
  · intro root fuel name done done' hid hdone
    by_cases hnew : idName root name ∈ names done
    · obtain ⟨-, rfl⟩ | ⟨_, _, _, _, _, -, hfresh, -⟩ := visitId_cases hnamed hid
      · exact hdone
      · exact absurd hnew hfresh
    · rcases visitId_ascends hnamed hid hnew with hcircle | ⟨-, hground⟩
      · exact .inr hcircle.not_acyclic
      · exact hdone.imp hground (not_acyclic_mono (visitId_idWalk hnamed hid).1.isPrefix.subset)

/-- **No class lies above itself** before version 1.3, nor in an undisturbed hierarchy below
the roots. -/
theorem acyclic_superclasses_of_orderly
    (h : build v sources = .ok p) (horderly : v.wire < 4 ∨ Orderly v sources p) :
    Acyclic (ExtendsAmong p.classes) := by
  obtain ⟨hbuilt, -⟩ := built_of_build h
  have hground : Grounded p.classes := by
    rcases horderly with hold | horderly
    · exact hbuilt.grounded_of_old hold
    · have horder : InOrder (classRows sources).keys p.classes :=
        (horderly.origins h).imp fun _ _ => Origin.follows
      exact horder.superclassesFirst.grounded
  exact hground.acyclic hbuilt.nodup

end Protocol

end FlowBindings
