import FlowBindings.Proofs.Construction
import FlowBindings.Proofs.Measuring
import Mathlib.Data.List.Chain
import Mathlib.Data.List.Perm.Subperm
import Mathlib.Logic.Relation

/-!
# Why a construction fails

`Construction` reads a protocol as the end of a sequence of steps. This module does the same
for sources that make no protocol: whatever `build` complains about, there is a state of the
construction in which the complaint is justified. `Fails` lists the reasons, one for each way
a step can go wrong, and `fails_of_build` says that there are no others.

Two of the reasons are about circles. The walk carries the names it is inside of, and a name
it meets again on its way down closes a circle of classes that need each other
(`Fails.circle`). An identification carries nothing; where superclasses lead in a circle it
goes on without end (`Fails.idCircle`). The walk itself never does: what it is inside of are
declared names, each once, so it is never deeper than there are classes. That is why the
bound on its depth does not show here.
-/

namespace FlowBindings

open List

theorem exists_error_of_mapM {ε α β : Type} {f : α → Except ε β} {l : List α} {e : ε}
    (h : l.mapM f = .error e) : ∃ a ∈ l, f a = .error e := by
  have hends : EndsIn (Forall₂ (fun _ _ => True) l) (fun e => ∃ a ∈ l, f a = .error e)
      (l.mapM f) := by
    refine endsIn_mapM fun a ha => ?_
    cases hfa : f a with
    | ok b => trivial
    | error e' => exact ⟨a, ha, hfa⟩
  exact hends.of_error h

/-- A class has no layout when one of its members is not measured. -/
theorem exists_memberExtent_error {ctx : Context} {ancestors : List Ancestor} {c : Source.Class}
    {e : Protocol.Error} (h : Class.ofSource ctx ancestors c = .error e) :
    ∃ m ∈ c.members, ctx.memberExtent c.name m = .error e := by
  rcases error_of_bind h with h | ⟨_, -, h⟩
  · exact exists_error_of_mapM h
  · cases h

/-- A class has no layout when the type of one of its fields is not measured. -/
theorem exists_unmeasured_of_ofSource {ctx : Context} {ancestors : List Ancestor}
    {c : Source.Class} {e : Protocol.Error} (h : Class.ofSource ctx ancestors c = .error e) :
    ∃ name type role, .field name type role ∈ c.members ∧ ctx.Unmeasured type e := by
  obtain ⟨m, hm, herror⟩ := exists_memberExtent_error h
  cases m with
  | pad length => cases herror
  | field name type role =>
    exact ⟨name, type, role, hm, (Context.memberExtent_endsIn role).of_error herror⟩

/-! ## Chains -/

section Chains

variable {α : Type} {R : α → α → Prop} {l : List α}

theorem pairwise_transGen_of_isChain (h : l.IsChain R) : l.Pairwise (Relation.TransGen R) :=
  isChain_iff_pairwise.mp (h.imp fun _ _ => Relation.TransGen.single)

/-- A chain in which nothing leads back to itself names nothing twice. -/
theorem nodup_of_isChain (h : l.IsChain R) (hfree : ∀ a ∈ l, ¬ Relation.TransGen R a a) :
    l.Nodup := by
  refine (pairwise_transGen_of_isChain h).imp_of_mem fun ha _ hab heq => hfree _ ha ?_
  rwa [← heq] at hab

theorem transGen_of_isChain {a : α} (h : (l ++ [a]).IsChain R) (ha : a ∈ l) :
    Relation.TransGen R a a :=
  (pairwise_append.mp (pairwise_transGen_of_isChain h)).2.2 a ha a (mem_singleton_self a)

/-- Whoever does not come last in a chain leads to someone. -/
theorem exists_rel_of_isChain {a b : α} (h : (l ++ [b]).IsChain R) (ha : a ∈ l) :
    ∃ c, R a c := by
  obtain ⟨before, after, rfl⟩ := append_of_mem ha
  rw [append_assoc, isChain_append] at h
  cases after with
  | nil => exact ⟨b, (isChain_cons.mp h.2.1).1 b rfl⟩
  | cons c after => exact ⟨c, (isChain_cons.mp h.2.1).1 c rfl⟩

end Chains

namespace Protocol

/-! ## What declared classes lead to -/

section Relations

variable (decls : Declared)

/-- A declared class extends a name. -/
def Up (n up : String) : Prop :=
  ∃ c file, decls.get? n = some (c, file) ∧ c.superclass = some up

/-- A declared class needs a name to be laid out before it. -/
def Needs (n m : String) : Prop :=
  ∃ c file, decls.get? n = some (c, file) ∧ m ∈ prerequisites decls c

variable {decls} {n m : String}

theorem Up.needs (h : Up decls n m) : Needs decls n m := by
  obtain ⟨c, file, hget, hsuper⟩ := h
  exact ⟨c, file, hget, mem_prerequisites_of_superclass decls hsuper⟩

theorem Needs.up_or_has (h : Needs decls n m) : Up decls n m ∨ decls.has m = true := by
  obtain ⟨c, file, hget, hm⟩ := h
  rcases mem_append.mp hm with hm | hm
  · exact Or.inl ⟨c, file, hget, Option.mem_toList.mp hm⟩
  · obtain ⟨member, -, hdep⟩ := mem_flatMap.mp hm
    unfold dependencies at hdep
    split at hdep
    · exact absurd hdep not_mem_nil
    · exact Or.inr (mem_filter.mp hdep).2

theorem mem_keys_of_get? {row : Source.Class × String} (h : decls.get? n = some row) :
    n ∈ decls.keys :=
  mem_map_of_mem (f := Prod.fst) (Table.mem_of_get? h)

/-- The way up is a matter of superclasses. -/
theorem above_iff : Above decls n m ↔ Relation.ReflTransGen (Up decls) n m := by
  constructor
  · intro h
    induction h with
    | self => exact .refl
    | up _ hget hsuper ih => exact ih.tail ⟨_, _, hget, hsuper⟩
  · intro h
    induction h with
    | refl => exact .self
    | tail _ hup ih =>
      obtain ⟨c, file, hget, hsuper⟩ := hup
      exact .up ih hget hsuper

/-- A chain of declared names, none twice, is not longer than there are declarations. -/
theorem length_le_of_nodup {path : List String} (hnodup : path.Nodup)
    (hsub : ∀ n ∈ path, n ∈ decls.keys) : path.length ≤ decls.length := by
  have hle := (hnodup.subperm hsub).length_le
  rwa [Table.keys, length_map] at hle

end Relations

/-! ## The reasons -/

section Reasons

variable (v : Version) (decls : Declared) (enums : List Enum)

/-- **An identification that begins**: from version 1.3 on, a declared class that counts as an
action or an instruction is identified. -/
structure Identifying (done : List Class) (taken : Set String) (root : String) (c : Class) :
    Prop where
  /-- The state in which it begins. -/
  built : Built v decls enums done taken
  /-- The version has identifying classes. -/
  version : 4 ≤ v.wire
  /-- The root is one of the two. -/
  isRoot : root ∈ idRoots
  /-- The class is there. -/
  mem : c ∈ done
  /-- A class of its name is declared. -/
  declared : decls.has c.name = true
  /-- It lies below the root. -/
  below : c.isInstanceOf root = true

/-- **Why a construction fails.** -/
inductive Fails : Error → Prop where
  /-- The walk comes back to a name it is inside of. -/
  | circle {path : List String} {name : String} (chain : (path ++ [name]).IsChain (Needs decls))
      (inside : name ∈ path) : Fails (.cycle (path ++ [name]))
  /-- A declared class extends one that is not declared. -/
  | missing {n up : String} (hup : Up decls n up) (hnone : decls.get? up = none) :
      Fails (.classNotFound up)
  /-- A declared class has no layout, although what it needs is there. -/
  | layout {done : List Class} {taken : Set String} {c : Source.Class} {e : Error}
      (built : Built v decls enums done taken)
      (declared : ∃ file, decls.get? c.name = some (c, file))
      (ready : ∀ n ∈ prerequisites decls c, n ∈ names done)
      (error : Class.ofSource ⟨v, done, enums⟩ (visit.lineage done c.superclass) c = .error e) :
      Fails e
  /-- What identifies a class has no layout. -/
  | idLayout {done ctx : List Class} {taken : Set String} {root : String} {c : Class}
      {d : Source.Class} {e : Error} (start : Identifying v decls enums done taken root c)
      (way : Above decls c.name d.name) (declared : ∃ file, decls.get? d.name = some (d, file))
      (known : done <+: ctx)
      (error : Class.ofSource ⟨v, ctx, enums⟩
        (visit.lineage ctx (idDeclaration root d).superclass) (idDeclaration root d) = .error e) :
      Fails e
  /-- What identifies a class is not fixed. -/
  | idVariable {done : List Class} {taken : Set String} {root n : String} {c : Class}
      (start : Identifying v decls enums done taken root c) (way : Above decls c.name n) :
      Fails (.variableId (idName root n))
  /-- A class to be identified is not declared. -/
  | idMissing {done : List Class} {taken : Set String} {root n : String} {c : Class}
      (start : Identifying v decls enums done taken root c) (way : Above decls c.name n)
      (hnone : decls.get? n = none) : Fails (.undeclaredId n)
  /-- The way up runs in a circle. -/
  | idCircle {done : List Class} {taken : Set String} {root n m : String} {c : Class}
      (start : Identifying v decls enums done taken root c) (way : Above decls c.name m)
      (circle : Relation.TransGen (Up decls) m m) : Fails (.endless n)

variable {v decls enums}

/-! ## The walk -/

variable {e : Error} {done : List Class} {taken : Set String} {name : String}

/-- **Why a visit fails.** The names on its path are declared and need each other in turn, so
there are never more of them than declarations, and the bound on its depth is never met. -/
theorem fails_of_visit (hnamed : Named decls)
    {fuel : Nat} {path : List String} (hdone : Built v decls enums done taken)
    (hchain : (path ++ [name]).IsChain (Needs decls)) (hnodup : path.Nodup)
    (hfuel : decls.length < path.length + fuel) (hstart : path = [] → decls.has name = true)
    (h : visit v decls enums fuel path name done = .error e) : Fails v decls enums e := by
  induction fuel generalizing path name done e with
  | zero =>
    refine absurd (length_le_of_nodup hnodup fun n hn => ?_) (Nat.not_le.mpr hfuel)
    obtain ⟨_, c, file, hget, -⟩ := exists_rel_of_isChain hchain hn
    exact mem_keys_of_get? hget
  | succ fuel ih =>
    rw [visit_succ] at h
    by_cases hmem : name ∈ names done
    · rw [if_pos hmem] at h
      cases h
    by_cases hinside : name ∈ path
    · rw [if_neg hmem, if_pos hinside] at h
      cases h
      exact .circle hchain hinside
    rw [if_neg hmem, if_neg hinside] at h
    cases hget : decls.get? name with
    | none =>
      -- the walk came here from a class that extends the name
      rw [hget] at h
      cases h
      have hhas : ¬ decls.has name = true := by
        rw [Table.has_eq_isSome, hget]
        exact Bool.false_ne_true
      rcases eq_nil_or_concat path with rfl | ⟨before, last, rfl⟩
      · exact absurd (hstart rfl) hhas
      · rw [concat_eq_append, append_assoc] at hchain
        have hneeds : Needs decls last name := (isChain_append_cons_cons.mp hchain).2.1
        exact .missing (hneeds.up_or_has.resolve_right hhas) hget
    | some row =>
      obtain ⟨c, file⟩ := row
      obtain rfl := hnamed hget
      rw [hget] at h
      dsimp only at h
      -- what is visited before a class leads to a state of the construction
      have hvisits : ∀ {l : List String} {mid : List Class},
          l.foldlM (fun done n => visit v decls enums fuel (path ++ [c.name]) n done) done
            = .ok mid → Built v decls enums mid taken ∧ ∀ n ∈ l, n ∈ names mid := by
        intro l mid hl
        obtain ⟨hwalk, hthere⟩ := foldlM_reaches (R := Walk v decls enums)
          (P := fun n b => n ∈ names b) (fun _ => .stay) Walk.trans
          (fun hab hn => names_subset_of_isPrefix hab.isPrefix hn)
          (fun n _ _ _ hn => ⟨(visit_walk hnamed hn).1.1, (visit_walk hnamed hn).2⟩) hl
        exact ⟨hdone.walk hwalk, hthere⟩
      rcases error_of_bind h with hready | ⟨ready, hready, h⟩
      · obtain ⟨before, n, after, mid, hsplit, hbefore, hn⟩ := foldlM_eq_error_iff.mp hready
        have hneeds : Needs decls c.name n := by
          refine ⟨c, file, hget, ?_⟩
          rw [hsplit]
          exact mem_append_right _ mem_cons_self
        refine ih (hvisits hbefore).1 ?_ ?_ ?_ ?_ hn
        · rw [append_assoc]
          exact isChain_append_cons_cons.mpr ⟨hchain, hneeds, isChain_singleton n⟩
        · rw [← concat_eq_append]
          exact hnodup.concat hinside
        · rw [length_append, length_singleton]
          omega
        · intro hnil
          exact absurd hnil (append_ne_nil_of_right_ne_nil _ (cons_ne_nil _ _))
      · obtain ⟨hbuilt, hthere⟩ := hvisits hready
        rcases error_of_bind h with hlaid | ⟨_, -, h⟩
        · exact .layout hbuilt ⟨file, hget⟩ hthere hlaid
        · cases h

/-! ## Identifications -/

/-- **Why an identification fails.** `way` are the names it has come through. If there are more
of them than declarations, one has occurred before, and the way up runs in a circle. -/
theorem fails_of_visitId (hnamed : Named decls) {root : String} {c : Class}
    (hstart : Identifying v decls enums done taken root c) {fuel : Nat} (way : List String)
    (hchain : (way ++ [name]).IsChain (Up decls))
    (hway : ∀ n ∈ way ++ [name], Above decls c.name n) (hfuel : decls.length < way.length + fuel)
    (h : visitId v decls enums root fuel name done = .error e) : Fails v decls enums e := by
  have habove : Above decls c.name name := hway name (mem_append_right _ mem_cons_self)
  induction fuel generalizing way name e with
  | zero =>
    cases h
    have hdeclared : ∀ n ∈ way, n ∈ decls.keys := by
      intro n hn
      obtain ⟨_, d, file, hget, -⟩ := exists_rel_of_isChain hchain hn
      exact mem_keys_of_get? hget
    have hrepeats : ¬ way.Nodup := fun hnodup =>
      Nat.not_le.mpr hfuel (length_le_of_nodup hnodup hdeclared)
    have hfront : way.IsChain (Up decls) := (isChain_append.mp hchain).1
    obtain ⟨m, hm, hcircle⟩ : ∃ m ∈ way, Relation.TransGen (Up decls) m m := by
      by_contra hfree
      exact hrepeats (nodup_of_isChain hfront fun m hm hcircle => hfree ⟨m, hm, hcircle⟩)
    exact .idCircle hstart (hway m (mem_append_left _ hm)) hcircle
  | succ fuel ih =>
    rw [visitId_succ hnamed] at h
    by_cases hmem : idName root name ∈ names done
    · rw [if_pos hmem] at h
      cases h
    rw [if_neg hmem] at h
    cases hget : decls.get? name with
    | none =>
      rw [hget] at h
      cases h
      exact .idMissing hstart habove hget
    | some row =>
      obtain ⟨d, file⟩ := row
      obtain rfl := hnamed hget
      rw [hget] at h
      dsimp only at h
      -- either the superclass has no identification, or it has one and the class itself fails
      obtain ⟨up, hsuper, hup⟩ | ⟨ready, hknown, hrest⟩ :
          (∃ up, d.superclass = some up ∧ visitId v decls enums root fuel up done = .error e)
            ∨ ∃ ready, done <+: ready ∧ (do
              let laid ← Class.ofSource ⟨v, ready, enums⟩
                (visit.lineage ready (idDeclaration root d).superclass) (idDeclaration root d)
              if !laid.isVirtual && !laid.isFixedLength then
                throw (.variableId (idName root d.name))
              pure (place ready laid) : Except Error (List Class)) = .error e := by
        cases hsuper : d.superclass with
        | none =>
          rw [hsuper] at h
          exact .inr ⟨done, prefix_rfl, h⟩
        | some up =>
          rw [hsuper, Option.toList_some, foldlM_cons, bind_assoc] at h
          rcases error_of_bind h with hup | ⟨ready, hup, h⟩
          · exact .inl ⟨up, rfl, hup⟩
          · exact .inr ⟨ready, (visitId_idWalk hnamed hup).1.isPrefix, h⟩
      · have hstep : Up decls d.name up := ⟨d, file, hget, hsuper⟩
        have hlonger : ((way ++ [d.name]) ++ [up]).IsChain (Up decls) := by
          rw [append_assoc]
          exact isChain_append_cons_cons.mpr ⟨hchain, hstep, isChain_singleton up⟩
        have hupAbove : Above decls c.name up := habove.up hget hsuper
        refine ih (way ++ [d.name]) hlonger ?_ ?_ hup hupAbove
        · intro n hn
          rcases mem_append.mp hn with hn | hn
          · exact hway n hn
          · rw [mem_singleton.mp hn]
            exact hupAbove
        · rw [length_append, length_singleton]
          omega
      · rcases error_of_bind hrest with hlaid | ⟨laid, -, hrest⟩
        · exact .idLayout hstart habove ⟨file, hget⟩ hknown hlaid
        · split at hrest
          · cases hrest
            exact .idVariable hstart habove
          · cases hrest

/-! ## The whole construction -/

/-- **Why the visit of a declared name fails.** -/
theorem fails_of_visitDeclared (hnamed : Named decls)
    (hdone : Built v decls enums done taken) (hdeclared : decls.has name = true)
    (h : visitDeclared v decls enums done name = .error e) : Fails v decls enums e := by
  rcases error_of_bind h with hlaid | ⟨laid, hlaid, h⟩
  · refine fails_of_visit hnamed hdone (isChain_singleton name) nodup_nil ?_ ?_ hlaid
    · rw [length_nil]
      omega
    · exact fun _ => hdeclared
  · obtain ⟨⟨hwalk, -⟩, hname⟩ := visit_walk hnamed hlaid
    obtain ⟨c, hc⟩ := exists_find?_name_of_mem hname
    have hcname : c.name = name := by simpa using List.find?_some hc
    rw [hc] at h
    dsimp only at h
    split at h
    · cases h
    rename_i hversion
    obtain ⟨before, root, after, mid, hsplit, hbefore, hroot⟩ := foldlM_eq_error_iff.mp h
    have hsub : ∀ r ∈ before ++ root :: after, r ∈ idRoots := by
      intro r hr
      rw [hsplit]
      exact hr
    -- the roots before this one were dealt with
    obtain ⟨hpre, taken', hmid⟩ : laid <+: mid ∧ ∃ taken, Built v decls enums mid taken := by
      refine foldlM_invariant (fun mid => laid <+: mid ∧ ∃ taken, Built v decls enums mid taken)
        ?_ hbefore ⟨prefix_rfl, taken, hdone.walk hwalk⟩
      rintro r hr mid found hstep ⟨hpre, taken', hmid⟩
      split at hstep
      · rename_i hbelow
        rw [← hcname] at hstep
        obtain ⟨run, -⟩ := visitId_idWalk hnamed hstep
        exact ⟨hpre.trans run.isPrefix, _, hmid.identify (Nat.le_of_not_lt hversion)
          (hsub r (mem_append_left _ hr)) (hpre.subset (mem_of_find?_eq_some hc)) hbelow
          run⟩
      · cases hstep
        exact ⟨hpre, taken', hmid⟩
    split at hroot
    · rename_i hbelow
      rw [← hcname] at hroot hdeclared
      have hstart : Identifying v decls enums mid taken' root c :=
        ⟨hmid, Nat.le_of_not_lt hversion,
          hsub root (mem_append_right _ mem_cons_self),
          hpre.subset (mem_of_find?_eq_some hc), hdeclared, hbelow⟩
      refine fails_of_visitId hnamed hstart [] (isChain_singleton c.name) ?_ ?_ hroot
      · intro n hn
        rw [mem_singleton.mp hn]
        exact .self
      · rw [length_nil]
        omega
    · cases hroot

end Reasons

variable {e : Error} {sources : List Source} {v : Version}

/-- Why the walk over sources that declare nothing twice fails. -/
theorem fails_of_walk (hclasses : ((classesOf sources).map (·.name)).Nodup)
    (henums : ((enumsOf sources).map (·.name)).Nodup) (h : build v sources = .error e) :
    Fails v (classRows sources) (protocolEnums sources) e := by
  have hnamed := @name_of_get?_classRows sources
  rw [build_eq_walk v hclasses henums] at h
  rcases error_of_bind h with hwalk | ⟨classes, -, h⟩
  · obtain ⟨before, name, after, mid, hsplit, hbefore, hname⟩ := foldlM_eq_error_iff.mp hwalk
    obtain ⟨taken, hmid⟩ : ∃ taken,
        Built v (classRows sources) (protocolEnums sources) mid taken := by
      refine foldlM_invariant
        (fun mid => ∃ taken, Built v (classRows sources) (protocolEnums sources) mid taken)
        ?_ hbefore ⟨∅, .start⟩
      rintro n - done found hstep ⟨taken, hdone⟩
      obtain ⟨laid, -, -, -, -, hfound⟩ := visitDeclared_built hnamed hstep hdone
      exact ⟨_, hfound⟩
    have hdeclared : (classRows sources).has name = true := by
      obtain ⟨c, hc, rfl⟩ := mem_sortedNames.mp (show name ∈ sortedNames sources by
        rw [hsplit]
        exact mem_append_right _ mem_cons_self)
      obtain ⟨file, hget⟩ := exists_get?_of_mem_classesOf hclasses hc
      exact Table.has_of_get? hget
    exact fails_of_visitDeclared hnamed hmid hdeclared hname
  · cases h

/-! ## Names declared twice -/

/-- Whether an error is about a name that is declared twice. -/
def Error.isRedefinition : Error → Bool
  | classRedefined _ _ _ => true
  | enumRedefined _ _ _ => true
  | _ => false

theorem fileItems_endsIn {α : Type} (name : α → String) (refuse : α → String → Error)
    (file : String) (known : Table String (α × String)) (items : List α) :
    EndsIn (fun _ => True) (fun e => ∃ x previous, e = refuse x previous)
      (fileItems name refuse file known items) := by
  refine endsIn_foldlM_any (fun x _ known => ?_) known
  cases known.get? (name x) with
  | none => trivial
  | some row => exact ⟨x, row.2, rfl⟩

theorem declared_endsIn (sources : List Source) :
    EndsIn (fun _ => True) (fun e => e.isRedefinition = true) (declared sources) := by
  refine endsIn_foldlM_any (fun s _ filed => ?_) ([], [])
  refine ((fileItems_endsIn _ _ s.file filed.1 s.classes).imp (fun _ h => h) ?_).andThen fun _ => ?_
  · rintro _ ⟨c, previous, rfl⟩
    rfl
  refine ((fileItems_endsIn _ _ s.file filed.2 s.enums).imp (fun _ h => h) ?_).andThen fun _ => ?_
  · rintro _ ⟨d, previous, rfl⟩
    rfl
  trivial

theorem isLayout_of_ofSource {ctx : Context} {ancestors : List Ancestor} {c : Source.Class}
    (h : Class.ofSource ctx ancestors c = .error e) : e.isLayout = true := by
  obtain ⟨_, _, _, _, hbad⟩ := exists_unmeasured_of_ofSource h
  exact hbad.isLayout

theorem Error.isRedefinition_of_isLayout (h : e.isLayout = true) :
    e.isRedefinition = false := by
  have hboth : (e.isLayout && e.isRedefinition) = false := by cases e <;> rfl
  rwa [h, Bool.true_and] at hboth

theorem Fails.isRedefinition_eq_false {decls : Declared} {enums : List Enum}
    (h : Fails v decls enums e) : e.isRedefinition = false := by
  cases h with
  | circle => rfl
  | missing => rfl
  | layout _ _ _ herror => exact Error.isRedefinition_of_isLayout (isLayout_of_ofSource herror)
  | idLayout _ _ _ _ herror => exact Error.isRedefinition_of_isLayout (isLayout_of_ofSource herror)
  | idVariable => rfl
  | idMissing => rfl
  | idCircle => rfl

/-- **A redefinition is reported exactly where a name is declared twice.** -/
theorem exists_isRedefinition_iff :
    (∃ e, build v sources = .error e ∧ e.isRedefinition = true)
      ↔ ¬ ((classesOf sources).map (·.name)).Nodup ∨ ¬ ((enumsOf sources).map (·.name)).Nodup := by
  constructor
  · rintro ⟨e, hbuild, hredefined⟩
    by_contra hboth
    rw [not_or, not_not, not_not] at hboth
    rw [(fails_of_walk hboth.1 hboth.2 hbuild).isRedefinition_eq_false] at hredefined
    cases hredefined
  · intro hrepeated
    cases hdecl : declared sources with
    | ok filed =>
      obtain ⟨hclasses, henums, -, -⟩ := declared_eq_ok_iff.mp hdecl
      exact (hrepeated.elim (fun hc => hc hclasses) fun he => he henums).elim
    | error e =>
      refine ⟨e, ?_, (declared_endsIn sources).of_error hdecl⟩
      unfold build
      rw [hdecl]
      rfl

/-- **Why sources make no protocol**, other than for a name that is declared twice: for a reason
that a state of the construction shows. -/
theorem fails_of_build (h : build v sources = .error e) (hother : e.isRedefinition = false) :
    ((classesOf sources).map (·.name)).Nodup
      ∧ Fails v (classRows sources) (protocolEnums sources) e := by
  have hnodup : ((classesOf sources).map (·.name)).Nodup
      ∧ ((enumsOf sources).map (·.name)).Nodup := by
    by_contra hrepeated
    obtain ⟨e', hbuild, hredefined⟩ :=
      exists_isRedefinition_iff (v := v).mpr (not_and_or.mp hrepeated)
    rw [h] at hbuild
    cases hbuild
    rw [hother] at hredefined
    cases hredefined
  exact ⟨hnodup.1, fails_of_walk hnodup.1 hnodup.2 h⟩

end Protocol

end FlowBindings
