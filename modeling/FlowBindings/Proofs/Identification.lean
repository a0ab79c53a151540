import FlowBindings.Proofs.DependencyOrder
import FlowBindings.Proofs.IdentifiedClasses
import FlowBindings.Proofs.KeptDeclarations

/-!
# The classes that identify others

From version 1.3 on a protocol holds a second class for each action and each instruction, with
`_id` in its name and only the members that tell what it is. This module says which classes
these are and what they look like (`build_identifies`).

They come about on two ways. The walk identifies a class when it visits its name, and an
identification first identifies everything above the class, so a class may have been identified
early, by way of one below it. Nothing is identified twice: an identification stops at a name
that is there. That the class under this name is the right one is a matter of names. The names
of classes below a root begin with the root's, so their identifying names differ, those for
different roots differ anyway (`root_eq_of_idName_eq`), and a declared class is not in the way
by assumption.
-/

namespace FlowBindings.Protocol

open List

/-! ## Identifying names -/

/-- The identifying name of a name that continues its root. -/
theorem idName_append (root suffix : String) :
    idName root (root ++ suffix) = root ++ "_id" ++ suffix := by
  rw [idName, Text.dropFirst, String.toList_append, ← String.length_toList, drop_left,
    String.ofList_toList]

variable {decls : Declared} {sources : List Source} {p : Protocol} {c : Source.Class}
  {n root : String} {v : Version}

theorem root_eq_of_idName_eq {root' n' : String} (hroot : root ∈ idRoots)
    (hroot' : root' ∈ idRoots) (h : idName root n = idName root' n') : root = root' := by
  have hroots : ∀ a ∈ idRoots, ∀ b ∈ idRoots,
      (a ++ "_id").toList <+: (b ++ "_id").toList → a = b := by decide
  have hbegins := isPrefixOf_iff_prefix.mp (startsWith_idName root n)
  have hbegins' := isPrefixOf_iff_prefix.mp (startsWith_idName root' n')
  rw [← h] at hbegins'
  rcases prefix_or_prefix_of_prefix hbegins hbegins' with hle | hle
  · exact hroots root hroot root' hroot' hle
  · exact (hroots root' hroot' root hroot hle).symm

/-! ## Every class below a root is identified -/

section Reached

variable {v : Version} {decls : Declared} {enums : List Enum}

/-- A name is identified in these classes for every root that its class stands below. -/
def IdentifiedIn (name : String) (classes : List Class) : Prop :=
  ∃ c, classes.find? (·.name = name) = some c
    ∧ ∀ root ∈ idRoots, c.isInstanceOf root = true → idName root name ∈ names classes

theorem IdentifiedIn.of_isPrefix {name : String} {classes classes' : List Class}
    (h : IdentifiedIn name classes) (hpre : classes <+: classes') : IdentifiedIn name classes' := by
  obtain ⟨c, hc, hids⟩ := h
  exact ⟨c, hpre.find?_eq_some hc, fun root hroot hbelow =>
    names_subset_of_isPrefix hpre (hids root hroot hbelow)⟩

/-- **The visit of a declared name identifies it**, from version 1.3 on. -/
theorem visitDeclared_identifies (hnamed : Named decls) (hversion : 4 ≤ v.wire)
    {name : String} {done found : List Class}
    (h : visitDeclared v decls enums done name = .ok found) :
    done <+: found ∧ IdentifiedIn name found := by
  obtain ⟨laid, hlaid, h⟩ := bind_eq_ok_iff.mp h
  obtain ⟨⟨hwalk, -⟩, hname⟩ := visit_walk hnamed hlaid
  obtain ⟨c, hc⟩ := exists_find?_name_of_mem hname
  rw [hc] at h
  dsimp only at h
  rw [if_neg (Nat.not_lt.mpr hversion)] at h
  obtain ⟨hpre, hids⟩ := foldlM_reaches (R := fun a b => a <+: b)
    (P := fun root b => c.isInstanceOf root = true → idName root name ∈ names b)
    (fun _ => prefix_rfl) List.IsPrefix.trans
    (fun hab hid hbelow => names_subset_of_isPrefix hab (hid hbelow))
    (fun root _ mid next hstep => by
      split at hstep
      · obtain ⟨run, hid⟩ := visitId_idWalk hnamed hstep
        exact ⟨run.isPrefix, fun _ => hid⟩
      · rename_i hbelow
        cases hstep
        exact ⟨prefix_rfl, fun h => absurd h hbelow⟩) h
  exact ⟨hwalk.isPrefix.trans hpre, c, hpre.find?_eq_some hc, hids⟩

end Reached

/-- **Every declared name is identified in the protocol**, from version 1.3 on. -/
theorem identifiedIn_of_build (h : build v sources = .ok p) (hversion : 4 ≤ v.wire)
    (hc : c ∈ classesOf sources) : IdentifiedIn c.name p.classes := by
  obtain ⟨-, -, hwalk, -, -⟩ := build_eq_ok_iff.mp h
  obtain ⟨-, hall⟩ := foldlM_reaches (R := fun a b => a <+: b) (P := IdentifiedIn)
    (fun _ => prefix_rfl) List.IsPrefix.trans (fun hab hid => hid.of_isPrefix hab)
    (fun _ _ _ _ hstep => visitDeclared_identifies (name_of_get?_classRows sources) hversion hstep)
    hwalk
  exact hall c.name (mem_sortedNames.mpr ⟨c, hc, rfl⟩)

/-! ## What leads up to a root counts -/

/-- **A declared class that leads up to a name is an instance of it**, where no declared name is
taken. -/
theorem Built.isInstanceOf_of_above {enums : List Enum}
    {done : List Class} {taken : Set String} (h : Built v decls enums done taken)
    (hnamed : Named decls)
    (hfree : ∀ n, decls.has n = true → n ∉ taken) (hn : n ∈ names done)
    (habove : Above decls n root) : ∃ u ∈ done, u.name = n ∧ u.isInstanceOf root = true := by
  rw [above_iff] at habove
  induction habove using Relation.ReflTransGen.head_induction_on with
  | refl =>
    obtain ⟨u, hu, hname⟩ := mem_map.mp hn
    exact ⟨u, hu, hname, by rw [Class.isInstanceOf, decide_eq_true hname, Bool.true_or]⟩
  | @head n up hup _ ih =>
    obtain ⟨c, file, hget, hsuper⟩ := hup
    obtain rfl := hnamed hget
    obtain ⟨own, u, hpre, hstep⟩ := h.own hget hn (hfree c.name (Table.has_of_get? hget))
    have hown : own <+: done := (prefix_append _ _).trans hpre
    obtain ⟨hname, hanc, -⟩ := ofSource_fields hstep.laidOut
    -- the class above is the one that was there when this one was laid out
    obtain ⟨w, hw⟩ := exists_find?_name_of_mem (hstep.superclass_mem hsuper)
    obtain ⟨w', hw', hname', hbelow⟩ :=
      ih (names_subset_of_isPrefix hown (hstep.superclass_mem hsuper))
    have hfind : done.find? (·.name = up) = some w' :=
      (find?_name_eq_some_iff h.nodup).mpr ⟨hw', hname'⟩
    rw [hown.find?_eq_some hw] at hfind
    cases hfind
    have hdirect : u.DirectlyBelow w := by
      rw [Class.DirectlyBelow, hanc, visit.lineage, hsuper, Option.bind_some, hw]
    exact ⟨u, hpre.subset (mem_append_right _ mem_cons_self), hname,
      (hdirect.isInstanceOf_iff root).mpr (.inr hbelow)⟩

/-! ## What identifying classes look like -/

/-- **A class that identifies another**, behind the classes `before`: the members of the other
that are neither data nor padding, laid out anew. -/
structure Identifies (v : Version) (p : Protocol) (before : List Class) (root : String)
    (c : Source.Class) (e : Class) : Prop where
  /-- Its members are those that tell what the other is, in order. -/
  members : List.Forall₂ (Source.Member.Becomes v) (c.members.filter identifies) e.members
  /-- They lie one after another, if no two of them have the same name. -/
  laidOut : e.LaidOut
  /-- Those that look alike lie where the last of them does. -/
  offsets : e.LikeLast (c.members.filter identifies)
  /-- Each takes what its type takes where the class stands. -/
  lengths : ∀ f ∈ e.fields,
    Context.extent? ⟨v, before, p.enums⟩ f.type = some ⟨f.baseLength, f.isFixedLength⟩
  /-- It is virtual if the other is. -/
  isVirtual : e.isVirtual = c.isVirtual
  /-- It has no parameters. -/
  params : e.params = []
  /-- It extends what identifies the superclass of the other. -/
  superclass : p.Extends e (c.superclass.map (idName root))

theorem Identifiable.identifies {base before : List Class} {e : Class}
    (step : Identifiable v decls p.enums root base before c e) (hpre : before <+: p.classes) :
    Identifies v p before root c e := by
  obtain ⟨-, hmembers, hparams, hvirtual⟩ := keeps_of_ofSource step.laidOut
  refine ⟨hmembers, laidOut_of_ofSource step.laidOut, likeLast_of_ofSource step.laidOut,
    fun f hf => extent?_of_mem_fields step.laidOut hf, hvirtual, hparams, ?_⟩
  refine extends_of_lineage hpre ?_ (ofSource_fields step.laidOut).2.1
  intro up hidUp
  obtain ⟨up, hsuper, rfl⟩ := Option.map_eq_some_iff.mp hidUp
  exact step.ready up hsuper

/-! ## Protocols -/

section Protocols

variable {v : Version} {sources : List Source} {p : Protocol}
  (hup : ∀ c ∈ classesOf sources, c.name ∈ idRoots → c.superclass = none)
  (hbegin : ∀ root ∈ idRoots, ∀ c ∈ classesOf sources, Above (classRows sources) c.name root →
    Text.startsWith c.name root = true)
  (hnew : ∀ root ∈ idRoots, ∀ c ∈ classesOf sources, Above (classRows sources) c.name root →
    idName root c.name ∉ (classesOf sources).map (·.name))

include hup hnew

/-- No identifying name of a class on a way through a root is declared. -/
theorem not_has_idName {root n : String} (hroot : root ∈ idRoots)
    (hn : OnWay (classRows sources) root n) :
    ¬ (classRows sources).has (idName root n) = true := by
  obtain ⟨hhas, hway⟩ := hn
  -- nothing is above the root, so the name is declared and leads up to it
  obtain ⟨hdeclared, habove⟩ :
      (classRows sources).has n = true ∧ Above (classRows sources) n root := by
    rcases hway with habove | hover
    · rcases habove.eq_or_has with rfl | hdeclared
      · exact ⟨hhas, .self⟩
      · exact ⟨hdeclared, habove⟩
    · obtain rfl | ⟨_, ⟨c, file, hget, hsuper⟩, -⟩ :=
        Relation.ReflTransGen.cases_head (above_iff.mp hover)
      · exact ⟨hhas, .self⟩
      · obtain ⟨hc, rfl⟩ := mem_classesOf_of_get? hget
        rw [hup c hc hroot] at hsuper
        cases hsuper
  obtain ⟨c, hc, rfl⟩ := mem_map.mp (has_classRows_iff.mp hdeclared)
  rw [has_classRows_iff]
  exact hnew root hroot c hc habove

theorem idsApart_of_new : IdsApart (classRows sources) := by
  intro root hroot n hn hhas
  exact absurd hhas (not_has_idName hup hnew hroot hn)

theorem not_mem_displaced (h : build v sources = .ok p) (n : String) :
    n ∉ displaced v sources := by
  intro hn
  obtain ⟨hbuilt, -⟩ := built_of_build h
  obtain ⟨hhas, root, hroot, m, hm, rfl⟩ :=
    hbuilt.taken_cases_of_apart (idsApart_of_new hup hnew) hn
  exact not_has_idName hup hnew hroot hm hhas

include hbegin

theorem orderly_of_build (h : build v sources = .ok p) : Orderly v sources p := by
  obtain ⟨hbuilt, -⟩ := built_of_build h
  refine ⟨hup, fun e he root hroot hbelow => ?_,
    fun e _ hdisplaced => absurd hdisplaced (not_mem_displaced hup hnew h e.name)⟩
  obtain ⟨-, habove⟩ :=
    hbuilt.countsRightly (idsApart_of_new hup hnew) e he root hroot hbelow
  rcases habove.eq_or_has with hself | hhas
  · rw [hself]
    exact Text.startsWith_self root
  · obtain ⟨c, hc, hname⟩ := mem_map.mp (has_classRows_iff.mp hhas)
    rw [← hname] at habove ⊢
    exact hbegin root hroot c hc habove

/-- **Where the classes of the protocol come from**: each is a declared class, or identifies a
declared class below a root. -/
theorem cases_of_build (h : build v sources = .ok p) {before after : List Class} {e : Class}
    (hsplit : p.classes = before ++ e :: after) :
    (∃ c ∈ classesOf sources, e.Keeps v c ∧ p.Extends e c.superclass)
      ∨ ∃ root ∈ idRoots, ∃ c ∈ classesOf sources, Above (classRows sources) c.name root
        ∧ e.name = idName root c.name ∧ Identifies v p before root c e := by
  obtain ⟨hbuilt, -⟩ := built_of_build h
  obtain ⟨-, -, -, -, henums⟩ := build_eq_ok_iff.mp h
  have hpre : before <+: p.classes := ⟨e :: after, hsplit.symm⟩
  cases (orderly_of_build hup hbegin hnew h).origins h before e after hsplit with
  | @layOut c step =>
    obtain ⟨file, hget⟩ := step.declared
    exact .inl ⟨c, (mem_classesOf_of_get? hget).1, step.keeps hpre⟩
  | @identify root base own d u hroot step known laid below =>
    obtain ⟨file, hget⟩ := step.declared
    have hu : u ∈ p.classes :=
      (known.trans hpre).subset (mem_append_right _ mem_cons_self)
    obtain ⟨-, habove⟩ :=
      hbuilt.countsRightly (idsApart_of_new hup hnew) u hu root hroot below
    rw [(ofSource_fields laid.laidOut).1] at habove
    rw [← henums] at step
    exact .inr ⟨root, hroot, d, (mem_classesOf_of_get? hget).1, habove,
      (ofSource_fields step.laidOut).1, step.identifies hpre⟩

/-- **A declared class below a root is identified.** -/
theorem exists_identifies (h : build v sources = .ok p) (hversion : 4 ≤ v.wire) {root : String}
    (hroot : root ∈ idRoots) {c : Source.Class} (hc : c ∈ classesOf sources)
    (habove : Above (classRows sources) c.name root) :
    ∃ before e after, p.classes = before ++ e :: after ∧ e.name = idName root c.name
      ∧ Identifies v p before root c e := by
  obtain ⟨hbuilt, hall⟩ := built_of_build h
  obtain ⟨hnodup, -⟩ := build_eq_ok_iff.mp h
  obtain ⟨u, hu, hname, hbelow⟩ := hbuilt.isInstanceOf_of_above (name_of_get?_classRows sources)
    (fun n _ => not_mem_displaced hup hnew h n) (hall c hc) habove
  obtain ⟨u', hu', hids⟩ := identifiedIn_of_build h hversion hc
  rw [(find?_name_eq_some_iff hbuilt.nodup).mpr ⟨hu, hname⟩] at hu'
  cases hu'
  obtain ⟨e, he, hid⟩ := mem_map.mp (hids root hroot hbelow)
  obtain ⟨before, after, hsplit⟩ := append_of_mem he
  refine ⟨before, e, after, hsplit, hid, ?_⟩
  -- the class under this name identifies this class and no other
  rcases cases_of_build hup hbegin hnew h hsplit with ⟨d, hd, hkeeps, -⟩
    | ⟨root', hroot', d, hd, habove', hid', hidentifies⟩
  · refine absurd ?_ (hnew root hroot c hc habove)
    rw [← hid, hkeeps.name]
    exact mem_map_of_mem hd
  · obtain rfl := root_eq_of_idName_eq hroot hroot' (hid.symm.trans hid')
    have hsame : c.name = d.name := idName_injective (hbegin root hroot c hc habove)
      (hbegin root hroot d hd habove') (hid.symm.trans hid')
    rwa [inj_on_of_nodup_map hnodup hc hd hsame]

end Protocols

/-- Before version 1.3 the classes of a protocol are the declared ones. -/
theorem declared_of_old (h : build v sources = .ok p) (hold : v.wire < 4) :
    (names p.classes).Perm ((classesOf sources).map (·.name))
      ∧ ∀ e ∈ p.classes, ∃ c ∈ classesOf sources, e.Keeps v c ∧ p.Extends e c.superclass := by
  obtain ⟨hbuilt, hall⟩ := built_of_build h
  obtain ⟨hnodup, -⟩ := build_eq_ok_iff.mp h
  obtain ⟨hnone, hdeclared⟩ := hbuilt.declared_of_old hold
  constructor
  · refine (perm_ext_iff_of_nodup hbuilt.nodup hnodup).mpr fun n => ⟨?_, ?_⟩
    · rintro hn
      obtain ⟨e, he, rfl⟩ := mem_map.mp hn
      exact has_classRows_iff.mp (hdeclared e he)
    · rintro hn
      obtain ⟨c, hc, rfl⟩ := mem_map.mp hn
      exact hall c hc
  · intro e he
    obtain ⟨c, hc, ctx, hpre, step⟩ := own_of_declared h he (has_classRows_iff.mp (hdeclared e he))
      fun ht => Set.notMem_empty e.name (hnone ▸ ht)
    exact ⟨c, hc, step.keeps ((prefix_append _ _).trans hpre)⟩

/-- **The classes that identify others.** Before version 1.3 a protocol holds the declared classes
and no others. From then on it holds, for each declared class that is a root or leads up to one,
exactly one class with `_id` behind the root's name: the members of that class that are neither
data nor padding, in order and laid out anew, virtual if that class is, without parameters, and
below the class that identifies its superclass. A member that looks like a later one is laid out
at the place of the last of them. All other classes are declared.

This is for roots that extend nothing and classes below them that begin with their names, where
no declared class has the name of an identifying one. -/
theorem build_identifies {v : Version} {sources : List Source} {p : Protocol}
    (h : build v sources = .ok p) :
    (v.wire < 4 → (names p.classes).Perm ((classesOf sources).map (·.name))
        ∧ ∀ e ∈ p.classes, ∃ c ∈ classesOf sources, e.Keeps v c ∧ p.Extends e c.superclass)
      ∧ (4 ≤ v.wire →
        (∀ c ∈ classesOf sources, c.name ∈ idRoots → c.superclass = none) →
        (∀ root ∈ idRoots, ∀ c ∈ classesOf sources, Above (classRows sources) c.name root →
          Text.startsWith c.name root = true) →
        (∀ root ∈ idRoots, ∀ c ∈ classesOf sources, Above (classRows sources) c.name root →
          idName root c.name ∉ (classesOf sources).map (·.name)) →
        (∀ root ∈ idRoots, ∀ c ∈ classesOf sources, Above (classRows sources) c.name root →
          ∀ suffix, c.name = root ++ suffix →
            (names p.classes).count (root ++ "_id" ++ suffix) = 1
              ∧ ∃ before e after, p.classes = before ++ e :: after
                ∧ e.name = root ++ "_id" ++ suffix ∧ Identifies v p before root c e)
        ∧ ∀ e ∈ p.classes, (∃ c ∈ classesOf sources, e.Keeps v c ∧ p.Extends e c.superclass)
          ∨ ∃ root ∈ idRoots, ∃ c ∈ classesOf sources, Above (classRows sources) c.name root
            ∧ e.name = idName root c.name) := by
  refine ⟨declared_of_old h, fun hversion hup hbegin hnew => ⟨?_, ?_⟩⟩
  · intro root hroot c hc habove suffix hsuffix
    obtain ⟨before, e, after, hsplit, hid, hidentifies⟩ :=
      exists_identifies hup hbegin hnew h hversion hroot hc habove
    rw [hsuffix, idName_append] at hid
    refine ⟨?_, before, e, after, hsplit, hid, hidentifies⟩
    refine count_eq_one_of_mem (built_of_build h).1.nodup ?_
    rw [← hid, hsplit]
    exact mem_map_of_mem (mem_append_right _ mem_cons_self)
  · intro e he
    obtain ⟨before, after, hsplit⟩ := append_of_mem he
    refine (cases_of_build hup hbegin hnew h hsplit).imp_right ?_
    rintro ⟨root, hroot, c, hc, habove, hid, -⟩
    exact ⟨root, hroot, c, hc, habove, hid⟩

/-- Names that hold whatever extends one of them hold whatever leads up to one of them. -/
theorem Above.mem_of_closed {below : List String}
    (hclosed : ∀ c ∈ classesOf sources, ∀ up ∈ c.superclass, up ∈ below → c.name ∈ below)
    {m : String} (h : Above (classRows sources) n m) (hm : m ∈ below) : n ∈ below := by
  rw [above_iff] at h
  induction h using Relation.ReflTransGen.head_induction_on with
  | refl => exact hm
  | head hup _ ih =>
    obtain ⟨c, file, hget, hsuper⟩ := hup
    obtain ⟨hc, rfl⟩ := mem_classesOf_of_get? hget
    exact hclosed c hc _ hsuper ih

/-- What identifies the output action has its type, and neither its padding nor its port. -/
theorem build_identifies_port :
    ∃ p, build .v13 [portSource] = .ok p
      ∧ (names p.classes).count "of_action_id_output" = 1
      ∧ ∃ before e after, p.classes = before ++ e :: after ∧ e.name = "of_action_id_output"
        ∧ ∃ c ∈ classesOf [portSource], c.name = "of_action_output"
          ∧ c.members.filter identifies = [.field "type" "uint16_t" (.fixed 0)]
          ∧ Identifies .v13 p before "of_action" c e := by
  have htest : (build .v13 [portSource]).toOption.any (fun _ => true) = true := by
    rw [build_eq_walk .v13 (by decide) (by decide), sortedNames_of_pairwise (by decide)]
    decide +kernel
  obtain ⟨p, hp, -⟩ := exists_ok_of_any htest
  -- two classes lead up to of_action, and none to of_instruction
  have hways : ∀ root ∈ idRoots, ∀ c ∈ classesOf [portSource],
      Above (classRows [portSource]) c.name root →
        root = "of_action" ∧ c.name ∈ ["of_action", "of_action_output"] := by
    intro root hroot c hc habove
    rcases mem_cons.mp hroot with rfl | hroot
    · exact ⟨rfl, habove.mem_of_closed (by decide) (mem_cons_self ..)⟩
    · obtain rfl := mem_singleton.mp hroot
      have hnone : ∀ c ∈ classesOf [portSource], c.name ∉ ["of_instruction"] := by decide
      exact absurd (habove.mem_of_closed (by decide) (mem_singleton_self _)) (hnone c hc)
  have hbegins : ∀ n ∈ ["of_action", "of_action_output"], Text.startsWith n "of_action" = true
      ∧ idName "of_action" n ∉ (classesOf [portSource]).map (·.name) := by decide
  obtain ⟨c, hc, hname, hmembers, hsuper⟩ : ∃ c ∈ classesOf [portSource],
      c.name = "of_action_output"
        ∧ c.members.filter identifies = [.field "type" "uint16_t" (.fixed 0)]
        ∧ c.superclass = some "of_action" := by decide
  obtain ⟨file, hget⟩ := exists_get?_of_mem_classesOf (by decide) hc
  obtain ⟨hids, -⟩ := (build_identifies hp).2 (by decide) (by decide)
    (fun root hroot c hc habove => by
      obtain ⟨rfl, hmem⟩ := hways root hroot c hc habove
      exact (hbegins _ hmem).1)
    (fun root hroot c hc habove => by
      obtain ⟨rfl, hmem⟩ := hways root hroot c hc habove
      exact (hbegins _ hmem).2)
  obtain ⟨hcount, before, e, after, hsplit, hid, hidentifies⟩ :=
    hids "of_action" (by decide) c hc (.up .self hget hsuper) "_output" (by rw [hname]; decide)
  exact ⟨p, hp, hcount, before, e, after, hsplit, hid, c, hc, hname, hmembers, hidentifies⟩

/-- An action that declares its length twice. -/
def measuredSource : Source where
  file := "standard-1.3"
  versions := [.v13]
  classes := [⟨"of_action", none, [.field "type" "uint16_t" .discriminator,
    .field "len" "uint16_t" .length, .field "len" "uint16_t" .length], true, []⟩]
  enums := []

/-- **Members that look alike do not lie one after another.** Two bytes lie before the first
length in what identifies the action, but it is laid out behind four. -/
theorem first_length_laid_out_last :
    ∃ p, build .v13 [measuredSource] = .ok p ∧ ∃ e ∈ p.classes, e.name = "of_action_id"
      ∧ e.members.map (·.baseLength) = [2, 2, 2]
      ∧ e.members.map (·.offset) = [some 0, some 4, some 4]
      ∧ Member.startBehind (e.members.take 1) = some 2 := by
  have htest : (build .v13 [measuredSource]).toOption.any (fun p => p.classes.any fun e =>
      e.name = "of_action_id" ∧ e.members.map (·.baseLength) = [2, 2, 2]
        ∧ e.members.map (·.offset) = [some 0, some 4, some 4]
        ∧ Member.startBehind (e.members.take 1) = some 2) = true := by
    rw [build_eq_walk .v13 (by decide) (by decide), sortedNames_of_pairwise (by decide)]
    decide +kernel
  obtain ⟨p, hp, hq⟩ := exists_ok_of_any htest
  obtain ⟨e, he, hoffsets⟩ := any_eq_true.mp hq
  exact ⟨p, hp, e, he, of_decide_eq_true hoffsets⟩

end FlowBindings.Protocol
