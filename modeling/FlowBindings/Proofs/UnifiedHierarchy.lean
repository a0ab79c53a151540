import FlowBindings.Proofs.Names
import FlowBindings.Proofs.Sorting
import FlowBindings.Proofs.Unification

/-!
# The hierarchy of the unified protocol

Every version puts superclasses first. Where versions agree on who extends whom, the
unified protocol does so too: a name is first met in some version, and there its
superclass was met before it (`superclassTable_grounded`). So each superclass is found
when its class is finished, and since the names above a class follow from the superclass
names, a unified class is an instance of what the classes of the versions are instances
of (`build_hierarchy`).

Where versions do not agree on a superclass nothing is said about it. The last version
decides, and what becomes of its choice depends on where the chosen class was first met
(`build_superclass_ofLast`, `superclass_conflict_unreported`).
-/

namespace FlowBindings

open List Text Table

namespace Unified

/-- Every report says what it is. -/
theorem startsWith_message {err : Error} (h : ∀ n s, err ≠ .superclassNotYet n s) :
    startsWith err.message "Error unifying " = true := by
  cases err with
  | superclassNotYet n s => exact absurd rfl (h n s)
  | _ =>
    unfold Error.message
    repeat with_reducible apply startsWith_append
    decide

/-- A report about a class names it. -/
theorem startsWith_message_of_class? {err : Error} {n : String} (h : err.class? = some n) :
    startsWith err.message ("Error unifying ir class " ++ n) = true := by
  cases err with
  | memberKind =>
    obtain ⟨rfl⟩ := h
    unfold Error.message
    iterate 6 apply startsWith_append
    exact startsWith_self _
  | classParam =>
    obtain ⟨rfl⟩ := h
    unfold Error.message
    iterate 6 apply startsWith_append
    exact startsWith_self _
  | _ => cases h

/-! ## The table of superclasses -/

section Superclasses

variable {defs : List FlowBindings.Class}

theorem mem_superclassTable {n : String} {s : Option String} (h : (n, s) ∈ superclassTable defs) :
    ∃ c ∈ defs, c.name = n ∧ c.superclass? = s := by
  obtain ⟨c, hc, heq⟩ := mem_map.mp (mem_of_mem_ofPairs h)
  obtain ⟨rfl, rfl⟩ := Prod.mk.inj heq
  exact ⟨c, hc, rfl, rfl⟩

theorem mem_keys_superclassTable {n : String} :
    n ∈ (superclassTable defs).keys ↔ n ∈ defs.map (·.name) := by
  rw [superclassTable, mem_keys_ofPairs, Table.keys, map_map]
  rfl

theorem nodup_keys_superclassTable : (superclassTable defs).keys.Nodup :=
  nodup_keys_ofPairs _

/-- **First occurrences keep superclasses first.** If every superclass is defined before
each definition that extends it, and a name has one superclass only, then in the table a
superclass stands before what extends it. -/
theorem superclassTable_grounded
    (hfirst : EachAfter (fun before c => ∀ s, c.superclass? = some s → s ∈ before.map (·.name))
      defs)
    (hsame : ∀ c ∈ defs, ∀ c' ∈ defs, c.name = c'.name → c.superclass? = c'.superclass?) :
    EachAfter (fun (before : Table String (Option String)) r => ∀ s, r.2 = some s → s ∈ before.keys)
      (superclassTable defs) := by
  induction defs using reverseRecOn with
  | nil => exact eachAfter_nil
  | append_singleton defs c ih =>
    obtain ⟨hbefore, hlast⟩ := eachAfter_append_singleton.mp hfirst
    have hsub : defs ⊆ defs ++ [c] := subset_append_left _ _
    have hc : c ∈ defs ++ [c] := mem_append_right _ (mem_singleton_self c)
    have htable := ih hbefore fun d hd d' hd' => hsame d (hsub hd) d' (hsub hd')
    rw [superclassTable_append_singleton]
    cases hget : (superclassTable defs).get? c.name with
    | some s =>
      -- the name is known, with the same superclass
      obtain ⟨d, hd, hname, hsuper⟩ := mem_superclassTable (mem_of_get? hget)
      rw [hsame d (hsub hd) c hc hname] at hsuper
      rw [hsuper, set_eq_self hget]
      exact htable
    | none =>
      rw [set_eq_append (get?_eq_none_iff.mp hget)]
      refine eachAfter_append_singleton.mpr ⟨htable, fun s hs => ?_⟩
      exact mem_keys_superclassTable.mpr (hlast s hs)

/-- Where every version puts superclass names first, so do the definitions of all. -/
theorem definitions_grounded {protocols : Table Version Protocol}
    (h : ∀ vp ∈ protocols, Grounded vp.2.classes) : Grounded (definitions protocols) := by
  induction protocols with
  | nil => exact eachAfter_nil
  | cons vp rest ih =>
    unfold definitions
    rw [flatMap_cons]
    refine eachAfter_append.mpr ⟨h vp mem_cons_self,
      (ih fun vq hvq => h vq (mem_cons_of_mem vp hvq)).imp ?_⟩
    intro before c hbefore s hs
    rw [map_append]
    exact mem_append_right _ (hbefore s hs)

/-- In the definitions of all versions a superclass is defined before what extends it. -/
theorem superclass_defined_before {protocols : Table Version Protocol}
    (h : ∀ vp ∈ protocols, SuperclassesFirst vp.2.classes) :
    EachAfter (fun before c => ∀ s, c.superclass? = some s → s ∈ before.map (·.name))
      (definitions protocols) :=
  definitions_grounded fun vp hvp => (h vp hvp).grounded

end Superclasses

/-! ## Versions that agree -/

/-- A unified class has the superclass of some definition of its name. -/
theorem Finished.exists_definition {defs : List FlowBindings.Class} {classes : List Unified.Class}
    (h : Finished (superclassTable defs) classes) {x : Unified.Class} (hx : x ∈ classes) :
    ∃ c ∈ defs, c.name = x.name ∧ c.superclass? = x.superclass? := by
  refine mem_superclassTable ?_
  rw [← h.outline_eq]
  exact mem_map_of_mem hx

theorem Finished.names_eq {t : Table String (Option String)} {classes : List Unified.Class}
    (h : Finished t classes) : classes.map (·.name) = t.keys := by
  rw [← h.outline_eq, Table.keys, map_map]
  rfl

/-- **The unified hierarchy.** Let every version put superclasses first and all versions
agree on the superclass of each class they define. Then unifying them fails with a report
of its own or not at all. In the unified protocol no name occurs twice, superclasses come
first, and there are no names but those of the versions. Under each name of each version
it has a class with the superclass of that version's class, which is an instance of
exactly what that version's class is an instance of. -/
theorem build_hierarchy {protocols : Table Version Protocol}
    (hfirst : ∀ vp ∈ protocols, SuperclassesFirst vp.2.classes)
    (hsame : ∀ vp ∈ protocols, ∀ c ∈ vp.2.classes, ∀ vp' ∈ protocols, ∀ c' ∈ vp'.2.classes,
      c.name = c'.name → c.superclass? = c'.superclass?) :
    (∀ err, build protocols = .error err →
        (∀ n s, err ≠ .superclassNotYet n s)
          ∧ Text.startsWith err.message "Error unifying " = true)
      ∧ ∀ u, build protocols = .ok u →
        (u.classes.map (·.name)).Nodup
          ∧ SuperclassesFirst (u.classes.map (·.toClass))
          ∧ (∀ x ∈ u.classes, ∃ vp ∈ protocols, ∃ c ∈ vp.2.classes, c.name = x.name)
          ∧ ∀ vp ∈ protocols, ∀ c ∈ vp.2.classes, ∃ x, u.class? c.name = some x
            ∧ x.superclass? = c.superclass? ∧ ∀ s, x.isInstanceOf s = c.isInstanceOf s := by
  have hdefs : ∀ c ∈ definitions protocols, ∀ c' ∈ definitions protocols, c.name = c'.name →
      c.superclass? = c'.superclass? := by
    intro c hc c' hc' hname
    obtain ⟨vp, hvp, hc⟩ := mem_flatMap.mp hc
    obtain ⟨vp', hvp', hc'⟩ := mem_flatMap.mp hc'
    exact hsame vp hvp c hc vp' hvp' c' hc' hname
  have hgrounded := superclassTable_grounded (superclass_defined_before hfirst) hdefs
  have hends := build_endsIn protocols
  refine ⟨fun err herr => ?_, fun u hu => ?_⟩
  · have hreport : ∀ n s, err ≠ .superclassNotYet n s := by
      rintro n s rfl
      rcases hends.of_error herr with ⟨_, hclass, -⟩ | ⟨_, -, _, -, henum⟩ | ⟨-, hungrounded⟩
      · cases hclass
      · cases henum
      · obtain ⟨m, up, before, after, -, hsplit, hnot⟩ := hungrounded
        exact hnot (hgrounded before _ after hsplit up rfl)
    exact ⟨hreport, startsWith_message hreport⟩
  · obtain ⟨-, hfinished⟩ := hends.of_ok hu
    have hnodup : (u.classes.map (·.name)).Nodup := by
      rw [hfinished.names_eq]
      exact nodup_keys_superclassTable
    refine ⟨hnodup, hfinished.superclassesFirst, fun x hx => ?_, fun vp hvp c hc => ?_⟩
    · obtain ⟨c, hc, hname, -⟩ := hfinished.exists_definition hx
      obtain ⟨vp, hvp, hc⟩ := mem_flatMap.mp hc
      exact ⟨vp, hvp, c, hc, hname⟩
    · -- a unified class and a version's class of its name have one superclass
      have hagree : ∀ x ∈ u.classes, ∀ c ∈ vp.2.classes, x.name = c.name →
          x.superclass? = c.superclass? := by
        intro x hx c hc hname
        obtain ⟨d, hd, hdname, hdsuper⟩ := hfinished.exists_definition hx
        rw [← hdsuper]
        exact hdefs d hd c (mem_flatMap.mpr ⟨vp, hvp, hc⟩) (hdname.trans hname)
      have hname : c.name ∈ u.classes.map (·.name) := by
        rw [hfinished.names_eq, mem_keys_superclassTable]
        exact mem_map_of_mem (mem_flatMap.mpr ⟨vp, hvp, hc⟩)
      obtain ⟨x, hfind⟩ := exists_find?_name_of_mem hname
      obtain ⟨hx, hxc⟩ := (find?_name_eq_some_iff hnodup).mp hfind
      refine ⟨x, hfind, hagree x hx c hc hxc, Class.isInstanceOf_eq_of_names hxc ?_⟩
      refine ancestorNames_eq hfinished.superclassesFirst (hfirst vp hvp) ?_
        (mem_map_of_mem hx) hc hxc
      intro y hy d hd hyd
      obtain ⟨z, hz, rfl⟩ := mem_map.mp hy
      exact hagree z hz d hd hyd

/-- The later version puts a bucket in front of the header, and an error between the
header and the greeting. -/
def grownFiles : Directory :=
  [("old-1.0", "#version 1\nstruct of_header { uint32_t xid; };\n"
    ++ "struct of_hello : of_header { uint32_t xid; };\n"),
   ("pre-1.3", "#version 4\nstruct of_bucket { uint16_t len; };\n"
    ++ "struct of_header { uint32_t xid; };\nstruct of_error : of_header { uint32_t xid; };\n"
    ++ "struct of_hello : of_header { uint32_t xid; };\n")]

/-- What the later version adds comes last, wherever it put it. -/
theorem build_hierarchy_grown :
    ∃ m, Model.load grownFiles [.v10, .v13] = .ok m
      ∧ m.unified.classes.map (·.name) = ["of_header", "of_hello", "of_bucket", "of_error"]
      ∧ SuperclassesFirst (m.unified.classes.map (·.toClass))
      ∧ ∀ vp ∈ m.protocols, ∀ c ∈ vp.2.classes, ∃ x, m.unified.class? c.name = some x
        ∧ ∀ s, x.isInstanceOf s = c.isInstanceOf s := by
  have htest : (Model.load grownFiles [.v10, .v13]).toOption.any (fun m =>
      m.unified.classes.map (·.name) = ["of_header", "of_hello", "of_bucket", "of_error"]
      ∧ (∀ vp ∈ m.protocols, SuperclassesFirst vp.2.classes)
      ∧ ∀ vp ∈ m.protocols, ∀ c ∈ vp.2.classes, ∀ vp' ∈ m.protocols, ∀ c' ∈ vp'.2.classes,
        c.name = c'.name → c.superclass? = c'.superclass?) = true := by
    simp only [Model.load, Model.inputFiles, mergeSort_files, Protocol.build, mergeSort_names]
    decide +kernel
  obtain ⟨m, hload, htest⟩ := exists_ok_of_any htest
  obtain ⟨hnames, hfirst, hsame⟩ := of_decide_eq_true htest
  obtain ⟨-, hunified, -, hclasses⟩ :=
    (build_hierarchy hfirst hsame).2 m.unified (Model.unified_of_load hload)
  refine ⟨m, hload, hnames, hunified, fun vp hvp c hc => ?_⟩
  obtain ⟨x, hx, -, hinstance⟩ := hclasses vp hvp c hc
  exact ⟨x, hx, hinstance⟩

/-! ## Versions that do not agree -/

/-- **The last superclass wins, unreported.** The unified protocol has for each name the
superclass of its last definition, whatever the other definitions say. If that superclass
has no definition before the first of the class, looking it up fails. A class is only
ever reported because its definitions disagree on the kind of a field or the value of a
parameter; and if those of some class do, something is reported. -/
theorem build_superclass_ofLast (protocols : Table Version Protocol) :
    (∀ u, build protocols = .ok u →
        u.classes.map (fun c => (c.name, c.superclass?)) = superclassTable (definitions protocols)
          ∧ SuperclassesFirst (u.classes.map (·.toClass)))
      ∧ (∀ n s, build protocols = .error (.superclassNotYet n s) →
        ∃ before after, superclassTable (definitions protocols) = before ++ (n, some s) :: after
          ∧ s ∉ before.keys)
      ∧ (∀ err n, build protocols = .error err → err.class? = some n →
        Text.startsWith err.message ("Error unifying ir class " ++ n) = true
          ∧ Disagree (definitions protocols) n)
      ∧ ∀ n, Disagree (definitions protocols) n → ∃ err, build protocols = .error err
        ∧ ((∃ m, err.class? = some m) ∨ EnumReport protocols err) := by
  have hends := build_endsIn protocols
  refine ⟨fun u hu => ?_, fun n s herr => ?_, fun err n herr hclass => ?_, fun n hdisagree => ?_⟩
  · obtain ⟨-, hfinished⟩ := hends.of_ok hu
    exact ⟨hfinished.outline_eq, hfinished.superclassesFirst⟩
  · rcases hends.of_error herr with ⟨_, hclass, -⟩ | ⟨_, -, _, -, henum⟩ | ⟨-, hungrounded⟩
    · cases hclass
    · cases henum
    · obtain ⟨m, up, before, after, heq, hsplit, hnot⟩ := hungrounded
      obtain ⟨rfl, rfl⟩ := Error.superclassNotYet.inj heq
      exact ⟨before, after, hsplit, hnot⟩
  · refine ⟨startsWith_message_of_class? hclass, ?_⟩
    rcases hends.of_error herr with ⟨m, hm, hdisagree⟩ | ⟨_, -, _, -, henum⟩ | ⟨-, hungrounded⟩
    · rw [hclass, Option.some.injEq] at hm
      exact hm ▸ hdisagree
    · cases err <;> cases hclass <;> cases henum
    · obtain ⟨m, up, -, -, rfl, -⟩ := hungrounded
      cases hclass
  · cases hbuild : build protocols with
    | ok u => exact absurd hdisagree ((hends.of_ok hbuild).1 n)
    | error err =>
      refine ⟨err, rfl, ?_⟩
      rcases hends.of_error hbuild with ⟨m, hm, -⟩ | henum | ⟨hnone, -⟩
      · exact .inl ⟨m, hm⟩
      · exact .inr henum
      · exact absurd hdisagree (hnone n)

/-- **Some class has different superclasses in two versions**, or one in a version and
none in another. -/
def SuperclassConflict (protocols : Table Version Protocol) : Prop :=
  ∃ vp ∈ protocols, ∃ vp' ∈ protocols, ∃ c ∈ vp.2.classes, ∃ c' ∈ vp'.2.classes,
    c.name = c'.name ∧ c.superclass? ≠ c'.superclass?

instance (protocols : Table Version Protocol) : Decidable (SuperclassConflict protocols) :=
  inferInstanceAs (Decidable (∃ vp ∈ protocols, ∃ vp' ∈ protocols, ∃ c ∈ vp.2.classes,
    ∃ c' ∈ vp'.2.classes, c.name = c'.name ∧ c.superclass? ≠ c'.superclass?))

/-- A class of eight bytes without members, below another or not. -/
def bareClass (name : String) (up : Option FlowBindings.Class) : FlowBindings.Class where
  name := name
  ancestors := (up.map fun u => u.asAncestor :: u.ancestors).getD []
  members := []
  isVirtual := false
  params := []
  isFixedLength := true
  baseLength := 8

/-- A version that has just some classes. -/
def bareVersion (v : Version) (classes : List FlowBindings.Class) : Version × Protocol :=
  (v, { version := v, classes := classes, enums := [] })

/-- The later version takes the greeting out of the messages. -/
def detachedVersions : Table Version Protocol :=
  [bareVersion .v10
    [bareClass "of_header" none, bareClass "of_hello" (some (bareClass "of_header" none))],
   bareVersion .v11 [bareClass "of_header" none, bareClass "of_hello" none]]

/-- The later version puts a class below one that the earlier version has behind it. -/
def attachedVersions : Table Version Protocol :=
  [bareVersion .v10 [bareClass "of_hello" none, bareClass "of_message" none],
   bareVersion .v11
    [bareClass "of_message" none, bareClass "of_hello" (some (bareClass "of_message" none))]]

/-- **A conflict of superclasses goes unreported.** In one case the versions are unified
and the class has lost its superclass; in another the lookup fails. -/
theorem superclass_conflict_unreported :
    (SuperclassConflict detachedVersions
        ∧ ∃ u, build detachedVersions = .ok u
          ∧ u.classes.map (fun c => (c.name, c.superclass?))
            = [("of_header", none), ("of_hello", none)])
      ∧ SuperclassConflict attachedVersions
        ∧ build attachedVersions = .error (.superclassNotYet "of_hello" "of_message") := by
  have hdetached : (build detachedVersions).toOption.any (fun u =>
      u.classes.map (fun c => (c.name, c.superclass?))
        = [("of_header", none), ("of_hello", none)]) = true := by
    decide +kernel
  obtain ⟨u, hu, houtline⟩ := exists_ok_of_any hdetached
  exact ⟨⟨by decide, u, hu, of_decide_eq_true houtline⟩, by decide, rfl⟩

end Unified

end FlowBindings
