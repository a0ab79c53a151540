import FlowBindings.Proofs.Hierarchy
import FlowBindings.Proofs.WireLayout

/-!
# The order of a protocol's classes

Whoever reads the classes of a protocol from front to back meets a class only after
the class it extends and the classes its members name (`Follows`).

For a class that the walk lays out this is what a step of the walk asks for, and
nothing moves afterwards. An identifying class is added behind everything that is
there, and that includes what the class it identifies needs, if that class had its
turn. Two things can go wrong. An identification may start at a displaced
declaration, whose members and superclass the walk never looked at
(`class_before_member_type`). And it may give two classes on one way up the same
identifying name: then the lower of the two takes the place of the upper, in front of
its own superclass. The latter does not happen where all classes below a root begin
with the root's name, since then an identifying name tells which class it identifies
(`idName_injective`).
-/

namespace FlowBindings.Protocol

open List Text

/-! ## What a class needs before it -/

/-- **A class follows what it needs**: it extends nothing or stands behind the class it
extends, and it stands behind every declared class one of its members names. -/
structure Follows (declared : List String) (before : List Class) (e : Class) : Prop where
  /-- The class it extends is there. -/
  superclass : e.ancestors = [] ∨ ∃ u ∈ before, e.DirectlyBelow u
  /-- A declared class `T` is there if a member has the type `T_t` or `T`. -/
  members : ∀ f ∈ e.fields, ∀ n ∈ declared, f.type = n ++ "_t" ∨ f.type = n → n ∈ names before

/-- Every class follows what it needs. -/
def InOrder (declared : List String) (classes : List Class) : Prop :=
  EachAfter (Follows declared) classes

theorem InOrder.superclassesFirst {declared : List String} {classes : List Class}
    (h : InOrder declared classes) : SuperclassesFirst classes :=
  fun before e after hsplit => (h before e after hsplit).superclass

section Steps

variable {v : Version} {decls : Declared} {enums : List Enum}

/-- A member depends on a declared class if its type is the class's name, or that with
`_t` behind it. -/
theorem mem_dependencies {name type n : String} {role : Source.Role} (hn : n ∈ decls.keys)
    (htype : type = n ++ "_t" ∨ type = n) : n ∈ dependencies decls (.field name type role) := by
  have hhas : decls.has n = true := by
    rw [Table.has_eq_isSome, Option.isSome_iff_ne_none, ne_eq, Table.get?_eq_none_iff, not_not]
    exact hn
  rcases htype with rfl | rfl
  · exact mem_dependencies_append_t hhas
  · show type ∈ [WireType.className type, type].filter decls.has
    rw [mem_filter]
    exact ⟨mem_cons_of_mem _ (mem_singleton_self _), hhas⟩

theorem directlyBelow_of_lineage {done : List Class} {e : Class} {superclass : Option String}
    (hready : ∀ up, superclass = some up → up ∈ names done)
    (he : e.ancestors = visit.lineage done superclass) :
    e.ancestors = [] ∨ ∃ u ∈ done, e.DirectlyBelow u := by
  cases superclass with
  | none => exact Or.inl he
  | some up =>
    obtain ⟨u, hu⟩ := exists_find?_name_of_mem (hready up rfl)
    refine Or.inr ⟨u, mem_of_find?_eq_some hu, ?_⟩
    rw [Class.DirectlyBelow, he, visit.lineage, Option.bind_some, hu]

/-- A class follows what it needs if all of that was there when it was laid out. -/
theorem follows_of_ofSource {ctx : List Class} {d : Source.Class} {e : Class}
    (h : Class.ofSource ⟨v, ctx, enums⟩ (visit.lineage ctx d.superclass) d = .ok e)
    (hup : ∀ up, d.superclass = some up → up ∈ names ctx)
    (hneeds : ∀ m ∈ d.members, ∀ n ∈ dependencies decls m, n ∈ names ctx) :
    Follows decls.keys ctx e where
  superclass := directlyBelow_of_lineage hup (ofSource_fields h).2.1
  members f hf n hn htype := by
    obtain ⟨role, -, hmem, -⟩ := extent_of_mem_fields h hf
    exact hneeds _ hmem n (mem_dependencies hn htype)

/-- **A class that the walk lays out follows what it needs.** -/
theorem Layable.follows {ctx : List Class} {c : Source.Class} {e : Class}
    (h : Layable v decls enums ctx c e) : Follows decls.keys ctx e :=
  follows_of_ofSource h.laidOut (fun _ hup => h.superclass_mem hup)
    (fun _ hm _ hn => h.dependencies_mem hm hn)

/-! ## Identifying names -/

/-- **An identifying name tells which class it identifies**, among the classes whose
names begin with that of their root. -/
theorem idName_injective {root a b : String} (ha : startsWith a root = true)
    (hb : startsWith b root = true) (h : idName root a = idName root b) : a = b := by
  unfold startsWith at ha hb
  rw [List.isPrefixOf_iff_prefix] at ha hb
  obtain ⟨ta, hta⟩ := ha
  obtain ⟨tb, htb⟩ := hb
  have htail : ∀ {s : String} {t : List Char}, root.toList ++ t = s.toList →
      dropFirst root.length s = String.ofList t := by
    intro s t ht
    rw [dropFirst, ← ht, ← String.length_toList, drop_left]
  unfold idName at h
  rw [htail hta, htail htb, ← String.toList_inj] at h
  simp only [String.toList_append, String.toList_ofList, append_cancel_left_eq] at h
  rw [← String.toList_inj, ← hta, ← htb, h]

theorem place_of_fresh {done : List Class} {c : Class} (h : c.name ∉ names done) :
    place done c = done ++ [c] := by
  rw [place, if_neg (fun hany => h (any_name_eq_true_iff.mp hany))]

/-- **Where a class comes from**: the walk laid it out behind the classes before it, or it
identifies a class that the walk has laid out among these. -/
inductive Origin (v : Version) (decls : Declared) (enums : List Enum) (before : List Class)
    (e : Class) : Prop where
  /-- The layout of a declared class. -/
  | layOut {c : Source.Class} (step : Layable v decls enums before c e) :
      Origin v decls enums before e
  /-- What identifies a class that is there in its own right. -/
  | identify {root : String} {base own : List Class} {d : Source.Class} {u : Class}
      (hroot : root ∈ idRoots) (step : Identifiable v decls enums root base before d e)
      (known : own ++ [u] <+: before) (laid : Layable v decls enums own d u)
      (below : u.isInstanceOf root = true) : Origin v decls enums before e

theorem Origin.follows {before : List Class} {e : Class} (h : Origin v decls enums before e) :
    Follows decls.keys before e := by
  cases h with
  | layOut step => exact step.follows
  | identify _ step known laid _ =>
    refine follows_of_ofSource step.laidOut ?_ ?_
    · intro up hidUp
      obtain ⟨up, hsuper, rfl⟩ := Option.map_eq_some_iff.mp hidUp
      exact step.ready up hsuper
    · intro m hm n hn
      exact names_subset_of_isPrefix ((prefix_append _ _).trans known)
        (laid.dependencies_mem (mem_filter.mp hm).1 hn)

/-! ## The way up from a class below a root -/

section Undisturbed

variable {done : List Class} {taken : Set String} {c : Class} {root : String} (hnamed : Named decls)
  (hup : ∀ root ∈ idRoots, ∀ c file, decls.get? root = some (c, file) → c.superclass = none)
  (h : Built v decls enums done taken) (hroots : RootsUndisturbed done taken)

include hnamed hup h hroots

/-- **The way up leads to the front**: from a class among the first ones it does not
leave these. -/
theorem Built.mem_of_above (hc : c ∈ done) (hroot : root ∈ idRoots)
    (hbelow : c.isInstanceOf root = true) {n m : String}
    (hn : Above decls c.name n) (hm : Above decls n m) {ctx : List Class} (hctx : ctx <+: done)
    (hmem : n ∈ names ctx) : m ∈ names ctx := by
  induction hm with
  | self => exact hmem
  | @up k up file d below hget hsuper ih =>
    obtain ⟨u, -, rfl, -, hown⟩ := h.own_of_above hnamed hup hroots hc hroot hbelow (hn.trans below)
    obtain ⟨own, hpre, hstep⟩ := hown d file hget
    -- the class lies among the first ones, and so does everything that was there before it
    have hown : own ++ [u] <+: ctx := by
      refine isPrefix_of_mem_names hctx hpre ?_ ih
      rw [← hnamed hget]
      exact hstep.fresh
    exact names_subset_of_isPrefix ((prefix_append _ _).trans hown)
      (hstep.superclass_mem hsuper)

/-- **An identification adds behind.** Each of its classes is added behind all others, since no
class further up is identified by the same name. -/
theorem IdWalk.origins
    (hbegin : ∀ e ∈ done, e.isInstanceOf root = true → startsWith e.name root = true)
    (hc : c ∈ done) (hroot : root ∈ idRoots) (hbelow : c.isInstanceOf root = true)
    {found : List Class} (run : IdWalk v decls enums root c.name done found)
    (hdone : EachAfter (Origin v decls enums) done) : EachAfter (Origin v decls enums) found := by
  induction run with
  | stay => exact hdone
  | @identify mid d laid before above step ih =>
    obtain ⟨file, hget⟩ := step.declared
    obtain ⟨u, hu, hud, hubelow, hown⟩ :=
      h.own_of_above hnamed hup hroots hc hroot hbelow above
    obtain ⟨own, hpre, hlaid⟩ := hown d file hget
    have hnew : idName root d.name ∉ names mid := by
      intro hmem
      rcases step.added _ hmem with hold | ⟨up, hsuper, m, habove, hsame⟩
      · exact step.fresh hold
      · -- a class further up was there before this one, so it has another name
        have hway : Above decls c.name m := (above.up hget hsuper).trans habove
        have hm : m ∈ names own := h.mem_of_above hnamed hup hroots hc hroot hbelow
          (above.up hget hsuper) habove ((prefix_append _ _).trans hpre)
          (hlaid.superclass_mem hsuper)
        obtain ⟨w, hw, hwm, hwbelow, -⟩ :=
          h.own_of_above hnamed hup hroots hc hroot hbelow hway
        have hdm : d.name = m := idName_injective (hud ▸ hbegin u hu hubelow)
          (hwm ▸ hbegin w hw hwbelow) hsame
        exact hlaid.fresh (hdm ▸ hm)
    rw [place_of_fresh (by rw [(ofSource_fields step.laidOut).1]; exact hnew)]
    exact eachAfter_append_singleton.mpr
      ⟨ih, .identify hroot step (hpre.trans before.isPrefix) hlaid hubelow⟩

/-- **Where the classes of a construction come from**, if the classes below the roots are there
in their own right and begin with their root's name. -/
theorem Built.origins
    (hbegin : ∀ e ∈ done, ∀ root ∈ idRoots, e.isInstanceOf root = true →
      startsWith e.name root = true) : EachAfter (Origin v decls enums) done := by
  induction h with
  | start => exact eachAfter_nil
  | @layOut done taken c laid before step ih =>
    have hsub : done ⊆ done ++ [laid] := subset_append_left _ _
    exact eachAfter_append_singleton.mpr
      ⟨ih (fun d hd => hroots d (hsub hd)) (fun d hd => hbegin d (hsub hd)), .layOut step⟩
  | @identify done found taken root c before hversion hroot hc hbelow run ih =>
    have hsub : done ⊆ found := run.isPrefix.subset
    have hroots' : RootsUndisturbed done taken := fun d hd root' hroot' hd' ht =>
      hroots d (hsub hd) root' hroot' hd' (Or.inl ht)
    exact IdWalk.origins hnamed hup before hroots'
      (fun d hd => hbegin d (hsub hd) root hroot) hc hroot hbelow run
      (ih hroots' fun d hd => hbegin d (hsub hd))

end Undisturbed

end Steps

/-! ## Protocols -/

/-- What stands before a class is one list, where no name occurs twice. -/
theorem before_eq_of_nodup {classes before after ctx : List Class} {e : Class}
    (hnodup : (names classes).Nodup) (hsplit : classes = before ++ e :: after)
    (hpre : ctx ++ [e] <+: classes) : before = ctx := by
  obtain ⟨rest, hrest⟩ := hpre
  rw [append_assoc, singleton_append] at hrest
  subst hsplit
  unfold names at hnodup
  rw [map_append, map_cons, nodup_append] at hnodup
  -- whichever of the two lists were longer would hold the class itself
  rcases append_eq_append_iff.mp hrest with ⟨c, rfl, hc⟩ | ⟨c, rfl, hc⟩
  · cases c with
    | nil => exact append_nil ctx
    | cons d c =>
      obtain ⟨rfl, -⟩ := List.cons.inj hc
      refine absurd rfl (hnodup.2.2 e.name ?_ e.name mem_cons_self)
      exact mem_map_of_mem (mem_append_right _ mem_cons_self)
  · cases c with
    | nil => exact (append_nil before).symm
    | cons d c =>
      obtain ⟨rfl, hafter⟩ := List.cons.inj hc
      refine absurd ?_ (nodup_cons.mp hnodup.2.1).1
      rw [hafter]
      exact mem_map_of_mem (mem_append_right _ mem_cons_self)

/-- **An undisturbed hierarchy below the roots**: the roots extend nothing, the classes below a
root begin with its name, and none of them is there under the name of a displaced
declaration. -/
structure Orderly (v : Version) (sources : List Source) (p : Protocol) : Prop where
  /-- The roots extend nothing. -/
  top : ∀ c ∈ classesOf sources, c.name ∈ idRoots → c.superclass = none
  /-- The classes below a root begin with its name. -/
  named : ∀ e ∈ p.classes, ∀ root ∈ idRoots, e.isInstanceOf root = true →
    startsWith e.name root = true
  /-- No displaced declaration counts as an action or an instruction. -/
  own : ∀ e ∈ p.classes, e.name ∈ displaced v sources → ∀ root ∈ idRoots,
    e.isInstanceOf root = false

section Origins

variable {v : Version} {sources : List Source} {p : Protocol}

/-- The class of a declaration that is not displaced comes from the walk. -/
theorem origin_of_declared (h : build v sources = .ok p) {before after : List Class} {e : Class}
    (hsplit : p.classes = before ++ e :: after)
    (hdeclared : e.name ∈ (classesOf sources).map (·.name))
    (hfree : e.name ∉ displaced v sources) :
    Origin v (classRows sources) (protocolEnums sources) before e := by
  have he : e ∈ p.classes := by
    rw [hsplit]
    exact mem_append_right _ mem_cons_self
  obtain ⟨c, -, ctx, hpre, hstep⟩ := own_of_declared h he hdeclared hfree
  rw [before_eq_of_nodup (built_of_build h).1.nodup hsplit hpre]
  exact .layOut hstep

/-- In an undisturbed hierarchy every class stands where it was laid out. -/
theorem Orderly.origins (horderly : Orderly v sources p) (h : build v sources = .ok p) :
    EachAfter (Origin v (classRows sources) (protocolEnums sources)) p.classes := by
  obtain ⟨hbuilt, -⟩ := built_of_build h
  refine hbuilt.origins (name_of_get?_classRows sources) ?_ ?_ horderly.named
  · intro root hroot c file hget
    obtain ⟨hc, rfl⟩ := mem_classesOf_of_get? hget
    exact horderly.top c hc hroot
  · intro d hd root hroot hbelow hdisplaced
    rw [horderly.own d hd hdisplaced root hroot] at hbelow
    cases hbelow

end Origins

/-- **The order of a protocol.** No two classes have one name, and every declared name
occurs. The class of every declaration that is not displaced follows what it needs. If
no displaced declaration counts as an action or an instruction, every class follows
what it needs, identifying classes included; from each class one then comes, superclass
by superclass and ever further to the front, to one that extends nothing, and what the
class is an instance of and its root can be read off that way.

All of this is for roots that extend nothing and classes below them that begin with
their names. -/
theorem build_dependencyOrder {v : Version} {sources : List Source} {p : Protocol}
    (h : build v sources = .ok p)
    (hup : ∀ c ∈ classesOf sources, c.name ∈ idRoots → c.superclass = none)
    (hbegin : ∀ e ∈ p.classes, ∀ root ∈ idRoots, e.isInstanceOf root = true →
      Text.startsWith e.name root = true) :
    (names p.classes).Nodup
      ∧ (∀ c ∈ classesOf sources, c.name ∈ names p.classes)
      ∧ (∀ before e after, p.classes = before ++ e :: after →
          e.name ∈ (classesOf sources).map (·.name) → e.name ∉ displaced v sources →
            Follows ((classesOf sources).map (·.name)) before e)
      ∧ ((∀ d ∈ p.classes, d.name ∈ displaced v sources → ∀ root ∈ idRoots,
            d.isInstanceOf root = false) →
          InOrder ((classesOf sources).map (·.name)) p.classes
            ∧ ∀ e ∈ p.classes, ∃ chain, Chain p.classes e chain ∧ chain.reverse.Sublist p.classes
              ∧ (∀ s, e.isInstanceOf s = true ↔ ∃ c ∈ chain, c.name = s)
              ∧ e.inheritanceRoot? = (chain.getLast?.filter (·.isVirtual)).map (·.name)) := by
  obtain ⟨hbuilt, hall⟩ := built_of_build h
  rw [← keys_classRows]
  refine ⟨hbuilt.nodup, hall, ?_, fun hroots => ?_⟩
  · intro before e after hsplit hdeclared hfree
    rw [keys_classRows] at hdeclared
    exact (origin_of_declared h hsplit hdeclared hfree).follows
  · have horderly : Orderly v sources p := ⟨hup, hbegin, hroots⟩
    have horder : InOrder (classRows sources).keys p.classes :=
      (horderly.origins h).imp fun _ _ => Origin.follows
    refine ⟨horder, fun e he => ?_⟩
    obtain ⟨chain, hchain, hsorted⟩ := horder.superclassesFirst.exists_chain he
    exact ⟨chain, hchain, hsorted, hchain.isInstanceOf_iff, hchain.inheritanceRoot?_eq⟩

/-- The classes that identify the two actions of a version 1.3 stand behind the port
that one of the actions holds. -/
theorem build_dependencyOrder_port :
    ∃ p, build .v13 [portSource] = .ok p
      ∧ names p.classes
        = ["of_action", "of_action_id", "of_port", "of_action_output", "of_action_id_output"]
      ∧ InOrder ["of_action", "of_action_output", "of_port"] p.classes
      ∧ ∀ e ∈ p.classes, ∃ chain, Chain p.classes e chain ∧ chain.reverse.Sublist p.classes := by
  have htest : (build .v13 [portSource]).toOption.any (fun p =>
      names p.classes
        = ["of_action", "of_action_id", "of_port", "of_action_output", "of_action_id_output"]
      ∧ ∀ e ∈ p.classes, ∀ root ∈ idRoots, e.isInstanceOf root = true →
        Text.startsWith e.name root = true) = true := by
    rw [build_eq_walk .v13 (by decide) (by decide), sortedNames_of_pairwise (by decide)]
    decide +kernel
  have hdisplaced : displaced .v13 [portSource] = [] := by
    unfold displaced
    rw [sortedNames_of_pairwise (by decide)]
    decide +kernel
  obtain ⟨p, hp, hq⟩ := exists_ok_of_any htest
  obtain ⟨hnames, hbegin⟩ := of_decide_eq_true hq
  obtain ⟨-, -, -, horder⟩ := build_dependencyOrder hp (by decide) hbegin
  obtain ⟨hinOrder, hchains⟩ := horder fun d _ hd => by
    rw [hdisplaced] at hd
    exact absurd hd not_mem_nil
  refine ⟨p, hp, hnames, hinOrder, fun e he => ?_⟩
  obtain ⟨chain, hchain, hsorted, -⟩ := hchains e he
  exact ⟨chain, hchain, hsorted⟩

/-- **A class in front of one that its member names**: the class that identifies the
displaced declaration `of_action_id_a` stands before the declared class `uint16`,
although it has a member of the type `uint16_t`. -/
theorem class_before_member_type :
    (∀ c ∈ classesOf [tangledSource], c.name ∈ idRoots → c.superclass = none)
      ∧ ∃ p, build .v13 [tangledSource] = .ok p
        ∧ (∀ e ∈ p.classes, ∀ root ∈ idRoots, e.isInstanceOf root = true →
            Text.startsWith e.name root = true)
        ∧ ∃ before e after, p.classes = before ++ e :: after
          ∧ ¬ Follows ((classesOf [tangledSource]).map (·.name)) before e := by
  have htest : (build .v13 [tangledSource]).toOption.any (fun p =>
      (∀ e ∈ p.classes, ∀ root ∈ idRoots, e.isInstanceOf root = true →
        Text.startsWith e.name root = true)
      ∧ "uint16" ∉ names (p.classes.take 6)
      ∧ ∃ e ∈ (p.classes.drop 6).head?, ∃ f ∈ e.fields, f.type = "uint16_t") = true := by
    rw [build_eq_walk .v13 (by decide) (by decide), sortedNames_of_pairwise (by decide)]
    decide +kernel
  obtain ⟨p, hp, hq⟩ := exists_ok_of_any htest
  obtain ⟨hbegin, hlate, e, hhead, f, hf, htype⟩ := of_decide_eq_true hq
  obtain ⟨after, hafter⟩ := head?_eq_some_iff.mp hhead
  refine ⟨by decide, p, hp, hbegin, p.classes.take 6, e, after, ?_, fun hfollows => hlate ?_⟩
  · rw [← hafter, take_append_drop]
  · exact hfollows.members f hf "uint16" (by decide) (.inl htype)

end FlowBindings.Protocol
