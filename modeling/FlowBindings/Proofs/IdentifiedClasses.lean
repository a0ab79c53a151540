import FlowBindings.Proofs.Failure
import FlowBindings.Proofs.WireLayout

/-!
# The classes that are identified

From version 1.3 on, a class that counts as an action or an instruction is identified, and so
is every class above it. Whether a class counts is read off the classes that are there
(`Class.isInstanceOf`); what is above it is read off the declarations (`Above`). The two need
not agree. An identifying class may come to stand below a root itself, if what identifies its
superclass has the name of a declared class below that root, and it may take the name of a
declaration that the walk has not come to yet.

Both need a declared class on a way through a root that has the name of an identifying class.
Where there is none (`IdsApart`), a class counts as an action only if its declaration leads up
to `of_action`, and whatever is identified is there in its own right (`Built.own_of_apart`).
-/

namespace FlowBindings.Protocol

open List Text

/-! ## Ways through a root -/

section Ways

variable (decls : Declared)

/-- **A name on a way through a root**: the root is declared, and the name leads up to it, or it
to the name. -/
def OnWay (root n : String) : Prop :=
  decls.has root = true ∧ (Above decls n root ∨ Above decls root n)

/-- **Identifying names keep apart**: no declared class on a way through a root has the name of
a class that identifies one on such a way. -/
def IdsApart : Prop :=
  ∀ root ∈ idRoots, ∀ n, OnWay decls root n → decls.has (idName root n) = true →
    ∀ root' ∈ idRoots, ¬ OnWay decls root' (idName root n)

variable {decls}

theorem startsWith_idName (root n : String) :
    startsWith (idName root n) (root ++ "_id") = true :=
  startsWith_append _ (startsWith_self _)

variable {n root : String}

theorem idName_ne_root {r : String} (hroot : root ∈ idRoots) (hr : r ∈ idRoots) (n : String) :
    idName root n ≠ r := by
  have hroots : ∀ root ∈ idRoots, ∀ r ∈ idRoots, startsWith r (root ++ "_id") = false := by
    decide
  intro heq
  have hbegins := startsWith_idName root n
  rw [heq, hroots root hroot r hr] at hbegins
  cases hbegins

/-- Identifying names keep apart where no declared name begins as they do. -/
theorem idsApart_of_clear (hclear : ∀ n, decls.has n = true → ∀ root ∈ idRoots,
    startsWith n (root ++ "_id") = false) : IdsApart decls := by
  intro root hroot n _ hhas
  have hbegins := startsWith_idName root n
  rw [hclear _ hhas root hroot] at hbegins
  cases hbegins

theorem Above.eq_or_has {m : String} (h : Above decls n m) : n = m ∨ decls.has n = true := by
  rw [above_iff] at h
  obtain rfl | ⟨_, ⟨c, file, hget, -⟩, -⟩ := Relation.ReflTransGen.cases_head h
  · exact .inl rfl
  · exact .inr (Table.has_of_get? hget)

/-- A class extends one class at most, so there is only one way up. -/
theorem Above.total {a b : String} (ha : Above decls n a) (hb : Above decls n b) :
    Above decls a b ∨ Above decls b a := by
  rw [above_iff] at ha hb ⊢
  rw [above_iff]
  refine Relation.ReflTransGen.total_of_right_unique ?_ ha hb
  rintro m a b ⟨c, file, hget, ha⟩ ⟨c', file', hget', hb⟩
  rw [hget] at hget'
  cases hget'
  rw [ha] at hb
  exact Option.some.inj hb

/-- The way up from a name below a root runs through the root. -/
theorem Above.onWay {m : String} (hroot : Above decls n root) (hm : Above decls n m)
    (hhas : decls.has root = true) : OnWay decls root m :=
  ⟨hhas, hm.total hroot⟩

/-- A class below a root is the root, or its superclass is below the root. -/
theorem isInstanceOf_cases {ctx : List Class} {e : Class} {superclass : Option String}
    (hanc : e.ancestors = visit.lineage ctx superclass)
    (h : e.isInstanceOf root = true) :
    e.name = root ∨ ∃ u ∈ ctx, superclass = some u.name ∧ u.isInstanceOf root = true := by
  by_cases hname : e.name = root
  · exact .inl hname
  right
  cases hfind : superclass.bind fun up => ctx.find? (·.name = up) with
  | none =>
    -- without ancestors a class is an instance of itself only
    rw [visit.lineage, hfind] at hanc
    rw [Class.isInstanceOf, hanc, any_nil, Bool.or_false, decide_eq_true_iff] at h
    exact absurd h hname
  | some u =>
    obtain ⟨up, rfl, hu⟩ := Option.bind_eq_some_iff.mp hfind
    have hup : u.name = up := by simpa using List.find?_some hu
    rw [visit.lineage, hfind] at hanc
    exact ⟨u, mem_of_find?_eq_some hu, by rw [hup],
      isInstanceOf_of_lineage h hname hanc⟩

end Ways

/-! ## What counts is declared -/

section Built

variable {v : Version} {decls : Declared} {enums : List Enum}

/-- Whatever counts as an action or an instruction leads up to the root, which is declared. -/
def CountsRightly (decls : Declared) (classes : List Class) : Prop :=
  ∀ e ∈ classes, ∀ root ∈ idRoots, e.isInstanceOf root = true →
    decls.has root = true ∧ Above decls e.name root

variable {n root : String}

/-- **No identifying class counts**, where identifying names keep apart. -/
theorem IdWalk.countsRightly (hapart : IdsApart decls) {name : String} (hroot : root ∈ idRoots)
    (hhas : decls.has root = true) (hway : Above decls name root) {base found : List Class}
    (run : IdWalk v decls enums root name base found) (hbase : CountsRightly decls base) :
    CountsRightly decls found := by
  induction run with
  | stay => exact hbase
  | @identify mid d laid before above step ih =>
    intro e he r hr hbelow
    rcases mem_place he with rfl | he
    · obtain ⟨hname, hanc, -⟩ := ofSource_fields step.laidOut
      rcases isInstanceOf_cases hanc hbelow with hself | ⟨u, hu, hsuper, hubelow⟩
      · exact absurd (hname.symm.trans hself) (idName_ne_root hroot hr d.name)
      · -- what identifies the superclass does not count
        obtain ⟨up, hup, hid⟩ := Option.map_eq_some_iff.mp hsuper
        obtain ⟨file, hget⟩ := step.declared
        obtain ⟨hr', hcounts⟩ := ih u hu r hr hubelow
        rw [← hid] at hcounts
        exact absurd ⟨hr', .inl hcounts⟩ (hapart root hroot up
          (hway.onWay (above.up hget hup) hhas)
          (hcounts.eq_or_has.resolve_left (idName_ne_root hroot hr up)) r hr)
    · exact ih e he r hr hbelow

/-- **A class counts as an action or an instruction only if its declaration leads up to the
root.** -/
theorem Built.countsRightly (hapart : IdsApart decls) {done : List Class} {taken : Set String}
    (h : Built v decls enums done taken) : CountsRightly decls done := by
  induction h with
  | start => exact fun e he => absurd he not_mem_nil
  | @layOut done taken c laid before step ih =>
    intro e he root hroot hbelow
    rcases mem_append.mp he with he | he
    · exact ih e he root hroot hbelow
    · obtain rfl := mem_singleton.mp he
      obtain ⟨file, hget⟩ := step.declared
      obtain ⟨hname, hanc, -⟩ := ofSource_fields step.laidOut
      rcases isInstanceOf_cases hanc hbelow with hself | ⟨u, hu, hsuper, hubelow⟩
      · rw [← hself, hname]
        exact ⟨Table.has_of_get? hget, .self⟩
      · obtain ⟨hhas, hway⟩ := ih u hu root hroot hubelow
        rw [hname]
        exact ⟨hhas, (Above.up .self hget hsuper).trans hway⟩
  | @identify done found taken root c before hversion hroot hc hbelow run ih =>
    obtain ⟨hhas, hway⟩ := ih c hc root hroot hbelow
    exact run.countsRightly hapart hroot hhas hway ih

variable {done : List Class} {taken : Set String} (hapart : IdsApart decls)
  (h : Built v decls enums done taken)

include hapart h

/-- **What is taken is declared, and identifies a class on a way through a root.** -/
theorem Built.taken_cases_of_apart (hn : n ∈ taken) :
    decls.has n = true ∧ ∃ root ∈ idRoots, ∃ m, OnWay decls root m ∧ n = idName root m := by
  induction h with
  | start => exact absurd hn (Set.notMem_empty n)
  | layOut _ _ ih => exact ih hn
  | @identify done found taken root c before hversion hroot hc hbelow run ih =>
    rcases hn with hn | ⟨hfound, hnew, hhas⟩
    · exact ih hn
    · obtain ⟨hdeclared, hway⟩ := before.countsRightly hapart c hc root hroot hbelow
      obtain ⟨m, habove, hname⟩ := (run.names_cases hfound).resolve_left hnew
      exact ⟨hhas, root, hroot, m, hway.onWay habove hdeclared, hname⟩

/-- Names on the ways through the roots are not taken. -/
theorem Built.not_mem_taken_of_onWay (hroot : root ∈ idRoots) (hn : OnWay decls root n) :
    n ∉ taken := by
  intro htaken
  obtain ⟨hhas, root', hroot', m, hm, rfl⟩ := h.taken_cases_of_apart hapart htaken
  exact hapart root' hroot' m hm hhas root hroot hn

/-- **The way up from a class that counts is there.** -/
theorem Built.mem_of_above_of_apart (hnamed : Named decls) {c : Class} (hc : c ∈ done)
    (hroot : root ∈ idRoots) (hbelow : c.isInstanceOf root = true)
    (hn : Above decls c.name n) : n ∈ names done := by
  obtain ⟨hhas, hway⟩ := h.countsRightly hapart c hc root hroot hbelow
  induction hn with
  | self => exact mem_map_of_mem hc
  | @up n up file d below hget hsuper ih =>
    obtain rfl := hnamed hget
    obtain ⟨own, u, hpre, hstep⟩ :=
      h.own hget ih (h.not_mem_taken_of_onWay hapart hroot (hway.onWay below hhas))
    exact names_subset_of_isPrefix ((prefix_append _ _).trans hpre)
      (hstep.superclass_mem hsuper)

/-- **Whatever is identified is there in its own right.** -/
theorem Built.own_of_apart (hnamed : Named decls) {c : Class} (hc : c ∈ done)
    (hroot : root ∈ idRoots) (hbelow : c.isInstanceOf root = true) {d : Source.Class}
    {file : String} (habove : Above decls c.name d.name)
    (hget : decls.get? d.name = some (d, file)) :
    ∃ own u, own ++ [u] <+: done ∧ Layable v decls enums own d u := by
  obtain ⟨hhas, hway⟩ := h.countsRightly hapart c hc root hroot hbelow
  exact h.own hget (h.mem_of_above_of_apart hapart hnamed hc hroot hbelow habove)
    (h.not_mem_taken_of_onWay hapart hroot (hway.onWay habove hhas))

end Built

end FlowBindings.Protocol
