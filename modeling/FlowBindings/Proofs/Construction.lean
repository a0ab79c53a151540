import FlowBindings.Proofs.Walk
import Mathlib.Data.Set.Basic

/-!
# How a protocol comes about

A protocol is built by the two kinds of step of `Walk`: layouts of declared
classes, and identifications of classes that count as actions or instructions.
`Built` is any sequence of these, and `built_of_build` says that every protocol
is the end of one. The invariants of a protocol are inductions over `Built`.

Declared and identifying classes share their names. An identification may file a
class under the name of a declaration that the walk has not come to yet; the walk
then finds the name in the list and passes the declaration over. Such a
declaration is **displaced**. `displaced` runs the walk once more and collects
these names, and `Built` carries them along, so that whatever is said of the
classes that are there in their own right can be said of all names that are not
displaced (`Built.own`).
-/

namespace FlowBindings.Protocol

open List

/-! ## Displaced declarations -/

section Recording

variable (v : Version) (decls : Declared) (enums : List Enum)

/-- Visit a declared name as `visitDeclared` does, and note the declared names that
the identification of its class has taken. -/
def visitRecording (state : List Class × List String) (name : String) :
    Except Error (List Class × List String) := do
  let laid ← visit v decls enums (decls.length + 1) [] name state.1
  let found ← visitDeclared v decls enums state.1 name
  pure (found, state.2 ++ (names found).filter fun n => !(names laid).contains n && decls.has n)

end Recording

/-- **The declared names that identifying classes take** before the walk comes to
their declarations, in the order in which they are taken. -/
def displaced (v : Version) (sources : List Source) : List String :=
  match (sortedNames sources).foldlM
      (visitRecording v (classRows sources) (protocolEnums sources)) ([], []) with
  | .ok (_, taken) => taken
  | .error _ => []

/-! ## States of the construction -/

section Built

variable (v : Version) (decls : Declared) (enums : List Enum)

/-- The declared names an identification takes on its way from `done` to
`found`. -/
def takenBetween (done found : List Class) : Set String :=
  {n | n ∈ names found ∧ n ∉ names done ∧ decls.has n = true}

/-- **The states a construction can reach**: the classes laid out so far, and the
declared names that identifying classes have taken. -/
inductive Built : List Class → Set String → Prop where
  /-- Nothing is laid out. -/
  | start : Built [] ∅
  /-- A declared class is laid out. -/
  | layOut {done : List Class} {taken : Set String} {c : Source.Class} {laid : Class}
      (before : Built done taken) (step : Layable v decls enums done c laid) :
      Built (done ++ [laid]) taken
  /-- A class below a root is identified, from version 1.3 on. -/
  | identify {done found : List Class} {taken : Set String} {root : String} {c : Class}
      (before : Built done taken) (hversion : 4 ≤ v.wire) (hroot : root ∈ idRoots)
      (hc : c ∈ done) (hbelow : c.isInstanceOf root = true)
      (run : IdWalk v decls enums root c.name done found) :
      Built found (taken ∪ takenBetween decls done found)

variable {v decls enums}

variable {done : List Class} {taken : Set String}

theorem Built.walk {done' : List Class}
    (h : Built v decls enums done taken) (hwalk : Walk v decls enums done done') :
    Built v decls enums done' taken := by
  induction hwalk with
  | stay => exact h
  | layOut _ step ih => exact .layOut ih step

theorem Built.nodup (h : Built v decls enums done taken) : (names done).Nodup := by
  induction h with
  | start => exact nodup_nil
  | layOut _ step ih =>
    rw [names_append_singleton, (ofSource_fields step.laidOut).1, nodup_append]
    refine ⟨ih, nodup_singleton _, fun a ha b hb hab => step.fresh ?_⟩
    rw [← mem_singleton.mp hb, ← hab]
    exact ha
  | identify _ _ _ _ _ run ih => exact run.nodup ih

/-- **A declared class that is there and not displaced is there in its own
right**: it was laid out behind everything it needs, and nothing before it has
changed since. -/
theorem Built.own (h : Built v decls enums done taken)
    {c : Source.Class} {file : String} (hget : decls.get? c.name = some (c, file))
    (hname : c.name ∈ names done) (hfree : c.name ∉ taken) :
    ∃ ctx e, ctx ++ [e] <+: done ∧ Layable v decls enums ctx c e := by
  induction h with
  | start => exact absurd hname not_mem_nil
  | @layOut done taken d laid before step ih =>
    rw [names_append_singleton, (ofSource_fields step.laidOut).1, mem_append,
      mem_singleton] at hname
    rcases hname with hname | hname
    · obtain ⟨ctx, e, hpre, hstep⟩ := ih hname hfree
      exact ⟨ctx, e, hpre.trans (prefix_append _ _), hstep⟩
    · obtain ⟨file', hget'⟩ := step.declared
      rw [← hname, hget] at hget'
      cases hget'
      exact ⟨done, laid, prefix_rfl, step⟩
  | @identify done found taken root d before hversion hroot hd hbelow run ih =>
    by_cases hold : c.name ∈ names done
    · obtain ⟨ctx, e, hpre, hstep⟩ := ih hold (fun ht => hfree (Or.inl ht))
      exact ⟨ctx, e, hpre.trans run.isPrefix, hstep⟩
    · exact absurd (Or.inr ⟨hname, hold, Table.has_of_get? hget⟩) hfree

/-- **Under a name that is taken stands an identifying class.** -/
theorem Built.taken_cases (h : Built v decls enums done taken) {n : String} (hn : n ∈ taken) :
    4 ≤ v.wire ∧ ∃ e ∈ done, e.name = n ∧ ∃ root ∈ idRoots, ∃ c base ctx,
      Identifiable v decls enums root base ctx c e := by
  induction h with
  | start => exact absurd hn (Set.notMem_empty n)
  | layOut _ _ ih =>
    obtain ⟨hversion, e, he, hrest⟩ := ih hn
    exact ⟨hversion, e, mem_append_left _ he, hrest⟩
  | @identify done found taken root d before hversion hroot hd hbelow run ih =>
    rcases hn with hn | ⟨hfound, hnew, -⟩
    · obtain ⟨-, e, he, hrest⟩ := ih hn
      exact ⟨hversion, e, run.isPrefix.subset he, hrest⟩
    · obtain ⟨e, he, rfl⟩ := mem_map.mp hfound
      rcases run.mem_cases he with hold | ⟨c, ctx, -, -, hstep⟩
      · exact absurd (mem_map_of_mem hold) hnew
      · exact ⟨hversion, e, he, rfl, root, hroot, c, done, ctx, hstep⟩

theorem Built.laidOut
    (h : Built v decls enums done taken) {e : Class} (he : e ∈ done) : e.LaidOut := by
  induction h with
  | start => exact absurd he not_mem_nil
  | layOut _ step ih =>
    rcases mem_append.mp he with he | he
    · exact ih he
    · rw [mem_singleton.mp he]
      exact laidOut_of_ofSource step.laidOut
  | identify _ _ _ _ _ run ih =>
    rcases run.mem_cases he with he | ⟨c, ctx, -, -, hstep⟩
    · exact ih he
    · exact laidOut_of_ofSource hstep.laidOut

/-- **Before version 1.3 all classes are declared**, and no name is taken. -/
theorem Built.declared_of_old (hold : v.wire < 4) (h : Built v decls enums done taken) :
    taken = ∅ ∧ ∀ e ∈ done, decls.has e.name = true := by
  induction h with
  | start => exact ⟨rfl, fun e he => absurd he not_mem_nil⟩
  | layOut _ step ih =>
    refine ⟨ih.1, fun e he => ?_⟩
    rcases mem_append.mp he with he | he
    · exact ih.2 e he
    · obtain ⟨file, hget⟩ := step.declared
      rw [mem_singleton.mp he, (ofSource_fields step.laidOut).1]
      exact Table.has_of_get? hget
  | identify _ hversion _ _ _ _ _ => exact absurd hversion (Nat.not_le.mpr hold)

/-- The names taken on the way to a state, seen from an earlier state. -/
theorem takenBetween_union {mid found : List Class} (h : done <+: mid) (h' : mid <+: found) :
    takenBetween decls done mid ∪ takenBetween decls mid found
      = takenBetween decls done found := by
  ext n
  have hdm : n ∈ names done → n ∈ names mid := fun hn => names_subset_of_isPrefix h hn
  have hmf : n ∈ names mid → n ∈ names found := fun hn => names_subset_of_isPrefix h' hn
  show (_ ∧ _ ∧ _) ∨ (_ ∧ _ ∧ _) ↔ _ ∧ _ ∧ _
  constructor
  · rintro (⟨hn, hnew, hdecl⟩ | ⟨hn, hnew, hdecl⟩)
    · exact ⟨hmf hn, hnew, hdecl⟩
    · exact ⟨hn, fun hd => hnew (hdm hd), hdecl⟩
  · rintro ⟨hn, hnew, hdecl⟩
    by_cases hm : n ∈ names mid
    · exact Or.inl ⟨hm, hnew, hdecl⟩
    · exact Or.inr ⟨hn, hm, hdecl⟩

@[simp]
theorem takenBetween_self (done : List Class) : takenBetween decls done done = ∅ := by
  ext n
  exact ⟨fun h => absurd h.1 h.2.1, fun h => nomatch h⟩

/-! ## Every protocol is built -/

/-- What a visit of a declared name did: a visit, and then identifications that
leave what was laid out alone. -/
theorem visitDeclared_built (hnamed : Named decls) {name : String} {found : List Class}
    (h : visitDeclared v decls enums done name = .ok found)
    (hdone : Built v decls enums done taken) :
    ∃ laid, visit v decls enums (decls.length + 1) [] name done = .ok laid
      ∧ name ∈ names laid ∧ done <+: laid ∧ laid <+: found
      ∧ Built v decls enums found (taken ∪ takenBetween decls laid found) := by
  obtain ⟨laid, hlaid, h⟩ := bind_eq_ok_iff.mp h
  obtain ⟨⟨hwalk, -⟩, hname⟩ := visit_walk hnamed hlaid
  refine ⟨laid, hlaid, hname, hwalk.isPrefix, ?_⟩
  have hbuilt := hdone.walk hwalk
  obtain ⟨c, hc⟩ := exists_find?_name_of_mem hname
  have hcname : c.name = name := by simpa using List.find?_some hc
  have hstay : Built v decls enums laid (taken ∪ takenBetween decls laid laid) := by
    rw [takenBetween_self, Set.union_empty]
    exact hbuilt
  rw [hc] at h
  dsimp only at h
  split at h
  · cases h
    exact ⟨prefix_rfl, hstay⟩
  rename_i hversion
  refine foldlM_invariant
    (fun found => laid <+: found
      ∧ Built v decls enums found (taken ∪ takenBetween decls laid found))
    ?_ h ⟨prefix_rfl, hstay⟩
  rintro root hroot mid found hstep ⟨hpre, hmid⟩
  split at hstep
  · rename_i hbelow
    rw [← hcname] at hstep
    obtain ⟨run, -⟩ := visitId_idWalk hnamed hstep
    refine ⟨hpre.trans run.isPrefix, ?_⟩
    rw [← takenBetween_union hpre run.isPrefix, ← Set.union_assoc]
    exact .identify hmid (Nat.le_of_not_lt hversion) hroot
      (hpre.subset (mem_of_find?_eq_some hc)) hbelow run
  · cases hstep
    exact ⟨hpre, hmid⟩

end Built

theorem name_of_get?_classRows (sources : List Source) : Named (classRows sources) :=
  fun h => (mem_classesOf_of_get? h).2

/-- **Every protocol is built by steps**, with the displaced names as the names
taken, and holds every declared name. -/
theorem built_of_build {v : Version} {sources : List Source} {p : Protocol}
    (h : build v sources = .ok p) :
    Built v (classRows sources) (protocolEnums sources) p.classes
        {n | n ∈ displaced v sources}
      ∧ ∀ c ∈ classesOf sources, c.name ∈ names p.classes := by
  obtain ⟨-, -, hwalk, -, -⟩ := build_eq_ok_iff.mp h
  have hnamed := @name_of_get?_classRows sources
  -- the recording walk does what the walk does
  have hrecord : ∀ (l : List String) (done found : List Class) (taken : List String),
      Built v (classRows sources) (protocolEnums sources) done {n | n ∈ taken} →
      l.foldlM (visitDeclared v (classRows sources) (protocolEnums sources)) done = .ok found →
      ∃ taken', l.foldlM (visitRecording v (classRows sources) (protocolEnums sources))
          (done, taken) = .ok (found, taken')
        ∧ Built v (classRows sources) (protocolEnums sources) found {n | n ∈ taken'}
        ∧ done <+: found ∧ ∀ n ∈ l, n ∈ names found := by
    intro l
    induction l with
    | nil =>
      intro done found taken hdone hl
      cases hl
      exact ⟨taken, rfl, hdone, prefix_rfl, fun n hn => absurd hn not_mem_nil⟩
    | cons name l ih =>
      intro done found taken hdone hl
      rw [foldlM_cons, bind_eq_ok_iff] at hl
      obtain ⟨mid, hmid, hl⟩ := hl
      obtain ⟨laid, hlaid, hname, hdl, hlm, hbuilt⟩ := visitDeclared_built hnamed hmid hdone
      have hset : {n | n ∈ taken} ∪ takenBetween (classRows sources) laid mid
          = {n | n ∈ taken ++ (names mid).filter fun n =>
              !(names laid).contains n && (classRows sources).has n} := by
        ext n
        simp [takenBetween]
      rw [hset] at hbuilt
      obtain ⟨taken', hfold, hfound, hmf, hnames⟩ := ih mid found _ hbuilt hl
      refine ⟨taken', ?_, hfound, (hdl.trans hlm).trans hmf, fun n hn => ?_⟩
      · rw [foldlM_cons, bind_eq_ok_iff]
        refine ⟨(mid, _), ?_, hfold⟩
        unfold visitRecording
        rw [hlaid, hmid]
        rfl
      · rcases mem_cons.mp hn with rfl | hn
        · exact names_subset_of_isPrefix (hlm.trans hmf) hname
        · exact hnames n hn
  have hstart : Built v (classRows sources) (protocolEnums sources) []
      {n | n ∈ ([] : List String)} := by
    have hempty : {n | n ∈ ([] : List String)} = (∅ : Set String) := by
      ext n
      simp
    rw [hempty]
    exact .start
  obtain ⟨taken, hfold, hbuilt, -, hnames⟩ := hrecord _ [] p.classes [] hstart hwalk
  refine ⟨?_, fun c hc => hnames c.name (mem_sortedNames.mpr ⟨c, hc, rfl⟩)⟩
  unfold displaced
  rw [hfold]
  exact hbuilt

end FlowBindings.Protocol
