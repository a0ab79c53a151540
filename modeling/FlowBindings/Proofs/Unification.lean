import FlowBindings.Proofs.Basic
import FlowBindings.Proofs.Hierarchy
import FlowBindings.Unified
import Mathlib.Data.List.Infix

/-!
# How versions are unified

Unifying reads the classes of all versions, one version after another, as one list of
definitions (`definitions`). Two things happen to them.

Fields and parameters are gathered under their names, the first of a name is kept, and
a later one must agree with it: a field in its kind, a parameter in its value. That is
one way of merging (`Merges`), and it fails exactly when two of the gathered things
disagree (`Merges.foldlM_endsIn`, `Gathered.not_clash`).

Superclasses are not compared. A definition overwrites the superclass of the one before
it, so that in the end each name has the superclass of its last definition, at the place
of its first (`Drafted.outline`). Whether the superclass then is there when a class is
finished is a question about that table alone (`finish_endsIn`).

`build_endsIn` puts the two together: it says what the unified protocol is and for what
reasons there is none.
-/

namespace FlowBindings

open List Table

/-! ## Merging by name -/

section Merging

variable {ε α : Type}

/-- Two elements of a list have one key and disagree. -/
def Clash (key : α → String) (agree : α → α → Bool) (l : List α) : Prop :=
  ∃ x ∈ l, ∃ y ∈ l, key x = key y ∧ agree x y = false

/-- **A step that merges**: it appends what has a new key, passes over what agrees with
the element of its key, and fails otherwise. -/
structure Merges (key : α → String) (agree : α → α → Bool) (fails : ε → Prop)
    (f : List α → α → Except ε (List α)) : Prop where
  /-- A new key. -/
  fresh : ∀ {known x}, known.find? (fun y => key y = key x) = none → f known x = .ok (known ++ [x])
  /-- A known key, in agreement. -/
  same : ∀ {known x y}, known.find? (fun y => key y = key x) = some y → agree y x = true →
    f known x = .ok known
  /-- A known key, in disagreement. -/
  clash : ∀ {known x y}, known.find? (fun y => key y = key x) = some y → agree y x = false →
    ∃ e, f known x = .error e ∧ fails e

/-- **The first of each key**, in the order in which keys first occur. -/
structure Firsts (key : α → String) (seen known : List α) : Prop where
  /-- Each key once. -/
  keys_eq : known.map key = (seen.map key).eraseDups
  /-- The first element of a key stands for it. -/
  first : ∀ y ∈ known, seen.find? (fun x => key x = key y) = some y

theorem eraseDups_append_singleton (l : List String) (a : String) :
    (l ++ [a]).eraseDups = if a ∈ l then l.eraseDups else l.eraseDups ++ [a] := by
  rw [eraseDups_append]
  by_cases ha : a ∈ l
  · simp [List.removeAll, ha]
  · simp [List.removeAll, ha, eraseDups_cons]

/-- **What merging a list comes to**: the first element of each key, in agreement with all of its
key. -/
structure Gathered (key : α → String) (agree : α → α → Bool) (seen known : List α) : Prop where
  /-- No key occurs twice. -/
  nodup : (known.map key).Nodup
  /-- The first elements are kept. -/
  firsts : Firsts key seen known
  /-- Each element is represented. -/
  covers : ∀ x ∈ seen, ∃ y ∈ known, key y = key x ∧ agree y x = true

variable {key : α → String} {agree : α → α → Bool} {fails : ε → Prop}
  {f : List α → α → Except ε (List α)} {seen known : List α}

theorem Clash.mono {l l' : List α} (h : Clash key agree l) (hsub : l ⊆ l') :
    Clash key agree l' := by
  obtain ⟨x, hx, y, hy, hclash⟩ := h
  exact ⟨x, hsub hx, y, hsub hy, hclash⟩

/-- An element more brings no clash where it agrees with all of its key. -/
theorem not_clash_append_singleton {l : List α} {x : α} (h : ¬ Clash key agree l)
    (hself : agree x x = true)
    (hagree : ∀ y ∈ l, key y = key x → agree y x = true ∧ agree x y = true) :
    ¬ Clash key agree (l ++ [x]) := by
  rintro ⟨y, hy, z, hz, hkey, hclash⟩
  simp only [mem_append, mem_singleton] at hy hz
  rcases hy with hy | rfl <;> rcases hz with hz | rfl
  · exact h ⟨y, hy, z, hz, hkey, hclash⟩
  · rw [(hagree y hy hkey).1] at hclash
    cases hclash
  · rw [(hagree z hz hkey.symm).2] at hclash
    cases hclash
  · rw [hself] at hclash
    cases hclash

theorem gathered_nil : Gathered key agree [] [] where
  nodup := nodup_nil
  firsts := ⟨rfl, fun _ hy => absurd hy not_mem_nil⟩
  covers := fun _ hx => absurd hx not_mem_nil

theorem Gathered.subset (h : Gathered key agree seen known) : known ⊆ seen :=
  fun y hy => mem_of_find?_eq_some (h.firsts.first y hy)

/-- One step merges one element more. -/
theorem Merges.endsIn (hf : Merges key agree fails f) (hrefl : ∀ x, agree x x = true)
    (h : Gathered key agree seen known) (x : α) :
    EndsIn (Gathered key agree (seen ++ [x])) (fun e => fails e ∧ Clash key agree (seen ++ [x]))
      (f known x) := by
  have hx : x ∈ seen ++ [x] := mem_append_right _ (mem_singleton_self x)
  have hseen : seen ⊆ seen ++ [x] := subset_append_left _ _
  cases hfind : known.find? (fun y => key y = key x) with
  | none =>
    rw [hf.fresh hfind]
    have hnew : key x ∉ known.map key := by
      intro hmem
      obtain ⟨y, hy⟩ := exists_find?_name_of_mem hmem
      rw [hfind] at hy
      cases hy
    have hunseen : key x ∉ seen.map key := by rwa [h.firsts.keys_eq, mem_eraseDups] at hnew
    refine ⟨?_, ⟨?_, fun y hy => ?_⟩, fun z hz => ?_⟩
    · rw [map_append, map_singleton, ← concat_eq_append]
      exact h.nodup.concat hnew
    · rw [map_append, map_append, map_singleton, eraseDups_append_singleton, if_neg hunseen,
        h.firsts.keys_eq]
    · rw [find?_append]
      rcases mem_append.mp hy with hy | hy
      · rw [h.firsts.first y hy]
        rfl
      · obtain rfl := mem_singleton.mp hy
        have hnone : seen.find? (fun z => key z = key y) = none := by
          rw [find?_eq_none]
          exact fun z hz hzy => hunseen (of_decide_eq_true hzy ▸ mem_map_of_mem hz)
        rw [hnone]
        simp
    · rcases mem_append.mp hz with hz | hz
      · obtain ⟨y, hy, hagree⟩ := h.covers z hz
        exact ⟨y, mem_append_left _ hy, hagree⟩
      · obtain rfl := mem_singleton.mp hz
        exact ⟨z, mem_append_right _ hz, rfl, hrefl z⟩
  | some y =>
    have hy : y ∈ known := mem_of_find?_eq_some hfind
    have hkey : key y = key x := by simpa using find?_some hfind
    cases hagree : agree y x with
    | true =>
      rw [hf.same hfind hagree]
      refine ⟨h.nodup, ⟨?_, fun z hz => ?_⟩, fun z hz => ?_⟩
      · rw [map_append, map_singleton, eraseDups_append_singleton,
          if_pos (hkey ▸ mem_map_of_mem (h.subset hy)), h.firsts.keys_eq]
      · rw [find?_append, h.firsts.first z hz]
        rfl
      rcases mem_append.mp hz with hz | hz
      · exact h.covers z hz
      · obtain rfl := mem_singleton.mp hz
        exact ⟨y, hy, hkey, hagree⟩
    | false =>
      obtain ⟨e, he, hfails⟩ := hf.clash hfind hagree
      rw [he]
      exact ⟨hfails, y, hseen (h.subset hy), x, hx, hkey, hagree⟩

/-- **Merging a list gathers it, or there is a clash in it.** -/
theorem Merges.foldlM_endsIn (hf : Merges key agree fails f) (hrefl : ∀ x, agree x x = true)
    (h : Gathered key agree seen known) (items : List α) :
    EndsIn (Gathered key agree (seen ++ items))
      (fun e => fails e ∧ Clash key agree (seen ++ items)) (items.foldlM f known) := by
  refine endsIn_foldlM_seen (Gathered key agree) (fun l e => fails e ∧ Clash key agree l) ?_
    (fun _ x _ hmid => hf.endsIn hrefl hmid x) seen h items
  exact fun _ _ _ hstart he => ⟨he.1, he.2.mono hstart.subset⟩

/-- **There is no clash in what was gathered.** -/
theorem Gathered.not_clash (h : Gathered key agree seen known)
    (hagree : ∀ y x x', agree y x = true → agree y x' = true → agree x x' = true) :
    ¬ Clash key agree seen := by
  rintro ⟨x, hx, x', hx', hkey, hclash⟩
  obtain ⟨y, hy, hyx, hy'⟩ := h.covers x hx
  obtain ⟨z, hz, hzx, hz'⟩ := h.covers x' hx'
  -- both are represented by the one element of their key
  obtain rfl : y = z := inj_on_of_nodup_map h.nodup hy hz (by rw [hyx, hzx, hkey])
  rw [hagree y x x' hy' hz'] at hclash
  cases hclash

end Merging

namespace Unified

/-! ## Reports -/

/-- The class a report is about. -/
def Error.class? : Error → Option String
  | .memberKind c .. | .classParam c .. => some c
  | _ => none

/-- The enum a report is about. -/
def Error.enum? : Error → Option String
  | .stableValue e .. | .entryParam e .. | .enumParam e .. => some e
  | _ => none

/-- The enum whose constants a report is about. -/
def Error.constantsOf? : Error → Option String
  | .stableValue e .. | .entryParam e .. => some e
  | _ => none

theorem Error.enum?_of_constantsOf? {err : Error} {n : String} (h : err.constantsOf? = some n) :
    err.enum? = some n := by
  cases err <;> simp_all [constantsOf?, Error.enum?]

/-! ## Classes -/

section Classes

variable {v : Version}

/-- The fields of one name agree when they are of one kind. -/
def sameKind (f g : Field) : Bool := f.role.sameKind g.role

/-- The parameters of one name agree when they have one value. -/
def sameValue (p q : String × String) : Bool := p.2 = q.2

theorem sameKind_refl (f : Field) : sameKind f f = true := by
  unfold sameKind
  cases f.role <;> rfl

theorem sameKind_of_sameKind (g f f' : Field) (h : sameKind g f = true)
    (h' : sameKind g f' = true) : sameKind f f' = true := by
  unfold sameKind at *
  cases hg : g.role <;> cases hf : f.role <;> cases hf' : f'.role <;> simp_all [Role.sameKind]

theorem merges_addField (n : String) :
    Merges (·.name) sameKind (fun e => e.class? = some n) (addField n v) where
  fresh h := by rw [addField, h]; rfl
  same h hsame := by
    rw [addField, h]
    exact if_pos hsame
  clash {known x y} h hsame := by
    refine ⟨.memberKind n v y x, ?_, rfl⟩
    rw [addField, h]
    exact if_neg (by rw [← sameKind, hsame]; exact Bool.false_ne_true)

variable {complaint : String → String → Error} {fails : Error → Prop}

theorem merges_addParam (hfails : ∀ a b, fails (complaint a b)) :
    Merges (·.1) sameValue fails (addParam complaint) where
  fresh h := by rw [addParam, get?, h]; rfl
  same h hsame := by
    rw [addParam, get?, h]
    exact if_pos (of_decide_eq_true hsame)
  clash {known p q} h hsame := by
    refine ⟨complaint q.2 p.2, ?_, hfails _ _⟩
    rw [addParam, get?, h]
    exact if_neg (of_decide_eq_false hsame)

/-- Adding a parameter fails with its complaint only. -/
theorem addParam_endsIn (hfails : ∀ a b, fails (complaint a b)) (known : Table String String)
    (p : String × String) : EndsIn (fun _ => True) fails (addParam complaint known p) := by
  unfold addParam
  split
  · trivial
  · split
    · trivial
    · exact hfails _ _

/-- **Definitions of one class disagree**: on the kind of a field or on the value of a
parameter. -/
def Disagree (definitions : List FlowBindings.Class) (n : String) : Prop :=
  Clash (·.name) sameKind ((definitions.filter (·.name = n)).flatMap (·.fields))
    ∨ Clash (·.1) sameValue ((definitions.filter (·.name = n)).flatMap (·.params))

/-- **A draft has gathered definitions**: all their fields and all their parameters. -/
structure Gathers (definitions : List FlowBindings.Class) (d : Draft) : Prop where
  fields : Gathered (·.name) sameKind (definitions.flatMap (·.fields)) d.fields
  /-- The parameters. -/
  params : Gathered (·.1) sameValue (definitions.flatMap (·.params)) d.params

theorem gathers_empty : Gathers [] .empty := ⟨gathered_nil, gathered_nil⟩

variable {definitions : List FlowBindings.Class}

/-- A definition more is gathered, or it disagrees with the others. -/
theorem Gathers.add_endsIn {d : Draft} (h : Gathers definitions d) (c : FlowBindings.Class) :
    EndsIn (fun d' => Gathers (definitions ++ [c]) d' ∧ d'.superclass = c.superclass?)
      (fun e => e.class? = some c.name
        ∧ (Clash (·.name) sameKind ((definitions ++ [c]).flatMap (·.fields))
          ∨ Clash (·.1) sameValue ((definitions ++ [c]).flatMap (·.params))))
      (d.add v c) := by
  have hfields := (merges_addField (v := v) c.name).foldlM_endsIn sameKind_refl h.fields c.fields
  have hparams := (merges_addParam fun _ _ => rfl : Merges _ _ (fun e => e.class? = some c.name)
    (addParam (.classParam c.name v))).foldlM_endsIn (fun p => decide_eq_true rfl) h.params c.params
  unfold Draft.add
  rw [flatMap_append, flatMap_append, flatMap_singleton, flatMap_singleton]
  refine (hfields.imp (fun _ h => h) fun e he => ⟨he.1, .inl he.2⟩).bind fun fields hf => ?_
  refine (hparams.imp (fun _ h => h) fun e he => ⟨he.1, .inr he.2⟩).bind fun params hp => ?_
  refine ⟨⟨?_, ?_⟩, rfl⟩
  · rwa [flatMap_append, flatMap_singleton]
  · rwa [flatMap_append, flatMap_singleton]

/-! ## Drafts -/

/-- The superclass each draft has so far. -/
def outline (drafts : Table String Draft) : Table String (Option String) :=
  drafts.map fun r => (r.1, r.2.superclass)

/-- Each class name with the superclass of its last definition, in the order of the first
definitions. -/
def superclassTable (definitions : List FlowBindings.Class) : Table String (Option String) :=
  ofPairs (definitions.map fun c => (c.name, c.superclass?))

@[simp]
theorem outline_append (drafts drafts' : Table String Draft) :
    outline (drafts ++ drafts') = outline drafts ++ outline drafts' :=
  map_append

theorem outline_set (drafts : Table String Draft) (n : String) (d : Draft) :
    outline (drafts.set n d) = (outline drafts).set n d.superclass := by
  induction drafts with
  | nil => rfl
  | cons r rest ih =>
    by_cases hr : r.1 = n
    · rw [Table.set, if_pos hr, outline, outline, map_cons, map_cons, Table.set, if_pos hr]
    · rw [Table.set, if_neg hr, outline, outline, map_cons, map_cons, Table.set, if_neg hr]
      exact congrArg _ ih

theorem superclassTable_append_singleton (definitions : List FlowBindings.Class)
    (c : FlowBindings.Class) :
    superclassTable (definitions ++ [c])
      = (superclassTable definitions).set c.name c.superclass? := by
  unfold superclassTable
  rw [map_append, map_singleton, ofPairs_append_singleton]

/-- **Drafts of definitions**: under each name the definitions of that name are gathered,
and the superclass is that of the last one. -/
structure Drafted (definitions : List FlowBindings.Class) (drafts : Table String Draft) :
    Prop where
  /-- The last superclass wins. -/
  outline_eq : outline drafts = superclassTable definitions
  /-- Nothing gets lost. -/
  gathers : ∀ n, Gathers (definitions.filter (·.name = n)) ((drafts.get? n).getD .empty)

theorem drafted_nil : Drafted [] [] := ⟨rfl, fun _ => gathers_empty⟩

theorem Drafted.not_disagree {drafts : Table String Draft}
    (h : Drafted definitions drafts) (n : String) : ¬ Disagree definitions n := by
  rintro (hclash | hclash)
  · exact (h.gathers n).fields.not_clash sameKind_of_sameKind hclash
  · refine (h.gathers n).params.not_clash (fun r p q hp hq => ?_) hclash
    unfold sameValue at *
    simp_all

theorem Disagree.mono {definitions' : List FlowBindings.Class} {n : String}
    (h : Disagree definitions n) (hsub : definitions ⊆ definitions') :
    Disagree definitions' n := by
  have hfilter : definitions.filter (·.name = n) ⊆ definitions'.filter (·.name = n) :=
    filter_subset _ hsub
  refine h.imp (fun hclash => hclash.mono fun f hf => ?_) fun hclash => hclash.mono fun p hp => ?_
  · obtain ⟨c, hc, hf⟩ := mem_flatMap.mp hf
    exact mem_flatMap.mpr ⟨c, hfilter hc, hf⟩
  · obtain ⟨c, hc, hp⟩ := mem_flatMap.mp hp
    exact mem_flatMap.mpr ⟨c, hfilter hc, hp⟩

/-- What a report about a class is for. -/
def Disagreement (definitions : List FlowBindings.Class) (e : Error) : Prop :=
  ∃ n, e.class? = some n ∧ Disagree definitions n

/-- One definition more is drafted, or its class is reported. -/
theorem Drafted.addClass_endsIn
    {drafts : Table String Draft} (h : Drafted definitions drafts) (c : FlowBindings.Class) :
    EndsIn (Drafted (definitions ++ [c])) (Disagreement (definitions ++ [c]))
      (addClass v drafts c) := by
  have hown : (definitions ++ [c]).filter (·.name = c.name)
      = definitions.filter (·.name = c.name) ++ [c] := by simp
  have hadd := (h.gathers c.name).add_endsIn (v := v) c
  unfold addClass
  refine (hadd.imp (fun _ h => h) fun e he => ?_).bind fun d hd => ?_
  · refine ⟨c.name, he.1, ?_⟩
    unfold Disagree
    rw [hown]
    exact he.2
  · obtain ⟨hgathers, hsuper⟩ := hd
    constructor
    · rw [outline_set, superclassTable_append_singleton, h.outline_eq, hsuper]
    · intro n
      by_cases hn : n = c.name
      · subst hn
        rw [hown, get?_set_self]
        exact hgathers
      · have hother :
            (definitions ++ [c]).filter (·.name = n) = definitions.filter (·.name = n) := by
          simp [Ne.symm hn]
        rw [hother, get?_set_of_ne _ _ hn]
        exact h.gathers n

end Classes

/-! ## Enums -/

/-- Merging a constant fails with a report about the constants of its enum. -/
theorem addEntry_endsIn (e : Enum) (v : Version) (known : List Entry) (x : Entry) :
    EndsIn (fun _ => True) (fun err => err.constantsOf? = some e.name) (addEntry e v known x) := by
  unfold addEntry
  split
  · trivial
  · split
    · rfl
    · refine (endsIn_foldlM_any (fun p _ known => ?_) _).andThen fun _ => trivial
      exact addParam_endsIn (by intros; rfl) known p

theorem addEnum_endsIn (v : Version) (known : List Enum) (e : Enum) :
    EndsIn (fun _ => True) (fun err => err.enum? = some e.name) (addEnum v known e) := by
  unfold addEnum
  refine (endsIn_foldlM_any (fun x _ known => (addEntry_endsIn e v known x).imp (fun _ h => h)
    fun _ => Error.enum?_of_constantsOf?) _).andThen fun entries => ?_
  refine (endsIn_foldlM_any (fun p _ known => ?_) _).andThen fun params => ?_
  · unfold addEnumParam
    split
    · trivial
    · split
      · trivial
      · split
        · trivial
        · rfl
  · split <;> trivial

/-! ## All versions -/

/-- The classes of all versions, version by version. -/
def definitions (protocols : Table Version Protocol) : List FlowBindings.Class :=
  protocols.flatMap (·.2.classes)

def versionedClasses (protocols : Table Version Protocol) : Table Version FlowBindings.Class :=
  protocols.flatMap fun vp => vp.2.classes.map fun c => (vp.1, c)

def versionedEnums (protocols : Table Version Protocol) : Table Version Enum :=
  protocols.flatMap fun vp => vp.2.enums.map fun e => (vp.1, e)

theorem addProtocol_eq_ok_iff {vp : Version × Protocol} {s s' : Table String Draft × List Enum} :
    addProtocol s vp = .ok s' ↔
      vp.2.classes.foldlM (addClass vp.1) s.1 = .ok s'.1
        ∧ vp.2.enums.foldlM (addEnum vp.1) s.2 = .ok s'.2 := by
  unfold addProtocol
  simp only [bind_eq_ok_iff]
  constructor
  · rintro ⟨classes, hclasses, enums, henums, h⟩
    cases h
    exact ⟨hclasses, henums⟩
  · rintro ⟨hclasses, henums⟩
    exact ⟨s'.1, hclasses, s'.2, henums, rfl⟩

/-- **Classes and enums are unified apart from each other**, one definition after another. -/
theorem addProtocols_eq_ok_iff {protocols : Table Version Protocol}
    {s s' : Table String Draft × List Enum} :
    protocols.foldlM addProtocol s = .ok s' ↔
      (versionedClasses protocols).foldlM (fun drafts vc => addClass vc.1 drafts vc.2) s.1
        = .ok s'.1
        ∧ (versionedEnums protocols).foldlM (fun known ve => addEnum ve.1 known ve.2) s.2
          = .ok s'.2 := by
  induction protocols generalizing s with
  | nil =>
    show (Except.ok s : Except Error _) = .ok s'
      ↔ (Except.ok s.1 : Except Error _) = .ok s'.1 ∧ (Except.ok s.2 : Except Error _) = .ok s'.2
    simp only [Except.ok.injEq, Prod.ext_iff]
  | cons vp rest ih =>
    unfold versionedClasses versionedEnums at ih ⊢
    simp only [flatMap_cons, foldlM_cons, foldlM_append, foldlM_map,
      bind_eq_ok_iff, addProtocol_eq_ok_iff, ih]
    constructor
    · rintro ⟨mid, ⟨hclasses, henums⟩, hrest, hrest'⟩
      exact ⟨⟨mid.1, hclasses, hrest⟩, mid.2, henums, hrest'⟩
    · rintro ⟨⟨classes, hclasses, hrest⟩, enums, henums, hrest'⟩
      exact ⟨(classes, enums), ⟨hclasses, henums⟩, hrest, hrest'⟩

/-- What a report about an enum needs: some version has the enum. -/
def EnumReport (protocols : Table Version Protocol) (err : Error) : Prop :=
  ∃ vp ∈ protocols, ∃ e ∈ vp.2.enums, err.enum? = some e.name

/-- **The definitions of all versions are drafted, or a class or an enum is
reported.** -/
theorem addProtocols_endsIn (protocols : Table Version Protocol) :
    EndsIn (fun s => Drafted (definitions protocols) s.1)
      (fun err => Disagreement (definitions protocols) err ∨ EnumReport protocols err)
      (protocols.foldlM addProtocol ([], [])) := by
  refine endsIn_foldlM_seen (fun seen (s : Table String Draft × List Enum) =>
    Drafted (definitions seen) s.1)
    (fun seen err => Disagreement (definitions seen) err ∨ EnumReport seen err)
    ?_ ?_ [] (by exact drafted_nil) protocols
  · rintro seen seen' err hstart (⟨n, hn, hdisagree⟩ | ⟨vp, hvp, hreport⟩)
    · exact .inl ⟨n, hn, hdisagree.mono (hstart.flatMap _).subset⟩
    · exact .inr ⟨vp, hstart.subset hvp, hreport⟩
  intro seen vp s hs
  have hdefs : definitions (seen ++ [vp]) = definitions seen ++ vp.2.classes := by
    unfold definitions
    rw [flatMap_append, flatMap_singleton]
  have hclasses : EndsIn (Drafted (definitions (seen ++ [vp])))
      (Disagreement (definitions (seen ++ [vp]))) (vp.2.classes.foldlM (addClass vp.1) s.1) := by
    rw [hdefs]
    refine endsIn_foldlM_seen Drafted Disagreement ?_
      (fun _ c _ hdrafts => hdrafts.addClass_endsIn c) _ hs vp.2.classes
    rintro l l' err hstart ⟨n, hn, hdisagree⟩
    exact ⟨n, hn, hdisagree.mono hstart.subset⟩
  unfold addProtocol
  refine (hclasses.imp (fun _ h => h) fun _ => .inl).bind fun drafts hdrafts => ?_
  refine (endsIn_foldlM_any (fun e he known => ?_) _).andThen fun enums => hdrafts
  refine (addEnum_endsIn vp.1 known e).imp (fun _ h => h) fun err herr => .inr ?_
  exact ⟨vp, mem_append_right _ (mem_singleton_self vp), e, he, herr⟩

/-! ## Finished classes -/

def finishNext (done : List Unified.Class) (r : String × Draft) :
    Except Error (List Unified.Class) := do
  let c ← r.2.finish r.1 done
  pure (done ++ [c])

theorem build_eq (protocols : Table Version Protocol) :
    build protocols = (do
      let s ← protocols.foldlM addProtocol ([], [])
      let classes ← s.1.foldlM finishNext []
      pure { classes := classes, enums := s.2 }) := rfl

/-- A superclass that stands nowhere before the class. -/
def Ungrounded (t : Table String (Option String)) (err : Error) : Prop :=
  ∃ n s before after, err = .superclassNotYet n s ∧ t = before ++ (n, some s) :: after
    ∧ s ∉ before.keys

/-- **The finished classes** have the names and superclasses of the table, and each
stands behind its superclass. -/
structure Finished (t : Table String (Option String)) (classes : List Unified.Class) : Prop where
  /-- Names and superclasses, in order. -/
  outline_eq : classes.map (fun c => (c.name, c.superclass?)) = t
  /-- Superclasses come first. -/
  superclassesFirst : SuperclassesFirst (classes.map (·.toClass))

theorem Finished.finishNext_endsIn {t : Table String (Option String)} {done : List Unified.Class}
    (h : Finished t done) (n : String) (d : Draft) :
    EndsIn (Finished (t ++ [(n, d.superclass)]))
      (fun err => ∃ s, err = .superclassNotYet n s ∧ d.superclass = some s ∧ s ∉ t.keys)
      (finishNext done (n, d)) := by
  have hkeys : t.keys = done.map (·.name) := by
    rw [← h.outline_eq, Table.keys, map_map]
    rfl
  unfold finishNext Draft.finish
  dsimp only
  cases hsuper : d.superclass with
  | none =>
    refine ⟨?_, ?_⟩
    · rw [map_append, h.outline_eq]
      rfl
    · rw [map_append]
      exact eachAfter_append_singleton.mpr ⟨h.superclassesFirst, .inl rfl⟩
  | some up =>
    dsimp only
    cases hfind : done.find? (·.name = up) with
    | none =>
      refine ⟨up, rfl, rfl, ?_⟩
      rw [hkeys]
      intro hmem
      obtain ⟨c, hc⟩ := exists_find?_name_of_mem hmem
      rw [hfind] at hc
      cases hc
    | some c =>
      have hc : c ∈ done := mem_of_find?_eq_some hfind
      have hname : c.name = up := by simpa using find?_some hfind
      refine ⟨?_, ?_⟩
      · rw [map_append, h.outline_eq, ← hname]
        rfl
      · rw [map_append]
        refine eachAfter_append_singleton.mpr ⟨h.superclassesFirst, .inr ⟨c.toClass, ?_, rfl⟩⟩
        exact mem_map_of_mem hc

/-- **All drafts are finished, or some superclass is not there in time.** -/
theorem finish_endsIn (drafts : Table String Draft) :
    EndsIn (Finished (outline drafts)) (Ungrounded (outline drafts))
      (drafts.foldlM finishNext []) := by
  refine endsIn_foldlM (fun seen => Finished (outline seen)) ?_ ⟨rfl, eachAfter_nil⟩
  rintro seen ⟨n, d⟩ ⟨rest, rfl⟩ done hdone
  rw [outline_append]
  refine (hdone.finishNext_endsIn n d).imp (fun _ h => h) ?_
  rintro err ⟨s, rfl, hs, hnot⟩
  refine ⟨n, s, outline seen, outline rest, rfl, ?_, hnot⟩
  rw [outline_append, outline_append, append_assoc, ← hs]
  rfl

/-- **What unifying comes to.** A unified protocol has the names and last superclasses of
the definitions, superclasses first. There is none if the definitions of a class
disagree, which is reported; if an enum is reported; or if no two definitions of a class
disagree, but a last superclass has no definition before the first of the class. -/
theorem build_endsIn (protocols : Table Version Protocol) :
    EndsIn
      (fun u => (∀ n, ¬ Disagree (definitions protocols) n)
        ∧ Finished (superclassTable (definitions protocols)) u.classes)
      (fun err => Disagreement (definitions protocols) err ∨ EnumReport protocols err
        ∨ (∀ n, ¬ Disagree (definitions protocols) n)
          ∧ Ungrounded (superclassTable (definitions protocols)) err)
      (build protocols) := by
  rw [build_eq]
  refine ((addProtocols_endsIn protocols).imp (fun _ h => h) fun err herr => ?_).bind
    fun s hdrafted => ?_
  · exact herr.imp_right .inl
  · have hfinish := finish_endsIn s.1
    rw [hdrafted.outline_eq] at hfinish
    refine (hfinish.imp (fun _ h => h) fun err herr => ?_).bind fun classes hclasses => ?_
    · exact .inr (.inr ⟨hdrafted.not_disagree, herr⟩)
    · exact ⟨hdrafted.not_disagree, hclasses⟩

end Unified

end FlowBindings
