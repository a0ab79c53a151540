import FlowBindings.Proofs.Names
import FlowBindings.Proofs.Sorting
import FlowBindings.Proofs.Unification

/-!
# What a unified enum says

An enum of the unified protocol is put together from its definitions in the single versions,
one after another, and its parameters and its constants are merged in different ways.

Most parameters must have one value in all definitions. The wire type need not, and where two
definitions give it different values it has none. The fold keeps this in the place of an
ordinary value and compares what comes later with it as with any other value. All the same,
what it comes to has no order in it: `settled` tells it from the values alone, and the one step
the proof rests on is that nothing replaces the mark of a conflict
(`settled_append_singleton`).

A constant keeps the number of its first definition. A later number is compared with it only
where the definition that brings it is stable, so that a stable definition has the numbers of
the unified enum (`EntriesUnited.stable`), and another one need not.

`build_unites` says both of whole protocols, and that a report about a parameter of an enum is
never about a wire type.
-/

namespace FlowBindings

open List Table

namespace Unified

/-! ## The values of one parameter -/

/-- **What the values of one parameter come to**: the value they share, or none where two of
them differ. -/
def settled : List (Option String) → Option (Option String)
  | [] => none
  | w :: rest => some (if rest.all (· = w) then w else none)

variable {ws : List (Option String)} {w : Option String} {protocols : Table Version Protocol}

theorem settled_eq_none_iff : settled ws = none ↔ ws = [] := by
  cases ws <;> simp [settled]

theorem settled_of_forall (hw : w ∈ ws) (h : ∀ w' ∈ ws, w' = w) : settled ws = some w := by
  cases ws with
  | nil => cases hw
  | cons u rest =>
    obtain rfl : u = w := h u mem_cons_self
    have hrest : rest.all (· = u) = true := by
      simpa using fun w' hw' => h w' (mem_cons_of_mem u hw')
    rw [settled, if_pos hrest]

theorem settled_of_ne {w' : Option String} (hw : w ∈ ws)
    (hw' : w' ∈ ws) (hne : w ≠ w') : settled ws = some none := by
  cases ws with
  | nil => cases hw
  | cons u rest =>
    have hrest : ¬ rest.all (· = u) = true := by
      intro hall
      have hu : ∀ x ∈ u :: rest, x = u := by simpa using hall
      exact hne ((hu w hw).trans (hu w' hw').symm)
    rw [settled, if_neg hrest]

/-- **Neither the order of values nor their number counts.** -/
theorem settled_congr {ws' : List (Option String)} (h : ∀ w, w ∈ ws ↔ w ∈ ws') :
    settled ws = settled ws' := by
  cases ws with
  | nil =>
    have hnil : ws' = [] := eq_nil_iff_forall_not_mem.mpr fun w hw =>
      not_mem_nil ((h w).mpr hw)
    rw [hnil]
  | cons u rest =>
    have hu : u ∈ u :: rest := mem_cons_self
    by_cases hall : ∀ w ∈ u :: rest, w = u
    · rw [settled_of_forall hu hall,
        settled_of_forall ((h u).mp hu) fun w hw => hall w ((h w).mpr hw)]
    · push Not at hall
      obtain ⟨w, hw, hne⟩ := hall
      rw [settled_of_ne hw hu hne, settled_of_ne ((h w).mp hw) ((h u).mp hu) hne]

/-- **One value more is kept where it is the first or the same**, and lost where it is another.
A value that is lost is not found again: no value is the same as none. -/
theorem settled_append_singleton (ws : List (Option String)) (w : Option String) :
    settled (ws ++ [w]) = some (if (settled ws).all (· = w) then w else none) := by
  cases ws with
  | nil => rfl
  | cons u rest =>
    by_cases hrest : rest.all (· = u) = true
    · by_cases huw : u = w
      · subst huw
        simp [settled, hrest]
      · have hwu : ¬ w = u := fun e => huw e.symm
        simp [settled, hrest, huw, hwu]
    · have hmore : ¬ (rest ++ [w]).all (· = u) = true := by
        simp only [all_append, Bool.and_eq_true]
        exact fun hall => hrest hall.1
      rw [cons_append, settled, if_neg hmore, settled, if_neg hrest]
      split <;> simp_all

/-! ## Parameters -/

section Params

variable {n : String} {v : Version} {seen known : Table String (Option String)}

/-- The values a parameter is given. -/
def valuesOf (k : String) (pairs : Table String (Option String)) : List (Option String) :=
  (pairs.filter (·.1 = k)).map (·.2)

theorem mem_valuesOf {k : String} {pairs : Table String (Option String)} {w : Option String} :
    w ∈ valuesOf k pairs ↔ (k, w) ∈ pairs := by
  unfold valuesOf
  rw [mem_map]
  constructor
  · rintro ⟨⟨k', w'⟩, hp, rfl⟩
    rw [mem_filter, decide_eq_true_eq] at hp
    obtain ⟨hp, rfl⟩ := hp
    exact hp
  · intro h
    exact ⟨(k, w), mem_filter.mpr ⟨h, decide_eq_true rfl⟩, rfl⟩

theorem valuesOf_append_singleton (k : String) (pairs : Table String (Option String))
    (p : String × Option String) :
    valuesOf k (pairs ++ [p])
      = if k = p.1 then valuesOf k pairs ++ [p.2] else valuesOf k pairs := by
  unfold valuesOf
  by_cases hk : k = p.1
  · simp [hk]
  · have hk' : ¬ p.1 = k := fun e => hk e.symm
    simp [hk, hk']

/-- The parameters of one name agree when they have one value or are wire types. -/
def agreeing (p q : String × Option String) : Bool := p.1 = "wire_type" || p.2 = q.2

/-- **Parameters that have been united**: each has what its values come to, and no two that
must agree differ. -/
structure ParamsUnited (seen known : Table String (Option String)) : Prop where
  /-- What the values come to. -/
  get?_eq : ∀ k, known.get? k = settled (valuesOf k seen)
  /-- Only wire types differ. -/
  not_clash : ¬ Clash (·.1) agreeing seen

theorem paramsUnited_nil : ParamsUnited [] [] where
  get?_eq := fun _ => rfl
  not_clash := fun ⟨_, hp, _⟩ => not_mem_nil hp

/-- A parameter that must agree has the value of each of its definitions. -/
theorem ParamsUnited.get?_of_mem (h : ParamsUnited seen known) {p : String × Option String}
    (hp : p ∈ seen) (hname : p.1 ≠ "wire_type") : known.get? p.1 = some p.2 := by
  rw [h.get?_eq]
  refine settled_of_forall (mem_valuesOf.mpr hp) fun w hw => ?_
  by_contra hne
  refine h.not_clash ⟨(p.1, w), mem_valuesOf.mp hw, p, hp, rfl, ?_⟩
  simp [agreeing, hname, hne]

/-- A parameter more is united with the others: what the table says of it is what its values
come to, and it may differ from them only if it is a wire type. -/
theorem ParamsUnited.append_singleton (h : ParamsUnited seen known)
    {p : String × Option String} {known' : Table String (Option String)}
    (hself : known'.get? p.1 = some (if (known.get? p.1).all (· = p.2) then p.2 else none))
    (hother : ∀ k, k ≠ p.1 → known'.get? k = known.get? k)
    (hagree : p.1 ≠ "wire_type" → (known.get? p.1).all (· = p.2) = true) :
    ParamsUnited (seen ++ [p]) known' := by
  -- what the table has under the name of `p` stands for all values seen
  have hsame : ∀ q ∈ seen, q.1 = p.1 → q.1 = "wire_type" ∨ q.2 = p.2 := by
    intro q hq hname
    by_cases hwire : q.1 = "wire_type"
    · exact .inl hwire
    · have hall := hagree (hname ▸ hwire)
      rw [← hname, h.get?_of_mem hq hwire] at hall
      exact .inr (of_decide_eq_true hall)
  constructor
  · intro k
    rw [valuesOf_append_singleton]
    by_cases hk : k = p.1
    · subst hk
      rw [if_pos rfl, settled_append_singleton, ← h.get?_eq, hself]
    · rw [if_neg hk, hother k hk, h.get?_eq]
  · refine not_clash_append_singleton h.not_clash (by simp [agreeing]) fun q hq hname => ?_
    rcases hsame q hq hname with hwire | hvalue
    · simp [agreeing, ← hname, hwire]
    · simp [agreeing, hvalue]

/-- One parameter more is united, or it is reported and clashes with one before it. -/
theorem ParamsUnited.addEnumParam_endsIn (h : ParamsUnited seen known)
    (p : String × Option String) :
    EndsIn (ParamsUnited (seen ++ [p]))
      (fun err => err.enum? = some n ∧ Clash (·.1) agreeing (seen ++ [p]))
      (addEnumParam n v known p) := by
  unfold addEnumParam
  cases hget : known.get? p.1 with
  | none =>
    have hnew : p.1 ∉ known.keys := get?_eq_none_iff.mp hget
    refine h.append_singleton ?_ (fun k hk => ?_) fun _ => by rw [hget]; rfl
    · rw [get?_append_self hnew, hget]
      rfl
    · rw [← set_eq_append hnew, get?_set_of_ne _ _ hk]
  | some value =>
    dsimp only
    by_cases hvalue : value = p.2
    · rw [if_pos hvalue]
      have hall : (known.get? p.1).all (· = p.2) = true := by simp [hget, hvalue]
      refine h.append_singleton ?_ (fun _ _ => rfl) fun _ => hall
      rw [if_pos hall, hget, hvalue]
    · have hall : ¬ (known.get? p.1).all (· = p.2) = true := by simp [hget, hvalue]
      by_cases hwire : p.1 = "wire_type"
      · rw [if_neg hvalue, if_pos hwire]
        refine h.append_singleton ?_ (fun k hk => get?_set_of_ne _ _ hk)
          fun hne => absurd hwire hne
        rw [if_neg hall, get?_set_self]
      · rw [if_neg hvalue, if_neg hwire]
        refine ⟨rfl, ?_⟩
        -- the value in the table is that of a definition before
        have hne : valuesOf p.1 seen ≠ [] := by
          intro hnil
          rw [h.get?_eq, hnil] at hget
          cases hget
        obtain ⟨w, hw⟩ := exists_mem_of_ne_nil _ hne
        have hw : (p.1, w) ∈ seen := mem_valuesOf.mp hw
        have hwvalue : w = value := by
          have hsome := h.get?_of_mem hw hwire
          rw [hget] at hsome
          exact (Option.some.inj hsome).symm
        refine ⟨(p.1, w), mem_append_left _ hw, p,
          mem_append_right _ (mem_singleton_self p), rfl, ?_⟩
        simp [agreeing, hwire, hwvalue, hvalue]

/-- **All parameters of a definition are united**, or one is reported and clashes. -/
theorem ParamsUnited.foldlM_endsIn (h : ParamsUnited seen known)
    (ps : Table String (Option String)) :
    EndsIn (ParamsUnited (seen ++ ps))
      (fun err => err.enum? = some n ∧ Clash (·.1) agreeing (seen ++ ps))
      (ps.foldlM (addEnumParam n v) known) := by
  refine endsIn_foldlM_seen ParamsUnited
    (fun l (err : Error) => err.enum? = some n ∧ Clash (·.1) agreeing l) ?_
    (fun _ p _ hmid => hmid.addEnumParam_endsIn p) seen h ps
  exact fun _ _ _ hstart herr => ⟨herr.1, herr.2.mono hstart.subset⟩

end Params

/-! ## Constants -/

section Entries

variable {e : Enum} {v : Version} {seen : List (Enum × Entry)} {known known' : List Entry}

/-- The numbers of constants, by name. -/
def numbers (entries : List Entry) : Table String Nat :=
  entries.map fun x => (x.name, x.value)

theorem get?_numbers (entries : List Entry) (name : String) :
    (numbers entries).get? name = (entries.find? (·.name = name)).map (·.value) := by
  unfold numbers get?
  rw [find?_map, Option.map_map]
  rfl

/-- A definition is stable when it says so in so many words. -/
def IsStable (e : Enum) : Prop := e.params.get? "stable" = some (some "True")

instance (e : Enum) : Decidable (IsStable e) := inferInstanceAs (Decidable (_ = _))

/-- What a constant more does to the numbers: a new name is added with its number; a known one
keeps the number it has, which is the constant's own if its enum is stable. -/
theorem numbers_of_addEntry {x : Entry} (h : addEntry e v known x = .ok known') :
    (numbers known).get? x.name = none ∧ numbers known' = numbers known ++ [(x.name, x.value)]
      ∨ (∃ k, (numbers known).get? x.name = some k ∧ (IsStable e → k = x.value))
        ∧ numbers known' = numbers known := by
  unfold addEntry at h
  rw [get?_numbers]
  cases hfind : known.find? (·.name = x.name) with
  | none =>
    rw [hfind] at h
    cases h
    exact .inl ⟨rfl, map_append⟩
  | some y =>
    rw [hfind] at h
    dsimp only at h
    split at h
    · cases h
    · rename_i hstable
      obtain ⟨params, -, h⟩ := bind_eq_ok_iff.mp h
      cases h
      refine .inr ⟨⟨y.value, rfl, fun he => ?_⟩, ?_⟩
      · by_contra hne
        exact hstable ⟨he, fun heq => hne heq.symm⟩
      · unfold numbers
        rw [map_map]
        refine map_congr_left fun z _ => ?_
        by_cases hz : z.name = x.name <;> simp [hz]

/-- **Constants that have been united**: each has the number of its first definition, and that
is its number in every stable definition. -/
structure EntriesUnited (seen : List (Enum × Entry)) (known : List Entry) : Prop where
  /-- The first number is kept. -/
  get?_eq : ∀ name,
    (numbers known).get? name = (seen.find? (·.2.name = name)).map (·.2.value)
  /-- Stable definitions have it. -/
  stable : ∀ ex ∈ seen, IsStable ex.1 → (numbers known).get? ex.2.name = some ex.2.value

theorem entriesUnited_nil : EntriesUnited [] [] where
  get?_eq := fun _ => rfl
  stable := fun _ hx => absurd hx not_mem_nil

/-- One constant more is united with the others. -/
theorem EntriesUnited.addEntry (h : EntriesUnited seen known) {x : Entry}
    (hstep : Unified.addEntry e v known x = .ok known') :
    EntriesUnited (seen ++ [(e, x)]) known' := by
  have hfind : ∀ name, (seen ++ [(e, x)]).find? (·.2.name = name)
      = (seen.find? (·.2.name = name)).or (if x.name = name then some (e, x) else none) := by
    intro name
    rw [find?_append]
    congr 1
    by_cases hname : x.name = name <;> simp [hname]
  rcases numbers_of_addEntry hstep with ⟨hnew, hnumbers⟩ | ⟨⟨k, hk, hstable⟩, hnumbers⟩
  · have hget : ∀ name, (numbers known').get? name = ((numbers known).get? name).or
        (if x.name = name then some x.value else none) := by
      intro name
      rw [hnumbers, get?_append, get?_cons]
      rfl
    constructor
    · intro name
      rw [hget, h.get?_eq, hfind]
      cases seen.find? (·.2.name = name) <;> by_cases hname : x.name = name <;> simp [hname]
    · intro ex hex hstable
      rw [hget]
      rcases mem_append.mp hex with hex | hex
      · rw [h.stable ex hex hstable]
        rfl
      · obtain rfl := mem_singleton.mp hex
        rw [hnew]
        simp
  · constructor
    · intro name
      rw [hnumbers, h.get?_eq, hfind]
      by_cases hname : x.name = name
      · -- a name that has a number already is found before `x`
        rw [← hname, h.get?_eq] at *
        obtain ⟨ex, hex, -⟩ := Option.map_eq_some_iff.mp hk
        rw [hex]
        rfl
      · rw [if_neg hname, Option.or_none]
    · intro ex hex hex'
      rw [hnumbers]
      rcases mem_append.mp hex with hex | hex
      · exact h.stable ex hex hex'
      · obtain rfl := mem_singleton.mp hex
        rw [hk, hstable hex']

/-- **All constants of a definition are united**, or one of them is reported. -/
theorem EntriesUnited.foldlM_endsIn (h : EntriesUnited seen known) (xs : List Entry) :
    EndsIn (EntriesUnited (seen ++ xs.map (e, ·))) (fun err => err.constantsOf? = some e.name)
      (xs.foldlM (Unified.addEntry e v) known) := by
  refine endsIn_foldlM (fun done => EntriesUnited (seen ++ done.map (e, ·))) ?_
    (by rwa [map_nil, append_nil])
  intro done x _ mid hmid
  rw [map_append, ← append_assoc]
  have hends := addEntry_endsIn e v mid x
  cases hstep : Unified.addEntry e v mid x with
  | ok mid' => exact hmid.addEntry hstep
  | error err => exact hends.of_error hstep

end Entries

/-! ## Enums -/

section Enums

variable {v : Version} {definitions known : List Enum}

/-- **An enum unites definitions**: all their constants and all their parameters. -/
structure Unites (definitions : List Enum) (k : Enum) : Prop where
  /-- The constants. -/
  entries : EntriesUnited (definitions.flatMap fun e => e.entries.map (e, ·)) k.entries
  /-- The parameters. -/
  params : ParamsUnited (definitions.flatMap (·.params)) k.params

/-- **Definitions that have been united**: under each name those of that name. -/
structure United (definitions known : List Enum) : Prop where
  /-- Each name has an enum, and no other has. -/
  named : ∀ n, (known.find? (·.name = n)).isSome ↔ n ∈ definitions.map (·.name)
  /-- Nothing gets lost. -/
  unites : ∀ n, Unites (definitions.filter (·.name = n))
    ((known.find? (·.name = n)).getD ⟨n, [], []⟩)

theorem united_nil : United [] [] where
  named := fun _ => by simp
  unites := fun _ => ⟨entriesUnited_nil, paramsUnited_nil⟩

/-- **Definitions of one enum differ on a parameter** that is no wire type. -/
def ParamsDiffer (definitions : List Enum) (n : String) : Prop :=
  Clash (·.1) agreeing ((definitions.filter (·.name = n)).flatMap (·.params))

/-- What a report about a parameter of an enum is for. -/
def ParamReport (definitions : List Enum) (err : Error) : Prop :=
  ∀ n v first second, err = .enumParam n v first second → ParamsDiffer definitions n

theorem ParamsDiffer.mono {definitions' : List Enum} {n : String}
    (h : ParamsDiffer definitions n) (hsub : definitions ⊆ definitions') :
    ParamsDiffer definitions' n := by
  refine Clash.mono h fun p hp => ?_
  obtain ⟨e, he, hp⟩ := mem_flatMap.mp hp
  exact mem_flatMap.mpr ⟨e, filter_subset _ hsub he, hp⟩

variable {err : Error}

theorem ParamReport.mono {definitions' : List Enum}
    (h : ParamReport definitions err) (hsub : definitions ⊆ definitions') :
    ParamReport definitions' err :=
  fun n v first second herr => (h n v first second herr).mono hsub

theorem paramReport_of_enum? (h : err.enum? = none) :
    ParamReport definitions err := by
  rintro n v first second rfl
  cases h

theorem paramReport_of_constantsOf? {n : String} (h : err.constantsOf? = some n) :
    ParamReport definitions err := by
  rintro n v first second rfl
  cases h

theorem find?_replace (merged : Enum) (hany : known.any (·.name = merged.name) = true)
    (n : String) :
    (known.map fun k => if k.name = merged.name then merged else k).find? (·.name = n)
      = if n = merged.name then some merged else known.find? (·.name = n) := by
  have hname : (fun k : Enum => decide (k.name = n))
      ∘ (fun k => if k.name = merged.name then merged else k) = fun k => decide (k.name = n) := by
    funext k
    by_cases hk : k.name = merged.name <;> simp [hk]
  rw [find?_map, hname]
  by_cases hn : n = merged.name
  · rw [if_pos hn, hn]
    obtain ⟨k, hk⟩ : ∃ k, known.find? (·.name = merged.name) = some k := by
      rw [← Option.isSome_iff_exists, find?_isSome]
      exact any_eq_true.mp hany
    have hkname : k.name = merged.name := by simpa using find?_some hk
    rw [hk, Option.map_some, if_pos hkname]
  · rw [if_neg hn]
    cases hfind : known.find? (·.name = n) with
    | none => rfl
    | some k =>
      have hk : k.name = n := by simpa using find?_some hfind
      rw [Option.map_some, if_neg (hk ▸ hn)]

theorem find?_append_new (merged : Enum) (hany : ¬ known.any (·.name = merged.name) = true)
    (n : String) :
    (known ++ [merged]).find? (·.name = n)
      = if n = merged.name then some merged else known.find? (·.name = n) := by
  rw [find?_append]
  by_cases hn : n = merged.name
  · have hnone : known.find? (·.name = merged.name) = none := by
      simpa using hany
    rw [if_pos hn, hn, hnone]
    simp
  · have hn' : ¬ merged.name = n := fun e => hn e.symm
    simp [hn, hn']

/-- An enum that unites the definitions of its name, in its place among the others. -/
theorem United.place (h : United definitions known) {e merged : Enum} {known' : List Enum}
    (hfind : ∀ n, known'.find? (·.name = n)
      = if n = e.name then some merged else known.find? (·.name = n))
    (hunites : Unites (definitions.filter (·.name = e.name) ++ [e]) merged) :
    United (definitions ++ [e]) known' := by
  constructor
  · intro n
    rw [hfind, map_append, mem_append, map_singleton, mem_singleton]
    by_cases hn : n = e.name
    · simp [hn]
    · rw [if_neg hn, h.named n]
      simp [hn]
  · intro n
    rw [hfind, filter_append]
    by_cases hn : n = e.name
    · subst hn
      simpa using hunites
    · have hn' : ¬ e.name = n := fun heq => hn heq.symm
      simpa [hn, hn'] using h.unites n

/-- One definition more is united, or it is reported. -/
theorem United.addEnum_endsIn (h : United definitions known) (e : Enum) :
    EndsIn (United (definitions ++ [e])) (ParamReport (definitions ++ [e]))
      (addEnum v known e) := by
  obtain ⟨hentries, hparams⟩ := h.unites e.name
  have hentries := hentries.foldlM_endsIn (e := e) (v := v) e.entries
  have hparams := hparams.foldlM_endsIn (n := e.name) (v := v) e.params
  have hown : (definitions ++ [e]).filter (·.name = e.name)
      = definitions.filter (·.name = e.name) ++ [e] := by simp
  unfold addEnum
  refine (hentries.imp (fun _ h => h) fun _ => paramReport_of_constantsOf?).bind
    fun entries hentries => ?_
  refine (hparams.imp (fun _ h => h) fun err herr => ?_).bind fun params hparams => ?_
  · rintro n w first second rfl
    obtain rfl : n = e.name := by simpa [Error.enum?] using herr.1
    unfold ParamsDiffer
    rw [hown, flatMap_append, flatMap_singleton]
    exact herr.2
  · have hunites :
        Unites (definitions.filter (·.name = e.name) ++ [e]) ⟨e.name, entries, params⟩ := by
      constructor
      · rwa [flatMap_append, flatMap_singleton]
      · rwa [flatMap_append, flatMap_singleton]
    dsimp only
    split
    · rename_i hany
      exact h.place (find?_replace ⟨e.name, entries, params⟩ hany) hunites
    · rename_i hany
      exact h.place (find?_append_new ⟨e.name, entries, params⟩ hany) hunites

end Enums

/-! ## All versions -/

def enumDefinitions (protocols : Table Version Protocol) : List Enum :=
  protocols.flatMap (·.2.enums)

theorem addClass_endsIn_any (v : Version) (drafts : Table String Draft) (c : FlowBindings.Class) :
    EndsIn (fun _ => True) (fun err => err.enum? = none) (addClass v drafts c) := by
  unfold addClass Draft.add
  refine EndsIn.andThen ?_ fun _ => trivial
  refine (endsIn_foldlM_any (fun f _ known => ?_) _).andThen fun _ =>
    (endsIn_foldlM_any (fun p _ known => addParam_endsIn (by intros; rfl) known p) _).andThen
      fun _ => trivial
  unfold addField
  split
  · trivial
  · split
    · trivial
    · rfl

/-- **The enums of a unified protocol unite those of all versions**; and where a report about
a parameter of an enum stands instead, two versions differ on one that is no wire type. -/
theorem build_unites (protocols : Table Version Protocol) :
    EndsIn (fun u => United (enumDefinitions protocols) u.enums)
      (ParamReport (enumDefinitions protocols)) (build protocols) := by
  have hall : EndsIn (fun s => United (enumDefinitions protocols) s.2)
      (ParamReport (enumDefinitions protocols)) (protocols.foldlM addProtocol ([], [])) := by
    refine endsIn_foldlM_seen (fun seen (s : Table String Draft × List Enum) =>
      United (enumDefinitions seen) s.2) (fun seen => ParamReport (enumDefinitions seen))
      (fun _ _ _ hstart herr => herr.mono (hstart.flatMap _).subset) ?_ []
      (by exact united_nil) protocols
    intro seen vp s hs
    have hdefs : enumDefinitions (seen ++ [vp]) = enumDefinitions seen ++ vp.2.enums := by
      unfold enumDefinitions
      rw [flatMap_append, flatMap_singleton]
    rw [hdefs]
    unfold addProtocol
    refine ((endsIn_foldlM_any (fun c _ drafts => addClass_endsIn_any vp.1 drafts c) _).imp
      (fun _ h => h) fun _ => paramReport_of_enum?).andThen fun drafts => ?_
    refine EndsIn.bind ?_ fun enums henums => henums
    exact endsIn_foldlM_seen United ParamReport
      (fun _ _ _ hstart herr => herr.mono hstart.subset)
      (fun _ e _ hknown => hknown.addEnum_endsIn e) _ hs vp.2.enums
  rw [build_eq]
  refine hall.bind fun s hs => ?_
  refine ((finish_endsIn s.1).imp (fun _ h => h) ?_).bind fun classes _ => hs
  rintro err ⟨n, up, before, after, rfl, -, -⟩
  exact paramReport_of_enum? rfl

/-- **A stable definition has the numbers of the unified enum.** -/
theorem number_of_stable {u : Unified}
    (h : build protocols = .ok u) {e : Enum} (he : e ∈ enumDefinitions protocols)
    (hstable : IsStable e) {x : Entry} (hx : x ∈ e.entries) :
    (numbers ((u.enum? e.name).getD ⟨e.name, [], []⟩).entries).get? x.name = some x.value := by
  refine (((build_unites protocols).of_ok h).unites e.name).entries.stable (e, x) ?_ hstable
  refine mem_flatMap.mpr ⟨e, mem_filter.mpr ⟨he, decide_eq_true rfl⟩, ?_⟩
  exact mem_map_of_mem hx

/-! ## Wire types -/

/-- Some version gives a parameter of an enum a value. -/
def DeclaresParam (protocols : Table Version Protocol) (n k : String) (w : Option String) : Prop :=
  ∃ vp ∈ protocols, ∃ e ∈ vp.2.enums, e.name = n ∧ (k, w) ∈ e.params

instance (protocols : Table Version Protocol) (n k : String) (w : Option String) :
    Decidable (DeclaresParam protocols n k w) :=
  inferInstanceAs (Decidable (∃ vp ∈ protocols, ∃ e ∈ vp.2.enums, e.name = n ∧ (k, w) ∈ e.params))

/-- The parameters that versions give an enum. -/
theorem mem_params_iff {n k : String} :
    (k, w) ∈ ((enumDefinitions protocols).filter (·.name = n)).flatMap (·.params)
      ↔ DeclaresParam protocols n k w := by
  simp only [enumDefinitions, DeclaresParam, mem_flatMap, mem_filter, decide_eq_true_eq]
  constructor
  · rintro ⟨e, ⟨⟨vp, hvp, he⟩, hname⟩, hp⟩
    exact ⟨vp, hvp, e, he, hname, hp⟩
  · rintro ⟨vp, hvp, e, he, hname, hp⟩
    exact ⟨e, ⟨⟨vp, hvp, he⟩, hname⟩, hp⟩

theorem DeclaresParam.of_perm {protocols' : Table Version Protocol}
    (hperm : protocols.Perm protocols') {n k : String}
    (h : DeclaresParam protocols n k w) : DeclaresParam protocols' n k w := by
  obtain ⟨vp, hvp, h⟩ := h
  exact ⟨vp, hperm.subset hvp, h⟩

/-- The wire type of a unified enum, if it has one; it may be one that has been lost. -/
def wireType? (u : Unified) (n : String) : Option (Option String) :=
  (u.enum? n).bind fun e => e.params.get? "wire_type"

/-- **A wire type is what the wire types of all versions come to.** -/
theorem wireType?_eq_settled {u : Unified} (h : build protocols = .ok u) (n : String) :
    wireType? u n = settled (valuesOf "wire_type"
      (((enumDefinitions protocols).filter (·.name = n)).flatMap (·.params))) := by
  have hunites := ((build_unites protocols).of_ok h).unites n
  rw [← hunites.params.get?_eq]
  unfold wireType? Unified.enum?
  cases u.enums.find? (·.name = n) <;> rfl

/-- **The wire type of a unified enum.** An enum has none where no version declares one, that
of all versions which declare one where they declare the same, and a lost one where two of them
differ. The order of the versions does not count, and different wire types are never a reason
for a report. -/
theorem wireType_of_build (protocols : Table Version Protocol) :
    (∀ u, build protocols = .ok u → ∀ n,
      ((u.enum? n).isSome ↔ ∃ vp ∈ protocols, ∃ e ∈ vp.2.enums, e.name = n)
      ∧ (wireType? u n = none ↔ ∀ w, ¬ DeclaresParam protocols n "wire_type" w)
      ∧ (∀ w, DeclaresParam protocols n "wire_type" w →
        (∀ w', DeclaresParam protocols n "wire_type" w' → w' = w) → wireType? u n = some w)
      ∧ (∀ w w', DeclaresParam protocols n "wire_type" w →
        DeclaresParam protocols n "wire_type" w' → w ≠ w' → wireType? u n = some none)
      ∧ ∀ protocols' u', protocols.Perm protocols' → build protocols' = .ok u' →
        wireType? u' n = wireType? u n)
    ∧ ∀ n v first second, build protocols = .error (.enumParam n v first second) →
      ∃ k w w', k ≠ "wire_type" ∧ w ≠ w' ∧ DeclaresParam protocols n k w
        ∧ DeclaresParam protocols n k w' := by
  have hmem : ∀ {ps : Table Version Protocol} {n : String} {w : Option String},
      w ∈ valuesOf "wire_type" (((enumDefinitions ps).filter (·.name = n)).flatMap (·.params))
        ↔ DeclaresParam ps n "wire_type" w :=
    mem_valuesOf.trans mem_params_iff
  constructor
  · intro u hu n
    rw [wireType?_eq_settled hu]
    refine ⟨?_, ?_, ?_, ?_, ?_⟩
    · rw [Unified.enum?, ((build_unites protocols).of_ok hu).named n]
      simp only [enumDefinitions, mem_map, mem_flatMap]
      constructor
      · rintro ⟨e, ⟨vp, hvp, he⟩, hname⟩
        exact ⟨vp, hvp, e, he, hname⟩
      · rintro ⟨vp, hvp, e, he, hname⟩
        exact ⟨e, ⟨vp, hvp, he⟩, hname⟩
    · rw [settled_eq_none_iff, eq_nil_iff_forall_not_mem]
      exact forall_congr' fun w => not_congr hmem
    · intro w hw hall
      exact settled_of_forall (hmem.mpr hw) fun w' hw' => hall w' (hmem.mp hw')
    · intro w w' hw hw' hne
      exact settled_of_ne (hmem.mpr hw) (hmem.mpr hw') hne
    · intro protocols' u' hperm hu'
      rw [wireType?_eq_settled hu']
      refine settled_congr fun w => ?_
      rw [hmem, hmem]
      exact ⟨DeclaresParam.of_perm hperm.symm, DeclaresParam.of_perm hperm⟩
  · intro n v first second herr
    obtain ⟨⟨k, w⟩, hp, ⟨k', w'⟩, hq, hname, hclash⟩ :=
      (build_unites protocols).of_error herr n v first second rfl
    obtain rfl : k = k' := hname
    simp only [agreeing, Bool.or_eq_false_iff, decide_eq_false_iff_not] at hclash
    exact ⟨k, w, w', hclash.1, hclash.2, mem_params_iff.mp hp, mem_params_iff.mp hq⟩

/-- A file that declares an enum with a parameter. -/
def reasonFile (name wire param : String) : String × String :=
  (name, "#version " ++ wire ++ "\nenum ofp_port_reason(" ++ param ++ ") { OFPPR_ADD = 0 };\n")

/-- Three versions, of which the one in the middle has another wire type. -/
def reasonFiles : Directory :=
  [reasonFile "a" "1" "wire_type=uint8_t", reasonFile "b" "2" "wire_type=uint16_t",
   reasonFile "c" "3" "wire_type=uint8_t"]

/-- The same versions, with the other wire type first. -/
def reasonFilesSwapped : Directory :=
  [reasonFile "a" "2" "wire_type=uint16_t", reasonFile "b" "1" "wire_type=uint8_t",
   reasonFile "c" "3" "wire_type=uint8_t"]

/-- A type that is declared before a conflict is declared again behind it, and stays lost,
whichever version comes first; another parameter is reported. -/
theorem wireType_of_build_reason :
    (∃ m m', Model.load reasonFiles [.v10, .v11, .v12] = .ok m
      ∧ Model.load reasonFilesSwapped [.v10, .v11, .v12] = .ok m'
      ∧ wireType? m.unified "ofp_port_reason" = some none
      ∧ wireType? m'.unified "ofp_port_reason" = wireType? m.unified "ofp_port_reason")
    ∧ ∃ m m', Model.load [reasonFile "a" "1" "bitmask=True"] [.v10] = .ok m
      ∧ Model.load [reasonFile "a" "2" "bitmask=False"] [.v11] = .ok m'
      ∧ ∃ k w w', k ≠ "wire_type" ∧ w ≠ w'
        ∧ DeclaresParam (m.protocols ++ m'.protocols) "ofp_port_reason" k w
        ∧ DeclaresParam (m.protocols ++ m'.protocols) "ofp_port_reason" k w' := by
  constructor
  · have htest : (Model.load reasonFiles [.v10, .v11, .v12]).toOption.any (fun m =>
        (Model.load reasonFilesSwapped [.v10, .v11, .v12]).toOption.any fun m' =>
          m.protocols.Perm m'.protocols
        ∧ DeclaresParam m.protocols "ofp_port_reason" "wire_type" (some "uint8_t")
        ∧ DeclaresParam m.protocols "ofp_port_reason" "wire_type" (some "uint16_t")) = true := by
      simp only [Model.load, Model.inputFiles, mergeSort_files, Protocol.build, mergeSort_names]
      decide +kernel
    obtain ⟨m, hload, htest⟩ := exists_ok_of_any htest
    obtain ⟨m', hload', htest⟩ := exists_ok_of_any htest
    obtain ⟨hperm, hfirst, hsecond⟩ := of_decide_eq_true htest
    obtain ⟨-, -, -, hlost, hsame⟩ := (wireType_of_build m.protocols).1 _
      (Model.unified_of_load hload) "ofp_port_reason"
    exact ⟨m, m', hload, hload', hlost _ _ hfirst hsecond (by decide),
      hsame _ _ hperm (Model.unified_of_load hload')⟩
  · have htest : (Model.load [reasonFile "a" "1" "bitmask=True"] [.v10]).toOption.any (fun m =>
      (Model.load [reasonFile "a" "2" "bitmask=False"] [.v11]).toOption.any fun m' =>
        (build (m.protocols ++ m'.protocols)).map (fun _ => ())
          = .error (.enumParam "ofp_port_reason" .v11 (some "True") "False")) = true := by
      simp only [Model.load, Model.inputFiles, mergeSort_files, Protocol.build, mergeSort_names]
      decide +kernel
    obtain ⟨m, hload, htest⟩ := exists_ok_of_any htest
    obtain ⟨m', hload', htest⟩ := exists_ok_of_any htest
    have herror : build (m.protocols ++ m'.protocols)
        = .error (.enumParam "ofp_port_reason" .v11 (some "True") "False") := by
      have h := of_decide_eq_true htest
      cases hbuild : build (m.protocols ++ m'.protocols) <;> rw [hbuild] at h <;> cases h
      rfl
    exact ⟨m, m', hload, hload', (wireType_of_build _).2 _ _ _ _ herror⟩

end Unified

end FlowBindings
