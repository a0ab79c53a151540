import FlowBindings.Table
import FlowBindings.Text.Basic
import Mathlib.Data.List.Induction
import Mathlib.Data.List.Nodup
import Mathlib.Data.List.Perm.Basic

/-!
# Steps, names and tables

What the other modules say about the means the library is written with.

A sequence of steps that may fail succeeds when each step does, and what every step keeps,
a sequence keeps (`foldlM_invariant`). Where errors matter too, `EndsIn` says both at once:
what an answer is like and for what reasons there is none.

Where no name occurs twice, finding by name is a question of membership
(`find?_name_eq_some_iff`), and so is looking up a key (`Table.get?_eq_some_iff`).
-/

namespace FlowBindings

open List

/-! ## Steps that may fail -/

section Steps

variable {ε α β : Type}

variable {x : Except ε α} {l : List α} {b : β} {f : β → α → Except ε β} {e : ε}

theorem bind_eq_ok_iff {f : α → Except ε β} :
    x >>= f = .ok b ↔ ∃ a, x = .ok a ∧ f a = .ok b := by
  cases x with
  | ok a =>
    constructor
    · intro h
      exact ⟨a, rfl, h⟩
    · rintro ⟨_, ha, hf⟩
      cases ha
      exact hf
  | error e =>
    constructor
    · intro h
      cases h
    · rintro ⟨_, ha, _⟩
      cases ha

theorem error_of_bind {f : α → Except ε β} (h : x >>= f = .error e) :
    x = .error e ∨ ∃ a, x = .ok a ∧ f a = .error e := by
  cases x with
  | ok a => exact .inr ⟨a, rfl, h⟩
  | error e' =>
    cases h
    exact .inl rfl

theorem exists_ok_of_any {q : α → Bool} (h : x.toOption.any q = true) :
    ∃ a, x = .ok a ∧ q a = true := by
  cases x with
  | error e => cases h
  | ok a => exact ⟨a, rfl, h⟩

theorem ok_of_toOption {a : α} (h : x.toOption = some a) : x = .ok a := by
  cases x with
  | error e => cases h
  | ok b => exact congrArg Except.ok (Option.some.inj h)

/-- **What every step keeps, a sequence of steps keeps.** -/
theorem foldlM_invariant (I : β → Prop)
    (step : ∀ a ∈ l, ∀ b b', f b a = .ok b' → I b → I b') {b' : β}
    (h : l.foldlM f b = .ok b') (hb : I b) : I b' := by
  induction l generalizing b with
  | nil =>
    cases h
    exact hb
  | cons a l ih =>
    rw [foldlM_cons, bind_eq_ok_iff] at h
    obtain ⟨mid, hmid, hrest⟩ := h
    exact ih (fun x hx => step x (mem_cons_of_mem a hx)) hrest
      (step a mem_cons_self b mid hmid hb)

/-- **How steps end**: with an answer of one kind or with an error of another. -/
def EndsIn (good : α → Prop) (bad : ε → Prop) : Except ε α → Prop
  | .ok a => good a
  | .error e => bad e

variable {good : α → Prop} {bad : ε → Prop} {x : Except ε α}

theorem EndsIn.of_ok {a : α} (h : EndsIn good bad x) (hx : x = .ok a) : good a := by
  rw [hx] at h
  exact h

theorem EndsIn.of_error (h : EndsIn good bad x) (hx : x = .error e) : bad e := by
  rw [hx] at h
  exact h

/-- Steps that can only end in one error do. -/
theorem EndsIn.eq_error (h : EndsIn (fun _ : α => False) (· = e) x) : x = .error e := by
  cases x with
  | ok a => exact h.elim
  | error e' => exact congrArg Except.error h

instance [DecidablePred good] [DecidablePred bad] : Decidable (EndsIn good bad x) :=
  match x with
  | .ok a => inferInstanceAs (Decidable (good a))
  | .error e => inferInstanceAs (Decidable (bad e))

theorem EndsIn.imp {good' : α → Prop} {bad' : ε → Prop} (h : EndsIn good bad x)
    (hgood : ∀ a, good a → good' a) (hbad : ∀ e, bad e → bad' e) : EndsIn good' bad' x := by
  cases x with
  | ok a => exact hgood a h
  | error e => exact hbad e h

theorem EndsIn.bind {good' : β → Prop} {f : α → Except ε β} (h : EndsIn good bad x)
    (hf : ∀ a, good a → EndsIn good' bad (f a)) : EndsIn good' bad (x >>= f) := by
  cases x with
  | ok a => exact hf a h
  | error e => exact h

theorem EndsIn.andThen {good' : β → Prop} {f : α → Except ε β}
    (h : EndsIn (fun _ => True) bad x) (hf : ∀ a, EndsIn good' bad (f a)) :
    EndsIn good' bad (x >>= f) :=
  h.bind fun a _ => hf a

/-- A sequence of steps fails only as its steps do. -/
theorem endsIn_foldlM_any (step : ∀ a ∈ l, ∀ b, EndsIn (fun _ => True) bad (f b a)) (b : β) :
    EndsIn (fun _ => True) bad (l.foldlM f b) := by
  induction l generalizing b with
  | nil => trivial
  | cons a l ih =>
    rw [foldlM_cons]
    exact (step a mem_cons_self b).andThen
      (ih fun x hx => step x (mem_cons_of_mem a hx))

variable (I : List α → β → Prop)

/-- **How a sequence of steps ends**, from how each step ends that continues what the
steps before it have done. -/
theorem endsIn_foldlM
    (step : ∀ seen a, seen ++ [a] <+: l → ∀ b, I seen b → EndsIn (I (seen ++ [a])) bad (f b a))
    (hb : I [] b) : EndsIn (I l) bad (l.foldlM f b) := by
  induction l using reverseRecOn with
  | nil => exact hb
  | append_singleton l a ih =>
    rw [foldlM_append]
    refine (ih fun seen a hseen => step seen a (hseen.trans (prefix_append _ _))).bind ?_
    intro mid hmid
    rw [foldlM_cons]
    exact (step l a prefix_rfl mid hmid).bind fun _ h => h

/-- **How steps end that go on where others stopped**, if a step ends badly only for a reason
that lies in what has been seen with it. -/
theorem endsIn_foldlM_seen
    (bad : List α → ε → Prop) (hmono : ∀ l l' e, l <+: l' → bad l e → bad l' e)
    (step : ∀ seen a b, I seen b → EndsIn (I (seen ++ [a])) (bad (seen ++ [a])) (f b a))
    (seen : List α) (hb : I seen b) (items : List α) :
    EndsIn (I (seen ++ items)) (bad (seen ++ items)) (items.foldlM f b) := by
  induction items generalizing seen b with
  | nil => rwa [append_nil]
  | cons a items ih =>
    rw [foldlM_cons, append_cons]
    refine ((step seen a b hb).imp (fun _ h => h) fun e => ?_).bind fun mid hmid => ?_
    · exact hmono _ _ e (prefix_append _ _)
    · exact ih _ hmid

/-- **What every step keeps in view of the steps before it**, a sequence keeps in view of all
its steps. -/
theorem foldlM_invariant_seen
    (step : ∀ seen a b b', I seen b → f b a = .ok b' → I (seen ++ [a]) b') {b' : β}
    (hb : I [] b) (h : l.foldlM f b = .ok b') : I l b' := by
  induction l using reverseRecOn generalizing b' with
  | nil =>
    cases h
    exact hb
  | append_singleton l a ih =>
    rw [foldlM_append, bind_eq_ok_iff] at h
    obtain ⟨mid, hmid, h⟩ := h
    rw [foldlM_cons, bind_eq_ok_iff] at h
    obtain ⟨last, hlast, h⟩ := h
    cases h
    exact step l a mid _ (ih hmid) hlast

/-- **Where a sequence of steps fails**: at the first step that does, behind steps that
succeed. -/
theorem foldlM_eq_error_iff :
    l.foldlM f b = .error e ↔
      ∃ before a after mid, l = before ++ a :: after ∧ before.foldlM f b = .ok mid
        ∧ f mid a = .error e := by
  constructor
  · intro h
    induction l generalizing b with
    | nil => cases h
    | cons a l ih =>
      rw [foldlM_cons] at h
      rcases error_of_bind h with hstep | ⟨b', hstep, h⟩
      · exact ⟨[], a, l, b, rfl, rfl, hstep⟩
      · obtain ⟨before, x, after, mid, rfl, hbefore, hx⟩ := ih h
        refine ⟨a :: before, x, after, mid, rfl, ?_, hx⟩
        rw [foldlM_cons, hstep]
        exact hbefore
  · rintro ⟨before, a, after, mid, rfl, hbefore, ha⟩
    rw [foldlM_append, hbefore]
    show List.foldlM f mid (a :: after) = _
    rw [foldlM_cons, ha]
    rfl

/-- Readings have the results that they have one by one. -/
theorem mapM_eq_ok_iff {f : α → Except ε β} {r : List β} :
    l.mapM f = .ok r ↔ Forall₂ (fun a b => f a = .ok b) l r := by
  induction l generalizing r with
  | nil =>
    rw [mapM_nil, forall₂_nil_left_iff]
    exact ⟨fun h => (Except.ok.inj h).symm, fun h => h ▸ rfl⟩
  | cons a l ih =>
    rw [mapM_cons, bind_eq_ok_iff, forall₂_cons_left_iff]
    constructor
    · rintro ⟨b, hb, h⟩
      obtain ⟨bs, hbs, h⟩ := bind_eq_ok_iff.mp h
      cases h
      exact ⟨b, bs, hb, ih.mp hbs, rfl⟩
    · rintro ⟨b, bs, hb, hbs, rfl⟩
      exact ⟨b, hb, bind_eq_ok_iff.mpr ⟨bs, ih.mpr hbs, rfl⟩⟩

theorem mapM_eq_ok {f : α → Except ε β} {g : α → β} (h : ∀ a ∈ l, f a = .ok (g a)) :
    l.mapM f = .ok (l.map g) :=
  mapM_eq_ok_iff.mpr (forall₂_map_right_iff.mpr (forall₂_same.mpr h))

/-- How readings of each element end, from how each ends by itself. -/
theorem endsIn_mapM {R : α → β → Prop} {f : α → Except ε β}
    (step : ∀ a ∈ l, EndsIn (R a) bad (f a)) : EndsIn (Forall₂ R l) bad (l.mapM f) := by
  induction l with
  | nil => exact Forall₂.nil
  | cons a l ih =>
    rw [mapM_cons]
    refine (step a mem_cons_self).bind fun b hb => ?_
    refine (ih fun x hx => step x (mem_cons_of_mem a hx)).bind fun bs hbs => ?_
    exact Forall₂.cons hb hbs

/-- Readings that have results of some kind one by one have them together. -/
theorem exists_mapM_eq_ok {R : α → β → Prop} {f : α → Except ε β}
    (h : ∀ a ∈ l, ∃ b, f a = .ok b ∧ R a b) : ∃ r, l.mapM f = .ok r ∧ Forall₂ R l r := by
  have hends : EndsIn (Forall₂ R l) (fun _ => False) (l.mapM f) := by
    refine endsIn_mapM fun a ha => ?_
    obtain ⟨b, hb, hR⟩ := h a ha
    rw [hb]
    exact hR
  cases hr : l.mapM f with
  | ok r => exact ⟨r, rfl, hends.of_ok hr⟩
  | error e => exact (hends.of_error hr).elim

end Steps

/-! ## Finding by name -/

section Names

variable {α : Type} {name : α → String}

/-- Where no name occurs twice, the element found under a name is the one that
has it. -/
theorem find?_name_eq_some_iff {l : List α} (hl : (l.map name).Nodup) {n : String} {a : α} :
    l.find? (fun x => name x = n) = some a ↔ a ∈ l ∧ name a = n := by
  constructor
  · intro h
    exact ⟨mem_of_find?_eq_some h, by simpa using find?_some h⟩
  · rintro ⟨ha, rfl⟩
    cases hf : l.find? (fun x => name x = name a) with
    | none => exact absurd (decide_eq_true rfl) (find?_eq_none.mp hf a ha)
    | some b =>
      have hb : name b = name a := by simpa using find?_some hf
      rw [inj_on_of_nodup_map hl (mem_of_find?_eq_some hf) ha hb]

/-- **Finding by name does not depend on the order**, where no name occurs
twice. -/
theorem find?_name_eq_of_perm {l₁ l₂ : List α} (h : l₁.Perm l₂) (hl : (l₁.map name).Nodup)
    (n : String) : l₁.find? (fun x => name x = n) = l₂.find? (fun x => name x = n) := by
  refine Option.ext fun a => ?_
  rw [find?_name_eq_some_iff hl, find?_name_eq_some_iff ((h.map name).nodup_iff.mp hl),
    h.mem_iff]

theorem exists_find?_name_of_mem {l : List α} {n : String} (h : n ∈ l.map name) :
    ∃ a, l.find? (fun x => name x = n) = some a := by
  obtain ⟨a, ha, rfl⟩ := mem_map.mp h
  refine Option.isSome_iff_exists.mp ?_
  rw [find?_isSome]
  exact ⟨a, ha, by simp⟩

end Names

namespace Table

variable {κ ν : Type} [DecidableEq κ]

variable {pairs : List (κ × ν)} {t : Table κ ν} {k : κ} {v : ν}

theorem get?_eq_none_iff : t.get? k = none ↔ k ∉ t.keys := by
  unfold get? keys
  rw [Option.map_eq_none_iff, find?_eq_none, mem_map]
  constructor
  · rintro h ⟨p, hp, rfl⟩
    exact h p hp (decide_eq_true rfl)
  · intro h p hp hk
    exact h ⟨p, hp, of_decide_eq_true hk⟩

theorem has_eq_isSome (t : Table κ ν) (k : κ) : t.has k = (t.get? k).isSome := by
  unfold has get?
  rw [Option.isSome_map, Bool.eq_iff_iff, any_eq_true, find?_isSome]

theorem has_of_get? (h : t.get? k = some v) : t.has k = true := by
  rw [has_eq_isSome, h]
  rfl

theorem set_eq_append (h : k ∉ t.keys) (v : ν) :
    t.set k v = t ++ [(k, v)] := by
  induction t with
  | nil => rfl
  | cons p rest ih =>
    rw [keys, map_cons, mem_cons, not_or] at h
    rw [set, if_neg (fun hp => h.1 hp.symm), ih h.2, cons_append]

theorem mem_of_mem_set {p : κ × ν} (h : p ∈ t.set k v) :
    p = (k, v) ∨ p ∈ t := by
  induction t with
  | nil => exact Or.inl (mem_singleton.mp h)
  | cons q rest ih =>
    by_cases hq : q.1 = k
    · rw [set, if_pos hq] at h
      exact (mem_cons.mp h).imp_right (mem_cons_of_mem q)
    · rw [set, if_neg hq] at h
      rcases mem_cons.mp h with rfl | h
      · exact Or.inr mem_cons_self
      · exact (ih h).imp_right (mem_cons_of_mem q)

theorem get?_cons (p : κ × ν) (rest : Table κ ν) (k : κ) :
    get? (p :: rest) k = if p.1 = k then some p.2 else get? rest k := by
  unfold get?
  by_cases hp : p.1 = k <;> simp [hp]

@[simp]
theorem get?_map {ν' : Type} (t : Table κ ν) (g : ν → ν') (k : κ) :
    Table.get? (t.map fun (k, v) => (k, g v)) k = (t.get? k).map g := by
  induction t with
  | nil => rfl
  | cons p t ih =>
    obtain ⟨key, value⟩ := p
    by_cases hkey : key = k <;> simp [get?_cons, hkey, ih]

theorem set_eq_self (h : t.get? k = some v) : t.set k v = t := by
  induction t with
  | nil => cases h
  | cons p rest ih =>
    rw [get?_cons] at h
    by_cases hp : p.1 = k
    · rw [if_pos hp, Option.some.injEq] at h
      rw [set, if_pos hp, ← hp, ← h]
    · rw [if_neg hp] at h
      rw [set, if_neg hp, ih h]

theorem mem_of_get? (h : t.get? k = some v) : (k, v) ∈ t := by
  obtain ⟨p, hp, rfl⟩ := Option.map_eq_some_iff.mp h
  have hk : p.1 = k := by simpa using find?_some hp
  rw [← hk]
  exact mem_of_find?_eq_some hp

@[simp]
theorem get?_append (t t' : Table κ ν) (k : κ) : get? (t ++ t') k = (t.get? k).or (t'.get? k) := by
  induction t with
  | nil => rfl
  | cons p rest ih =>
    rw [cons_append, get?_cons, get?_cons, ih]
    split <;> rfl

theorem get?_append_of_some {t' : Table κ ν} (h : t.get? k = some v) :
    get? (t ++ t') k = some v := by
  rw [get?_append, h]
  rfl

theorem get?_append_self (h : k ∉ t.keys) (v : ν) :
    get? (t ++ [(k, v)]) k = some v := by
  rw [← set_eq_append h, get?_set_self]

/-- Where no key occurs twice, a key has the value it stands beside. -/
theorem get?_eq_some_iff (h : t.keys.Nodup) :
    t.get? k = some v ↔ (k, v) ∈ t := by
  refine ⟨mem_of_get?, fun hmem => ?_⟩
  obtain ⟨before, after, rfl⟩ := append_of_mem hmem
  have hnew : k ∉ keys before := by
    rw [keys, map_append, map_cons, nodup_append] at h
    exact fun hk => h.2.2 k hk k mem_cons_self rfl
  rw [get?_append, get?_eq_none_iff.mpr hnew, get?_cons, if_pos rfl]
  rfl

@[simp]
theorem mem_keys_set {k' : κ} :
    k' ∈ (t.set k v).keys ↔ k' = k ∨ k' ∈ t.keys := by
  rw [keys_set]
  by_cases hk : k ∈ t.keys
  · rw [if_pos hk]
    refine ⟨Or.inr, ?_⟩
    rintro (rfl | hk')
    · exact hk
    · exact hk'
  · rw [if_neg hk, mem_append, mem_singleton, or_comm]

theorem nodup_keys_set (h : t.keys.Nodup) (k : κ) (v : ν) :
    (t.set k v).keys.Nodup := by
  rw [keys_set]
  by_cases hk : k ∈ t.keys
  · rwa [if_pos hk]
  · rw [if_neg hk, ← concat_eq_append]
    exact h.concat hk

@[simp]
theorem ofPairs_append_singleton (pairs : List (κ × ν)) (p : κ × ν) :
    ofPairs (pairs ++ [p]) = (ofPairs pairs).set p.1 p.2 := by
  unfold ofPairs
  rw [foldl_append]
  rfl

@[simp]
theorem mem_keys_ofPairs :
    k ∈ (ofPairs pairs).keys ↔ k ∈ keys pairs := by
  induction pairs using reverseRecOn with
  | nil => exact Iff.rfl
  | append_singleton pairs p ih =>
    rw [ofPairs_append_singleton, mem_keys_set, ih, keys, keys, map_append, mem_append,
      map_singleton, mem_singleton, or_comm]

theorem nodup_keys_ofPairs (pairs : List (κ × ν)) : (ofPairs pairs).keys.Nodup := by
  induction pairs using reverseRecOn with
  | nil => exact nodup_nil
  | append_singleton pairs p ih =>
    rw [ofPairs_append_singleton]
    exact nodup_keys_set ih p.1 p.2

theorem ofPairs_eq_self (h : (keys pairs).Nodup) : ofPairs pairs = pairs := by
  induction pairs using reverseRecOn with
  | nil => rfl
  | append_singleton pairs p ih =>
    rw [keys, map_append, nodup_append] at h
    have hnew : p.1 ∉ keys pairs := fun hk => h.2.2 p.1 hk p.1 mem_cons_self rfl
    rw [ofPairs_append_singleton, ih h.1]
    exact set_eq_append hnew p.2

theorem mem_of_mem_ofPairs {p : κ × ν} (h : p ∈ ofPairs pairs) :
    p ∈ pairs := by
  induction pairs using reverseRecOn with
  | nil => exact h
  | append_singleton pairs q ih =>
    rw [ofPairs_append_singleton] at h
    rcases mem_of_mem_set h with rfl | h
    · exact mem_append_right _ (mem_singleton_self _)
    · exact mem_append_left _ (ih h)

/-- **A table of groups.** Where each element changes the value of its own key, a key has what
the elements of that key come to. -/
theorem get?_foldl_update {α : Type} (key : α → κ) (start : ν) (g : ν → α → ν) (l : List α)
    (k : κ) :
    get? (l.foldl (fun t a => t.update (key a) start (g · a)) []) k
      = if k ∈ l.map key then some ((l.filter (key · = k)).foldl g start) else none := by
  induction l using reverseRecOn with
  | nil => rfl
  | append_singleton l a ih =>
    rw [foldl_append, map_append, filter_append, foldl_append, foldl_cons,
      foldl_nil, update]
    by_cases hk : k = key a
    · subst hk
      rw [get?_set_self, ih]
      by_cases hmem : key a ∈ l.map key
      · simp [hmem]
      · have hnone : l.filter (key · = key a) = [] := by
          rw [filter_eq_nil_iff]
          intro b hb hkey
          exact hmem (of_decide_eq_true hkey ▸ mem_map_of_mem hb)
        simp [hmem, hnone]
    · have hk' : ¬ key a = k := fun e => hk e.symm
      rw [get?_set_of_ne _ _ hk, ih]
      simp [hk, hk']

theorem nodup_keys_foldl_update {α : Type} (key : α → κ) (start : ν) (g : ν → α → ν)
    (l : List α) : (keys (l.foldl (fun t a => t.update (key a) start (g · a)) [])).Nodup := by
  induction l using reverseRecOn with
  | nil => exact nodup_nil
  | append_singleton l a ih =>
    rw [foldl_append, foldl_cons, foldl_nil]
    exact nodup_keys_set ih _ _

end Table

/-! ## Fronts of texts -/

@[simp]
theorem Text.startsWith_self (s : String) : Text.startsWith s s = true :=
  isPrefixOf_iff_prefix.mpr prefix_rfl

theorem Text.startsWith_append {a lead : String} (s : String)
    (h : Text.startsWith a lead = true) : Text.startsWith (a ++ s) lead = true := by
  unfold Text.startsWith at *
  rw [List.isPrefixOf_iff_prefix] at *
  rw [String.toList_append]
  exact h.trans (prefix_append _ _)

end FlowBindings
