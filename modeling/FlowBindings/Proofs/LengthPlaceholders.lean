import FlowBindings.Packing.ClassText
import FlowBindings.Proofs.Basic
import FlowBindings.Proofs.Sorting

/-!
# Lengths that are filled in

The method that packs an object appends the bytes of its members one after another, with zero in
the place of a length, and puts the length there later. This module says which of these places are
filled in, and by which step (`Packing.packMethod_fillsIn`).

Packing remembers one length of the object and one for each field, always the last it has met
(`Packing.Remembers`), and fills in the length of a field where it meets the field. So a length of
the object is filled in if no other stands behind it, and the length of a field if the field stands
behind it with no other length of it in between, and no other length is.
-/

namespace FlowBindings

open List

def Role.isLength : Role → Bool
  | length | fieldLength _ => true
  | _ => false

def Member.role? (x : Member) : Option Role := x.field?.map (·.role)

namespace Packing

/-! ## What is remembered -/

/-- What is remembered of a member of a role, at an index. -/
def pending? (role : Role) (x : Member) (i : Nat) : Option Pending :=
  x.field?.bind fun f => if f.role = role then some ⟨f.type, i⟩ else none

/-- What is remembered of the last member of a role. -/
def lastOf (role : Role) (members : List Member) : Option Pending :=
  members.zipIdx.reverse.findSome? fun p => pending? role p.1 p.2

variable {m : Model} {v : Version} {role : Role} {before behind : List Member} {x : Member}
  {f : Field} {q : Pending}

theorem lastOf_concat_self :
    lastOf f.role (before ++ [.field f]) = some ⟨f.type, before.length⟩ := by
  simp [lastOf, zipIdx_append, pending?, Member.field?]

theorem lastOf_concat (hx : x.role? ≠ some role) :
    lastOf role (before ++ [x]) = lastOf role before := by
  have hnone : pending? role x before.length = none := by
    cases x <;> simp_all [pending?, Member.role?, Member.field?]
  simp [lastOf, zipIdx_append, hnone]

theorem lastOf_eq_some (hrole : f.role = role) (hbehind : ∀ x ∈ behind, x.role? ≠ some role) :
    lastOf role (before ++ .field f :: behind) = some ⟨f.type, before.length⟩ := by
  induction behind using reverseRecOn with
  | nil => rw [← hrole, lastOf_concat_self]
  | append_singleton behind x ih =>
    rw [← cons_append, ← append_assoc, lastOf_concat (hbehind x (by simp))]
    exact ih fun y hy => hbehind y (mem_append_left _ hy)

/-- What is remembered under the index of a member is this member. -/
theorem of_lastOf {front rest : List Member} (h : lastOf role front = some q)
    (hsplit : front ++ rest = before ++ .field f :: behind) (hindex : q.index = before.length) :
    f.role = role ∧ ∃ mid, behind = mid ++ rest ∧ ∀ x ∈ mid, x.role? ≠ some role := by
  induction front using reverseRecOn generalizing rest with
  | nil => cases h
  | append_singleton front x ih =>
    by_cases hx : x.role? = some role
    · obtain ⟨g, hg, rfl⟩ := Option.map_eq_some_iff.mp hx
      cases x with
      | pad => cases hg
      | field =>
        cases hg
        cases lastOf_concat_self.symm.trans h
        rw [append_assoc, singleton_append] at hsplit
        obtain ⟨-, hrest⟩ := append_inj hsplit hindex
        cases hrest
        exact ⟨rfl, [], rfl, by simp⟩
    · rw [lastOf_concat hx] at h
      rw [append_assoc] at hsplit
      obtain ⟨hrole, mid, rfl, hmid⟩ := ih h hsplit
      refine ⟨hrole, mid ++ [x], (append_assoc ..).symm, fun y hy => ?_⟩
      rcases mem_append.mp hy with hy | hy
      · exact hmid y hy
      · rwa [mem_singleton.mp hy]

/-- **What packing remembers** behind some members. -/
structure Remembers (before : List Member) (s : PackState) : Prop where
  index : s.index = before.length
  fields : ∀ t, s.fields.get? t = lastOf (.fieldLength t) before
  object : s.object = lastOf .length before

theorem Remembers.next {s : PackState} (h : Remembers before s)
    (hx : ∀ r, x.role? = some r → r.isLength = false) :
    Remembers (before ++ [x]) { s with index := s.index + 1 } where
  index := by rw [h.index, length_append, length_singleton]
  fields t := by rw [h.fields, lastOf_concat fun hr => absurd (hx _ hr) (by simp [Role.isLength])]
  object := by rw [h.object, lastOf_concat fun hr => absurd (hx _ hr) (by simp [Role.isLength])]

/-! ## The steps of the members -/

/-- **The steps of a member**, by the members before it. -/
inductive Part (m : Model) (v : Version) (before : List Member) :
    Member → List PackStep → Prop where
  | pad (n : Nat) (o : Option Nat) : Part m v before (.pad n o) [.zeros n]
  | length {f : Field} {e : String} (hf : f.role.isLength = true)
      (he : packExpression m v f.type "0" = .ok e) :
      Part m v before (.field f) [.placeholder e f.name before.length]
  | value {f : Field} {a : String} (hf : f.role.isLength = false)
      (ha : packExpression m v f.type ("self." ++ f.name) = .ok a)
      (hnone : lastOf (.fieldLength f.name) before = none) : Part m v before (.field f) [.append a]
  | filling {f : Field} {a e : String} {q : Pending} (hf : f.role.isLength = false)
      (ha : packExpression m v f.type ("self." ++ f.name) = .ok a)
      (hq : lastOf (.fieldLength f.name) before = some q)
      (he : packExpression m v q.type "len(packed[-1])" = .ok e) :
      Part m v before (.field f) [.append a, .replace q.index e]

/-- **One member**: its steps, and what is remembered behind it. -/
theorem part_of_packMember {s s' : PackState} {steps : List PackStep} (hs : Remembers before s)
    (h : packMember m v s x = .ok (steps, s')) :
    Part m v before x steps ∧ Remembers (before ++ [x]) s' := by
  cases x with
  | pad n o =>
    cases h
    exact ⟨.pad n o, hs.next fun _ hr => by cases hr⟩
  | field f =>
    have hself : lastOf f.role (before ++ [.field f]) = _ := lastOf_concat_self
    have hindex : s.index + 1 = (before ++ [Member.field f]).length := by
      rw [hs.index, length_append, length_singleton]
    obtain ⟨name, type, role, isFixed, base, offset⟩ := f
    cases role with
    | length =>
      obtain ⟨e, he, h⟩ := bind_eq_ok_iff.mp h
      cases h
      refine ⟨hs.index ▸ .length rfl he, hindex, fun t => ?_, ?_⟩
      · rw [hs.fields, lastOf_concat (by simp [Member.role?, Member.field?])]
      · rw [hself, hs.index]
    | fieldLength target =>
      obtain ⟨e, he, h⟩ := bind_eq_ok_iff.mp h
      cases h
      refine ⟨hs.index ▸ .length rfl he, hindex, fun t => ?_, ?_⟩
      · by_cases ht : t = target
        · rw [ht, Table.get?_set_self, hself, hs.index]
        · rw [Table.get?_set_of_ne _ _ ht, hs.fields,
            lastOf_concat (by simpa [Member.role?, Member.field?] using Ne.symm ht)]
      · rw [hs.object, lastOf_concat (by simp [Member.role?, Member.field?])]
    | _ =>
      obtain ⟨a, ha, h⟩ := bind_eq_ok_iff.mp h
      cases hget : s.fields.get? name with
      | none =>
        rw [hget] at h
        cases h
        exact ⟨.value rfl ha (hs.fields name ▸ hget), hs.next fun r hr => by cases hr; rfl⟩
      | some q =>
        rw [hget] at h
        obtain ⟨e, he, h⟩ := bind_eq_ok_iff.mp h
        cases h
        exact ⟨.filling rfl ha (hs.fields name ▸ hget) he, hs.next fun r hr => by cases hr; rfl⟩

/-- **The steps of some members**, one after another. -/
inductive Parts (m : Model) (v : Version) : List Member → List Member → List PackStep → Prop where
  | nil (before : List Member) : Parts m v before [] []
  | cons {before rest : List Member} {x : Member} {a b : List PackStep} (ha : Part m v before x a)
      (hb : Parts m v (before ++ [x]) rest b) : Parts m v before (x :: rest) (a ++ b)

theorem parts_of_packMembers {xs : List Member} {s s' : PackState} {steps : List PackStep}
    (hs : Remembers before s) (h : packMembers m v s xs = .ok (steps, s')) :
    Parts m v before xs steps ∧ Remembers (before ++ xs) s' := by
  induction xs generalizing before s steps with
  | nil =>
    cases h
    exact ⟨.nil before, by rwa [append_nil]⟩
  | cons x xs ih =>
    obtain ⟨⟨a, t⟩, ha, h⟩ := bind_eq_ok_iff.mp h
    obtain ⟨⟨b, last⟩, hb, h⟩ := bind_eq_ok_iff.mp h
    cases h
    obtain ⟨hpart, ht⟩ := part_of_packMember hs ha
    obtain ⟨hparts, hlast⟩ := ih ht hb
    exact ⟨.cons hpart hparts, by rwa [append_assoc, singleton_append] at hlast⟩

/-- Whether a step adds bytes behind those that are there. -/
def PackStep.appends : PackStep → Bool
  | replace _ _ | measure => false
  | _ => true

section Parts

variable {xs : List Member} {steps : List PackStep}

/-- Every member adds its bytes once, so those at an index are the member's. -/
theorem Parts.countP (h : Parts m v before xs steps) :
    steps.countP PackStep.appends = xs.length := by
  induction h with
  | nil => rfl
  | cons ha _ ih =>
    rw [countP_append, ih, length_cons, Nat.add_comm]
    cases ha <;> rfl

theorem Parts.split (h : Parts m v before (xs ++ x :: behind) steps) :
    ∃ a p b, steps = a ++ (p ++ b) ∧ Part m v (before ++ xs) x p
      ∧ a.countP PackStep.appends = xs.length := by
  induction xs generalizing before steps with
  | nil =>
    cases h with
    | cons ha hb => exact ⟨[], _, _, rfl, by rwa [append_nil], rfl⟩
  | cons y xs ih =>
    cases h with
    | @cons _ _ _ a _ ha hb =>
      obtain ⟨a', p, b, rfl, hp, hcount⟩ := ih hb
      refine ⟨a ++ a', p, b, (append_assoc ..).symm, by rwa [append_assoc] at hp, ?_⟩
      rw [countP_append, hcount, length_cons, Nat.add_comm]
      cases ha <;> rfl

/-- A place is filled in by a member that finds it remembered. -/
theorem Parts.of_replace (h : Parts m v before xs steps) {i : Nat} {e : String}
    (hi : .replace i e ∈ steps) : ∃ mid f rest q, xs = mid ++ .field f :: rest
      ∧ f.role.isLength = false ∧ lastOf (.fieldLength f.name) (before ++ mid) = some q
      ∧ q.index = i := by
  induction h with
  | nil => cases hi
  | cons ha _ ih =>
    rcases mem_append.mp hi with hi | hi
    · cases ha with
      | pad | length | value => cases mem_singleton.mp hi
      | @filling f _ _ q hf _ hq _ =>
        obtain ⟨rfl, rfl⟩ : i = q.index ∧ _ := by simpa using hi
        exact ⟨[], f, _, q, rfl, hf, by rwa [append_nil], rfl⟩
    · obtain ⟨mid, f, rest, q, rfl, hf, hq, hi⟩ := ih hi
      exact ⟨_ :: mid, f, rest, q, rfl, hf, by rwa [append_assoc] at hq, hi⟩

end Parts

/-! ## The method -/

/-- The steps that align an object from outside, behind all others. -/
def aligning (c : Class) : List PackStep := if c.hasExternalAlignment then [.alignUncounted] else []

/-- The steps that put the length of an object in its place. -/
def completing (c : Class) (i : Nat) (e : String) : List PackStep :=
  [.measure] ++ (if c.hasInternalAlignment then [.alignCounted] else []) ++ [.replace i e]

theorem packEnd_eq_ok {c : Class} {s : PackState} {steps : List PackStep}
    (h : packEnd m v c s = .ok steps) :
    s.object = none ∧ steps = aligning c
    ∨ ∃ q e, s.object = some q ∧ packExpression m v q.type "length" = .ok e
      ∧ steps = completing c q.index e ++ aligning c := by
  unfold packEnd at h
  cases hobject : s.object with
  | none =>
    rw [hobject] at h
    cases h
    exact .inl ⟨rfl, rfl⟩
  | some q =>
    rw [hobject] at h
    obtain ⟨e, he, h⟩ := bind_eq_ok_iff.mp h
    cases h
    exact .inr ⟨q, e, rfl, he, rfl⟩

theorem replace_mem_completing_iff {c : Class} {i j : Nat} {e e' : String} :
    .replace i e ∈ completing c j e' ++ aligning c ↔ i = j ∧ e = e' := by
  unfold completing aligning
  split <;> split <;> simp

/-- A member fills in the length of a field in front of it: it holds the field, and the members in
between are no other lengths of the field. -/
def Fills (t : String) (mid : List Member) (g : Field) : Prop :=
  g.role.isLength = false ∧ g.name = t ∧ ∀ x ∈ mid, x.role? ≠ some (.fieldLength t)

/-- Where a place is filled in, its member is the last that was remembered. -/
theorem of_replace {c : Class} {all finish : List PackStep} {s : PackState}
    (hall : Parts m v [] (before ++ .field f :: behind) all)
    (hs : Remembers (before ++ .field f :: behind) s) (hfinish : packEnd m v c s = .ok finish)
    {e : String} (he : .replace before.length e ∈ all ++ finish) :
    (f.role = .length ∧ ∀ x ∈ behind, x.role? ≠ some .length)
      ∨ ∃ mid g rest, f.role = .fieldLength g.name ∧ behind = mid ++ .field g :: rest
        ∧ Fills g.name mid g := by
  rcases mem_append.mp he with he | he
  · obtain ⟨front, g, rest, q, hsplit, hg, hq, hi⟩ := hall.of_replace he
    obtain ⟨hrole, mid, rfl, hmid⟩ := of_lastOf hq hsplit.symm hi
    exact .inr ⟨mid, g, rest, hrole, rfl, hg, rfl, hmid⟩
  · rcases packEnd_eq_ok hfinish with ⟨-, rfl⟩ | ⟨q, e', hq, -, rfl⟩
    · unfold aligning at he
      split at he <;> simp at he
    · obtain ⟨hi, -⟩ := replace_mem_completing_iff.mp he
      obtain ⟨hrole, mid, rfl, hmid⟩ := of_lastOf (hs.object ▸ hq) (append_nil _) hi.symm
      exact .inl ⟨hrole, by rwa [append_nil]⟩

/-- **Lengths are filled in.** The method that packs an object is a sequence of steps. A length is
packed as zero when as many members are packed as stand before it. The length of the object is put
in its place when all members are packed, if no other such length stands behind it; otherwise
nothing is put there. The length of a field is put in its place directly behind every member that
fills it in, and by no other step. -/
theorem packMethod_fillsIn {d : Draft} {text : String} (h : d.packMethod = .ok text) :
    ∃ steps, packSteps d.model d.version d.target = .ok steps
      ∧ text = "    def pack(self):\n        packed = []\n" ++ Text.each steps PackStep.render
        ++ "        return ''.join(packed)\n\n"
      ∧ ∀ before f behind, d.target.members = before ++ .field f :: behind →
        let i := before.length
        (f.role.isLength = true → ∃ front e back, steps = front ++ .placeholder e f.name i :: back
          ∧ front.countP PackStep.appends = i)
        ∧ (f.role = .length →
          ((∀ x ∈ behind, x.role? ≠ some .length) → ∃ front e,
            packExpression d.model d.version f.type "length" = .ok e
              ∧ steps = front ++ (completing d.target i e ++ aligning d.target)
              ∧ front.countP PackStep.appends = d.target.members.length)
          ∧ ((∃ e, .replace i e ∈ steps) → ∀ x ∈ behind, x.role? ≠ some .length))
        ∧ ∀ t, f.role = .fieldLength t →
          (∀ mid g rest, behind = mid ++ .field g :: rest → Fills t mid g → ∃ front a e back,
            packExpression d.model d.version g.type ("self." ++ t) = .ok a
              ∧ packExpression d.model d.version f.type "len(packed[-1])" = .ok e
              ∧ steps = front ++ .append a :: .replace i e :: back
              ∧ front.countP PackStep.appends = i + 1 + mid.length)
          ∧ ((∃ e, .replace i e ∈ steps) → ∃ mid g rest, behind = mid ++ .field g :: rest
            ∧ Fills t mid g) := by
  obtain ⟨steps, hsteps, h⟩ := bind_eq_ok_iff.mp h
  cases h
  refine ⟨steps, hsteps, rfl, fun before f behind hmembers => ?_⟩
  obtain ⟨⟨all, last⟩, hall, hsteps⟩ := bind_eq_ok_iff.mp hsteps
  obtain ⟨finish, hfinish, hsteps⟩ := bind_eq_ok_iff.mp hsteps
  cases hsteps
  have hstart : Remembers [] {} := ⟨rfl, fun _ => rfl, rfl⟩
  obtain ⟨hparts, hlast⟩ := parts_of_packMembers hstart hall
  rw [nil_append] at hlast
  have hcount := hparts.countP
  rw [hmembers] at hparts hlast
  intro i
  refine ⟨fun hlength => ?_, fun hrole => ⟨fun hnone => ?_, ?_⟩, fun t hrole => ⟨?_, ?_⟩⟩
  · obtain ⟨a, p, b, rfl, hp, hi⟩ := hparts.split
    cases hp with
    | @length _ e _ _ => exact ⟨a, e, b ++ finish, by simp [i], hi⟩
    | value hf _ _ => rw [hf] at hlength; cases hlength
    | filling hf _ _ _ => rw [hf] at hlength; cases hlength
  · have hf : last.object = some ⟨f.type, i⟩ := hlast.object.trans (lastOf_eq_some hrole hnone)
    rcases packEnd_eq_ok hfinish with ⟨hno, -⟩ | ⟨q, e, hq, he, rfl⟩
    · cases hf.symm.trans hno
    · cases hf.symm.trans hq
      exact ⟨all, e, he, rfl, hcount⟩
  · rintro ⟨e, he⟩
    obtain ⟨-, hnone⟩ | ⟨_, _, _, hother, -⟩ := of_replace hparts hlast hfinish he
    · exact hnone
    · cases hrole.symm.trans hother
  · rintro mid g rest rfl ⟨hg, rfl, hmid⟩
    have hf : lastOf _ (before ++ .field f :: mid) = _ := lastOf_eq_some hrole hmid
    rw [← cons_append, ← append_assoc] at hparts
    obtain ⟨a, p, b, rfl, hp, hi⟩ := hparts.split
    cases hp with
    | length hlength _ => rw [hg] at hlength; cases hlength
    | value _ _ hno => cases hf.symm.trans hno
    | filling _ ha hq he =>
      cases hf.symm.trans hq
      refine ⟨a, _, _, b ++ finish, ha, he, by simp [i], hi.trans ?_⟩
      simp [i]
      omega
  · rintro ⟨e, he⟩
    obtain ⟨hother, -⟩ | ⟨mid, g, rest, hother, hbehind, hfills⟩ :=
      of_replace hparts hlast hfinish he
    · cases hrole.symm.trans hother
    · cases hrole.symm.trans hother
      exact ⟨mid, g, rest, hbehind, hfills⟩

/-- A field of two bytes. -/
def number (name : String) (role : Role) (offset : Option Nat := none) : Member :=
  .field ⟨name, "uint16_t", role, true, 2, offset⟩

/-- A class with its length, the length of a field and the field. -/
def measuredFiles : Directory :=
  [("m-1.0",
    "#version 1\nstruct of_a { uint16_t len; uint16_t n == length(data); of_octets_t data; };\n")]

/-- Both lengths are filled in. -/
theorem packMethod_fillsIn_data :
    ∃ m p c, Model.load measuredFiles [.v10] = .ok m ∧ m.protocol? .v10 = some p
      ∧ p.class? "of_a" = some c
      ∧ ∃ text, (Draft.of m p c).packMethod = .ok text ∧ ∃ steps, packSteps m .v10 c = .ok steps
        ∧ .replace 0 "struct.pack(\"!H\", length)" ∈ steps
        ∧ .replace 1 "struct.pack(\"!H\", len(packed[-1]))" ∈ steps := by
  have htest : (Model.load measuredFiles [.v10]).toOption.any (fun m =>
      (m.protocol? .v10).any fun p => (p.class? "of_a").any fun c =>
        p.version = .v10 ∧ (Draft.of m p c).packMethod.toOption.isSome
        ∧ c.members = [number "len" .length (some 0), number "n" (.fieldLength "data") (some 2),
          .field ⟨"data", "of_octets_t", .data, false, 0, some 4⟩]
        ∧ (packExpression m .v10 "uint16_t" "length").toOption = some "struct.pack(\"!H\", length)"
        ∧ (packExpression m .v10 "uint16_t" "len(packed[-1])").toOption
          = some "struct.pack(\"!H\", len(packed[-1]))") = true := by
    simp only [Model.load, Model.inputFiles, mergeSort_files, Protocol.build, mergeSort_names]
    decide +kernel
  obtain ⟨m, hload, htest⟩ := exists_ok_of_any htest
  obtain ⟨p, hp, htest⟩ := (Option.any_eq_true ..).mp htest
  obtain ⟨c, hc, htest⟩ := (Option.any_eq_true ..).mp htest
  obtain ⟨hversion, hthere, hmembers, hlength, hcount⟩ := of_decide_eq_true htest
  obtain ⟨text, htext⟩ := Option.isSome_iff_exists.mp hthere
  obtain ⟨steps, hsteps, -, hplace⟩ := packMethod_fillsIn (ok_of_toOption htext)
  have hdraft : (Draft.of m p c).version = .v10 := hversion
  rw [hdraft] at hsteps hplace
  obtain ⟨-, hobject, -⟩ := hplace [] _ _ hmembers
  obtain ⟨front, e, he, hend, -⟩ := (hobject rfl).1 (by decide)
  obtain ⟨-, -, hfield⟩ := hplace [number "len" .length (some 0)] _ _ hmembers
  obtain ⟨front', a, e', back, -, he', hdata, -⟩ :=
    (hfield "data" rfl).1 [] _ [] rfl ⟨rfl, rfl, by decide⟩
  cases he.symm.trans (ok_of_toOption hlength)
  cases he'.symm.trans (ok_of_toOption hcount)
  refine ⟨m, p, c, hload, hp, hc, text, ok_of_toOption htext, steps, hsteps, ?_, ?_⟩
  · rw [hend]
    exact mem_append_right _ (replace_mem_completing_iff.mpr ⟨rfl, rfl⟩)
  · rw [hdata]
    simp

/-- A class that is about to be written, in a model that knows nothing else. -/
def lengthsDraft (members : List Member) : Draft where
  model := ⟨[(.v10, ⟨.v10, [], []⟩)], default⟩
  protocol := ⟨.v10, [], []⟩
  target := ⟨"of_a", [], members, false, [], false, 0⟩
  above := none

/-- **Lengths that stay zero**: the first of two lengths of a field, the first of two lengths of the
object, and the length of a field that stands behind the field. -/
theorem lengths_left_zero :
    let filled members := (packSteps (lengthsDraft members).model .v10 (lengthsDraft members).target
      ).toOption.map fun steps => steps.filterMap fun step => match step with
        | .replace i _ => some i
        | _ => none
    filled [number "n" (.fieldLength "data"), number "k" (.fieldLength "data"), number "data" .data]
      = some [1]
    ∧ filled [number "len" .length, number "length" .length] = some [1]
    ∧ filled [number "data" .data, number "n" (.fieldLength "data")] = some [] := by
  decide

end Packing

end FlowBindings
