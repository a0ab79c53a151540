import FlowBindings.Proofs.Declared
import Mathlib.Algebra.GroupWithZero.Nat
import Mathlib.Data.List.Forall2

/-!
# Where members lie

What `Class.ofSource` says about the class it lays out. Members lie one after
another: the class is as long as its members together, and a field begins where
the lengths before it end, as long as all of those are fixed
(`Class.LaidOut`).

One thing stands between the definition and this reading. Slots are filed by what
a member looks like, and a member gets the slot of the *last* member that looks
like it. The extent filed is still the member's own, since what a member takes
follows from what it looks like (`sharedSlot_extent`); so lengths are never
wrong. The offset filed is the member's own only when nothing behind it looks like
it (`Class.LikeLast`), which two pads of one length do, and two fields of different
names never (`sharedSlot_eq_own`). That is why members are said to lie one after
another for fields only, and for classes that do not name two fields alike.
-/

namespace FlowBindings

open List Text WireType

/-! ## Slots -/

theorem offset_of_slotsFrom_eq {offset : Nat} {known : Bool} {extents : List Extent}
    {before after : List Slot} {s : Slot}
    (h : slotsFrom offset known extents = before ++ s :: after) :
    s.offset = if known && before.all (·.extent.isFixedLength)
      then some (offset + (before.map (·.extent.baseLength)).sum) else none := by
  induction before generalizing offset known extents with
  | nil =>
    cases extents with
    | nil => cases h
    | cons e rest =>
      rw [slotsFrom] at h
      cases h
      simp
  | cons b before ih =>
    cases extents with
    | nil => cases h
    | cons e rest =>
      rw [slotsFrom] at h
      obtain ⟨hb, hrest⟩ := List.cons.inj h
      rw [ih hrest, ← hb]
      simp only [all_cons, map_cons, sum_cons, Bool.and_assoc, Nat.add_assoc]

theorem extents_of_slotsFrom (offset : Nat) (known : Bool) (extents : List Extent) :
    (slotsFrom offset known extents).map (·.extent) = extents := by
  induction extents generalizing offset known with
  | nil => rfl
  | cons e rest ih => rw [slotsFrom, map_cons, ih]

/-! ## What a member takes -/

variable {ctx : Context} {placed : List (Source.Member × Slot)} {p : Source.Member × Slot}
  {name : String}

theorem memberExtent_eq_of_key {className : String} {m m' : Source.Member}
    (h : m.key = m'.key) : ctx.memberExtent className m = ctx.memberExtent className m' := by
  rcases m with ⟨length⟩ | ⟨name, type, role⟩ <;> rcases m' with ⟨length'⟩ | ⟨name', type', role'⟩
  · cases h
    rfl
  · cases role' <;> cases h
  · cases role <;> cases h
  · have hnt : name = name' ∧ type = type' := by
      cases role <;> cases role' <;> cases h <;> exact ⟨rfl, rfl⟩
    rw [hnt.1, hnt.2]
    rfl

/-- A key knows the name of its field. -/
def Source.Member.Key.name? : Source.Member.Key → Option String
  | pad _ => none
  | plain name _ => some name
  | valued name _ _ => some name
  | measuring name _ _ => some name

theorem name?_key (m : Source.Member) : m.key.name? = m.name? := by
  rcases m with ⟨length⟩ | ⟨name, type, role⟩
  · rfl
  · cases role <;> rfl

/-! ## Placed members -/

/-- **Members with the slots they take**, one after another. -/
structure Placement (ctx : Context) (c : Source.Class)
    (placed : List (Source.Member × Slot)) : Prop where
  /-- Every member has a slot. -/
  members : placed.map Prod.fst = c.members
  /-- The slots follow one another. -/
  slots : placed.map Prod.snd = slotsFrom 0 true (placed.map (·.2.extent))
  /-- A slot is as long as its member asks for. -/
  extent : ∀ p ∈ placed, ctx.memberExtent c.name p.1 = .ok p.2.extent

/-- The slot a placed member is given: the one filed for what it looks like. -/
def sharedSlot (placed : List (Source.Member × Slot)) (p : Source.Member × Slot) : Slot :=
  (filedSlot (placed.map fun q => (q.1.key, q.2)) p.1).getD p.2

/-- The slot a member is given is that of a member that looks like it. -/
theorem exists_sharedSlot
    (hp : p ∈ placed) : ∃ q ∈ placed, q.1.key = p.1.key ∧ sharedSlot placed p = q.2 := by
  unfold sharedSlot filedSlot
  cases hfind : ((placed.map fun q => (q.1.key, q.2)).reverse.find? fun r => r.1 = p.1.key) with
  | none => exact ⟨p, hp, rfl, rfl⟩
  | some r =>
    have hr : r ∈ placed.map fun q => (q.1.key, q.2) :=
      mem_reverse.mp (mem_of_find?_eq_some hfind)
    obtain ⟨q, hq, rfl⟩ := mem_map.mp hr
    exact ⟨q, hq, by simpa using find?_some hfind, rfl⟩

/-- **The length a member is given is its own**, whichever member it shares its
slot with. -/
theorem sharedSlot_extent {c : Source.Class} (h : Placement ctx c placed) (hp : p ∈ placed) :
    (sharedSlot placed p).extent = p.2.extent := by
  obtain ⟨q, hq, hkey, hslot⟩ := exists_sharedSlot hp
  have hext := h.extent q hq
  rw [memberExtent_eq_of_key hkey, h.extent p hp] at hext
  rw [hslot, Except.ok.inj hext]

/-- **The slot a member is given is that of the last member that looks like it.** -/
theorem sharedSlot_eq_of_last {earlier later : List (Source.Member × Slot)}
    {p q : Source.Member × Slot} (hlast : ∀ r ∈ later, r.1.key ≠ q.1.key)
    (hkey : p.1.key = q.1.key) : sharedSlot (earlier ++ q :: later) p = q.2 := by
  have hnone : (later.map fun r => (r.1.key, r.2)).reverse.find? (·.1 = p.1.key) = none := by
    rw [find?_eq_none]
    intro r hr
    obtain ⟨s, hs, rfl⟩ := mem_map.mp (mem_reverse.mp hr)
    rw [hkey, decide_eq_true_eq]
    exact hlast s hs
  rw [sharedSlot, filedSlot, map_append, map_cons, reverse_append, reverse_cons, append_assoc,
    find?_append, hnone, Option.none_or, singleton_append, find?_cons_of_pos (by simp [hkey])]
  rfl

/-- **A field is given its own slot** in a class that names no two fields
alike. -/
theorem sharedSlot_eq_own {earlier later : List (Source.Member × Slot)} {n : String}
    (hnames : ((earlier ++ p :: later).filterMap (·.1.name?)).Nodup) (hn : p.1.name? = some n) :
    sharedSlot (earlier ++ p :: later) p = p.2 := by
  refine sharedSlot_eq_of_last (fun r hr hkey => ?_) rfl
  have hcons := @filterMap_cons_some _ _ (fun q : Source.Member × Slot => q.1.name?) p later n hn
  rw [filterMap_append, hcons, nodup_middle, nodup_cons] at hnames
  have hrn : r.1.name? = some n := by rw [← name?_key, hkey, name?_key, hn]
  exact hnames.1 (mem_append_right _ (mem_filterMap.mpr ⟨r, hr, hrn⟩))

/-! ## The class laid out -/

/-- What laying a class out gives, member by member. -/
theorem exists_placement_of_ofSource {ancestors : List Ancestor}
    {c : Source.Class} {laid : Class} (h : Class.ofSource ctx ancestors c = .ok laid) :
    ∃ placed, Placement ctx c placed ∧ laid =
      { name := c.name
        ancestors := ancestors
        members := placed.map fun p => Member.ofSource ctx.version p.1 (sharedSlot placed p)
        isVirtual := c.isVirtual
        params := c.params
        isFixedLength := !c.isVirtual && placed.all (·.2.extent.isFixedLength)
        baseLength := (placed.map (·.2.extent.baseLength)).sum } := by
  obtain ⟨extents, hext, h⟩ := bind_eq_ok_iff.mp h
  have hread := mapM_eq_ok_iff.mp hext
  have hlen : c.members.length = (slotsFrom 0 true extents).length := by
    rw [hread.length_eq]
    conv_lhs => rw [← extents_of_slotsFrom 0 true extents, length_map]
  have hslots : (c.members.zip (slotsFrom 0 true extents)).map Prod.snd
      = slotsFrom 0 true extents := map_snd_zip (Nat.le_of_eq hlen.symm)
  have hextents : (c.members.zip (slotsFrom 0 true extents)).map (·.2.extent) = extents := by
    refine Eq.trans (map_map (f := Prod.snd) (g := Slot.extent)).symm ?_
    rw [hslots]
    exact extents_of_slotsFrom 0 true extents
  refine ⟨c.members.zip (slotsFrom 0 true extents),
    ⟨map_fst_zip (Nat.le_of_eq hlen), by rw [hslots, hextents], ?_⟩, ?_⟩
  · intro p hp
    have hall : Forall₂ (fun m s => ctx.memberExtent c.name m = .ok s.extent) c.members
        (slotsFrom 0 true extents) := by
      rw [← extents_of_slotsFrom 0 true extents, forall₂_map_right_iff] at hread
      exact hread
    exact (forall₂_iff_zip.mp hall).2 hp
  · cases h
    have hfixed : extents.all (·.isFixedLength)
        = (c.members.zip (slotsFrom 0 true extents)).all (·.2.extent.isFixedLength) := by
      conv_lhs => rw [← hextents]
      rw [all_map]
      rfl
    have hbase : extents.foldr (fun e total => e.baseLength + total) 0
        = ((c.members.zip (slotsFrom 0 true extents)).map (·.2.extent.baseLength)).sum := by
      conv_lhs => rw [← hextents]
      rw [foldr_map, sum_eq_foldr, foldr_map]
    rw [hfixed, hbase, zip_map_left]
    rfl

/-! ## What a class keeps of its declaration -/

/-- What a declared field is for once the version is known: a version field holds
the version's number. -/
def Source.Role.onWire (v : Version) : Source.Role → FlowBindings.Role
  | data => .data
  | length => .length
  | version => .fixed v.wire
  | discriminator => .discriminator
  | fixed value => .fixed value
  | fieldLength target => .fieldLength target

/-- **A member is what was declared**: padding of the declared length, or a field
with the declared name, type and role. -/
inductive Source.Member.Becomes (v : Version) : Source.Member → FlowBindings.Member → Prop where
  /-- Padding keeps its length. -/
  | pad (length : Nat) (offset : Option Nat) : Becomes v (.pad length) (.pad length offset)
  /-- A field keeps its name, its type and its role. -/
  | field (role : Source.Role) (f : Field) (hrole : f.role = role.onWire v) :
      Becomes v (.field f.name f.type role) (.field f)

theorem becomes_ofSource (v : Version) (m : Source.Member) (slot : Slot) :
    m.Becomes v (Member.ofSource v m slot) := by
  rcases m with ⟨length⟩ | ⟨name, type, role⟩
  · exact .pad length slot.offset
  · refine Source.Member.Becomes.field (f := Field.mk name type _ _ _ _) role ?_
    cases role <;> rfl

section OfSource

variable {ctx : Context} {ancestors : List Ancestor} {c : Source.Class} {laid : Class}

theorem ofSource_fields (h : Class.ofSource ctx ancestors c = .ok laid) :
    laid.name = c.name ∧ laid.ancestors = ancestors ∧ laid.isVirtual = c.isVirtual
      ∧ laid.params = c.params := by
  obtain ⟨placed, -, rfl⟩ := exists_placement_of_ofSource h
  exact ⟨rfl, rfl, rfl, rfl⟩

/-- **A class laid out has its declared members**, in order. -/
theorem members_of_ofSource (h : Class.ofSource ctx ancestors c = .ok laid) :
    Forall₂ (Source.Member.Becomes ctx.version) c.members laid.members := by
  obtain ⟨placed, hplaced, rfl⟩ := exists_placement_of_ofSource h
  rw [← hplaced.members, forall₂_map_left_iff, forall₂_map_right_iff,
    forall₂_same]
  exact fun p _ => becomes_ofSource ctx.version p.1 _

/-! ## Lengths and offsets -/

theorem baseLength_ofSource {placed : List (Source.Member × Slot)} (h : Placement ctx c placed)
    {p : Source.Member × Slot} (hp : p ∈ placed) :
    (Member.ofSource ctx.version p.1 (sharedSlot placed p)).baseLength = p.2.extent.baseLength
      ∧ (Member.ofSource ctx.version p.1 (sharedSlot placed p)).isFixedLength
        = p.2.extent.isFixedLength := by
  have hshared := sharedSlot_extent h hp
  have hextent := h.extent p hp
  obtain ⟨m, own⟩ := p
  rcases m with ⟨length⟩ | ⟨name, type, role⟩
  · rw [← Except.ok.inj hextent]
    exact ⟨rfl, rfl⟩
  · rw [← hshared]
    exact ⟨rfl, rfl⟩

theorem lengths_of_placed {placed part : List (Source.Member × Slot)}
    (h : Placement ctx c placed) (hpart : ∀ p ∈ part, p ∈ placed) :
    (part.map fun p => Member.ofSource ctx.version p.1 (sharedSlot placed p)).map
        (·.baseLength) = part.map (·.2.extent.baseLength)
      ∧ (part.map fun p => Member.ofSource ctx.version p.1 (sharedSlot placed p)).all
        (·.isFixedLength) = part.all (·.2.extent.isFixedLength) := by
  constructor
  · rw [map_map]
    exact map_congr_left fun p hp => (baseLength_ofSource h (hpart p hp)).1
  · rw [all_map, Bool.eq_iff_iff, all_eq_true, all_eq_true]
    refine forall₂_congr fun p hp => ?_
    rw [Function.comp_apply, (baseLength_ofSource h (hpart p hp)).2]

/-- A placed member's own slot lies behind the slots before it. -/
theorem offset_of_placed {earlier later : List (Source.Member × Slot)}
    {p : Source.Member × Slot} (h : Placement ctx c (earlier ++ p :: later)) :
    p.2.offset = if earlier.all (·.2.extent.isFixedLength)
      then some (earlier.map (·.2.extent.baseLength)).sum else none := by
  rw [offset_of_slotsFrom_eq (h.slots.symm.trans map_append), all_map, map_map,
    Bool.true_and, Nat.zero_add]
  rfl

/-- **Members lie one after another.** A class is as long as its members
together and fixed when it is not virtual and they all are, and a field lies
behind everything before it. -/
structure Class.LaidOut (c : Class) : Prop where
  /-- A field's offset is the sum of the lengths before it when those are fixed, and
  unknown otherwise. -/
  offset : (c.fields.map (·.name)).Nodup → ∀ before f after,
    c.members = before ++ .field f :: after →
      f.offset = if before.all (·.isFixedLength) then some (before.map (·.baseLength)).sum
        else none
  /-- A class is as long as its members together. -/
  baseLength : c.baseLength = (c.members.map (·.baseLength)).sum
  /-- Only a class that is not virtual, of fixed members only, is fixed. -/
  isFixedLength : c.isFixedLength = true
    ↔ c.isVirtual = false ∧ ∀ m ∈ c.members, m.isFixedLength = true

theorem fieldNames_of_placed (v : Version) (placed : List (Source.Member × Slot))
    (slot : Source.Member × Slot → Slot) :
    ((placed.map fun p => Member.ofSource v p.1 (slot p)).filterMap Member.field?).map (·.name)
      = placed.filterMap (·.1.name?) := by
  rw [filterMap_map, map_filterMap]
  refine filterMap_congr fun p _ => ?_
  obtain ⟨m, own⟩ := p
  rcases m with ⟨length⟩ | ⟨name, type, role⟩ <;> rfl

theorem offset_of_ofSource_eq_field {v : Version} {m : Source.Member} {slot : Slot} {f : Field}
    (h : Member.ofSource v m slot = .field f) :
    f.offset = slot.offset ∧ m.name? = some f.name := by
  rcases m with ⟨length⟩ | ⟨name, type, role⟩
  · cases h
  · cases h
    exact ⟨rfl, rfl⟩

/-- **What is laid out lies one after another.** -/
theorem laidOut_of_ofSource (h : Class.ofSource ctx ancestors c = .ok laid) : laid.LaidOut := by
  obtain ⟨placed, hplaced, rfl⟩ := exists_placement_of_ofSource h
  refine ⟨?_, ?_, ?_⟩
  · intro hnames before f after hsplit
    rw [Class.fields, fieldNames_of_placed] at hnames
    obtain ⟨earlier, later, rfl, hbefore, hlater⟩ := map_eq_append_iff.mp hsplit
    obtain ⟨p, rest, rfl, hp, -⟩ := map_eq_cons_iff.mp hlater
    have hname := (offset_of_ofSource_eq_field hp).2
    have hlengths := lengths_of_placed hplaced
      (fun q (hq : q ∈ earlier) => mem_append_left (p :: rest) hq)
    rw [(offset_of_ofSource_eq_field hp).1, sharedSlot_eq_own hnames hname,
      offset_of_placed hplaced, ← hbefore, hlengths.1, hlengths.2]
  · exact congrArg List.sum (lengths_of_placed hplaced (fun _ hp => hp)).1.symm
  · rw [← all_eq_true, (lengths_of_placed hplaced (fun _ hp => hp)).2, Bool.and_eq_true,
      Bool.not_eq_true']

/-- Where a member lies behind the given ones: after their lengths, as long as all of
these are fixed. -/
def Member.startBehind (before : List Member) : Option Nat :=
  if before.all (·.isFixedLength) then some (before.map (·.baseLength)).sum else none

/-- **Members that look alike lie where the last of them does**, for the members that a
class was declared with. -/
def Class.LikeLast (c : Class) (declared : List Source.Member) : Prop :=
  ∀ before m after, declared = before ++ m :: after → (∀ m' ∈ after, m'.key ≠ m.key) →
    ∀ (i : Nat) (m' : Source.Member) (laid : Member), declared[i]? = some m' → m'.key = m.key →
      c.members[i]? = some laid →
      laid.offset = Member.startBehind (c.members.take before.length)

theorem offset_ofSource (v : Version) (m : Source.Member) (slot : Slot) :
    (Member.ofSource v m slot).offset = slot.offset := by
  cases m <;> rfl

theorem likeLast_of_ofSource (h : Class.ofSource ctx ancestors c = .ok laid) :
    laid.LikeLast c.members := by
  obtain ⟨placed, hplaced, rfl⟩ := exists_placement_of_ofSource h
  intro before m after hsplit hlast i m' laid hi hkey hlaid
  rw [← hplaced.members] at hsplit hi
  obtain ⟨earlier, rest, rfl, rfl, hrest⟩ := map_eq_append_iff.mp hsplit
  obtain ⟨q, later, rfl, rfl, rfl⟩ := map_eq_cons_iff.mp hrest
  rw [getElem?_map, Option.map_eq_some_iff] at hi hlaid
  obtain ⟨p, hp, rfl⟩ := hi
  obtain ⟨p', hp', rfl⟩ := hlaid
  cases hp.symm.trans hp'
  have hlengths := lengths_of_placed hplaced
    (fun r (hr : r ∈ earlier) => mem_append_left (q :: later) hr)
  have hslot := @sharedSlot_eq_of_last earlier later p q
    (fun r hr => hlast r.1 (mem_map_of_mem hr)) hkey
  rw [offset_ofSource, hslot, offset_of_placed hplaced, Member.startBehind, length_map,
    ← map_take, take_left, hlengths.1, hlengths.2]

/-- A field of a class laid out takes what its declaration takes. -/
theorem extent_of_mem_fields (h : Class.ofSource ctx ancestors c = .ok laid) {f : Field}
    (hf : f ∈ laid.fields) :
    ∃ role e, .field f.name f.type role ∈ c.members
      ∧ ctx.memberExtent c.name (.field f.name f.type role) = .ok e
      ∧ f.baseLength = e.baseLength ∧ f.isFixedLength = e.isFixedLength := by
  obtain ⟨placed, hplaced, rfl⟩ := exists_placement_of_ofSource h
  obtain ⟨m, hm, hmf⟩ := mem_filterMap.mp hf
  obtain ⟨p, hp, rfl⟩ := mem_map.mp hm
  have hlengths := baseLength_ofSource hplaced hp
  have hextent := hplaced.extent p hp
  have hmem : p.1 ∈ c.members := by
    rw [← hplaced.members]
    exact mem_map_of_mem hp
  obtain ⟨m, own⟩ := p
  rcases m with ⟨length⟩ | ⟨name, type, role⟩
  · cases hmf
  · cases hmf
    exact ⟨role, own.extent, hmem, hextent, hlengths⟩

end OfSource

/-! ## Members whose type is a class

A type `T_t` stands for the class `T`. When `T` is the name of a class, the
type is neither a list nor an array nor octets, and what a member of it takes is
what the class known as `T` takes. -/

theorem isWordChar_of_mem_append_t (hname : isWord name) {ch : Char}
    (hch : ch ∈ (name ++ "_t").toList) : (ch.isAlphanum || ch == '_') = true := by
  unfold isWord at hname
  rw [Bool.and_eq_true, all_eq_true] at hname
  rw [String.toList_append, mem_append] at hch
  rcases hch with hch | hch
  · exact hname.2 ch hch
  · have htail : "_t".toList.all (fun c => c.isAlphanum || c == '_') = true := by decide
    exact all_eq_true.mp htail ch hch

theorem dropLast_append_t (name : String) : dropLast 2 (name ++ "_t") = name := by
  unfold Text.dropLast
  rw [String.toList_append, String.length_append]
  show String.ofList ((name.toList ++ "_t".toList).take (name.length + 2 - 2)) = name
  rw [Nat.add_sub_cancel, ← String.length_toList, take_left, String.ofList_toList]

theorem className_append_t (name : String) : className (name ++ "_t") = name := by
  have hline : endsWith (name ++ "_t") "\n" = false := by
    unfold endsWith
    rw [Bool.eq_false_iff, ne_eq, isSuffixOf_iff_suffix, String.toList_append]
    show ¬ ['\n'] <:+ name.toList ++ ['_', 't']
    rw [singleton_suffix_iff_getLast?_eq_some, getLast?_append]
    show ¬ some 't' = some '\n'
    decide
  have htail : endsWith (name ++ "_t") "_t" = true := by
    unfold endsWith
    rw [isSuffixOf_iff_suffix, String.toList_append]
    exact suffix_append _ _
  unfold className trimLineTail
  rw [show trimTail (name ++ "_t") "\n" = name ++ "_t" by
    unfold trimTail
    rw [hline]
    rfl]
  dsimp only
  rw [if_pos rfl, trimTail, if_pos htail]
  exact dropLast_append_t name

theorem splitChars_of_not_mem {p : Char → Bool} {cs : List Char} (h : ∀ ch ∈ cs, p ch = false) :
    splitChars p cs = [cs] := by
  induction cs with
  | nil => rfl
  | cons ch cs ih =>
    rw [splitChars, h ch mem_cons_self,
      ih fun c hc => h c (mem_cons_of_mem ch hc)]
    rfl

theorem countAndBase_append_t (hname : isWord name) :
    countAndBase (name ++ "_t") = .ok (1, name ++ "_t") := by
  have hsplit : splitOn '[' (name ++ "_t") = [name ++ "_t"] := by
    unfold Text.splitOn
    rw [splitChars_of_not_mem, map_singleton, String.ofList_toList]
    intro ch hch
    have hword := isWordChar_of_mem_append_t hname hch
    rw [beq_eq_false_iff_ne]
    rintro rfl
    exact absurd hword (by decide)
  unfold countAndBase countAndBaseWith
  rw [hsplit]

theorem isList_append_t (hname : isWord name) :
    isList (name ++ "_t") = false := by
  unfold isList startsWith
  rw [Bool.eq_false_iff, ne_eq, isPrefixOf_iff_prefix]
  intro hlist
  have hparen : '(' ∈ (name ++ "_t").toList := hlist.subset (by decide)
  exact absurd (isWordChar_of_mem_append_t hname hparen) (by decide)

theorem append_t_ne_octets (name : String) : name ++ "_t" ≠ "octets" := by
  intro h
  have hlast : (name ++ "_t").toList.getLast? = some 's' := by
    rw [h]
    decide
  rw [String.toList_append, getLast?_append] at hlast
  exact absurd (show some 't' = some 's' from hlast) (by decide)

/-- **A member of type `T_t` takes what the class known as `T` takes**, rounded up
to eight bytes when the class leaves its alignment out of its length. -/
theorem memberExtent_eq_of_class {className field : String}
    {role : Source.Role} {t : Class} {e : Extent} (hname : isWord name)
    (hmixed : mixedTypes.get? (name ++ "_t") = none)
    (hclass : ctx.classes.find? (fun c => c.name = name) = some t)
    (h : ctx.memberExtent className (.field field (name ++ "_t") role) = .ok e) :
    e = ⟨if t.hasExternalAlignment then Context.roundUp8 t.baseLength else t.baseLength,
      t.isFixedLength⟩ := by
  rw [Context.memberExtent, isList_append_t hname, if_neg Bool.false_ne_true] at h
  split at h
  · cases h
  rw [if_neg (append_t_ne_octets name)] at h
  unfold Context.typeExtent mixedForm? at h
  rw [countAndBase_append_t hname] at h
  simp only [pure_bind, hmixed, Option.map_none, dropLast_append_t, hclass] at h
  cases h
  rw [Int.one_mul, Int.toNat_natCast]

end FlowBindings
