import FlowBindings.Proofs.TypeLengths

/-!
# Members appended to a class

A class is laid out from its first member to its last, so members appended to a declaration should
leave the others where they are. Two things stand between a declaration and its layout. Slots are
filed by what a member looks like, so a member moves to the place of an appended one that looks like
it (`sharedSlot_append`). And the classes that the appended members name are laid out before the
class, so a type that is built in may come to find a class of its name that was not there.

Apart from that the two constructions are the same. Whatever the class needs is visited inside of
it, where the walk never looks at its declaration (`visit_grown`), so the longer class is laid out
behind what the shorter one is laid out behind, and maybe more (`visit_keepsLayout`).
-/

namespace FlowBindings

open List

/-- A class with members appended. -/
def Source.Class.grow (c : Class) (extra : List Member) : Class :=
  { c with members := c.members ++ extra }

/-! ## The layout of a longer class -/

/-- Slots do not depend on what follows. -/
theorem slotsFrom_isPrefix (offset : Nat) (known : Bool) (extents more : List Extent) :
    slotsFrom offset known extents <+: slotsFrom offset known (extents ++ more) := by
  induction extents generalizing offset known with
  | nil => exact nil_prefix
  | cons e rest ih => exact (prefix_cons_inj _).mpr (ih _ _)

/-- A member that no member behind looks like has the slot that it has without them. -/
theorem sharedSlot_append {placed more : List (Source.Member × Slot)} {p : Source.Member × Slot}
    (h : ∀ q ∈ more, q.1.key ≠ p.1.key) : sharedSlot (placed ++ more) p = sharedSlot placed p := by
  have hmore : ((more.map fun q => (q.1.key, q.2)).reverse.find? fun r => r.1 = p.1.key)
      = none := by
    rw [List.find?_eq_none]
    intro r hr
    obtain ⟨q, hq, rfl⟩ := mem_map.mp (mem_reverse.mp hr)
    simpa using h q hq
  unfold sharedSlot filedSlot
  rw [map_append, reverse_append, List.find?_append, hmore, Option.none_or]

theorem toOption_memberExtent {ctx : Context} {className field type : String} (role : Source.Role) :
    (ctx.memberExtent className (.field field type role)).toOption = ctx.extent? type := by
  cases h : ctx.memberExtent className (.field field type role) with
  | ok e => exact ((Context.memberExtent_endsIn role).of_ok h).symm
  | error e => exact ((Context.memberExtent_endsIn role).of_error h).extent.symm

section Grown

variable {ctx ctx' : Context} {c : Source.Class} {extra : List Source.Member}

/-- What placed members take, read off what they are. -/
theorem extents_of_placed {className : String} {part : List (Source.Member × Slot)}
    (h : ∀ p ∈ part, ctx.memberExtent className p.1 = .ok p.2.extent) :
    (part.map (·.2.extent)).map some
      = (part.map Prod.fst).map fun m => (ctx.memberExtent className m).toOption := by
  rw [map_map, map_map]
  refine map_congr_left fun p hp => ?_
  rw [Function.comp_apply, Function.comp_apply, h p hp]
  rfl

/-- **The members of the shorter class are placed as in the longer one**, if both measure them
alike. -/
theorem Placement.exists_more {placed placed' : List (Source.Member × Slot)}
    (h : Placement ctx c placed) (h' : Placement ctx' (c.grow extra) placed')
    (halike : ∀ m ∈ c.members,
      (ctx'.memberExtent c.name m).toOption = (ctx.memberExtent c.name m).toOption) :
    ∃ more, placed' = placed ++ more ∧ more.map Prod.fst = extra := by
  obtain ⟨front, more, rfl, hfront, hmore⟩ := map_eq_append_iff.mp h'.members
  refine ⟨more, congrArg (· ++ more) ?_, hmore⟩
  have hextents : front.map (·.2.extent) = placed.map (·.2.extent) := by
    have hread := extents_of_placed fun p hp => h'.extent p (mem_append_left more hp)
    rw [hfront] at hread
    refine map_injective_iff.mpr (fun _ _ => Option.some.inj) (hread.trans ?_)
    rw [extents_of_placed h.extent, h.members]
    exact map_congr_left halike
  -- so their slots are the first ones in both
  have hslots : front.map Prod.snd = placed.map Prod.snd := by
    obtain ⟨rest, hrest⟩ :=
      slotsFrom_isPrefix 0 true (placed.map (·.2.extent)) (more.map (·.2.extent))
    have hlonger := h'.slots
    rw [map_append, map_append, hextents, ← hrest, ← h.slots] at hlonger
    exact append_inj_left hlonger (by simpa using congrArg List.length hextents)
  rw [zip_of_prod hfront rfl, zip_of_prod h.members rfl, hslots]

/-- **What a member keeps** in a class that has grown by the members `extra`: its lengths, and its
offset if no appended member looks like it. -/
def Stays (extra : List Source.Member) (m : Source.Member) (x x' : Member) : Prop :=
  x'.baseLength = x.baseLength ∧ x'.isFixedLength = x.isFixedLength
    ∧ ((∀ m' ∈ extra, m'.key ≠ m.key) → x'.offset = x.offset)

/-- **The members of a class that grows**, where both layouts measure them alike. -/
theorem stays_of_ofSource {anc anc' : List Ancestor} {e e' : Class}
    (h : Class.ofSource ctx anc c = .ok e) (h' : Class.ofSource ctx' anc' (c.grow extra) = .ok e')
    (halike : ∀ m ∈ c.members,
      (ctx'.memberExtent c.name m).toOption = (ctx.memberExtent c.name m).toOption)
    {i : Nat} {m : Source.Member} (hm : c.members[i]? = some m) :
    ∃ x x', e.members[i]? = some x ∧ e'.members[i]? = some x' ∧ Stays extra m x x' := by
  obtain ⟨placed, hplaced, rfl⟩ := exists_placement_of_ofSource h
  obtain ⟨placed', hplaced', rfl⟩ := exists_placement_of_ofSource h'
  obtain ⟨more, rfl, hmore⟩ := hplaced.exists_more hplaced' halike
  rw [← hplaced.members, List.getElem?_map, Option.map_eq_some_iff] at hm
  obtain ⟨p, hp, rfl⟩ := hm
  have hmem : p ∈ placed := mem_of_getElem? hp
  have hp' : (placed ++ more)[i]? = some p := by
    rw [List.getElem?_append_left (List.getElem?_eq_some_iff.mp hp).1, hp]
  refine ⟨_, _, by rw [List.getElem?_map, hp]; rfl, by rw [List.getElem?_map, hp']; rfl, ?_⟩
  have hlengths := baseLength_ofSource hplaced hmem
  have hlengths' := baseLength_ofSource hplaced' (mem_append_left more hmem)
  refine ⟨hlengths'.1.trans hlengths.1.symm, hlengths'.2.trans hlengths.2.symm, fun hnone => ?_⟩
  have hslot : sharedSlot (placed ++ more) p = sharedSlot placed p :=
    sharedSlot_append fun q hq => hnone _ (hmore ▸ mem_map_of_mem hq)
  dsimp only
  rw [hslot]
  obtain ⟨⟨length⟩ | ⟨name, type, role⟩, own⟩ := p <;> rfl

end Grown

namespace Protocol

variable {v : Version} {decls : Declared} {enums : List Enum} {c : Source.Class}
  {extra : List Source.Member} {file : String} (hget : decls.get? c.name = some (c, file))

include hget

theorem dependencies_grown :
    dependencies (decls.set c.name (c.grow extra, file)) = dependencies decls := by
  have hhas : (decls.set c.name (c.grow extra, file)).has = decls.has := by
    funext n
    rw [Table.has_eq_isSome, Table.has_eq_isSome]
    by_cases hn : n = c.name
    · rw [hn, hget, Table.get?_set_self]
      rfl
    · rw [Table.get?_set_of_ne _ _ hn]
  unfold dependencies
  rw [hhas]

/-- **Inside of a class the walk does not look at its declaration.** -/
theorem visit_grown {path : List String} (hpath : c.name ∈ path) (fuel : Nat) (name : String)
    (done : List Class) :
    visit v (decls.set c.name (c.grow extra, file)) enums fuel path name done
      = visit v decls enums fuel path name done := by
  induction fuel generalizing path name done with
  | zero => rfl
  | succ fuel ih =>
    rw [visit_succ, visit_succ]
    by_cases hname : name = c.name
    · rw [hname, if_pos hpath, if_pos hpath]
    · rw [Table.get?_set_of_ne _ _ hname]
      unfold prerequisites
      simp only [dependencies_grown hget, ih (mem_append_left [name] hpath)]

/-- **A class with members appended keeps its layout.** From the same state, a class and the class
with members appended are laid out behind the same classes, the longer one maybe behind more of
them. If no member's type asks for one of the latter, every member of the shorter class has the
lengths that it has in the longer one, and if no appended member looks like it, it has the same
offset. -/
theorem visit_keepsLayout (hnamed : Named decls) {fuel : Nat} {path : List String}
    {done laid laid' : List Class} (hnew : c.name ∉ names done)
    (h : visit v decls enums fuel path c.name done = .ok laid)
    (h' : visit v (decls.set c.name (c.grow extra, file)) enums fuel path c.name done = .ok laid') :
    ∃ ctx ctx' e e', laid = ctx ++ [e] ∧ laid' = ctx' ++ [e'] ∧ ctx <+: ctx'
      ∧ e.name = c.name ∧ e'.name = c.name
      ∧ ((∀ m ∈ c.members, ∀ type ∈ m.type?, Knows v ctx' type → Knows v ctx type) →
        ∀ (i : Nat) m, c.members[i]? = some m → ∃ x x',
          e.members[i]? = some x ∧ e'.members[i]? = some x' ∧ Stays extra m x x') := by
  obtain ⟨hold, -⟩ | ⟨fuel, _, _, ctx, e, rfl, -, -, hown, hready, hlaid, rfl⟩ := visit_cases h
  · exact absurd hold hnew
  cases hget.symm.trans hown
  obtain ⟨hold, -⟩ | ⟨_, _, _, ctx', e', hfuel, -, -, hown', hready', hlaid', rfl⟩ := visit_cases h'
  · exact absurd hold hnew
  cases hfuel
  cases (Table.get?_set_self ..).symm.trans hown'
  have hinside : c.name ∈ path ++ [c.name] := mem_append_right _ mem_cons_self
  have hneeds : prerequisites (decls.set c.name (c.grow extra, file)) (c.grow extra)
      = prerequisites decls c ++ extra.flatMap (dependencies decls) := by
    unfold prerequisites
    rw [dependencies_grown hget, Source.Class.grow, flatMap_append, append_assoc]
  simp only [visit_grown hget hinside, hneeds, foldlM_append] at hready'
  obtain ⟨mid, hmid, hmore⟩ := bind_eq_ok_iff.mp hready'
  cases hready.symm.trans hmid
  have hpre : ctx <+: ctx' := foldlM_invariant (ctx <+: ·)
    (fun _ _ _ _ hvisit hb => hb.trans (visit_walk hnamed hvisit).1.1.isPrefix) hmore prefix_rfl
  refine ⟨ctx, ctx', e, e', rfl, rfl, hpre, (ofSource_fields hlaid).1, (ofSource_fields hlaid').1,
    fun hasks i m hm => stays_of_ofSource hlaid hlaid' (fun m hm => ?_) hm⟩
  rcases m with ⟨length⟩ | ⟨name, type, role⟩
  · rfl
  rw [toOption_memberExtent, toOption_memberExtent]
  rw [extent?_eq_ite enums hpre]
  by_cases hknown : Knows v ctx type
  · rw [if_pos hknown]
  · rw [if_neg hknown, extent?_eq_ite enums prefix_rfl, if_neg (mt (hasks _ hm type rfl) hknown)]

omit hget

/-- A class of padding, a number, some bytes and appended members. -/
def paddedClass (extra : List Source.Member) : Source.Class where
  name := "of_a"
  superclass := none
  members := [.pad 4, .field "x" "uint16_t" .data, .field "y" "uint8_t[2]" .data] ++ extra
  isVirtual := false
  params := []

/-- The class beside one that is named as bytes are. -/
def paddedTable (extra : List Source.Member) : Declared :=
  [("of_a", paddedClass extra, "f"),
    ("uint8", { paddedClass [] with name := "uint8", members := [.pad 5] }, "f")]

/-- The class laid out by itself. -/
def paddedVisit (extra : List Source.Member) : Except Error (List Class) :=
  visit .v10 (paddedTable extra) [] 3 [] "of_a" []

/-- Padding behind the members moves none of them. -/
theorem visit_keepsLayout_padded :
    ∃ e e', paddedVisit [] = .ok [e] ∧ paddedVisit [.pad 2] = .ok [e']
      ∧ ∀ (i : Nat) m, (paddedClass []).members[i]? = some m →
        ∃ x x', e.members[i]? = some x ∧ e'.members[i]? = some x' ∧ x'.offset = x.offset := by
  have hsingle : ∀ extra ∈ [[], [.pad 2]],
      (paddedVisit extra).toOption.any (fun laid => laid.length = 1) = true := by decide
  obtain ⟨laid, h, hlength⟩ := exists_ok_of_any (hsingle [] (by simp))
  obtain ⟨laid', h', hlength'⟩ := exists_ok_of_any (hsingle [.pad 2] (by simp))
  have hnamed : Named (paddedTable []) := by
    intro n c file hget
    have hall : ∀ row ∈ paddedTable [], row.2.1.name = row.1 := by decide
    exact hall _ (Table.mem_of_get? hget)
  obtain ⟨ctx, ctx', e, e', rfl, rfl, -, -, -, hkeeps⟩ :=
    visit_keepsLayout (c := paddedClass []) rfl hnamed not_mem_nil h h'
  obtain rfl : ctx = [] := by simpa using hlength
  obtain rfl : ctx' = [] := by simpa using hlength'
  refine ⟨e, e', h, h', fun i m hm => ?_⟩
  obtain ⟨x, x', hx, hx', -, -, hoffset⟩ := hkeeps (fun _ _ _ _ hknows => hknows) i m hm
  have hunlike : ∀ m ∈ (paddedClass []).members, .pad 2 ≠ m.key := by decide
  exact ⟨x, x', hx, hx', hoffset (forall_mem_singleton.mpr (hunlike m (mem_of_getElem? hm)))⟩

/-- **Appended members that disturb the layout**: padding that looks like the padding in front, and
a byte, which has the class laid out first that is named as bytes are. -/
theorem layout_disturbed :
    let layout extra := (paddedVisit extra).toOption.bind fun laid => laid.getLast?.map fun e =>
      e.members.map fun x => (x.baseLength, x.offset)
    layout [] = some [(4, some 0), (2, some 4), (2, some 6)]
      ∧ layout [.pad 4] = some [(4, some 8), (2, some 4), (2, some 6), (4, some 8)]
      ∧ layout [.field "z" "uint8_t" .data]
        = some [(4, some 0), (2, some 4), (10, some 6), (5, some 16)] := by
  decide

end Protocol

end FlowBindings
