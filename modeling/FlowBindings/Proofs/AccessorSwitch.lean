import FlowBindings.Proofs.CatalogParts
import FlowBindings.Proofs.Lines
import FlowBindings.Proofs.Sorting

/-!
# The switches of accessors

Every accessor begins with a switch over versions, in which neighbouring versions that agree
on the offset and the length of the member share an arm. This module reads the switch back
from the text of the accessor: the lines between its head and its default
(`switchLines`), and the statements that are reached from a label, through the labels below
it and up to the first break (`reachedFrom`).

Every version has one label, and what is reached from it is what one of the versions in its
arm needs (`accessorSwitch_serves`). It is what the version itself needs if and only if the
two are alike (`Alike`). They need not be: two versions can agree on the least length of a
class, while its objects all have this length in one of them and vary in the other
(`accessorSwitch_unlike`).
-/

namespace FlowBindings.Loci.Catalog

open Text Table
open List hiding concat concat_append concat_cons concat_nil

/-! ## Reading a switch -/

/-- The line that opens the switch of an accessor. -/
def switchLine : String := "    switch (ver) \x7b\n"

/-- The line behind the arms of a switch. -/
def defaultLine : String := "    default:\n"

/-- The line that ends an arm. -/
def breakLine : String := "        break;\n"

def caseLine (label : String) : String := "    case " ++ label ++ ":\n"

/-- Whether a line is a label. -/
def isCaseLine (line : String) : Bool := startsWith line "    case "

/-- The lines of the arms of an accessor's switch. -/
def switchLines (text : String) : List String :=
  (((linesKept text).dropWhile (· ≠ switchLine)).drop 1).takeWhile (· ≠ defaultLine)

/-- **What is reached from a label**: the statements behind it, through further labels, up to
the first break. -/
def reachedFrom (label : String) (lines : List String) : List String :=
  ((lines.dropWhile (· ≠ caseLine label)).takeWhile (· ≠ breakLine)).filter (!isCaseLine ·)

section Lines

/-- A long front decides whether a text begins with a short one. -/
theorem startsWith_append_of_le {a lead : String} (h : lead.toList.length ≤ a.toList.length)
    (s : String) : startsWith (a ++ s) lead = startsWith a lead := by
  unfold startsWith
  rw [Bool.eq_iff_iff, isPrefixOf_iff_prefix, isPrefixOf_iff_prefix, String.toList_append]
  exact ⟨fun hpre => prefix_of_prefix_length_le hpre (prefix_append _ _) h,
    fun hpre => hpre.trans (prefix_append _ _)⟩

theorem isCaseLine_caseLine (label : String) : isCaseLine (caseLine label) = true := by
  unfold isCaseLine caseLine
  rw [String.append_assoc, startsWith_append_of_le (by decide)]
  exact startsWith_self _

theorem caseLine_injective {l l' : String} (h : caseLine l = caseLine l') : l = l' := by
  unfold caseLine at h
  rwa [String.append_left_inj, String.append_right_inj] at h

theorem caseLine_ne {line : String} (h : isCaseLine line = false) (label : String) :
    caseLine label ≠ line := by
  rintro rfl
  rw [isCaseLine_caseLine] at h
  cases h

theorem isLine_caseLine {label : String} (h : '\n' ∉ label.toList) : IsLine (caseLine label) := by
  refine IsLine.append ?_ (by decide)
  rw [String.toList_append, mem_append, not_or]
  exact ⟨by decide, h⟩

/-- A text that ends with a line and opens no switch. -/
def OpensNoSwitch (s : String) : Prop := EndsLine s ∧ ∀ l ∈ linesKept s, l ≠ switchLine

instance (s : String) : Decidable (OpensNoSwitch s) := inferInstanceAs (Decidable (_ ∧ _))

/-- Whether a text opens a switch, character by character. -/
theorem opensNoSwitch_ofList {cs : List Char} :
    OpensNoSwitch (String.ofList cs) ↔
      cs.getLast?.all (· = '\n') = true ∧ ∀ l ∈ linesKept.go cs, l ≠ switchLine.toList := by
  unfold OpensNoSwitch EndsLine linesKept
  rw [String.toList_ofList]
  refine and_congr ?_ ?_
  · cases cs.getLast? <;> simp
  · rw [forall_mem_map]
    refine forall₂_congr fun l _ => not_congr ?_
    rw [← String.toList_inj, String.toList_ofList]

variable {s : String}

theorem OpensNoSwitch.append {t : String} (hs : OpensNoSwitch s) (ht : OpensNoSwitch t) :
    OpensNoSwitch (s ++ t) := by
  refine ⟨hs.1.append ht.1, fun l hl => ?_⟩
  rw [linesKept_append hs.1, mem_append] at hl
  exact hl.elim (hs.2 l) (ht.2 l)

theorem opensNoSwitch_of_isLine (h : IsLine s) (hs : s ≠ switchLine) :
    OpensNoSwitch s := by
  refine ⟨h.endsLine, fun l hl => ?_⟩
  have hlines := linesKept_line_append h ""
  rw [String.append_empty] at hlines
  rw [hlines] at hl
  rw [mem_singleton.mp hl]
  exact hs

theorem opensNoSwitch_when (h : OpensNoSwitch s) (condition : Bool) :
    OpensNoSwitch (when condition s) := by
  cases condition with
  | true => exact h
  | false => exact ⟨nofun, nofun⟩

theorem switchLines_eq {front foot : String} {lines : List String} (hfront : OpensNoSwitch front)
    (hlines : ∀ l ∈ lines, IsLine l ∧ l ≠ defaultLine) (hfoot : startsWith foot defaultLine = true)
    (back : String) :
    switchLines (front ++ switchLine ++ concat lines ++ foot ++ back) = lines := by
  obtain ⟨rest, hrest⟩ := isPrefixOf_iff_prefix.mp hfoot
  obtain rfl : foot = defaultLine ++ String.ofList rest := by
    rw [← String.toList_inj, String.toList_append, String.toList_ofList, hrest]
  unfold switchLines
  simp only [String.append_assoc]
  rw [linesKept_append hfront.1, linesKept_line_append (by decide : IsLine switchLine),
    linesKept_concat_append fun l hl => (hlines l hl).1,
    linesKept_line_append (by decide : IsLine defaultLine),
    dropWhile_append_of_pos fun l hl => decide_eq_true (hfront.2 l hl),
    dropWhile_cons_of_neg (by simp), drop_one, tail_cons,
    takeWhile_append_of_pos fun l hl => decide_eq_true (hlines l hl).2,
    takeWhile_cons_of_neg (by simp), append_nil]

end Lines

/-! ## Assignments -/

section Assignments

variable {c : Catalog} {cls member type : String} {wire : Nat} {offset : Int}
  {a : Assignments}

def Assignments.statements (a : Assignments) : List String :=
  ("        offset = " ++ a.offset ++ ";\n")
    :: (a.length.map fun l => "        cur_len = " ++ l ++ ";\n").toList

theorem Assignments.render_eq (a : Assignments) :
    a.render = concat (a.statements ++ [breakLine]) := by
  unfold Assignments.render Assignments.statements
  cases a.length with
  | none => simp [concat_cons, breakLine, String.append_assoc]
  | some l => simp [concat_cons, breakLine, String.append_assoc]

/-- Assignments whose expressions are each on one line. -/
def Assignments.OnOneLine (a : Assignments) : Prop :=
  '\n' ∉ a.offset.toList ∧ ∀ l ∈ a.length, '\n' ∉ l.toList

/-- A statement is a line that is neither a label nor one of the marks of a switch. -/
theorem Assignments.OnOneLine.statement (h : a.OnOneLine) {l : String} (hl : l ∈ a.statements) :
    IsLine l ∧ isCaseLine l = false ∧ l ≠ breakLine ∧ l ≠ defaultLine := by
  have hassign : ∀ {lead x : String}, lead ∈ ["        offset = ", "        cur_len = "] →
      '\n' ∉ x.toList → IsLine (lead ++ x ++ ";\n") ∧ isCaseLine (lead ++ x ++ ";\n") = false
        ∧ lead ++ x ++ ";\n" ≠ breakLine ∧ lead ++ x ++ ";\n" ≠ defaultLine := by
    intro lead x hlead hx
    have hleads : ∀ lead ∈ ["        offset = ", "        cur_len = "],
        '\n' ∉ lead.toList ∧ "    case ".toList.length ≤ lead.toList.length
          ∧ isCaseLine lead = false ∧ startsWith breakLine lead = false
          ∧ startsWith defaultLine lead = false := by
      decide
    obtain ⟨hline, hlength, hcase, hbreak, hdefault⟩ := hleads lead hlead
    have hbegin : startsWith (lead ++ (x ++ ";\n")) lead = true :=
      startsWith_append _ (startsWith_self _)
    rw [← String.append_assoc] at hbegin
    refine ⟨IsLine.append ?_ (by decide), ?_, fun heq => ?_, fun heq => ?_⟩
    · rw [String.toList_append, mem_append, not_or]
      exact ⟨hline, hx⟩
    · rw [isCaseLine, String.append_assoc, startsWith_append_of_le hlength]
      exact hcase
    · rw [heq, hbreak] at hbegin
      cases hbegin
    · rw [heq, hdefault] at hbegin
      cases hbegin
  rcases mem_cons.mp hl with rfl | hl
  · exact hassign (by decide) h.1
  · obtain ⟨x, hx, rfl⟩ := Option.map_eq_some_iff.mp (Option.mem_toList.mp hl)
    exact hassign (by decide) (h.2 x hx)

theorem Assignments.OnOneLine.linesKept_render (h : a.OnOneLine) :
    linesKept a.render = a.statements ++ [breakLine] := by
  rw [Assignments.render_eq]
  refine linesKept_concat fun l hl => ?_
  rcases mem_append.mp hl with hl | hl
  · exact (h.statement hl).1
  · rw [mem_singleton.mp hl]
    decide

/-- The expression for a length that varies is one of a few texts, none of them a number. -/
theorem lengthExpr_chars (c : Catalog) (cls member type : String) :
    '\n' ∉ (c.lengthExpr cls member type).toList
      ∧ ∃ d ∈ (c.lengthExpr cls member type).toList, d.isDigit = false := by
  have htexts : ∀ text ∈ ["_WIRE_MATCH_PADDED_LEN(obj, offset)", "wire_match_len(obj, 0) - 4",
      "_TLV16_LEN(obj, offset)", "_PACKET_OUT_ACTION_LEN(obj)", "of_object_u16_get(obj, 18)",
      "of_object_u16_get(obj, 2)", "_END_LEN(obj, offset)"],
      '\n' ∉ text.toList ∧ text.toList.any (fun d => !d.isDigit) = true := by
    decide
  obtain ⟨hline, hany⟩ := htexts (c.lengthExpr cls member type) (by
    unfold lengthExpr
    repeat' split
    all_goals decide)
  obtain ⟨d, hd, hdigit⟩ := any_eq_true.mp hany
  exact ⟨hline, d, hd, by simpa using hdigit⟩

/-- The macros for offsets that vary are each on one line. -/
theorem offsetMacro_onOneLine (hclass : WordChars cls)
    (h : hasOffsetMacro cls member = true) :
    '\n' ∉ ("_" ++ dropFirst 3 (upper cls) ++ "_" ++ upper member
      ++ "_OFFSET(obj)").toList := by
  have hmembers : ∀ name ∈ ["instructions", "data", "value", "stats"], WordChars name := by decide
  have hmember : WordChars member := by
    refine hmembers member ?_
    unfold hasOffsetMacro at h
    rw [Bool.or_eq_true, Bool.and_eq_true, decide_eq_true_eq, contains_iff_mem] at h
    rcases h with ⟨-, rfl⟩ | h
    · decide
    · simp only [mem_cons, Prod.mk.injEq, not_mem_nil, or_false] at h
      rcases h with h | h | h | h | h | h <;> rw [h.2] <;> decide
  simp only [String.toList_append, mem_append, not_or]
  exact ⟨⟨⟨⟨by decide, (hclass.upper.dropFirst 3).not_mem (by decide)⟩, by decide⟩,
    hmember.upper.not_mem (by decide)⟩, by decide⟩

/-- The expression for the offset of a member. -/
def offsetExpr (cls member : String) (offset : Int) : Outcome String :=
  if offset ≠ -1 then pure (toString offset)
  else if hasOffsetMacro cls member then
    pure ("_" ++ dropFirst 3 (upper cls) ++ "_" ++ upper member ++ "_OFFSET(obj)")
  else throw (.exit 1 [] "")

/-- The expression for the current length of a member in a version; members handled by value
need none. -/
def currentLength (c : Catalog) (cls member type : String) (wire : Nat) :
    Outcome (Option String) :=
  if WireForm.isScalar type then pure none
  else if c.isVariable (dropLast 2 type) wire || type = "of_match_t" then
    pure (some (c.lengthExpr cls member type))
  else
    match c.baseLengths.get? (dropLast 2 type, wire) with
    | some n => pure (some (toString n))
    | none => throw (.noEntry type)

/-- **The offset does not depend on the version, and the length not on the offset.** -/
theorem assignments_eq_ok_iff :
    c.assignments cls member wire type offset = .ok a ↔
      offsetExpr cls member offset = .ok a.offset
        ∧ c.currentLength cls member type wire = .ok a.length := by
  have hsplit : c.assignments cls member wire type offset = (do
      let o ← offsetExpr cls member offset
      let l ← c.currentLength cls member type wire
      pure ⟨o, l⟩) := by
    unfold assignments offsetExpr currentLength
    dsimp only
    split_ifs <;> try rfl
    all_goals cases c.baseLengths.get? (dropLast 2 type, wire) <;> rfl
  rw [hsplit]
  simp only [bind_eq_ok_iff]
  constructor
  · rintro ⟨o, ho, l, hl, h⟩
    cases h
    exact ⟨ho, hl⟩
  · rintro ⟨ho, hl⟩
    exact ⟨_, ho, _, hl, rfl⟩

theorem offsetExpr_onOneLine (hclass : WordChars cls) {o : String}
    (h : offsetExpr cls member offset = .ok o) : '\n' ∉ o.toList := by
  unfold offsetExpr at h
  split_ifs at h with hoffset hmacro
  · cases h
    intro hmem
    rcases mem_toString_int hmem with hdigit | hminus
    · exact absurd hdigit (by decide)
    · exact absurd hminus (by decide)
  · cases h
    exact offsetMacro_onOneLine hclass hmacro

/-- The three kinds of a current length. -/
theorem currentLength_cases {l : Option String}
    (h : c.currentLength cls member type wire = .ok l) :
    WireForm.isScalar type = true ∧ l = none
      ∨ (c.isVariable (dropLast 2 type) wire = true ∨ type = "of_match_t")
        ∧ l = some (c.lengthExpr cls member type)
      ∨ c.isVariable (dropLast 2 type) wire = false
        ∧ ∃ n, c.baseLengths.get? (dropLast 2 type, wire) = some n ∧ l = some (toString n) := by
  unfold currentLength at h
  split_ifs at h with hscalar hvaries
  · cases h
    exact .inl ⟨hscalar, rfl⟩
  · cases h
    exact .inr (.inl ⟨by simpa using hvaries, rfl⟩)
  · split at h
    · next n hn =>
      cases h
      rw [Bool.or_eq_true, not_or, Bool.not_eq_true] at hvaries
      exact .inr (.inr ⟨hvaries.1, n, hn, rfl⟩)
    · cases h

theorem currentLength_onOneLine {l : Option String}
    (h : c.currentLength cls member type wire = .ok l) : ∀ x ∈ l, '\n' ∉ x.toList := by
  rcases currentLength_cases h with ⟨-, rfl⟩ | ⟨-, rfl⟩ | ⟨-, n, -, rfl⟩
  · intro x hx
    cases hx
  · rintro x ⟨⟩
    exact (lengthExpr_chars c cls member type).1
  · rintro x ⟨⟩ hmem
    exact absurd (isDigit_of_mem_repr hmem) (by decide)

theorem assignments_onOneLine (hclass : WordChars cls)
    (h : c.assignments cls member wire type offset = .ok a) : a.OnOneLine := by
  rw [assignments_eq_ok_iff] at h
  exact ⟨offsetExpr_onOneLine hclass h.1, currentLength_onOneLine h.2⟩

end Assignments

/-! ## Versions that are alike -/

/-- **Two versions that need the same length** of a member: it is handled by value or a match,
or the objects of its class vary in length in both, or they all have one and the same
length. -/
def Alike (c : Catalog) (type : String) (v w : Nat) : Prop :=
  WireForm.isScalar type = true ∨ type = "of_match_t"
    ∨ c.isVariable (dropLast 2 type) v = true ∧ c.isVariable (dropLast 2 type) w = true
    ∨ c.isVariable (dropLast 2 type) v = false ∧ c.isVariable (dropLast 2 type) w = false
      ∧ c.baseLengths.get? (dropLast 2 type, v) = c.baseLengths.get? (dropLast 2 type, w)

section Alike

variable {c : Catalog} {cls member type : String} {v w : Nat}

theorem currentLength_eq_of_alike (h : c.Alike type v w) :
    c.currentLength cls member type v = c.currentLength cls member type w := by
  unfold currentLength
  rcases h with hscalar | rfl | ⟨hv, hw⟩ | ⟨hv, hw, hlength⟩
  · rw [if_pos hscalar, if_pos hscalar]
  · simp
  · rw [hv, hw, Bool.true_or, if_pos rfl, if_pos rfl]
  · rw [hv, hw, hlength]

/-- Versions with the same text for the length are alike: what varies is not written as a
number. -/
theorem alike_of_currentLength_eq {l : Option String}
    (hv : c.currentLength cls member type v = .ok l)
    (hw : c.currentLength cls member type w = .ok l) : c.Alike type v w := by
  have hexpr : ∀ n : Nat, toString n ≠ c.lengthExpr cls member type := by
    intro n heq
    obtain ⟨d, hd, hdigit⟩ := (lengthExpr_chars c cls member type).2
    rw [← heq] at hd
    rw [isDigit_of_mem_repr hd] at hdigit
    cases hdigit
  rcases currentLength_cases hv with ⟨hscalar, -⟩ | ⟨hvaries, rfl⟩ | ⟨hfixed, n, hn, rfl⟩
  · exact .inl hscalar
  · rcases currentLength_cases hw with ⟨hscalar, -⟩ | ⟨hvaries', -⟩ | ⟨-, n, -, heq⟩
    · exact .inl hscalar
    · rcases hvaries with hvaries | hmatch
      · exact .inr (hvaries'.symm.imp_right fun hvaries' => .inl ⟨hvaries, hvaries'⟩)
      · exact .inr (.inl hmatch)
    · exact absurd (Option.some.inj heq).symm (hexpr n)
  · rcases currentLength_cases hw with ⟨hscalar, -⟩ | ⟨-, heq⟩ | ⟨hfixed', n', hn', heq⟩
    · exact .inl hscalar
    · exact absurd (Option.some.inj heq) (hexpr n)
    · obtain rfl : n = n' := repr_injective (Option.some.inj heq)
      exact .inr (.inr (.inr ⟨hfixed, hfixed', hn.trans hn'.symm⟩))

theorem length_eq_of_statements_eq {a b : Assignments} (h : a.statements = b.statements) :
    a.length = b.length := by
  have hlength := congrArg List.head? (List.cons.inj h).2
  rw [Option.head?_toList, Option.head?_toList] at hlength
  refine Option.map_injective (fun x y heq => ?_) hlength
  rwa [String.append_left_inj, String.append_right_inj] at heq

/-- **A text made for one version is the text of another** if and only if the two are alike. -/
theorem alike_iff_own {offset : Int} {shared : Assignments} (hclass : WordChars cls)
    (h : c.assignments cls member w type offset = .ok shared) :
    c.Alike type v w ↔ ∃ own, c.assignments cls member v type offset = .ok own
      ∧ shared.statements ++ [breakLine] = linesKept own.render := by
  constructor
  · intro halike
    refine ⟨shared, ?_, (assignments_onOneLine hclass h).linesKept_render.symm⟩
    rw [assignments_eq_ok_iff] at h ⊢
    rw [currentLength_eq_of_alike halike]
    exact h
  · rintro ⟨own, hown, htext⟩
    rw [(assignments_onOneLine hclass hown).linesKept_render, append_cancel_right_eq] at htext
    rw [assignments_eq_ok_iff] at h hown
    rw [length_eq_of_statements_eq htext] at h
    exact alike_of_currentLength_eq hown.2 h.2

end Alike

/-! ## Arms -/

/-- **An arm that serves its versions**: they agree on where the member lies and how long it
is, and the arm assigns what one of them needs. -/
def Arm.Serves (c : Catalog) (cls member type : String) (places : List (Nat × Placement))
    (arm : Arm) : Prop :=
  ∃ offset len,
    (∀ v ∈ arm.wires, ∃ q, (v, q) ∈ places ∧ q.offset = offset ∧ c.lengthOf q.type v = .ok len)
      ∧ ∃ w ∈ arm.wires, c.assignments cls member w type offset = .ok arm.body

section Arms

variable {c : Catalog} {cls member type : String}

/-- **Arms cover the versions in order, and each arm serves its versions.** A version joins
the arm before it if it agrees with it, and opens the next one otherwise. -/
theorem armsFrom_serves {places rest : List (Nat × Placement)} {first : Nat} {wires : List Nat}
    {p : Placement} {len : Int} {arms : List Arm} (hfirst : first ∈ wires)
    (hwires : ∀ v ∈ wires, ∃ q, (v, q) ∈ places ∧ q.offset = p.offset
      ∧ c.lengthOf q.type v = .ok len) (hrest : rest ⊆ places)
    (h : c.armsFrom cls member type first wires p len rest = .ok arms) :
    arms.flatMap Arm.wires = wires ++ rest.map (·.1)
      ∧ ∀ arm ∈ arms, arm.Serves c cls member type places := by
  induction rest generalizing first wires p len arms with
  | nil =>
    obtain ⟨body, hbody, h⟩ := bind_eq_ok_iff.mp h
    cases h
    refine ⟨by simp, fun arm harm => ?_⟩
    rw [mem_singleton.mp harm]
    refine ⟨p.offset, len, hwires, wires.getLastD first, ?_, hbody⟩
    exact (mem_cons.mp getLastD_mem_cons).elim (fun hlast => hlast ▸ hfirst) id
  | cons row rest ih =>
    obtain ⟨wire, q⟩ := row
    obtain ⟨qlen, hqlen, h⟩ := bind_eq_ok_iff.mp h
    have hrow : (wire, q) ∈ places := hrest mem_cons_self
    have hrest' : rest ⊆ places := fun x hx => hrest (mem_cons_of_mem _ hx)
    split at h
    · next hagree =>
      obtain ⟨hoffset, rfl⟩ := hagree
      have hmore : ∀ v ∈ wires ++ [wire], ∃ q, (v, q) ∈ places ∧ q.offset = p.offset
          ∧ c.lengthOf q.type v = .ok qlen := by
        intro v hv
        rcases mem_append.mp hv with hv | hv
        · exact hwires v hv
        · rw [mem_singleton.mp hv]
          exact ⟨q, hrow, hoffset, hqlen⟩
      obtain ⟨hcover, hserves⟩ := ih (mem_append_left _ hfirst) hmore hrest' h
      exact ⟨by rw [hcover, append_assoc]; rfl, hserves⟩
    · obtain ⟨body, hbody, h⟩ := bind_eq_ok_iff.mp h
      obtain ⟨more, hmore, h⟩ := bind_eq_ok_iff.mp h
      cases h
      have hopen : ∀ v ∈ [wire], ∃ r, (v, r) ∈ places ∧ r.offset = q.offset
          ∧ c.lengthOf r.type v = .ok qlen := by
        intro v hv
        rw [mem_singleton.mp hv]
        exact ⟨q, hrow, rfl, hqlen⟩
      obtain ⟨hcover, hserves⟩ := ih (mem_singleton_self wire) hopen hrest' hmore
      refine ⟨by rw [flatMap_cons, hcover]; rfl, fun arm harm => ?_⟩
      rcases mem_cons.mp harm with rfl | harm
      · exact ⟨p.offset, len, hwires, first, hfirst, hbody⟩
      · exact hserves arm harm

/-- **The arms of a switch**: each version is in one of them, once. -/
theorem arms_serve {places : Table Nat Placement} {arms : List Arm}
    (h : c.arms cls member type places = .ok arms) :
    (arms.flatMap Arm.wires).Perm places.keys
      ∧ ∀ arm ∈ arms, arm.Serves c cls member type places := by
  unfold Catalog.arms at h
  have hperm := mergeSort_perm places fun a b => decide (a.1 ≤ b.1)
  split at h
  · cases h
  · next wire p rest hsort =>
    obtain ⟨len, hlen, h⟩ := bind_eq_ok_iff.mp h
    rw [hsort] at hperm
    have hsub : (wire, p) :: rest ⊆ places := hperm.subset
    have hopen : ∀ v ∈ [wire], ∃ q, (v, q) ∈ places ∧ q.offset = p.offset
        ∧ c.lengthOf q.type v = .ok len := by
      intro v hv
      rw [mem_singleton.mp hv]
      exact ⟨p, hsub mem_cons_self, rfl, hlen⟩
    obtain ⟨hcover, hserves⟩ := armsFrom_serves (mem_singleton_self wire) hopen
      (fun x hx => hsub (mem_cons_of_mem _ hx)) h
    rw [hcover]
    exact ⟨hperm.map Prod.fst, hserves⟩

end Arms

/-! ## Lines of a switch -/

/-- The constant of a version, where there is one. -/
def labelOf (c : Catalog) (wire : Nat) : String := (c.versionConstant wire).toOption.getD ""

/-- The lines of an arm: its labels, then what it assigns. -/
def Arm.lines (c : Catalog) (arm : Arm) : List String :=
  arm.wires.map (fun v => caseLine (c.labelOf v)) ++ (arm.body.statements ++ [breakLine])

section ArmLines

variable {c : Catalog} {v w : Nat} {arm : Arm} {arms : List Arm}

variable {label : String}

theorem labelOf_eq (h : c.versionConstant v = .ok label) : c.labelOf v = label := by
  unfold labelOf
  rw [h]
  rfl

theorem exists_version_of_versionConstant (h : c.versionConstant v = .ok label) :
    ∃ version : Version, version.wire = v ∧ label = version.constant "OF_VERSION_" := by
  unfold versionConstant at h
  split at h
  · next version hfind =>
    cases h
    exact ⟨version, by simpa using List.find?_some hfind, rfl⟩
  · cases h

theorem newline_not_mem_label (h : c.versionConstant v = .ok label) :
    '\n' ∉ label.toList := by
  obtain ⟨version, -, rfl⟩ := exists_version_of_versionConstant h
  cases version <;> decide

/-- **Versions are told by their labels.** -/
theorem versionConstant_injective (hv : c.versionConstant v = .ok label)
    (hw : c.versionConstant w = .ok label) : v = w := by
  obtain ⟨version, rfl, hlabel⟩ := exists_version_of_versionConstant hv
  obtain ⟨version', rfl, hlabel'⟩ := exists_version_of_versionConstant hw
  have hconstant : ∀ a ∈ Version.all, ∀ b ∈ Version.all,
      a.constant "OF_VERSION_" = b.constant "OF_VERSION_" → a = b := by
    decide
  rw [hconstant version (Version.mem_all _) version' (Version.mem_all _) (hlabel ▸ hlabel')]

/-- The versions of an arm that has a text have labels, and the text is made of its lines. -/
theorem Arm.render_eq_ok {text : String} (h : arm.render c = .ok text) :
    (∀ v ∈ arm.wires, c.versionConstant v = .ok (c.labelOf v)) ∧ text = concat (arm.lines c) := by
  obtain ⟨labels, hlabels, h⟩ := bind_eq_ok_iff.mp h
  cases h
  have hall := mapM_eq_ok_iff.mp hlabels
  have hmap : labels = arm.wires.map c.labelOf := by
    rw [← forall₂_eq_eq_eq, forall₂_map_right_iff]
    exact hall.flip.imp fun label v hv => (labelOf_eq hv).symm
  rw [hmap, forall₂_map_right_iff, forall₂_same] at hall
  refine ⟨hall, ?_⟩
  rw [hmap, each, map_map, Arm.lines, concat_append, ← Assignments.render_eq]
  rfl

theorem lines_of_mapM_render {switch : List String} (h : arms.mapM (Arm.render c) = .ok switch) :
    (∀ arm ∈ arms, ∀ v ∈ arm.wires, c.versionConstant v = .ok (c.labelOf v))
      ∧ concat switch = concat (arms.flatMap (Arm.lines c)) := by
  have hall := mapM_eq_ok_iff.mp h
  clear h
  induction hall with
  | nil => exact ⟨fun arm harm => absurd harm not_mem_nil, rfl⟩
  | cons hrender _ ih =>
    obtain ⟨hlabels, rfl⟩ := Arm.render_eq_ok hrender
    refine ⟨fun arm harm => ?_, ?_⟩
    · rcases mem_cons.mp harm with rfl | harm
      · exact hlabels
      · exact ih.1 arm harm
    · rw [concat_cons, flatMap_cons, concat_append, ih.2]

theorem Arm.mem_lines_cases {l : String} (h : l ∈ arm.lines c) :
    (∃ v ∈ arm.wires, l = caseLine (c.labelOf v)) ∨ l ∈ arm.body.statements ∨ l = breakLine := by
  rcases mem_append.mp h with h | h
  · obtain ⟨v, hv, rfl⟩ := mem_map.mp h
    exact Or.inl ⟨v, hv, rfl⟩
  · exact Or.inr ((mem_append.mp h).imp_right mem_singleton.mp)

theorem mem_of_caseLine_mem_map {wires : List Nat}
    (hlabels : ∀ w ∈ wires, c.versionConstant w = .ok (c.labelOf w))
    (hv : c.versionConstant v = .ok (c.labelOf v))
    (h : caseLine (c.labelOf v) ∈ wires.map fun w => caseLine (c.labelOf w)) : v ∈ wires := by
  obtain ⟨w, hw, heq⟩ := mem_map.mp h
  rw [versionConstant_injective hv (caseLine_injective heq ▸ hlabels w hw)]
  exact hw

theorem Arm.mem_wires_of_caseLine (hbody : arm.body.OnOneLine)
    (hlabels : ∀ w ∈ arm.wires, c.versionConstant w = .ok (c.labelOf w))
    (hv : c.versionConstant v = .ok (c.labelOf v))
    (h : caseLine (c.labelOf v) ∈ arm.lines c) : v ∈ arm.wires := by
  rcases Arm.mem_lines_cases h with hlabel | h | h
  · obtain ⟨w, hw, heq⟩ := hlabel
    exact mem_of_caseLine_mem_map hlabels hv (mem_map.mpr ⟨w, hw, heq.symm⟩)
  · exact absurd rfl (caseLine_ne (hbody.statement h).2.1 _)
  · exact absurd h (caseLine_ne (by decide) _)

theorem Arm.isLine_lines (hbody : arm.body.OnOneLine)
    (hlabels : ∀ w ∈ arm.wires, c.versionConstant w = .ok (c.labelOf w)) {l : String}
    (h : l ∈ arm.lines c) : IsLine l ∧ l ≠ defaultLine := by
  rcases Arm.mem_lines_cases h with ⟨w, hw, rfl⟩ | h | rfl
  · exact ⟨isLine_caseLine (newline_not_mem_label (hlabels w hw)), caseLine_ne (by decide) _⟩
  · exact ⟨(hbody.statement h).1, (hbody.statement h).2.2.2⟩
  · decide

/-- **What is reached from the label of a version is what its arm assigns**, and there is one
such label. -/
theorem reachedFrom_lines (hbodies : ∀ arm ∈ arms, arm.body.OnOneLine)
    (hlabels : ∀ arm ∈ arms, ∀ w ∈ arm.wires, c.versionConstant w = .ok (c.labelOf w))
    (hnodup : (arms.flatMap Arm.wires).Nodup) (harm : arm ∈ arms) (hv : v ∈ arm.wires) :
    (arms.flatMap (Arm.lines c)).count (caseLine (c.labelOf v)) = 1
      ∧ reachedFrom (c.labelOf v) (arms.flatMap (Arm.lines c)) = arm.body.statements := by
  obtain ⟨before, after, rfl⟩ := append_of_mem harm
  obtain ⟨above, below, hwires⟩ := append_of_mem hv
  have hlabel := hlabels arm harm v hv
  have hbody := hbodies arm harm
  -- the lines before the label, and those behind it
  have hlines : (before ++ arm :: after).flatMap (Arm.lines c)
      = (before.flatMap (Arm.lines c) ++ above.map fun w => caseLine (c.labelOf w))
        ++ caseLine (c.labelOf v) :: ((below.map (fun w => caseLine (c.labelOf w))
          ++ arm.body.statements) ++ breakLine :: after.flatMap (Arm.lines c)) := by
    simp [Arm.lines, hwires]
  have hfresh : v ∉ (before.flatMap Arm.wires ++ above) ++ (below ++ after.flatMap Arm.wires) := by
    rw [flatMap_append, flatMap_cons, hwires, append_assoc above,
      cons_append, ← append_assoc, nodup_middle, nodup_cons] at hnodup
    exact hnodup.1
  simp only [mem_append, not_or] at hfresh
  obtain ⟨⟨hbefore, habove⟩, hbelow, hafter⟩ := hfresh
  have harms : ∀ {part : List Arm}, part ⊆ before ++ arm :: after → v ∉ part.flatMap Arm.wires →
      caseLine (c.labelOf v) ∉ part.flatMap (Arm.lines c) := by
    intro part hpart hout hmem
    obtain ⟨other, hother, hmem⟩ := mem_flatMap.mp hmem
    exact hout (mem_flatMap.mpr ⟨other, hother, Arm.mem_wires_of_caseLine
      (hbodies other (hpart hother)) (hlabels other (hpart hother)) hlabel hmem⟩)
  have hwired : ∀ {part : List Nat}, part ⊆ arm.wires → v ∉ part →
      caseLine (c.labelOf v) ∉ part.map fun w => caseLine (c.labelOf w) :=
    fun hpart hout hmem => hout (mem_of_caseLine_mem_map
      (fun w hw => hlabels arm harm w (hpart hw)) hlabel hmem)
  have hfront : caseLine (c.labelOf v)
      ∉ before.flatMap (Arm.lines c) ++ above.map fun w => caseLine (c.labelOf w) := by
    rw [mem_append, not_or]
    exact ⟨harms (subset_append_left _ _) hbefore,
      hwired (hwires ▸ subset_append_left _ _) habove⟩
  have hstatements : ∀ l ∈ below.map (fun w => caseLine (c.labelOf w)) ++ arm.body.statements,
      l ≠ breakLine := by
    intro l hl
    rcases mem_append.mp hl with hl | hl
    · obtain ⟨w, -, rfl⟩ := mem_map.mp hl
      exact caseLine_ne (by decide) _
    · exact (hbody.statement hl).2.2.1
  rw [hlines]
  constructor
  · have hback : caseLine (c.labelOf v) ∉ (below.map (fun w => caseLine (c.labelOf w))
        ++ arm.body.statements) ++ breakLine :: after.flatMap (Arm.lines c) := by
      simp only [mem_append, mem_cons, not_or]
      refine ⟨⟨hwired ?_ hbelow, fun hmem => ?_⟩, caseLine_ne (by decide) _, harms ?_ hafter⟩
      · exact hwires ▸ subset_append_of_subset_right _ (subset_cons_self _ _)
      · exact absurd rfl (caseLine_ne (hbody.statement hmem).2.1 _)
      · exact subset_append_of_subset_right _ (subset_cons_self _ _)
    rw [count_append, count_cons_self, count_eq_zero.mpr hfront,
      count_eq_zero.mpr hback]
  · have hlabelLine : caseLine (c.labelOf v) ≠ breakLine := caseLine_ne (by decide) _
    unfold reachedFrom
    rw [dropWhile_append_of_pos
        fun l hl => decide_eq_true (ne_of_mem_of_not_mem hl hfront),
      dropWhile_cons_of_neg (by simp), takeWhile_cons_of_pos (by simp [hlabelLine]),
      takeWhile_append_of_pos fun l hl => decide_eq_true (hstatements l hl),
      takeWhile_cons_of_neg (by simp), append_nil,
      filter_cons_of_neg (by simp [isCaseLine_caseLine]), filter_append,
      filter_eq_nil_iff.mpr ?_, nil_append, filter_eq_self.mpr ?_]
    · intro l hl
      simp [(hbody.statement hl).2.1]
    · intro l hl
      obtain ⟨w, -, rfl⟩ := mem_map.mp hl
      simp [isCaseLine_caseLine]

end ArmLines

/-! ## Bodies -/

section Bodies

variable {c : Catalog} {cls member type text : String} {places : Table Nat Placement}
  {a : Access}

theorem newline_not_mem_objectCheck (h : WordChars cls) :
    '\n' ∉ (objectCheck cls).toList := by
  unfold objectCheck
  split
  · decide
  · rw [String.toList_append, mem_append, not_or]
    exact ⟨by decide, h.upper.not_mem (by decide)⟩

/-- The lines between the check of an accessor's object and its switch. -/
def switchLead : String := block r"
	ver = obj->version;
	wbuf = OF_OBJECT_TO_WBUF(obj);
	LOCI_ASSERT(wbuf != NULL);

	/* By version, determine offset and current length (where needed) */
"

/-- The check of an accessor's object leads up to the switch. -/
theorem form_objectCheck (h : WordChars cls) {s : String}
    (hblock : block s = ("\n" ++ "    LOCI_ASSERT(")
      ++ ("«" ++ "assert_str" ++ "»" ++ (");\n" ++ switchLead ++ switchLine))) :
    ∃ front, OpensNoSwitch front
      ∧ form [("assert_str", objectCheck cls)] s = front ++ switchLine := by
  have hlead : OpensNoSwitch switchLead ∧ '«' ∉ switchLead.toList := by
    unfold switchLead
    rw [block_ofList, opensNoSwitch_ofList, String.toList_ofList]
    decide
  have hplain : '«' ∉ (");\n" ++ switchLead ++ switchLine).toList := by
    simp only [String.toList_append, mem_append, not_or]
    exact ⟨⟨by decide, hlead.2⟩, by decide⟩
  have hcheck : IsLine ("    LOCI_ASSERT(" ++ objectCheck cls ++ ");\n") := by
    refine IsLine.append ?_ (by decide)
    rw [String.toList_append, mem_append, not_or]
    exact ⟨by decide, newline_not_mem_objectCheck h⟩
  have hother : "    LOCI_ASSERT(" ++ objectCheck cls ++ ");\n" ≠ switchLine := by
    intro heq
    have hbegin :
        startsWith ("    LOCI_ASSERT(" ++ (objectCheck cls ++ ");\n")) "    L" = true :=
      startsWith_append _ (by decide)
    rw [← String.append_assoc, heq] at hbegin
    cases hbegin
  refine ⟨"\n" ++ ("    LOCI_ASSERT(" ++ objectCheck cls ++ ");\n") ++ switchLead,
    ((by decide : OpensNoSwitch "\n").append
      (opensNoSwitch_of_isLine hcheck hother)).append hlead.1,
    ?_⟩
  unfold form
  rw [hblock, fill_plain_append (by decide), fill_hole_append rfl (by decide), fill_plain hplain]
  simp only [String.append_assoc]

/-- The lines of the switch in a text laid out as the body of an accessor. -/
theorem switchLines_layout (hname : WordChars cls) {head check foot : String}
    {lines : List String} (hhead : OpensNoSwitch head)
    (hcheck : block check = ("\n" ++ "    LOCI_ASSERT(")
      ++ ("«" ++ "assert_str" ++ "»" ++ (");\n" ++ switchLead ++ switchLine)))
    (hlines : ∀ l ∈ lines, IsLine l ∧ l ≠ defaultLine) (hfoot : startsWith foot defaultLine = true)
    (b b' b'' : String) :
    switchLines (head ++ form [("assert_str", objectCheck cls)] check
      ++ concat lines ++ foot ++ b ++ b' ++ b'') = lines := by
  obtain ⟨front, hfront, hform⟩ := form_objectCheck hname hcheck
  rw [hform, ← String.append_assoc, String.append_assoc, String.append_assoc]
  exact switchLines_eq (hhead.append hfront) hlines hfoot _

/-- **The switch of an accessor consists of its arms.** -/
theorem switchLines_accessorBody (hname : WordChars cls)
    (h : c.accessorBody cls member places a type = .ok text) :
    ∃ arms, c.arms cls member type places = .ok arms
      ∧ (∀ arm ∈ arms, arm.body.OnOneLine)
      ∧ (∀ arm ∈ arms, ∀ v ∈ arm.wires, c.versionConstant v = .ok (c.labelOf v))
      ∧ switchLines text = arms.flatMap (Arm.lines c) := by
  obtain ⟨arms, harms, h⟩ := bind_eq_ok_iff.mp h
  obtain ⟨switch, hswitch, h⟩ := bind_eq_ok_iff.mp h
  obtain ⟨hlabels, hconcat⟩ := lines_of_mapM_render hswitch
  have hbodies : ∀ arm ∈ arms, arm.body.OnOneLine := by
    intro arm harm
    obtain ⟨_, _, -, w, -, hassign⟩ := (arms_serve harms).2 arm harm
    exact assignments_onOneLine hname hassign
  refine ⟨arms, harms, hbodies, hlabels, ?_⟩
  have hlines : ∀ l ∈ arms.flatMap (Arm.lines c), IsLine l ∧ l ≠ defaultLine := by
    intro l hl
    obtain ⟨arm, harm, hl⟩ := mem_flatMap.mp hl
    exact Arm.isLine_lines (hbodies arm harm) (hlabels arm harm) hl
  rw [← Except.ok.inj h, hconcat]
  refine switchLines_layout hname ?_ ?_ hlines ?_ _ _ _
  · refine OpensNoSwitch.append (OpensNoSwitch.append ?_ (opensNoSwitch_when ?_ _))
      (opensNoSwitch_when ?_ _)
    · rw [block_ofList, opensNoSwitch_ofList]
      decide
    · rw [opensNoSwitch_ofList]
      decide
    · rw [opensNoSwitch_ofList]
      decide
  · unfold switchLead
    rw [block_ofList, block_ofList, ← String.toList_inj]
    repeat rw [String.toList_append]
    repeat rw [String.toList_ofList]
    decide +kernel
  · rw [block_ofList, startsWith, String.toList_ofList]
    decide +kernel

end Bodies

/-! ## Switches -/

variable {c : Catalog} {cls member : String}

theorem keys_placements {places : Table Nat Placement}
    (h : c.placements cls member = .ok places) :
    ∃ r, c.record cls = .ok r ∧ places.keys.Sublist r.layouts.keys := by
  obtain ⟨r, hr, h⟩ := bind_eq_ok_iff.mp h
  cases h
  refine ⟨r, hr, ?_⟩
  have hguard : (fun wire => (((r.members wire).find? (·.name = member)).map fun m =>
        (wire, (⟨(WireForm.mixedForm? m.type wire).join.getD m.type, m.offset⟩ : Placement))).map
          Prod.fst)
      = Option.guard fun wire => ((r.members wire).find? (·.name = member)).isSome := by
    funext wire
    cases hfind : (r.members wire).find? (·.name = member) <;> simp [Option.guard, hfind]
  rw [Table.keys, map_filterMap, hguard, filterMap_eq_filter]
  exact filter_sublist

/-- **The switch of an accessor serves every version.** Each version in which the member is
placed has one label. What is reached from it is what some version needs that agrees with it
on the offset and the length of the member, and this is what the version itself needs if and
only if the two are alike. -/
theorem accessorSwitch_serves {files : Directory} {targets : List Version} {m : Model}
    (hload : Model.load files targets = .ok m) {c : Catalog} (hbuild : build m targets = .ok c)
    {cls member type text : String} {places : Table Nat Placement} {a : Access}
    (hplaces : c.placements cls member = .ok places)
    (hbody : c.accessorBody cls member places a type = .ok text) {v : Nat} {q : Placement}
    (hv : places.get? v = some q) :
    ∃ label, c.versionConstant v = .ok label
      ∧ (switchLines text).count (caseLine label) = 1
      ∧ ∃ w r, places.get? w = some r ∧ r.offset = q.offset
        ∧ c.lengthOf r.type w = c.lengthOf q.type v
        ∧ (∃ shared, c.assignments cls member w type r.offset = .ok shared
          ∧ reachedFrom label (switchLines text) ++ [breakLine] = linesKept shared.render)
        ∧ (c.Alike type v w ↔ ∃ own, c.assignments cls member v type q.offset = .ok own
          ∧ reachedFrom label (switchLines text) ++ [breakLine] = linesKept own.render) := by
  obtain ⟨r, hr, hkeys⟩ := keys_placements hplaces
  have hrecords := records_of_build hbuild
  have hnodup : places.keys.Nodup := by
    have hlists := (lists_of_buildRecords hrecords).record cls
    rw [record_eq_ok_iff.mp hr] at hlists
    exact hlists.nodup.sublist hkeys
  have hmem : v ∈ places.keys := mem_map_of_mem (mem_of_get? hv)
  have hclass : WordChars cls := wordChars_of_isWord <|
    isWord_of_mem_keys hload hrecords <|
      mem_map_of_mem (mem_of_get? (record_eq_ok_iff.mp hr))
  obtain ⟨arms, harms, hbodies, hlabels, hlines⟩ := switchLines_accessorBody hclass hbody
  obtain ⟨hcover, hserves⟩ := arms_serve harms
  -- the arm of the version, and the version in it for which its text was made
  obtain ⟨arm, harm, hvarm⟩ := mem_flatMap.mp (hcover.mem_iff.mpr hmem)
  obtain ⟨offset, len, hagree, w, hw, hshared⟩ := hserves arm harm
  obtain ⟨q', hq', hoffset, hlen⟩ := hagree v hvarm
  obtain ⟨r', hr', hoffset', hlen'⟩ := hagree w hw
  obtain rfl : q = q' := by
    rw [← get?_eq_some_iff hnodup, hv] at hq'
    exact Option.some.inj hq'
  obtain ⟨hcount, hreached⟩ :=
    reachedFrom_lines hbodies hlabels (hcover.nodup_iff.mpr hnodup) harm hvarm
  rw [hlines]
  refine ⟨c.labelOf v, hlabels arm harm v hvarm, hcount, w, r',
    (get?_eq_some_iff hnodup).mpr hr', hoffset'.trans hoffset.symm, hlen'.trans hlen.symm, ?_⟩
  rw [hreached, hoffset, hoffset']
  exact ⟨⟨arm.body, hshared, (hbodies arm harm).linesKept_render.symm⟩,
    alike_iff_own hclass hshared⟩

theorem exists_accessorBody {type : String}
    {places : Table Nat Placement} {arms : List Arm} {switch : List String}
    (harms : c.arms cls member type places = .ok arms)
    (hswitch : arms.mapM (Arm.render c) = .ok switch) (a : Access) :
    ∃ text, c.accessorBody cls member places a type = .ok text :=
  ⟨_, bind_eq_ok_iff.mpr ⟨arms, harms, bind_eq_ok_iff.mpr ⟨switch, hswitch, rfl⟩⟩⟩

/-- Two versions that agree on where a part lies and on its least length, although its length
varies in the older one. -/
def partFiles : Directory :=
  [("new-1.1",
    "#version 2\nstruct of_part { uint32_t x; };\nstruct of_whole { of_part_t part; };\n"),
   ("old-1.0", "#version 1\nstruct of_part { uint32_t x; of_octets_t data; };\n"
    ++ "struct of_whole { of_part_t part; };\n")]

/-- A member for which both versions share an arm. -/
def SharedArm (c : Catalog) (cls member type : String) (body : Assignments) : Prop :=
  (c.placements cls member).toOption = some [(2, ⟨type, 0⟩), (1, ⟨type, 0⟩)]
    ∧ (c.memberType cls member).toOption = some type
    ∧ (c.arms cls member type [(2, ⟨type, 0⟩), (1, ⟨type, 0⟩)]).toOption
      = some [⟨[1, 2], body⟩]
    ∧ (Arm.render c ⟨[1, 2], body⟩).toOption.isSome

instance (c : Catalog) (cls member type : String) (body : Assignments) :
    Decidable (SharedArm c cls member type body) :=
  inferInstanceAs (Decidable (_ ∧ _ ∧ _ ∧ _))

theorem exists_partCatalog :
    ∃ (m : Model) (c : Catalog), Model.load partFiles [.v10, .v11] = .ok m
      ∧ build m [.v10, .v11] = .ok c
      ∧ c.SharedArm "of_part" "x" "uint32_t" ⟨"0", none⟩
      ∧ c.SharedArm "of_whole" "part" "of_part_t" ⟨"0", some "4"⟩
      ∧ (c.assignments "of_whole" "part" 1 "of_part_t" 0).toOption
        = some ⟨"0", some "_END_LEN(obj, offset)"⟩ := by
  have htest : (Model.load partFiles [.v10, .v11]).toOption.any (fun m =>
      (build m [.v10, .v11]).toOption.any (fun c =>
        c.SharedArm "of_part" "x" "uint32_t" ⟨"0", none⟩
          ∧ c.SharedArm "of_whole" "part" "of_part_t" ⟨"0", some "4"⟩
          ∧ (c.assignments "of_whole" "part" 1 "of_part_t" 0).toOption
            = some ⟨"0", some "_END_LEN(obj, offset)"⟩)) = true := by
    simp only [Model.load, Model.inputFiles, mergeSort_files, Protocol.build, mergeSort_names,
      build, buildRecords, mergeSort_newest, SharedArm, arms, mergeSort_wires]
    decide +kernel
  obtain ⟨m, hload, hm⟩ := exists_ok_of_any htest
  obtain ⟨c, hbuild, hc⟩ := exists_ok_of_any hm
  exact ⟨m, c, hload, hbuild, of_decide_eq_true hc⟩

theorem SharedArm.exists_body {type : String} {body : Assignments}
    (h : c.SharedArm cls member type body) (a : Access) :
    ∃ places text, c.placements cls member = .ok places
      ∧ places.get? 1 = some ⟨type, 0⟩
      ∧ c.accessorBody cls member places a type = .ok text
      ∧ c.arms cls member type places = .ok [⟨[1, 2], body⟩] := by
  obtain ⟨hplaces, -, harms, hrender⟩ := h
  obtain ⟨switch, hswitch⟩ := Option.isSome_iff_exists.mp hrender
  have hmap : [(⟨[1, 2], body⟩ : Arm)].mapM (Arm.render c) = .ok [switch] := by
    rw [mapM_cons, ok_of_toOption hswitch]
    rfl
  obtain ⟨text, htext⟩ := exists_accessorBody (ok_of_toOption harms) hmap a
  exact ⟨_, text, ok_of_toOption hplaces, rfl, htext, ok_of_toOption harms⟩

/-- What is reached in the older version for a member handled by value. -/
theorem accessorSwitch_serves_scalar :
    ∃ (m : Model) (c : Catalog) (places : Table Nat Placement) (text : String),
      Model.load partFiles [.v10, .v11] = .ok m ∧ build m [.v10, .v11] = .ok c
      ∧ c.placements "of_part" "x" = .ok places ∧ places.get? 1 = some ⟨"uint32_t", 0⟩
      ∧ c.accessorBody "of_part" "x" places .get "uint32_t" = .ok text
      ∧ ∃ label own, c.versionConstant 1 = .ok label
        ∧ (switchLines text).count (caseLine label) = 1
        ∧ c.assignments "of_part" "x" 1 "uint32_t" 0 = .ok own
        ∧ reachedFrom label (switchLines text) ++ [breakLine] = linesKept own.render := by
  obtain ⟨m, c, hload, hbuild, hx, -, -⟩ := exists_partCatalog
  obtain ⟨places, text, hplaces, hold, htext, -⟩ := hx.exists_body .get
  obtain ⟨label, hlabel, hcount, w, -, -, -, -, -, hown⟩ :=
    accessorSwitch_serves hload hbuild hplaces htext hold
  obtain ⟨own, hassign, hreached⟩ := hown.mp (Or.inl (by decide))
  exact ⟨m, c, places, text, hload, hbuild, hplaces, hold, htext, label, own, hlabel, hcount,
    hassign, hreached⟩

/-- **What is reached from a label need not be what its version needs.** In the older version
the length of the part varies, and the accessor takes it to be four. -/
theorem accessorSwitch_unlike :
    ∃ (m : Model) (c : Catalog) (places : Table Nat Placement) (text : String),
      Model.load partFiles [.v10, .v11] = .ok m ∧ build m [.v10, .v11] = .ok c
      ∧ c.placements "of_whole" "part" = .ok places ∧ places.get? 1 = some ⟨"of_part_t", 0⟩
      ∧ c.memberType "of_whole" "part" = .ok "of_part_t"
      ∧ c.accessorBody "of_whole" "part" places .bind "of_part_t" = .ok text
      ∧ ∃ label own, c.versionConstant 1 = .ok label
        ∧ c.assignments "of_whole" "part" 1 "of_part_t" 0 = .ok own
        ∧ linesKept own.render
          = ["        offset = 0;\n", "        cur_len = _END_LEN(obj, offset);\n", breakLine]
        ∧ reachedFrom label (switchLines text) ++ [breakLine]
          = ["        offset = 0;\n", "        cur_len = 4;\n", breakLine] := by
  obtain ⟨m, c, hload, hbuild, -, hpart, hassign⟩ := exists_partCatalog
  obtain ⟨places, text, hplaces, hold, htext, harms⟩ := hpart.exists_body .bind
  obtain ⟨arms, harms', hbodies, hlabels, hlines⟩ := switchLines_accessorBody (by decide) htext
  rw [harms] at harms'
  cases harms'
  have hmem : (⟨[1, 2], ⟨"0", some "4"⟩⟩ : Arm) ∈ [(⟨[1, 2], ⟨"0", some "4"⟩⟩ : Arm)] :=
    mem_singleton_self _
  have hreached := (reachedFrom_lines (v := 1) hbodies hlabels (by decide) hmem (by decide)).2
  have hown := ok_of_toOption hassign
  refine ⟨m, c, places, text, hload, hbuild, hplaces, hold, ok_of_toOption hpart.2.1, htext,
    c.labelOf 1, _, hlabels _ hmem 1 (by decide), hown, ?_, ?_⟩
  · rw [(assignments_onOneLine (by decide) hown).linesKept_render]
    decide
  · rw [hlines, hreached]
    decide

end FlowBindings.Loci.Catalog
