import FlowBindings.Proofs.Lines
import FlowBindings.Proofs.Names
import FlowBindings.Proofs.Records

/-!
# Reading arrays and enums back

Tables are generated as the initializers of arrays, one element on a line, and numbers as the
constants of an enum. `Text.DeclaresArray` and `Text.DeclaresEnum` say what such a text
declares, as a compiler would read it: an element is what stands before the comma or the
comment (`Text.element`), and a constant is a word with a value behind an equals sign
(`Text.enumerator?`).
-/

namespace FlowBindings.Text

open List

/-! ## Blanks around a text -/

section Blanks

/-- Trimming takes away the blanks around a text that neither begins nor ends with one. -/
theorem trim_ofList {a core b : List Char} (ha : ∀ c ∈ a, isBlank c = true)
    (hfirst : ∀ c ∈ core.head?, isBlank c = false) (hlast : ∀ c ∈ core.getLast?, isBlank c = false)
    (hb : ∀ c ∈ b, isBlank c = true) :
    trim (String.ofList (a ++ (core ++ b))) = String.ofList core := by
  have hleft : (a ++ (core ++ b)).dropWhile isBlank = (core ++ b).dropWhile isBlank :=
    dropWhile_append_of_pos ha
  cases core with
  | nil =>
    have hall : b.dropWhile isBlank = [] := dropWhile_eq_nil_iff.mpr hb
    rw [trim, trimLeft, String.toList_ofList, hleft, nil_append, hall, trimRight,
      String.toList_ofList]
    rfl
  | cons c core =>
    have hkeep : (c :: core ++ b).dropWhile isBlank = c :: core ++ b := by
      rw [cons_append, dropWhile_cons_of_neg (by rw [hfirst c rfl]; decide)]
    have hreverse : (c :: core).reverse.dropWhile isBlank = (c :: core).reverse := by
      rw [dropWhile_eq_self_iff]
      intro hlen
      rw [hlast _ (by rw [getLast?_eq_head?_reverse, head?_eq_getElem?,
        getElem?_eq_getElem hlen]; rfl)]
      decide
    rw [trim, trimLeft, String.toList_ofList, hleft, hkeep, trimRight, String.toList_ofList,
      reverse_append, dropWhile_append_of_pos fun d hd => hb d (mem_reverse.mp hd),
      hreverse, reverse_reverse]

theorem wordChar_solid {c : Char} (h : (c.isAlphanum || c == '_') = true) :
    isBlank c = false ∧ c ≠ ',' ∧ c ≠ '/' := by
  exact forall_wordChar (P := fun c => isBlank c = false ∧ c ≠ ',' ∧ c ≠ '/')
    (by decide +kernel) h

end Blanks

/-! ## Arrays -/

section Arrays

theorem exists_front {head tail : String} (h : ("\n" ++ tail).toList <:+ head.toList) :
    ∃ front : String, front.toList.getLast? = some '\n' ∧ head = front ++ tail := by
  obtain ⟨chars, hchars⟩ := h
  refine ⟨String.ofList chars ++ "\n", ?_, ?_⟩
  · rw [String.toList_append]
    exact getLast?_concat
  · rw [← String.toList_inj, ← hchars]
    simp only [String.toList_append, String.toList_ofList, append_assoc]

/-- **What a line of an initializer holds**: what stands before the comma or the comment,
without the blanks around it. -/
def element (line : String) : String :=
  trim (String.ofList (line.toList.takeWhile fun c => c ≠ ',' && c ≠ '/'))

/-- The line that closes an initializer. -/
def closing : String := "\x7d;\n"

/-- **An array that a text declares**: a line opens it, each line behind holds one element, and
a brace closes it. -/
def DeclaresArray (text opening : String) (elements : List String) : Prop :=
  ∃ front rows back, text = front ++ (opening ++ (concat rows ++ (closing ++ back)))
    ∧ front.toList.getLast? = some '\n' ∧ (∀ row ∈ rows, IsLine row ∧ row ≠ closing)
    ∧ rows.map element = elements

variable {elements : List String} {e opening rest text : String}

theorem DeclaresArray.append (h : DeclaresArray text opening elements) (b : String) :
    DeclaresArray (text ++ b) opening elements := by
  obtain ⟨front, rows, back, rfl, hfront, hrows, helements⟩ := h
  exact ⟨front, rows, back ++ b, by simp only [String.append_assoc], hfront, hrows, helements⟩

theorem DeclaresArray.appendTo (h : DeclaresArray text opening elements) (a : String) :
    DeclaresArray (a ++ text) opening elements := by
  obtain ⟨front, rows, back, rfl, hfront, hrows, helements⟩ := h
  refine ⟨a ++ front, rows, back, (String.append_assoc).symm, ?_, hrows, helements⟩
  rw [String.toList_append, getLast?_append, hfront]
  rfl

/-- A text without blanks and separators. -/
def Solid (s : String) : Prop := ∀ c ∈ s.toList, isBlank c = false ∧ c ≠ ',' ∧ c ≠ '/'

instance (s : String) : Decidable (Solid s) := List.decidableBAll _ _

theorem solid_of_wordChars {s : String} (h : WordChars s) : Solid s :=
  fun c hc => wordChar_solid (h c hc)

theorem Solid.append {s t : String} (hs : Solid s) (ht : Solid t) : Solid (s ++ t) := by
  intro c hc
  rw [String.toList_append, mem_append] at hc
  exact hc.elim (hs c) (ht c)

theorem solid_repr (n : Nat) : Solid (toString n) := by
  intro c hc
  refine wordChar_solid ?_
  rw [Char.isAlphanum, isDigit_of_mem_repr hc, Bool.or_true, Bool.true_or]

/-- A text that a line can hold: no separators, and no blanks at its ends. -/
structure Compact (e : String) : Prop where
  inside : ∀ c ∈ e.toList, c ≠ '\n' ∧ c ≠ ',' ∧ c ≠ '/'
  first : ∀ c ∈ e.toList.head?, isBlank c = false
  last : ∀ c ∈ e.toList.getLast?, isBlank c = false

theorem Solid.compact (h : Solid e) : Compact e where
  inside := by
    intro c hc
    obtain ⟨hblank, hseparators⟩ := h c hc
    refine ⟨?_, hseparators⟩
    rintro rfl
    cases hblank
  first := fun c hc => (h c (mem_of_mem_head? hc)).1
  last := fun c hc => (h c (mem_of_getLast? hc)).1

/-- A line that holds an element. -/
structure Row (e line : String) : Prop where
  isLine : IsLine line
  /-- It is not the end of the initializer. -/
  ne_closing : line ≠ closing
  /-- It holds the element. -/
  element_eq : element line = e

/-- A row: the element behind its margin, then blanks, then a comma or a comment if anything. -/
theorem Row.of_parts (he : Compact e) (gap tail : String)
    (hgap : ∀ c ∈ gap.toList, isBlank c = true) (htail : ∀ c ∈ tail.toList.head?, c = ',' ∨ c = '/')
    (hline : IsLine (gap ++ tail)) : Row e ("    " ++ e ++ (gap ++ tail)) where
  isLine := by
    refine IsLine.append ?_ hline
    rw [String.toList_append, mem_append, not_or]
    exact ⟨by decide, fun hmem => (he.inside _ hmem).1 rfl⟩
  ne_closing := by
    intro heq
    have hbegin : startsWith ("    " ++ (e ++ (gap ++ tail))) " " = true :=
      startsWith_append _ (by decide)
    rw [← String.append_assoc, heq] at hbegin
    cases hbegin
  element_eq := by
    have hblank : ∀ c, isBlank c = true → (c ≠ ',' && c ≠ '/') = true := by
      intro c hc
      have hcomma : c ≠ ',' := by
        rintro rfl
        cases hc
      have hslash : c ≠ '/' := by
        rintro rfl
        cases hc
      simp [hcomma, hslash]
    have hmargin : ∀ c ∈ "    ".toList, isBlank c = true := all_eq_true.mp (by decide)
    have htake : ("    " ++ e ++ (gap ++ tail)).toList.takeWhile (fun c => c ≠ ',' && c ≠ '/')
        = "    ".toList ++ (e.toList ++ gap.toList) := by
      simp only [String.toList_append]
      rw [← append_assoc _ gap.toList, append_assoc _ e.toList,
        takeWhile_append_of_pos]
      · have hstop : tail.toList.takeWhile (fun c => c ≠ ',' && c ≠ '/') = [] := by
          cases hchars : tail.toList with
          | nil => rfl
          | cons c cs =>
            rcases htail c (by rw [hchars]; rfl) with rfl | rfl
            · rfl
            · rfl
        rw [hstop, append_nil]
      · intro c hc
        simp only [mem_append] at hc
        rcases hc with hc | hc | hc
        · exact hblank c (hmargin c hc)
        · have hinside := he.inside c hc
          simp [hinside.2.1, hinside.2.2]
        · exact hblank c (hgap c hc)
    rw [element, htake, trim_ofList hmargin he.first he.last hgap, String.ofList_toList]

theorem Compact.row_comma (he : Compact e) (hrest : IsLine rest) :
    Row e ("    " ++ e ++ ("," ++ rest)) := by
  have hrow := Row.of_parts he "" ("," ++ rest) (all_eq_true.mp (by decide)) ?_ ?_
  · rwa [String.empty_append] at hrow
  · intro c hc
    rw [String.toList_append] at hc
    exact Or.inl (Option.some.inj hc).symm
  · rw [String.empty_append]
    exact IsLine.append (by decide) hrest

theorem row_comma (he : Solid e) (hrest : IsLine rest) :
    Row e ("    " ++ e ++ ("," ++ rest)) :=
  he.compact.row_comma hrest

theorem row_comment {gap : String} (he : Solid e) (hgap : ∀ c ∈ gap.toList, c = ' ')
    (hrest : IsLine rest) : Row e ("    " ++ e ++ (gap ++ ("/" ++ rest))) := by
  refine Row.of_parts he.compact _ _ (fun c hc => by rw [hgap c hc]; decide) (fun c hc => ?_) ?_
  · rw [String.toList_append] at hc
    exact Or.inr (Option.some.inj hc).symm
  · refine IsLine.append (fun hmem => ?_) (IsLine.append (by decide) hrest)
    cases hgap _ hmem

theorem row_last (he : Solid e) : Row e ("    " ++ e ++ "\n") := by
  have hrow := Row.of_parts he.compact "\n" "" (all_eq_true.mp (by decide)) nofun (by decide)
  rwa [String.append_empty] at hrow

theorem forall₂_row_map {α : Type} {l : List α} {e line : α → String}
    (h : ∀ a ∈ l, Row (e a) (line a)) : Forall₂ Row (l.map e) (l.map line) := by
  rw [forall₂_map_left_iff, forall₂_map_right_iff, forall₂_same]
  exact h

theorem declaresArray_of_rows {front : String} (opening back : String)
    {rows : List String} (hfront : front.toList.getLast? = some '\n')
    (hrows : Forall₂ Row elements rows) :
    DeclaresArray (front ++ (opening ++ (concat rows ++ (closing ++ back)))) opening elements := by
  refine ⟨front, rows, back, rfl, hfront, ?_, ?_⟩
  · intro row hrow
    induction hrows with
    | nil => exact absurd hrow not_mem_nil
    | cons hhead _ ih =>
      rcases mem_cons.mp hrow with rfl | hrow
      · exact ⟨hhead.isLine, hhead.ne_closing⟩
      · exact ih hrow
  · induction hrows with
    | nil => rfl
    | cons hhead _ ih => rw [map_cons, hhead.element_eq, ih]

/-- An array whose first rows stand in the text before, and whose end stands in the text
behind. -/
theorem declaresArray_of_layout (first : List String) {lead head foot : String} {rows : List String}
    (hhead : ("\n" ++ (opening ++ concat first)).toList <:+ head.toList)
    (hfoot : closing.toList <+: foot.toList) (hrows : Forall₂ Row elements (first ++ rows)) :
    DeclaresArray (lead ++ head ++ concat rows ++ foot) opening elements := by
  obtain ⟨front, hfront, rfl⟩ := exists_front hhead
  obtain ⟨back, hback⟩ := hfoot
  obtain rfl : closing ++ String.ofList back = foot := by
    rw [← String.toList_inj, ← hback, String.toList_append, String.toList_ofList]
  have hdeclares := (declaresArray_of_rows opening (String.ofList back) hfront hrows).appendTo lead
  rw [concat_append] at hdeclares
  simpa only [String.append_assoc] using hdeclares

/-- An array is declared in a text of several parts if it is in one of them. -/
theorem DeclaresArray.within_concat {parts : List String}
    (h : DeclaresArray text opening elements) (hmem : text ∈ parts) :
    DeclaresArray (concat parts) opening elements := by
  obtain ⟨before, after, rfl⟩ := append_of_mem hmem
  rw [concat_append, concat_cons]
  exact (h.append _).appendTo _

/-- Rows that commas separate, one element in each. -/
def separatedRows : List String → List String
  | [] => []
  | [e] => ["    " ++ e ++ "\n"]
  | e :: e' :: rest => ("    " ++ e ++ ("," ++ "\n")) :: separatedRows (e' :: rest)

theorem forall₂_separatedRows (h : ∀ e ∈ elements, Solid e) :
    Forall₂ Row elements (separatedRows elements) := by
  fun_induction separatedRows elements with
  | case1 => exact .nil
  | case2 e => exact .cons (row_last (h e mem_cons_self)) .nil
  | case3 e e' rest ih =>
    exact .cons (row_comma (h e mem_cons_self) (by decide))
      (ih fun x hx => h x (mem_cons_of_mem e hx))

theorem join_cons_cons (sep s t : String) (rest : List String) :
    join sep (s :: t :: rest) = s ++ sep ++ join sep (t :: rest) := by
  rw [← String.toList_inj]
  simp [toList_join, intercalate_cons_cons]

/-- Elements joined by commas, and a line break behind them, are such rows. -/
theorem concat_separatedRows (e : String) (rest : List String) :
    join ",\n" ((e :: rest).map ("    " ++ ·)) ++ "\n" = concat (separatedRows (e :: rest)) := by
  induction rest generalizing e with
  | nil =>
    rw [separatedRows, concat_cons, concat_nil, String.append_empty]
    rfl
  | cons e' rest ih =>
    rw [separatedRows, concat_cons, ← ih e', map_cons, map_cons, join_cons_cons]
    simp only [String.append_assoc]
    rfl

end Arrays

/-! ## Enums -/

section Enums

/-- The constant and the value in the characters of a line. -/
def enumeratorIn (cs : List Char) : Option (String × String) :=
  let rest := cs.dropWhile isBlank
  let name := rest.takeWhile fun c => c.isAlphanum || c == '_'
  match rest.drop name.length with
  | ' ' :: '=' :: ' ' :: value =>
    if name.isEmpty then none
    else some (String.ofList name, String.ofList (value.takeWhile fun c => c ≠ ',' && !isBlank c))
  | _ => none

/-- **The constant and the value in a line of an enum**; nothing if the line has none. -/
def enumerator? (line : String) : Option (String × String) := enumeratorIn line.toList

/-- Lines inside an enum, with the constants they have. -/
structure EnumLines (closing : String) (lines : List String) (constants : List (String × String)) :
    Prop where
  /-- They are lines, and do not end the enum. -/
  isLine : ∀ l ∈ lines, IsLine l ∧ l ≠ closing
  /-- Each has a constant with its value, or none. -/
  constants_eq : lines.filterMap enumerator? = constants

instance (closing : String) (lines : List String) (constants : List (String × String)) :
    Decidable (EnumLines closing lines constants) :=
  decidable_of_iff ((∀ l ∈ lines, IsLine l ∧ l ≠ closing) ∧ lines.filterMap enumerator? = constants)
    ⟨fun h => ⟨h.1, h.2⟩, fun h => ⟨h.1, h.2⟩⟩

theorem EnumLines.append {closing : String} {lines lines' : List String}
    {constants constants' : List (String × String)} (h : EnumLines closing lines constants)
    (h' : EnumLines closing lines' constants') :
    EnumLines closing (lines ++ lines') (constants ++ constants') where
  isLine := fun l hl => (mem_append.mp hl).elim (h.isLine l) (h'.isLine l)
  constants_eq := by rw [filterMap_append, h.constants_eq, h'.constants_eq]

/-- **An enum that a text declares**: a line opens it, another closes it, and the lines between
have the constants. -/
def DeclaresEnum (text opening closing : String) (constants : List (String × String)) : Prop :=
  ∃ front lines back, text = front ++ (opening ++ (concat lines ++ (closing ++ back)))
    ∧ front.toList.getLast? = some '\n' ∧ EnumLines closing lines constants

/-- An enum whose first lines stand in the text before. -/
theorem declaresEnum_of_layout (first : List String) {head opening closing back : String}
    {lines : List String} {constants : List (String × String)}
    (hhead : ("\n" ++ (opening ++ concat first)).toList <:+ head.toList)
    (hlines : EnumLines closing (first ++ lines) constants) :
    DeclaresEnum (head ++ (concat lines ++ (closing ++ back))) opening closing constants := by
  obtain ⟨front, hfront, rfl⟩ := exists_front hhead
  refine ⟨front, first ++ lines, back, ?_, hfront, hlines⟩
  rw [concat_append]
  simp only [String.append_assoc]

theorem enumerator?_line {name value rest : String} (hname : WordChars name) (hne : name ≠ "")
    (hvalue : ∀ c ∈ value.toList, (c ≠ ',' && !isBlank c) = true)
    (hrest : ∀ c ∈ rest.toList.head?, (c ≠ ',' && !isBlank c) = false) :
    enumerator? ("    " ++ name ++ " = " ++ (value ++ rest)) = some (name, value) := by
  have hchars : ("    " ++ name ++ " = " ++ (value ++ rest)).toList
      = "    ".toList ++ (name.toList ++ ' ' :: '=' :: ' ' :: (value.toList ++ rest.toList)) := by
    simp only [String.toList_append, append_assoc]
    rfl
  obtain ⟨d, ds, hd⟩ : ∃ d ds, name.toList = d :: ds := by
    cases hcs : name.toList with
    | nil => exact absurd (String.toList_inj.mp (hcs.trans rfl)) hne
    | cons d ds => exact ⟨d, ds, rfl⟩
  have hsolid := solid_of_wordChars hname
  have hstart :
      (name.toList ++ ' ' :: '=' :: ' ' :: (value.toList ++ rest.toList)).dropWhile isBlank
        = name.toList ++ ' ' :: '=' :: ' ' :: (value.toList ++ rest.toList) := by
    rw [hd, cons_append, dropWhile_cons_of_neg]
    rw [(hsolid d (hd ▸ mem_cons_self)).1]
    decide
  have hword : (name.toList ++ ' ' :: '=' :: ' ' :: (value.toList ++ rest.toList)).takeWhile
      (fun c => c.isAlphanum || c == '_') = name.toList := by
    rw [takeWhile_append_of_pos hname, takeWhile_cons_of_neg (by decide), append_nil]
  have hstop : (value.toList ++ rest.toList).takeWhile (fun c => c ≠ ',' && !isBlank c)
      = value.toList := by
    rw [takeWhile_append_of_pos hvalue]
    cases hcs : rest.toList with
    | nil => simp
    | cons c cs =>
      rw [takeWhile_cons_of_neg (by rw [hrest c (by rw [hcs]; rfl)]; decide), append_nil]
  unfold enumerator? enumeratorIn
  rw [hchars, dropWhile_append_of_pos (all_eq_true.mp (by decide)), hstart]
  dsimp only
  rw [hword, drop_left]
  change (if name.toList.isEmpty = true then none
    else some (String.ofList name.toList, String.ofList
      ((value.toList ++ rest.toList).takeWhile fun c => c ≠ ',' && !isBlank c))) = _
  rw [if_neg (by rw [hd]; exact Bool.false_ne_true), hstop, String.ofList_toList,
    String.ofList_toList]

end Enums

end FlowBindings.Text
