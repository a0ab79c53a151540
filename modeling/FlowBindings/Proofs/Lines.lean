import FlowBindings.Proofs.Basic
import FlowBindings.Text.Form
import Mathlib.Data.List.DropRight

/-!
# Lines and forms

What is generated is text, and what is said about it is said about its lines. A text that
is put together from lines has these lines (`Text.linesKept_concat_append`), and two texts
one after another have the lines of both if the first ends with a line
(`Text.linesKept_append`).

A form is read character by character. What matters of it is told by its holes: it is what
stands before the first hole, the value of the hole, and the form behind it
(`Text.fill_hole_append`).
-/

namespace FlowBindings.Text

open List Option

/-! ## Texts one after another -/

section Concat

@[simp]
theorem toList_concat (parts : List String) :
    (concat parts).toList = parts.flatMap String.toList := by
  have hfrom : ∀ start : String,
      (parts.foldl (· ++ ·) start).toList = start.toList ++ parts.flatMap String.toList := by
    induction parts with
    | nil => simp
    | cons s parts ih =>
      intro start
      rw [foldl_cons, ih, String.toList_append, flatMap_cons, append_assoc]
  exact hfrom ""

@[simp]
theorem concat_nil : concat [] = "" := rfl

@[simp]
theorem concat_cons (s : String) (parts : List String) :
    concat (s :: parts) = s ++ concat parts := by
  rw [← String.toList_inj, toList_concat, String.toList_append, toList_concat, flatMap_cons]

@[simp]
theorem concat_append (parts parts' : List String) :
    concat (parts ++ parts') = concat parts ++ concat parts' := by
  rw [← String.toList_inj, toList_concat, String.toList_append, toList_concat, toList_concat,
    flatMap_append]

end Concat

/-! ## Lines -/

section Lines

/-- **A line**: a text whose only line break stands at its end. -/
def IsLine (s : String) : Prop := ∃ body : String, '\n' ∉ body.toList ∧ s = body ++ "\n"

variable {s t : String}

theorem isLine_iff :
    IsLine s ↔ s.toList.getLast? = some '\n' ∧ '\n' ∉ s.toList.dropLast := by
  constructor
  · rintro ⟨body, hbody, rfl⟩
    rw [String.toList_append]
    exact ⟨getLast?_concat, by rwa [show "\n".toList = ['\n'] from rfl, dropLast_concat]⟩
  · rintro ⟨hlast, hbody⟩
    refine ⟨String.ofList s.toList.dropLast, by rwa [String.toList_ofList], ?_⟩
    rw [← String.toList_inj, String.toList_append, String.toList_ofList]
    exact (dropLast_append_getLast? _ hlast).symm

instance (s : String) : Decidable (IsLine s) := decidable_of_iff' _ isLine_iff

theorem IsLine.append (hs : '\n' ∉ s.toList) (ht : IsLine t) : IsLine (s ++ t) := by
  obtain ⟨body, hbody, rfl⟩ := ht
  refine ⟨s ++ body, ?_, (String.append_assoc).symm⟩
  rw [String.toList_append, mem_append, not_or]
  exact ⟨hs, hbody⟩

/-- A text that ends with a line, or is empty. -/
def EndsLine (s : String) : Prop := ∀ c ∈ s.toList.getLast?, c = '\n'

instance (s : String) : Decidable (EndsLine s) := s.toList.getLast?.decidableForallMem

theorem IsLine.endsLine (h : IsLine s) : EndsLine s := by
  obtain ⟨body, -, rfl⟩ := h
  intro c hc
  rw [String.toList_append] at hc
  simpa [eq_comm] using hc

theorem EndsLine.append (hs : EndsLine s) (ht : EndsLine t) : EndsLine (s ++ t) := by
  intro c hc
  rw [String.toList_append, getLast?_append, mem_def, or_eq_some_iff] at hc
  exact hc.elim (ht c) fun hc => hs c hc.2

theorem endsLine_append_newline (s : String) : EndsLine (s ++ "\n") := by
  intro c hc
  rw [String.toList_append, show "\n".toList = ['\n'] from rfl, getLast?_concat] at hc
  exact (Option.some.inj hc).symm

theorem EndsLine.getLast?_newline_append (h : EndsLine t) (s : String) :
    (s ++ "\n" ++ t).toList.getLast? = some '\n' := by
  rw [String.toList_append, getLast?_append]
  cases hlast : t.toList.getLast? with
  | none =>
    rw [none_or, String.toList_append]
    exact getLast?_concat
  | some c => rw [h c hlast, some_or]

theorem endsLine_concat {parts : List String} (h : ∀ s ∈ parts, EndsLine s) :
    EndsLine (concat parts) := by
  induction parts with
  | nil => rw [concat_nil]; decide
  | cons s parts ih =>
    rw [forall_mem_cons] at h
    rw [concat_cons]
    exact h.1.append (ih h.2)

theorem linesKept_go_append {body rest : List Char} (h : '\n' ∉ body) :
    linesKept.go (body ++ '\n' :: rest) = (body ++ ['\n']) :: linesKept.go rest := by
  induction body with
  | nil => rfl
  | cons c body ih =>
    rw [mem_cons, not_or] at h
    rw [cons_append, linesKept.go, if_neg (by simpa using Ne.symm h.1), ih h.2]
    rfl

theorem linesKept_line_append (h : IsLine s) (t : String) :
    linesKept (s ++ t) = s :: linesKept t := by
  obtain ⟨body, hbody, rfl⟩ := h
  have hchars : (body ++ "\n" ++ t).toList = body.toList ++ '\n' :: t.toList := by
    rw [String.toList_append, String.toList_append, append_assoc]
    rfl
  unfold linesKept
  rw [hchars, linesKept_go_append hbody, map_cons]
  refine congrArg (· :: _) ?_
  rw [← String.toList_inj, String.toList_ofList, String.toList_append]
  rfl

/-- **A text that is put together from lines has these lines.** -/
theorem linesKept_concat_append {lines : List String} (h : ∀ l ∈ lines, IsLine l) (t : String) :
    linesKept (concat lines ++ t) = lines ++ linesKept t := by
  induction lines with
  | nil => rw [concat_nil, String.empty_append, nil_append]
  | cons l lines ih =>
    rw [concat_cons, String.append_assoc, linesKept_line_append (h l mem_cons_self),
      ih fun x hx => h x (mem_cons_of_mem l hx), cons_append]

theorem linesKept_concat {lines : List String} (h : ∀ l ∈ lines, IsLine l) :
    linesKept (concat lines) = lines := by
  have happend := linesKept_concat_append h ""
  rwa [String.append_empty, show linesKept "" = [] from rfl, append_nil] at happend

theorem linesKept_go_flatten (cs : List Char) : (linesKept.go cs).flatten = cs := by
  fun_induction linesKept.go cs with
  | case1 => rfl
  | case2 c rest hc ih =>
    rw [flatten_cons, ih, beq_iff_eq.mp hc]
    rfl
  | case3 c rest hc hnil ih =>
    rw [hnil] at ih
    rw [← ih]
    rfl
  | case4 c rest hc line lines hcons ih =>
    rw [hcons] at ih
    rw [← ih]
    rfl

theorem concat_linesKept (s : String) : concat (linesKept s) = s := by
  rw [← String.toList_inj, toList_concat, linesKept, flatMap_map]
  simp only [String.toList_ofList]
  rw [flatMap_id', linesKept_go_flatten]

theorem isLine_of_mem_linesKept {l : String} (h : EndsLine s) (hl : l ∈ linesKept s) :
    IsLine l := by
  have hgo : ∀ cs : List Char, (∀ c ∈ cs.getLast?, c = '\n') → ∀ line ∈ linesKept.go cs,
      ∃ body, '\n' ∉ body ∧ line = body ++ ['\n'] := by
    intro cs
    fun_induction linesKept.go cs with
    | case1 => exact fun _ line hline => absurd hline not_mem_nil
    | case2 c rest hc ih =>
      intro hlast line hline
      rcases mem_cons.mp hline with rfl | hline
      · exact ⟨[], not_mem_nil, rfl⟩
      · refine ih (fun d hd => hlast d ?_) line hline
        rw [getLast?_cons, mem_def.mp hd]
        rfl
    | case3 c rest hc hnil ih =>
      -- what is behind the last line break is no line
      intro hlast line hline
      have hrest : rest = [] := by
        have hflat := linesKept_go_flatten rest
        rwa [hnil, flatten_nil, eq_comm] at hflat
      rw [hrest] at hlast
      exact absurd (beq_iff_eq.mpr (hlast c rfl)) hc
    | case4 c rest hc first lines hcons ih =>
      intro hlast line hline
      have hne : rest ≠ [] := by
        rintro rfl
        cases hcons
      rw [getLast?_cons_of_ne_nil hne] at hlast
      rw [hcons] at ih
      rcases mem_cons.mp hline with rfl | hline
      · obtain ⟨body, hbody, rfl⟩ := ih hlast first mem_cons_self
        refine ⟨c :: body, ?_, rfl⟩
        rw [mem_cons, not_or]
        exact ⟨fun heq => hc (beq_iff_eq.mpr heq.symm), hbody⟩
      · exact ih hlast line (mem_cons_of_mem first hline)
  obtain ⟨chars, hchars, rfl⟩ := mem_map.mp hl
  obtain ⟨body, hbody, rfl⟩ := hgo s.toList h chars hchars
  refine ⟨String.ofList body, by rwa [String.toList_ofList], ?_⟩
  rw [← String.toList_inj, String.toList_append, String.toList_ofList, String.toList_ofList]
  rfl

/-- **The lines of two texts one after another**, where the first ends with a line. -/
theorem linesKept_append (h : EndsLine s) (t : String) :
    linesKept (s ++ t) = linesKept s ++ linesKept t := by
  have hlines := linesKept_concat_append (fun l hl => isLine_of_mem_linesKept h hl) t
  rwa [concat_linesKept] at hlines

end Lines

/-! ## Blanks at the end -/

theorem rdropWhile_append (p : Char → Bool) (cs ds : List Char) :
    (cs ++ ds).rdropWhile p
      = if ds.rdropWhile p = [] then cs.rdropWhile p else cs ++ ds.rdropWhile p := by
  unfold List.rdropWhile
  rw [List.reverse_append, List.dropWhile_append]
  simp only [List.reverse_eq_nil_iff, List.isEmpty_iff]
  split <;> simp

theorem toList_trimRight (s : String) : (trimRight s).toList = s.toList.rdropWhile isBlank :=
  String.toList_ofList

/-! ## Forms -/

section Forms

/-- The characters of the text of a block. -/
def blockChars : (starts : Bool) → List Char → List Char
  | _, [] => []
  | starts, c :: cs =>
    if starts && c = '|' then blockChars false cs
    else match mark? c with
      | some text => text.toList ++ blockChars false cs
      | none => c :: blockChars (c = '\n') cs

theorem toList_foldl_read (cs : List Char) (text : String) (starts : Bool) :
    (cs.foldl BlockState.read ⟨text, starts⟩).text.toList
      = text.toList ++ blockChars starts cs := by
  induction cs generalizing text starts with
  | nil => exact (append_nil _).symm
  | cons c cs ih =>
    rw [foldl_cons, BlockState.read, blockChars]
    split
    · exact ih text false
    · cases mark? c with
      | some mark => exact (ih _ _).trans (by rw [String.toList_append, append_assoc])
      | none => exact (ih _ _).trans (by rw [String.toList_push, append_assoc]; rfl)

theorem block_ofList (cs : List Char) :
    block (String.ofList cs) = String.ofList (blockChars true (cs.drop 1)) := by
  rw [← String.toList_inj, block, String.toList_ofList, toList_foldl_read]
  exact String.toList_ofList.symm

variable {holes : Table String String}

theorem foldl_read_append (t u : String) (hole : Option String) (cs : List Char) :
    (cs.foldl (FillState.read holes) ⟨t ++ u, hole⟩).text
      = t ++ (cs.foldl (FillState.read holes) ⟨u, hole⟩).text := by
  induction cs generalizing u hole with
  | nil => rfl
  | cons c cs ih =>
    rw [foldl_cons, foldl_cons]
    cases hole with
    | none =>
      unfold FillState.read
      dsimp only
      split
      · exact ih u _
      · rw [String.push_eq_append, String.append_assoc, ← String.push_eq_append]
        exact ih _ _
    | some name =>
      unfold FillState.read
      dsimp only
      split
      · rw [String.append_assoc]
        exact ih _ _
      · exact ih u _

theorem foldl_read_plain {s : List Char} (h : '«' ∉ s) (t : String) :
    s.foldl (FillState.read holes) ⟨t, none⟩ = ⟨t ++ String.ofList s, none⟩ := by
  induction s generalizing t with
  | nil => simp
  | cons c s ih =>
    rw [mem_cons, not_or] at h
    rw [foldl_cons]
    have hstep : FillState.read holes ⟨t, none⟩ c = ⟨t.push c, none⟩ := by
      unfold FillState.read
      exact if_neg (Ne.symm h.1)
    rw [hstep, ih h.2]
    congr 1
    rw [← String.toList_inj]
    simp

/-- The name of a hole is read up to its end. -/
theorem foldl_read_name {name : List Char} (h : '»' ∉ name) (t start : String) :
    name.foldl (FillState.read holes) ⟨t, some start⟩
      = ⟨t, some (start ++ String.ofList name)⟩ := by
  induction name generalizing start with
  | nil => simp
  | cons c name ih =>
    rw [mem_cons, not_or] at h
    rw [foldl_cons]
    have hstep : FillState.read holes ⟨t, some start⟩ c = ⟨t, some (start.push c)⟩ := by
      unfold FillState.read
      exact if_neg (Ne.symm h.1)
    rw [hstep, ih h.2]
    congr 2
    rw [← String.toList_inj]
    simp

theorem fill_plain {s : String} (h : '«' ∉ s.toList) : fill holes s = s := by
  unfold fill
  rw [foldl_read_plain h, String.empty_append, String.ofList_toList]

theorem fill_plain_append {before : String} (h : '«' ∉ before.toList) (after : String) :
    fill holes (before ++ after) = before ++ fill holes after := by
  unfold fill
  rw [String.toList_append, foldl_append, foldl_read_plain h, String.empty_append,
    String.ofList_toList]
  have hrest : (after.toList.foldl (FillState.read holes) ⟨before ++ "", none⟩).text
      = before ++ (after.toList.foldl (FillState.read holes) ⟨"", none⟩).text :=
    foldl_read_append before "" none after.toList
  rwa [String.append_empty] at hrest

theorem fill_hole_append {name value : String} (hget : holes.get? name = some value)
    (hname : '»' ∉ name.toList) (after : String) :
    fill holes ("«" ++ name ++ "»" ++ after) = value ++ fill holes after := by
  have hchars : ("«" ++ name ++ "»" ++ after).toList
      = '«' :: (name.toList ++ '»' :: after.toList) := by
    simp only [String.toList_append, append_assoc]
    rfl
  have hopen : FillState.read holes ⟨"", none⟩ '«' = ⟨"", some ""⟩ := rfl
  have hclose : FillState.read holes ⟨"", some ("" ++ String.ofList name.toList)⟩ '»'
      = ⟨value ++ "", none⟩ := by
    unfold FillState.read
    rw [String.empty_append, String.ofList_toList, String.append_empty]
    dsimp only
    rw [if_pos rfl, hget]
    exact congrArg (FillState.mk · none) (String.empty_append)
  unfold fill
  rw [hchars, foldl_cons, foldl_append, hopen, foldl_read_name hname, foldl_cons,
    hclose]
  exact foldl_read_append value "" none after.toList

/-- **A text with holes, piece by piece**, and the text once they are filled. -/
inductive Fills (holes : Table String String) : List Char → String → Prop
  /-- The text behind the last hole. -/
  | last {cs : List Char} (h : '«' ∉ cs := by decide) : Fills holes cs (String.ofList cs)
  /-- A piece of text. -/
  | text {cs rest : List Char} {t : String} (hrest : Fills holes rest t)
    (h : '«' ∉ cs := by decide) : Fills holes (cs ++ rest) (String.ofList cs ++ t)
  | hole (name : String) {value t : String} {rest : List Char} (hrest : Fills holes rest t)
    (hget : holes.get? name = some value := by rfl) (hname : '»' ∉ name.toList := by decide) :
    Fills holes ('«' :: (name.toList ++ '»' :: rest)) (value ++ t)

theorem Fills.fill_eq {cs layout : List Char} {t : String} (h : Fills holes layout t)
    (hcs : cs = layout) : fill holes (String.ofList cs) = t := by
  subst hcs
  induction h with
  | last h => exact fill_plain (by rwa [String.toList_ofList])
  | text _ h ih =>
    rw [String.ofList_append, fill_plain_append (by rwa [String.toList_ofList]), ih]
  | @hole name value t rest _ hget hname ih =>
    have hsplit : String.ofList ('«' :: (name.toList ++ '»' :: rest))
        = "«" ++ name ++ "»" ++ String.ofList rest := by
      rw [← String.toList_inj]
      simp only [String.toList_append, String.toList_ofList, append_assoc]
      rfl
    rw [hsplit, fill_hole_append hget hname, ih]

/-- **A form is the text of its block**, with the holes filled. -/
theorem Fills.form_eq {cs layout : List Char} {t : String} (h : Fills holes layout t)
    (hblock : blockChars true (cs.drop 1) = layout) : form holes (String.ofList cs) = t := by
  unfold form
  rw [block_ofList, hblock, h.fill_eq rfl]

end Forms

end FlowBindings.Text
