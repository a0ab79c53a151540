import FlowBindings.ObjectModel.Imports
import FlowBindings.Proofs.Lines

/-!
# What cleaning does to the imports

Each line of the code takes the imports that it is the first to use, in the order in which
they stand. So the imports that stay are those that some line uses, each as often as it
was there, in the order of their first uses (`ClassFile.perm_used`,
`ClassFile.pairwise_used`). This order is the one in which a second cleaning finds them,
and it takes them in the same way (`ClassFile.sortOut_used`).

That a second cleaning finds them at all is a matter of lines: blanks at the end of a line
are dropped, and a line that is written is read back as an import if it was one, and only
then.
-/

namespace FlowBindings.ObjectModel

open Text
open List hiding concat concat_append concat_cons concat_nil

namespace ClassFile

/-! ## Imports by their first use -/

variable (imports : List Import) (code : List String)

theorem sortOut_cons (line : String) (rest : List String) :
    (sortOut imports (line :: rest)).1 = imports.filter (·.isUsedBy line)
      ++ (sortOut (imports.filter (!·.isUsedBy line)) rest).1 := by
  rw [sortOut, partition_eq_filter_filter]
  rfl

theorem perm_used :
    (sortOut imports code).1.Perm (imports.filter fun i => code.any i.isUsedBy) := by
  induction code generalizing imports with
  | nil => simp [sortOut]
  | cons line rest ih =>
    rw [sortOut_cons]
    have hsplit := filter_append_perm (·.isUsedBy line)
      (imports.filter fun i => (line :: rest).any i.isUsedBy)
    have hnow : (imports.filter fun i => (line :: rest).any i.isUsedBy).filter (·.isUsedBy line)
        = imports.filter (·.isUsedBy line) := by
      rw [filter_filter]
      exact filter_congr fun i _ => by cases h : i.isUsedBy line <;> simp [h]
    have hlater : (imports.filter fun i => (line :: rest).any i.isUsedBy).filter (!·.isUsedBy line)
        = (imports.filter (!·.isUsedBy line)).filter fun i => rest.any i.isUsedBy := by
      rw [filter_filter, filter_filter]
      exact filter_congr fun i _ => by cases h : i.isUsedBy line <;> simp [h]
    rw [hnow, hlater] at hsplit
    exact ((ih _).append_left _).trans hsplit

theorem isUsedBy_of_mem_used {imports : List Import} {line : String} {rest : List String}
    {i : Import} (h : i ∈ (sortOut (imports.filter (!·.isUsedBy line)) rest).1) :
    i.isUsedBy line = false := by
  have hmem := mem_of_mem_filter ((perm_used _ rest).mem_iff.mp h)
  simpa using of_mem_filter hmem

theorem pairwise_used :
    (sortOut imports code).1.Pairwise fun i j =>
      code.findIdx i.isUsedBy ≤ code.findIdx j.isUsedBy := by
  induction code generalizing imports with
  | nil => exact List.Pairwise.nil
  | cons line rest ih =>
    rw [sortOut_cons, pairwise_append]
    refine ⟨pairwise_of_forall_mem_list fun i hi j _ => ?_, ?_, fun i hi j _ => ?_⟩
    · simp [findIdx_cons, of_mem_filter hi]
    · refine (ih _).imp_of_mem fun hi hj hle => ?_
      simpa [findIdx_cons, isUsedBy_of_mem_used hi, isUsedBy_of_mem_used hj] using hle
    · simp [findIdx_cons, of_mem_filter hi]

theorem sortOut_used :
    (sortOut (sortOut imports code).1 code).1 = (sortOut imports code).1 := by
  induction code generalizing imports with
  | nil => rfl
  | cons line rest ih =>
    rw [sortOut_cons imports, sortOut_cons]
    generalize hlater : (sortOut (imports.filter (!·.isUsedBy line)) rest).1 = later
    have hnone : later.filter (·.isUsedBy line) = [] :=
      filter_eq_nil_iff.mpr fun i hi => by simp [isUsedBy_of_mem_used (hlater ▸ hi)]
    have hall : later.filter (!·.isUsedBy line) = later :=
      filter_eq_self.mpr fun i hi => by simp [isUsedBy_of_mem_used (hlater ▸ hi)]
    have hrest : (sortOut later rest).1 = later := hlater ▸ ih _
    simp [filter_append, hnone, hall, hrest]

end ClassFile

/-! ## Lines that are read and written -/

/-- A text without line breaks. -/
def Unbroken (cs : List Char) : Prop := ∀ c ∈ cs, c ≠ '\r' ∧ c ≠ '\n'

theorem fileLinesFrom_append {body : List Char} (h : Unbroken body) (line rest : List Char) :
    fileLinesFrom line (body ++ '\n' :: rest)
      = (line.reverse ++ (body ++ ['\n'])) :: fileLinesFrom [] rest := by
  induction body generalizing line with
  | nil => simp [fileLinesFrom]
  | cons c body ih =>
    obtain ⟨hc, hbody⟩ := forall_mem_cons.mp h
    rw [cons_append, fileLinesFrom, if_neg (by simp [hc]), ih hbody]
    · simp
    · exact fun _ hreturn => absurd hreturn hc.1

theorem unbroken_of_mem_fileLinesFrom {line cs l : List Char} (hline : Unbroken line)
    (h : l ∈ fileLinesFrom line cs) : ∃ body, Unbroken body ∧ (l = body ∨ l = body ++ ['\n']) := by
  have hread : ∀ {line : List Char}, Unbroken line → Unbroken line.reverse :=
    fun hline c hc => hline c (mem_reverse.mp hc)
  fun_induction fileLinesFrom line cs with
  | case1 line hempty => exact absurd h not_mem_nil
  | case2 line hempty =>
    rw [mem_singleton.mp h]
    exact ⟨_, hread hline, .inl rfl⟩
  | case3 line rest ih =>
    rcases mem_cons.mp h with rfl | h
    · exact ⟨_, hread hline, .inr reverse_cons⟩
    · exact ih (fun _ hc => absurd hc not_mem_nil) h
  | case4 line c rest _ hbreak ih =>
    rcases mem_cons.mp h with rfl | h
    · exact ⟨_, hread hline, .inr reverse_cons⟩
    · exact ih (fun _ hc => absurd hc not_mem_nil) h
  | case5 line c rest _ hc ih =>
    refine ih (forall_mem_cons.mpr ⟨?_, hline⟩) h
    simpa using hc

theorem unbroken_trimRight {s l : String} (h : l ∈ fileLines s) :
    Unbroken (trimRight l).toList := by
  obtain ⟨cs, hcs, rfl⟩ := mem_map.mp h
  obtain ⟨body, hbody, hl⟩ := unbroken_of_mem_fileLinesFrom (fun _ hc => absurd hc not_mem_nil) hcs
  have hpre : cs.rdropWhile isBlank <+: body := by
    rcases hl with rfl | rfl
    · exact rdropWhile_prefix ..
    · rw [rdropWhile_append, if_pos (by decide)]
      exact rdropWhile_prefix ..
  rw [toList_trimRight, String.toList_ofList]
  exact fun c hc => hbody c (hpre.subset hc)

/-- Lines that are written are read back. -/
theorem fileLines_concat {lines : List String} (h : ∀ l ∈ lines, Unbroken l.toList) :
    fileLines (concat (lines.map (· ++ "\n"))) = lines.map (· ++ "\n") := by
  rw [fileLines, toList_concat]
  induction lines with
  | nil => rfl
  | cons l lines ih =>
    obtain ⟨hl, hlines⟩ := forall_mem_cons.mp h
    have hchars : (l ++ "\n").toList = l.toList ++ ['\n'] := String.toList_append
    rw [map_cons, flatMap_cons, hchars, append_assoc, singleton_append,
      fileLinesFrom_append hl, map_cons, ih hlines]
    refine congrArg (· :: _) ?_
    rw [← String.toList_inj, String.toList_ofList, hchars]
    rfl

theorem trimRight_trimRight_newline (l : String) :
    trimRight (trimRight l ++ "\n") = trimRight l := by
  rw [← String.toList_inj, toList_trimRight, String.toList_append, rdropWhile_append,
    if_pos (by decide), toList_trimRight, rdropWhile_idempotent]

/-- The characters that stand before the keyword of an import. -/
def IsIndent (lead : List Char) : Prop := ∀ c ∈ lead, c = ' ' ∨ c = '\t'

theorem isImport_iff {l : String} : isImport l = true
    ↔ ∃ lead rest, IsIndent lead ∧ l.toList = lead ++ ("import ".toList ++ rest) := by
  have hchars : ∀ cs : List Char, (String.ofList cs).toList = cs := fun _ => String.toList_ofList
  rw [isImport, startsWith, isPrefixOf_iff_prefix, hchars (List.dropWhile _ _)]
  constructor
  · rintro ⟨rest, hrest⟩
    refine ⟨l.toList.takeWhile fun c => c = ' ' || c = '\t', rest, fun c hc => ?_, ?_⟩
    · simpa using mem_takeWhile_imp hc
    · rw [hrest, takeWhile_append_dropWhile]
  · rintro ⟨lead, rest, hlead, hl⟩
    rw [hl, dropWhile_append_of_pos fun c hc => by simpa using hlead c hc]
    exact ⟨rest, rfl⟩

/-- An import with something behind its keyword. -/
def NamesSomething (l : String) : Prop :=
  ∃ lead rest, IsIndent lead ∧ l.toList = lead ++ ("import ".toList ++ rest)
    ∧ ∃ c ∈ rest, isBlank c = false

theorem isImport_written {l : String} (h : NamesSomething l) :
    isImport (trimRight l ++ "\n") = true := by
  obtain ⟨lead, rest, hlead, hl, c, hc, hblank⟩ := h
  have hrest : rest.rdropWhile isBlank ≠ [] := fun hnil => by
    rw [rdropWhile_eq_nil_iff.mp hnil c hc] at hblank
    cases hblank
  refine isImport_iff.mpr ⟨lead, rest.rdropWhile isBlank ++ ['\n'], hlead, ?_⟩
  rw [String.toList_append, toList_trimRight, hl, ← append_assoc, rdropWhile_append, if_neg hrest]
  simp

theorem not_isImport_written {l : String} (h : isImport l = false) :
    isImport (trimRight l ++ "\n") = false := by
  rw [Bool.eq_false_iff, ne_eq, isImport_iff] at h ⊢
  rintro ⟨lead, rest, hlead, hl⟩
  have hpre : (trimRight l).toList <+: l.toList := by
    rw [toList_trimRight]
    exact rdropWhile_prefix ..
  obtain ⟨more, hmore⟩ := hpre
  rw [String.toList_append] at hl
  -- The keyword ends with a blank, so the line break stands behind it.
  rcases eq_nil_or_concat rest with rfl | ⟨rest, c, rfl⟩
  · have hlast := congrArg List.getLast? hl
    simp at hlast
  · rw [concat_eq_append, ← append_assoc, ← append_assoc] at hl
    have hkept := append_inj_left' hl rfl
    refine h ⟨lead, rest ++ more, hlead, ?_⟩
    rw [← hmore, hkept]
    simp

namespace ClassFile

/-! ## Cleaning twice -/

/-- The imports that stay go where the first one stood. -/
theorem cleanedLines_ofText {s : String} (hplace : ∀ k, (fileLines s).findIdx? isImport = some k →
      ∃ l ∈ (fileLines s).drop k, isImport l = false) :
    let f := ofText s
    let k := (fileLines s).findIdx isImport
    f.cleanedLines = f.code.take k ++ f.used.map (·.line) ++ f.code.drop k
      ∧ (f.used ≠ [] → k < f.code.length) := by
  intro f k
  cases hfirst : (fileLines s).findIdx? isImport with
  | none =>
    have himports : f.imports = [] := by
      show ((fileLines s).filter isImport).map _ = []
      rw [filter_eq_nil_iff.mpr fun l hl => by
        rw [findIdx?_eq_none_iff.mp hfirst l hl]; exact Bool.false_ne_true]
      rfl
    have hused : f.used = [] := by
      have hperm := perm_used f.imports f.code
      rw [himports, filter_nil] at hperm
      rw [used, himports]
      exact hperm.eq_nil
    refine ⟨?_, fun hne => absurd hused hne⟩
    rw [hused, map_nil, append_nil, take_append_drop, cleanedLines,
      show f.first = none from hfirst]
  | some j =>
    obtain ⟨hj, rfl⟩ := findIdx?_eq_some_iff_findIdx_eq.mp hfirst
    have hbefore : ∀ l ∈ (fileLines s).take k, (!isImport l) = true := by
      intro l hl
      obtain ⟨i, hi, rfl⟩ := mem_take_iff_getElem.mp hl
      rw [not_of_lt_findIdx (Nat.lt_of_lt_of_le hi (Nat.min_le_left ..))]
      rfl
    obtain ⟨l, hl, hcode⟩ := hplace _ hfirst
    have hlt : k < f.code.length := by
      have hbehind : 0 < (((fileLines s).drop k).filter (!isImport ·)).length :=
        length_pos_of_mem (mem_filter.mpr ⟨hl, by rw [hcode]; rfl⟩)
      have hparts := congrArg (fun ls => (ls.filter (!isImport ·)).length)
        (take_append_drop k (fileLines s))
      simp only [filter_append, length_append, filter_eq_self.mpr hbefore,
        length_take] at hparts
      have hlength : f.code.length = ((fileLines s).filter (!isImport ·)).length := length_map _
      omega
    refine ⟨?_, fun _ => hlt⟩
    rw [cleanedLines, show f.first = some k from hfirst]
    exact if_pos hlt

/-- In the written lines the imports are told from the code. -/
theorem filter_written {code : List String} {used : List Import} (k : Nat)
    (hcode : ∀ l ∈ code, isImport (l ++ "\n") = false)
    (hused : ∀ i ∈ used, isImport (i.line ++ "\n") = true) :
    let out := (code.take k ++ used.map (·.line) ++ code.drop k).map (· ++ "\n")
    out.filter isImport = used.map (·.line ++ "\n")
      ∧ out.filter (!isImport ·) = code.map (· ++ "\n")
      ∧ out.findIdx? isImport = if used = [] then none else some (code.take k).length := by
  intro out
  have hpart : ∀ part : List String, (∀ l ∈ part, l ∈ code) →
      ∀ l ∈ part.map (· ++ "\n"), isImport l = false := by
    rintro part hpart l hl
    obtain ⟨l', hl', rfl⟩ := mem_map.mp hl
    exact hcode l' (hpart l' hl')
  have htake := hpart (code.take k) fun _ => mem_of_mem_take
  have hdrop := hpart (code.drop k) fun _ => mem_of_mem_drop
  have hmid : ∀ l ∈ (used.map (·.line)).map (· ++ "\n"), isImport l = true := by
    rw [map_map]
    exact forall_mem_map.mpr hused
  have hnone : ∀ {part : List String}, (∀ l ∈ part, isImport l = false) →
      part.filter isImport = [] := fun h => filter_eq_nil_iff.mpr fun l hl => by simp [h l hl]
  have hall : ∀ {part : List String}, (∀ l ∈ part, isImport l = false) →
      part.filter (!isImport ·) = part := fun h => filter_eq_self.mpr fun l hl => by simp [h l hl]
  simp only [out, map_append, filter_append]
  refine ⟨?_, ?_, ?_⟩
  · rw [hnone htake, hnone hdrop, filter_eq_self.mpr hmid, map_map]
    simp
  · rw [hall htake, hall hdrop, filter_eq_nil_iff.mpr fun l hl => by simp [hmid l hl],
      append_nil, ← map_append, take_append_drop]
  · rw [append_assoc, findIdx?_append, findIdx?_eq_none_iff.mpr htake, Option.none_or]
    cases used with
    | nil =>
      rw [map_nil, map_nil, nil_append, findIdx?_eq_none_iff.mpr hdrop]
      rfl
    | cons i used => simp [findIdx?_cons, hmid _ mem_cons_self]

end ClassFile

/-- A file that is cleaned again, with what is known of its lines. -/
theorem cleaned_again {f : ClassFile} {k : Nat}
    (hlines : f.cleanedLines = f.code.take k ++ f.used.map (·.line) ++ f.code.drop k)
    (hlt : f.used ≠ [] → k < f.code.length)
    (hout : fileLines f.cleaned = f.cleanedLines.map (· ++ "\n"))
    (hcode : ∀ l ∈ f.code, isImport (l ++ "\n") = false ∧ trimRight (l ++ "\n") = l)
    (hused : ∀ i ∈ f.used, isImport (i.line ++ "\n") = true ∧ trimRight (i.line ++ "\n") = i.line) :
    (ClassFile.ofText f.cleaned).cleaned = f.cleaned := by
  obtain ⟨himports, hothers, hfirst⟩ :=
    ClassFile.filter_written k (fun l hl => (hcode l hl).1) fun i hi => (hused i hi).1
  rw [← hlines, ← hout] at himports hothers hfirst
  have hcode' : (ClassFile.ofText f.cleaned).code = f.code := by
    rw [ClassFile.ofText, hothers, map_map]
    exact (map_congr_left fun l hl => (hcode l hl).2).trans (map_id _)
  have hused' : (ClassFile.ofText f.cleaned).imports = f.used := by
    rw [ClassFile.ofText, himports, map_map]
    exact (map_congr_left fun i hi => congrArg Import.mk (hused i hi).2).trans (map_id _)
  have hkept : (ClassFile.ofText f.cleaned).used = f.used := by
    rw [ClassFile.used, hcode', hused']
    exact ClassFile.sortOut_used f.imports f.code
  refine congrArg (fun ls : List String => concat (ls.map (· ++ "\n"))) ?_
  rw [hlines, ClassFile.cleanedLines, hcode', hkept,
    show (ClassFile.ofText f.cleaned).first = _ from hfirst]
  by_cases hnil : f.used = []
  · rw [if_pos hnil, hnil, map_nil, append_nil, take_append_drop]
  · have hk := hlt hnil
    rw [if_neg hnil, length_take, Nat.min_eq_left (Nat.le_of_lt hk)]
    exact if_pos hk

/-- **Cleaning the imports of a file.** Let every import have something behind its keyword, and
some other line stand behind the first import. Then the other lines stay, in their order and
without the blanks at their ends. Of the imports those stay whose name is the star or occurs on
such a line, each as often as it was there. They stand together where the first import stood,
ordered by the first line that uses them; and cleaning again changes nothing. -/
theorem cleanImports_exact {s : String}
    (himports : ∀ l ∈ fileLines s, isImport l = true → NamesSomething l)
    (hplace : ∀ k, (fileLines s).findIdx? isImport = some k →
      ∃ l ∈ (fileLines s).drop k, isImport l = false) :
    ∃ used : List Import,
      let code := ((fileLines s).filter (!isImport ·)).map trimRight
      let imports := ((fileLines s).filter isImport).map fun l => (⟨trimRight l⟩ : Import)
      let k := (fileLines s).findIdx isImport
      let out := fileLines (cleanImports s)
      out.filter (!isImport ·) = code.map (· ++ "\n")
        ∧ out.filter isImport = used.map (·.line ++ "\n")
        ∧ used.Perm (imports.filter fun i => code.any fun l =>
          i.target = "*" || contains l i.target)
        ∧ out = (code.take k ++ used.map (·.line) ++ code.drop k).map (· ++ "\n")
        ∧ used.Pairwise (fun i j => code.findIdx i.isUsedBy ≤ code.findIdx j.isUsedBy)
        ∧ cleanImports (cleanImports s) = cleanImports s := by
  obtain ⟨hlines, hlt⟩ := ClassFile.cleanedLines_ofText hplace
  have hperm := ClassFile.perm_used (ClassFile.ofText s).imports (ClassFile.ofText s).code
  have hcode : ∀ l ∈ (ClassFile.ofText s).code,
      isImport (l ++ "\n") = false ∧ trimRight (l ++ "\n") = l ∧ Unbroken l.toList := by
    intro l hl
    obtain ⟨l', hl', rfl⟩ := mem_map.mp hl
    obtain ⟨hmem, hnot⟩ := mem_filter.mp hl'
    exact ⟨not_isImport_written (by simpa using hnot), trimRight_trimRight_newline l',
      unbroken_trimRight hmem⟩
  have hused : ∀ i ∈ (ClassFile.ofText s).used, isImport (i.line ++ "\n") = true
      ∧ trimRight (i.line ++ "\n") = i.line ∧ Unbroken i.line.toList := by
    intro i hi
    obtain ⟨l, hl, rfl⟩ := mem_map.mp (mem_of_mem_filter (hperm.mem_iff.mp hi))
    obtain ⟨hmem, himport⟩ := mem_filter.mp hl
    exact ⟨isImport_written (himports l hmem himport), trimRight_trimRight_newline l,
      unbroken_trimRight hmem⟩
  have hout : fileLines (cleanImports s) = (ClassFile.ofText s).cleanedLines.map (· ++ "\n") := by
    refine fileLines_concat fun l hl => ?_
    rw [hlines, mem_append, mem_append] at hl
    rcases hl with (hl | hl) | hl
    · exact (hcode l (mem_of_mem_take hl)).2.2
    · obtain ⟨i, hi, rfl⟩ := mem_map.mp hl
      exact (hused i hi).2.2
    · exact (hcode l (mem_of_mem_drop hl)).2.2
  obtain ⟨himports', hothers, -⟩ := ClassFile.filter_written ((fileLines s).findIdx isImport)
    (fun l hl => (hcode l hl).1) fun i hi => (hused i hi).1
  rw [← hlines, ← hout] at himports' hothers
  refine ⟨_, hothers, himports', hperm, hlines ▸ hout, ClassFile.pairwise_used .., ?_⟩
  exact cleaned_again hlines hlt hout (fun l hl => ⟨(hcode l hl).1, (hcode l hl).2.1⟩)
    fun i hi => ⟨(hused i hi).1, (hused i hi).2.1⟩

/-- Of two imports the unused one goes, once and for all. -/
theorem cleanImports_exact_pair :
    let s := "import a.B;\nimport a.C;\nC c; \n"
    cleanImports s = "import a.C;\nC c;\n" ∧ cleanImports (cleanImports s) = cleanImports s := by
  intro s
  have hlines : fileLines s = ["import a.B;\n", "import a.C;\n", "C c; \n"] := by decide
  have himports : ∀ l ∈ fileLines s, isImport l = true → NamesSomething l := by
    rw [hlines, forall_mem_cons, forall_mem_cons, forall_mem_singleton]
    refine ⟨
      fun _ => ⟨[], "a.B;\n".toList, by simp [IsIndent], by decide, 'a', by decide, by decide⟩,
      fun _ => ⟨[], "a.C;\n".toList, by simp [IsIndent], by decide, 'a', by decide, by decide⟩,
      fun h => absurd h (by decide)⟩
  have hplace : ∀ k, (fileLines s).findIdx? isImport = some k →
      ∃ l ∈ (fileLines s).drop k, isImport l = false := by
    intro k hk
    rw [hlines] at hk ⊢
    cases (show _ = some 0 by decide : List.findIdx? isImport _ = some 0).symm.trans hk
    exact ⟨"C c; \n", by decide, by decide⟩
  obtain ⟨-, -, -, -, -, -, hagain⟩ := cleanImports_exact himports hplace
  exact ⟨by decide, hagain⟩

end FlowBindings.ObjectModel
