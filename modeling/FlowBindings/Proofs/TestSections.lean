import FlowBindings.Proofs.Lines
import FlowBindings.TestData

/-!
# Reading back the sections of a file

Sections are written to a file line by line: a header with the name and then the lines of
the section. Blanks and a comment may follow on any line (`IsTail`), and lines that hold
nothing else may stand anywhere. Each line is stripped before anything else is asked of
it, so all of this is undone at once: what is left of a line is what it was written for
(`stripLine_append`). The rest is an induction over the layout of the file.
-/

namespace FlowBindings

theorem Table.has_iff {κ ν : Type} [DecidableEq κ] {t : Table κ ν} {k : κ} :
    t.has k = true ↔ k ∈ t.keys := by
  simp [has, keys]

namespace Text

/-! ## Splitting -/

theorem splitChars_ne_nil (p : Char → Bool) (cs : List Char) : splitChars p cs ≠ [] := by
  fun_cases splitChars p cs <;> simp

theorem splitChars_append {p : Char → Bool} {c : Char} (hc : p c = true) (cs ds : List Char) :
    splitChars p (cs ++ c :: ds) = splitChars p cs ++ splitChars p ds := by
  fun_induction splitChars p cs with
  | case1 => simp [splitChars, hc]
  | case2 d cs hd ih => simp [splitChars, hd, ih]
  | case3 d cs _ hnil => exact absurd hnil (splitChars_ne_nil p cs)
  | case4 d cs hd piece pieces hcons ih => simp [splitChars, hd, ih, hcons]

theorem words_append_newline (s t : String) : words (s ++ "\n" ++ t) = words s ++ words t := by
  have hchars : (s ++ "\n" ++ t).toList = s.toList ++ '\n' :: t.toList := by
    rw [String.toList_append, String.toList_append, List.append_assoc]
    rfl
  rw [words, hchars, splitChars_append (by decide), List.filter_append, List.map_append]
  rfl

/-- The words of lines are the words of each line. -/
theorem words_join (lines : List String) : words (join "\n" lines) = lines.flatMap words := by
  have hfrom : ∀ (rest : List String) (start : String),
      words (rest.foldl (fun text t => text ++ "\n" ++ t) start)
        = words start ++ rest.flatMap words := by
    intro rest
    induction rest with
    | nil => simp
    | cons line rest ih =>
      intro start
      rw [List.foldl_cons, ih, words_append_newline, List.flatMap_cons, List.append_assoc]
  cases lines with
  | nil => rfl
  | cons line rest => exact hfrom rest line

end Text

namespace TestData

open Text List Table

/-! ## Lines of a file -/

/-- What may follow on a line: blanks, and a comment behind them. -/
def IsTail (tail : String) : Prop :=
  ∃ blanks comment, tail.toList = blanks ++ comment ∧ (∀ c ∈ blanks, isBlank c = true)
    ∧ (comment = [] ∨ ∃ rest, comment = '#' :: rest)

/-- **A line is stripped to what it was written for.** -/
theorem stripLine_append {line tail : String} (hline : '#' ∉ line.toList)
    (hright : trimRight line = line) (htail : IsTail tail) : stripLine (line ++ tail) = line := by
  obtain ⟨blanks, comment, hsplit, hblanks, hcomment⟩ := htail
  have hkept : line.toList.rdropWhile isBlank = line.toList := by
    rw [← toList_trimRight, hright]
  have hnone : blanks.rdropWhile isBlank = [] := rdropWhile_eq_nil_iff.mpr hblanks
  have htake : ∀ rest,
      (line.toList ++ rest).takeWhile (· ≠ '#') = line.toList ++ rest.takeWhile (· ≠ '#') :=
    fun rest => takeWhile_append_of_pos fun c hc => decide_eq_true fun heq => hline (heq ▸ hc)
  rw [← String.toList_inj, stripLine, toList_trimRight, String.toList_ofList, toList_trimRight,
    String.toList_append, hsplit]
  rcases hcomment with rfl | ⟨rest, rfl⟩
  · have hplain := htake []
    rw [append_nil, takeWhile_nil, append_nil] at hplain
    rw [append_nil, rdropWhile_append, if_pos hnone, hkept, hplain, hkept]
  · -- Of the comment its number sign stays, for it is no blank.
    have hsign : ('#' :: rest).rdropWhile isBlank ≠ [] := fun hnil =>
      absurd (rdropWhile_eq_nil_iff.mp hnil '#' mem_cons_self) (by decide)
    obtain ⟨rest', hrest'⟩ : ∃ rest', ('#' :: rest).rdropWhile isBlank = '#' :: rest' := by
      rcases prefix_cons_iff.mp (List.rdropWhile_prefix isBlank ('#' :: rest)) with h | ⟨t, h, -⟩
      · exact absurd h hsign
      · exact ⟨t, h⟩
    have hblank : ∀ c ∈ blanks, decide (c ≠ '#') = true := by
      refine fun c hc => decide_eq_true ?_
      rintro rfl
      exact absurd (hblanks _ hc) (by decide)
    rw [← append_assoc, rdropWhile_append, if_neg hsign, hrest', append_assoc, htake,
      takeWhile_append_of_pos hblank, takeWhile_cons_of_neg (by simp), append_nil,
      rdropWhile_append, if_pos hnone, hkept]

theorem stripLine_isPrefix (raw : String) : (stripLine raw).toList <+: raw.toList := by
  rw [stripLine, toList_trimRight, String.toList_ofList, toList_trimRight]
  exact ((List.rdropWhile_prefix ..).trans (List.takeWhile_prefix _)).trans
    (List.rdropWhile_prefix ..)

/-- A name of a section. -/
def IsName (name : String) : Prop := name ≠ "" ∧ '#' ∉ name.toList ∧ trim name = name

/-- A line that a section may hold. -/
def IsContent (line : String) : Prop :=
  line ≠ "" ∧ '#' ∉ line.toList ∧ startsWith line "--" = false ∧ trimRight line = line

/-- A line of a file that is written for the given one. -/
def Holds (raw line : String) : Prop := ∃ tail, IsTail tail ∧ raw = line ++ tail

/-- Lines of a file that are written for the lines of a section. -/
inductive Body : List String → List String → Prop
  | nil : Body [] []
  | noise {raw : String} {raws lines : List String} (h : Holds raw "") (rest : Body raws lines) :
    Body (raw :: raws) lines
  | line {raw line : String} {raws lines : List String} (h : Holds raw line)
    (hline : IsContent line) (rest : Body raws lines) : Body (raw :: raws) (line :: lines)

/-- Lines of a file that are written for sections. -/
inductive Sections : List String → Table String (List String) → Prop
  | nil : Sections [] []
  | cons {header name : String} {body lines raws : List String} {secs : Table String (List String)}
    (h : Holds header ("-- " ++ name)) (hname : IsName name) (hbody : Body body lines)
    (rest : Sections raws secs) : Sections (header :: (body ++ raws)) ((name, lines) :: secs)

/-! ## Taking the lines of a file -/

section Lines

variable {current : Option String} {secs : Table String (List String)}

variable {raw : String}

/-- Blank lines and comments are passed over. -/
theorem takeLine_noise (h : Holds raw "") :
    takeLine (current, secs) raw = .ok (current, secs) := by
  obtain ⟨tail, htail, rfl⟩ := h
  unfold takeLine
  dsimp only
  rw [stripLine_append (by decide) (by decide) htail]
  rfl

/-- A line of a section comes behind its others. -/
theorem takeLine_content {line name : String} (h : Holds raw line) (hline : IsContent line)
    (hname : name ≠ "") : takeLine (some name, secs) raw
      = .ok (some name, secs.update name [] (· ++ [line])) := by
  obtain ⟨tail, htail, rfl⟩ := h
  obtain ⟨hne, hsign, hhyphens, hright⟩ := hline
  unfold takeLine
  dsimp only
  rw [stripLine_append hsign hright htail, if_neg hne, hhyphens, if_neg Bool.false_ne_true,
    if_neg hname]
  rfl

/-- A line with a section's name begins the section, unless the file has it already. -/
theorem takeLine_header {name : String} (h : Holds raw ("-- " ++ name)) (hname : IsName name) :
    takeLine (current, secs) raw
      = if name ∈ secs.keys then .error (.refused "section %s already exists in the test data file")
        else .ok (some name, secs ++ [(name, [])]) := by
  obtain ⟨tail, htail, rfl⟩ := h
  obtain ⟨hne, hsign, htrim⟩ := hname
  have hchars : ("-- " ++ name).toList = ['-', '-', ' '] ++ name.toList := String.toList_append
  have hright : name.toList.rdropWhile isBlank = name.toList := by
    have hidem := rdropWhile_idempotent isBlank (trimLeft name).toList
    rwa [← toList_trimRight, show trimRight (trimLeft name) = name from htrim] at hidem
  have hnonempty : name.toList ≠ [] := fun hnil => hne (String.toList_inj.mp hnil)
  have hkept : trimRight ("-- " ++ name) = "-- " ++ name := by
    rw [← String.toList_inj, toList_trimRight, hchars, rdropWhile_append, hright, if_neg hnonempty]
  have hname : trim (dropFirst 2 ("-- " ++ name)) = name := by
    have hdrop : dropFirst 2 ("-- " ++ name) = " " ++ name := by
      rw [dropFirst, hchars, ← String.toList_inj, String.toList_append, String.toList_ofList]
      rfl
    rw [hdrop, trim, trimLeft, String.toList_append]
    exact htrim
  have hstarts : startsWith ("-- " ++ name) "--" = true := by
    rw [startsWith, hchars]
    rfl
  unfold takeLine
  dsimp only
  rw [stripLine_append (by rw [hchars]; simpa using hsign) hkept htail,
    if_neg (fun hnil => by simp [← String.toList_inj, hchars] at hnil), if_pos hstarts, hname]
  by_cases hmem : name ∈ secs.keys
  · rw [if_pos (has_iff.mpr hmem), if_pos hmem]
    rfl
  · rw [if_neg (mt has_iff.mp hmem), if_neg hmem]
    rfl

theorem takeLine_lead (h : startsWith raw "--" = false) :
    takeLine (none, secs) raw = .ok (none, secs) := by
  have hstrip : startsWith (stripLine raw) "--" = false := by
    rw [startsWith, Bool.eq_false_iff, ne_eq, isPrefixOf_iff_prefix] at h ⊢
    exact fun hp => h (hp.trans (stripLine_isPrefix raw))
  unfold takeLine
  dsimp only
  rw [hstrip, if_neg Bool.false_ne_true, ite_self]
  rfl

end Lines

variable {secs : Table String (List String)}

theorem update_last {name : String} (h : name ∉ secs.keys) (before : List String) (line : String) :
    update (secs ++ [(name, before)]) name [] (· ++ [line])
      = secs ++ [(name, before ++ [line])] := by
  rw [update, get?_append_self h, Option.getD_some]
  induction secs with
  | nil => simp [Table.set]
  | cons p secs ih =>
    rw [Table.keys, map_cons, mem_cons, not_or] at h
    rw [cons_append, Table.set, if_neg (Ne.symm h.1), ih h.2]
    rfl

/-- The lines of a section come behind those it has. -/
theorem foldlM_body {name : String} (hname : name ≠ "")
    (hsecs : name ∉ secs.keys) {body lines : List String} (hbody : Body body lines) :
    ∀ before, body.foldlM takeLine (some name, secs ++ [(name, before)])
      = .ok (some name, secs ++ [(name, before ++ lines)]) := by
  induction hbody with
  | nil => intro before; rw [append_nil]; rfl
  | noise h _ ih =>
    intro before
    rw [foldlM_cons, takeLine_noise h]
    exact ih before
  | line h hline _ ih =>
    intro before
    rw [foldlM_cons, takeLine_content h hline hname, update_last hsecs]
    refine (ih _).trans ?_
    rw [append_assoc]
    rfl

/-- **The sections are collected as written**, and a name that occurs twice is refused. -/
theorem foldlM_sections {raws : List String}
    (h : Sections raws secs) : ∀ current (done : Table String (List String)), done.keys.Nodup →
      (raws.foldlM takeLine (current, done)).map (·.2)
        = if (keys (done ++ secs)).Nodup then .ok (done ++ secs)
          else .error (.refused "section %s already exists in the test data file") := by
  induction h with
  | nil =>
    intro current done hdone
    rw [append_nil, if_pos hdone]
    rfl
  | @cons header name body lines raws secs h hname hbody rest ih =>
    intro current done hdone
    rw [foldlM_cons, takeLine_header h hname]
    by_cases hmem : name ∈ done.keys
    · rw [if_pos hmem, if_neg]
      · rfl
      · intro hnodup
        rw [Table.keys, map_append, nodup_append] at hnodup
        exact hnodup.2.2 name hmem name mem_cons_self rfl
    · have hdone' : (keys (done ++ [(name, lines)])).Nodup := by
        rw [Table.keys, map_append]
        exact hdone.append (nodup_singleton name) (disjoint_singleton.mpr hmem)
      have hrest := ih (some name) (done ++ [(name, lines)]) hdone'
      rw [append_assoc, singleton_append] at hrest
      rw [if_neg hmem, ← hrest]
      have hrun : (body ++ raws).foldlM takeLine (some name, done ++ [(name, [])])
          = raws.foldlM takeLine (some name, done ++ [(name, lines)]) := by
        rw [foldlM_append, foldlM_body hname.1 hmem hbody]
        rfl
      exact congrArg (Except.map (·.2)) hrun

/-! ## The content of the sections -/

/-- A hexadecimal numeral for a byte. -/
def IsByte (token : String) (n : Nat) : Prop := readInt? 16 token = some n ∧ n < 256

theorem readByte_eq {token : String} {n : Nat} (h : IsByte token n) : readByte token = .ok n := by
  unfold readByte
  rw [h.1]
  exact if_pos h.2

theorem content_binary {lines : List String} {message : List Nat}
    (h : List.Forall₂ IsByte (lines.flatMap words) message) :
    content "binary" lines = .ok (.message message) := by
  have hread : (words (join "\n" lines)).mapM readByte = .ok message := by
    rw [words_join]
    exact mapM_eq_ok_iff.mpr (h.imp fun _ _ => readByte_eq)
  exact bind_eq_ok_iff.mpr ⟨message, hread, rfl⟩

theorem foldlM_lead {lead : List String} (h : ∀ raw ∈ lead, startsWith raw "--" = false) :
    lead.foldlM takeLine (none, []) = .ok (none, []) := by
  induction lead with
  | nil => rfl
  | cons raw lead ih =>
    rw [forall_mem_cons] at h
    rw [foldlM_cons, takeLine_lead h.1]
    exact ih h.2

/-- **A file is read back as it was written.** Let its lines be any that come before the
first header, and then lines written for sections. If a name occurs twice, the file is
refused, whatever the sections hold. Otherwise each section is read as its lines, and the
one of bytes as these bytes. -/
theorem parse_written {text : String} {lead raws : List String}
    {secs : Table String (List String)}
    (hlines : linesKept (String.ofList (bytes text)) = lead ++ raws)
    (hlead : ∀ raw ∈ lead, startsWith raw "--" = false) (hraws : Sections raws secs) :
    (¬ secs.keys.Nodup →
        parse text = .error (.refused "section %s already exists in the test data file"))
      ∧ (secs.keys.Nodup → ∀ message,
        (∀ lines, ("binary", lines) ∈ secs → Forall₂ IsByte (lines.flatMap words) message) →
        parse text = .ok (secs.map fun (name, lines) =>
          (name, if name = "binary" then .message message else .text (join "\n" lines)))) := by
  have hfound := foldlM_sections hraws none [] nodup_nil
  have hrun : (lead ++ raws).foldlM takeLine (none, []) = raws.foldlM takeLine (none, []) := by
    rw [foldlM_append, foldlM_lead hlead]
    rfl
  rw [nil_append] at hfound
  rw [parse, hlines, hrun, hfound]
  refine ⟨fun htwice => by rw [if_neg htwice]; rfl, fun honce message hbytes => ?_⟩
  rw [if_pos honce]
  refine mapM_eq_ok fun p hp => ?_
  obtain ⟨name, lines⟩ := p
  refine bind_eq_ok_iff.mpr ⟨_, ?_, rfl⟩
  by_cases hname : name = "binary"
  · subst hname
    exact content_binary (hbytes lines hp)
  · rw [content, if_neg hname, if_neg hname]
    rfl

/-- Bytes and a text are read, and two sections of bytes refused. -/
theorem parse_written_greeting :
    parse "note\n-- binary\n00 0b # two\n\n-- c\na \n"
        = .ok [("binary", .message [0, 11]), ("c", .text "a")]
      ∧ parse "-- binary\n00\n-- binary\nxy\n"
        = .error (.refused "section %s already exists in the test data file") := by
  have hend : IsTail "\n" := ⟨['\n'], [], rfl, by simp [isBlank], .inl rfl⟩
  have hblank : IsTail " \n" := ⟨[' ', '\n'], [], rfl, by simp [isBlank], .inl rfl⟩
  have hcomment : IsTail " # two\n" := ⟨[' '], _, rfl, by simp [isBlank], .inr ⟨_, rfl⟩⟩
  have hname : Holds "-- binary\n" ("-- " ++ "binary") ∧ IsName "binary" :=
    ⟨⟨_, hend, by decide⟩, by decide, by decide, by decide⟩
  have hbinary : Body ["00 0b # two\n", "\n"] ["00 0b"] :=
    .line ⟨_, hcomment, by decide⟩ ⟨by decide, by decide, by decide, by decide⟩
      (.noise ⟨_, hend, by decide⟩ .nil)
  have hc : Body ["a \n"] ["a"] :=
    .line ⟨_, hblank, by decide⟩ ⟨by decide, by decide, by decide, by decide⟩ .nil
  have hbyte : Body ["00\n"] ["00"] :=
    .line ⟨_, hend, by decide⟩ ⟨by decide, by decide, by decide, by decide⟩ .nil
  have hno : Body ["xy\n"] ["xy"] :=
    .line ⟨_, hend, by decide⟩ ⟨by decide, by decide, by decide, by decide⟩ .nil
  have hsections : Sections ["-- binary\n", "00 0b # two\n", "\n", "-- c\n", "a \n"]
      [("binary", ["00 0b"]), ("c", ["a"])] :=
    .cons hname.1 hname.2 hbinary
      (.cons ⟨_, hend, by decide⟩ ⟨by decide, by decide, by decide⟩ hc .nil)
  have htwice : Sections ["-- binary\n", "00\n", "-- binary\n", "xy\n"]
      [("binary", ["00"]), ("binary", ["xy"])] :=
    .cons hname.1 hname.2 hbyte (.cons hname.1 hname.2 hno .nil)
  constructor
  · refine ((@parse_written _ ["note\n"] _ _ (by decide +kernel) (by decide) hsections).2
      (by decide) [0, 11] fun lines hlines => ?_).trans (by decide +kernel)
    obtain rfl : lines = ["00 0b"] := by simpa using hlines
    exact .cons ⟨by decide +kernel, by decide⟩ (.cons ⟨by decide +kernel, by decide⟩ .nil)
  · exact (@parse_written _ [] _ _ (by decide +kernel) (by decide) htwice).1 (by decide)

end TestData

end FlowBindings
