import FlowBindings.Proofs.Grammar.Reading

/-!
# The rules of the grammar

Each rule of the grammar reads the spellings of what it stands for. The five kinds
of member share a type and a name in front, so each of the later alternatives is
reached because the ones before it read that much and then miss; a padding and the
types with a keyword are told by their first word alone, which is why no other
type may begin with it.
-/

namespace FlowBindings.Declaration

open List Reader Text

variable {k : List Token}

/-! ## Types -/

section Types

theorem reads_arrayType (element count : Word) :
    Reads arrayType (.array element.1 count.1) [.array element count] Anything := by
  unfold arrayType
  refine reads_token fun rest _ => ?_
  have htext : (Token.array element count).text ++ rest
      = element.1.toList ++ ("[".toList ++ (count.1.toList ++ ("]".toList ++ rest))) := by
    show element.1.toList ++ '[' :: count.1.toList ++ [']'] ++ rest = _
    simp
  rw [htext, bind_of_ok (wordHere_append .word element fun c hc => ?_),
    bind_of_ok (markHere_append _ _), Reader.commit,
    bind_of_ok (wordHere_append .word count fun c hc => ?_), bind_of_ok (markHere_append _ _)]
  · rfl
  · rw [← Option.some.inj hc]
    decide
  · rw [← Option.some.inj hc]
    decide

theorem misses_arrayType (h : ∀ element count, .array element count ∉ k.head?) :
    Misses arrayType k := by
  intro cs hcs
  obtain ⟨after, hfront, hstop, hbracket⟩ := hcs.exists_skipBlanks_eq
  have hstop' : ∀ c ∈ after.head?, isWordChar c = false :=
    fun c hc => isWordChar_of_isKeywordChar (hstop c hc)
  unfold arrayType
  rw [hfront]
  by_cases hrun : leadRun k = []
  · rw [hrun, nil_append]
    exact ⟨_, _, bind_of_miss (wordHere_miss _ hstop')⟩
  · have hmark : markHere "[" after = .miss (.symbol "[") after := by
      refine markHere_miss (by decide) fun hhead => ?_
      obtain ⟨element, count, harray⟩ := hbracket hhead
      exact h element count harray
    refine ⟨.symbol "[", after, ?_⟩
    rw [bind_of_ok (wordHere_run .word hrun (fun c hc => isWordChar_of_mem_leadRun hc) hstop')]
    exact bind_of_miss hmark

theorem reads_listType (element : Word) :
    Reads listType (.list element.1) [.list element] Anything := by
  unfold listType
  refine reads_token fun rest _ => ?_
  have htext : (Token.list element).text ++ rest
      = Word.list.1.toList ++ ("(".toList ++ (element.1.toList ++ (")".toList ++ rest))) := by
    show "list(".toList ++ element.1.toList ++ [')'] ++ rest = _
    simp [Word.list]
  have hkeyword : keywordHere "list" ((Token.list element).text ++ rest)
      = .ok () ("(".toList ++ (element.1.toList ++ (")".toList ++ rest))) := by
    rw [htext]
    refine keywordHere_word Word.list fun c hc => ?_
    rw [← Option.some.inj hc]
    decide
  rw [bind_of_ok hkeyword, Reader.commit, bind_of_ok (markHere_append _ _),
    bind_of_ok (wordHere_append .identifier element fun c hc => ?_),
    bind_of_ok (markHere_append _ _)]
  · rfl
  · rw [← Option.some.inj hc]
    decide

theorem misses_listType (h : leadRun k ≠ Word.list.1.toList) : Misses listType k := by
  intro cs hcs
  obtain ⟨what, left, hmiss⟩ := misses_keyword .list h cs hcs
  exact ⟨what, left, bind_of_miss hmiss⟩

theorem misses_enumType (h : leadRun k ≠ Word.enum.1.toList) : Misses enumType k :=
  (misses_keyword .enum h).bind

theorem Word.toList_ne {w : Word} {s : String} (h : w.1 ≠ s) : w.1.toList ≠ s.toList :=
  fun heq => h (String.toList_inj.mp heq)

/-- **Types are read**, whatever follows them. -/
theorem TypeRef.Spelled.reads {type : TypeRef} {ts : List Token} (h : type.Spelled ts)
    (hwell : type.WellFormed) : Reads anyType type ts Anything := by
  cases h with
  | scalar name =>
    have henum : name.1.toList ≠ "enum".toList :=
      Word.toList_ne fun h => hwell.2 (by rw [h]; decide)
    have hlist : name.1.toList ≠ "list".toList :=
      Word.toList_ne fun h => hwell.2 (by rw [h]; decide)
    refine .orElse_right (fun k _ => misses_enumType henum) ?_
    refine .orElse_right (fun k _ => misses_arrayType fun _ _ harray => nomatch harray) ?_
    refine .orElse_right (fun k _ => misses_listType hlist) ?_
    exact (reads_word .word name).step reads_pure
  | enum name =>
    exact .orElse ((reads_keyword .enum).step ((reads_word .word name).commit.step reads_pure))
  | array element count =>
    have henum : element.1.toList ≠ "enum".toList :=
      Word.toList_ne fun h => hwell.2.2 (by rw [h]; decide)
    refine .orElse_right (fun k _ => misses_enumType henum) ?_
    exact .orElse (reads_arrayType element count)
  | list element =>
    have henum : "list".toList ≠ "enum".toList := by decide
    refine .orElse_right (fun k _ => misses_enumType henum) ?_
    refine .orElse_right (fun k _ => misses_arrayType fun _ _ harray => nomatch harray) ?_
    exact .orElse (reads_listType element)

theorem misses_anyType (h : leadRun k = []) : Misses anyType k := by
  have hword : ∀ w : Word, leadRun k ≠ w.1.toList := fun w heq => w.toList_ne_nil (heq ▸ h)
  refine .orElse (misses_enumType (hword .enum)) (.orElse (misses_arrayType ?_)
    (.orElse (misses_listType (hword .list)) (misses_word .word h).bind))
  intro element count harray
  cases k with
  | nil => cases harray
  | cons t k =>
    obtain rfl := Option.some.inj harray
    exact element.toList_ne_nil h

end Types

/-! ## Members -/

section Members

/-- The tokens that begin with a mark. -/
def Before (m : Mark) : List Token → Prop := fun k => .mark m ∈ k.head?

theorem Before.lead {m : Mark} (h : Before m k) : lead k = m.text.toList.head? := by
  cases k with
  | nil => cases h
  | cons t k =>
    obtain rfl := Option.some.inj h
    rfl

theorem Before.leadRun {m : Mark} (h : Before m k) : leadRun k = [] := by
  cases k with
  | nil => cases h
  | cons t k =>
    obtain rfl := Option.some.inj h
    rfl

variable {ts : List Token}

theorem TypeRef.Spelled.misses_padMember {type : TypeRef} {us : List Token}
    (h : type.Spelled ts) (hwell : type.WellFormed) : Misses padMember (ts ++ us ++ k) := by
  rw [append_assoc]
  refine (misses_keyword .pad ?_).bind
  cases h with
  | scalar name => exact Word.toList_ne fun h => hwell.2 (by rw [h]; decide)
  | enum name => exact Word.toList_ne (w := .enum) (by decide)
  | array element count => exact Word.toList_ne fun h => hwell.2.2 (by rw [h]; decide)
  | list element => exact Word.toList_ne (w := .list) (by decide)

/-- A kind of member that reads the type and the name and misses behind them. -/
theorem TypeRef.Spelled.misses {type : TypeRef} {us : List Token} (h : type.Spelled ts)
    (hwell : type.WellFormed) (name : Word) {f : TypeRef → String → Reader Member}
    (hf : Misses (f type name.1) (us ++ k)) :
    Misses (do
      let type ← anyType
      let name ← identifier
      f type name) (ts ++ .word name :: us ++ k) := by
  rw [append_assoc]
  exact (h.reads hwell).misses trivial ((reads_word .identifier name).misses trivial hf)

/-- **Members are read** where a semicolon follows. -/
theorem Member.Spelled.reads {m : Member} (h : m.Spelled ts) (hwell : m.WellFormed) :
    Reads (orElse padMember (orElse fixedMember (orElse discriminatorMember
      (orElse fieldLengthMember dataMember)))) m ts (Before .semicolon) := by
  cases h with
  | pad n =>
    refine .orElse ((reads_keyword .pad).step (.commit ?_))
    exact (reads_mark rfl).step ((reads_integer n).step ((reads_mark rfl).step reads_pure))
  | fixed h name n =>
    refine .orElse_right (fun k _ => h.misses_padMember hwell.1) (.orElse ?_)
    refine (h.reads hwell.1).bind ((reads_word .identifier name).step ?_) fun _ _ => trivial
    exact (reads_mark rfl).step ((reads_integer n).step reads_pure)
  | discriminator h name =>
    refine .orElse_right (fun k _ => h.misses_padMember hwell.1) ?_
    refine .orElse_right (fun k _ => h.misses hwell.1 name ?_) (.orElse ?_)
    · -- a question mark is no integer
      refine (reads_mark rfl).misses trivial (misses_integer fun c hc => ?_).bind
      rw [← Option.some.inj hc]
      decide
    · refine (h.reads hwell.1).bind ((reads_word .identifier name).step ?_) fun _ _ => trivial
      exact (reads_mark rfl).step ((reads_mark rfl).step reads_pure)
  | fieldLength h name field =>
    refine .orElse_right (fun k _ => h.misses_padMember hwell.1) ?_
    refine .orElse_right (fun k _ => h.misses hwell.1 name ?_) ?_
    · -- nor is the word `length`
      refine (reads_mark rfl).misses trivial (misses_integer fun c hc => ?_).bind
      rw [← Option.some.inj hc]
      decide
    refine .orElse_right (fun k _ => h.misses hwell.1 name ?_) (.orElse ?_)
    · have hlength : Word.length.1.toList.head? ≠ some '?' := by decide
      exact (reads_mark rfl).misses trivial (.bind (misses_mark rfl hlength))
    · refine (h.reads hwell.1).bind ((reads_word .identifier name).step ?_) fun _ _ => trivial
      refine (reads_mark rfl).step ((reads_mark rfl).step ((reads_mark rfl).step ?_))
      exact (reads_word .identifier field).step ((reads_mark rfl).step reads_pure)
  | data h name =>
    have hmark : ∀ k, Before .semicolon k → Misses (mark "==") ([] ++ k) := fun k hk =>
      misses_mark rfl (by rw [nil_append, hk.lead]; decide)
    refine .orElse_right (fun k _ => h.misses_padMember hwell.1) ?_
    refine .orElse_right (fun k hk => h.misses hwell.1 name (hmark k hk).bind) ?_
    refine .orElse_right (fun k hk => h.misses hwell.1 name (hmark k hk).bind) ?_
    refine .orElse_right (fun k hk => h.misses hwell.1 name (hmark k hk).bind) ?_
    exact (h.reads hwell.1).bind ((reads_word .identifier name).commit.step reads_pure)
      fun _ _ => trivial

theorem LineSpelled.reads {m : Member} (h : LineSpelled m ts)
    (hwell : m.WellFormed) : ts ≠ [] ∧ Reads member m ts Anything := by
  cases h with
  | line h =>
    refine ⟨append_ne_nil_of_right_ne_nil _ (cons_ne_nil _ _), ?_⟩
    have hend : Reads (do commit (mark ";"); pure m) m [.mark .semicolon] Anything :=
      (reads_mark rfl).commit.step reads_pure
    exact (h.reads hwell).bind hend fun _ _ => rfl

theorem misses_member (h : leadRun k = []) : Misses member k := by
  have hpad : leadRun k ≠ Word.pad.1.toList := fun heq => Word.pad.toList_ne_nil (heq ▸ h)
  refine Misses.bind (.orElse (misses_keyword .pad hpad).bind ?_)
  exact .orElse (misses_anyType h).bind (.orElse (misses_anyType h).bind
    (.orElse (misses_anyType h).bind (misses_anyType h).bind))

end Members

/-! ## Parameters -/

section Params

variable {names : List String} {ts : List Token}

theorem reads_choice (hnames : ∀ n ∈ names, isWord n = true) (w : Word)
    (hw : w.1 ∈ names) : Reads (param.choice names) w.1 [.word w] Anything := by
  induction names with
  | nil => cases hw
  | cons name names ih =>
    have hhere : w.1 = name → Reads (do keyword name; pure name) w.1 [.word w] Anything := by
      rintro rfl
      exact (reads_keyword w).step reads_pure
    cases names with
    | nil => exact hhere (mem_singleton.mp hw)
    | cons other names =>
      by_cases heq : w.1 = name
      · exact .orElse (hhere heq)
      · have hmem := (mem_cons.mp hw).resolve_left heq
        refine .orElse_right (fun k _ => ?_)
          (ih (fun n hn => hnames n (mem_cons_of_mem _ hn)) hmem)
        exact .bind (misses_keyword ⟨name, hnames name mem_cons_self⟩ (Word.toList_ne heq))

theorem misses_choice (hnames : ∀ n ∈ names, isWord n = true)
    (h : leadRun k = []) : Misses (param.choice names) k := by
  induction names with
  | nil => exact fun cs _ => ⟨_, _, rfl⟩
  | cons name names ih =>
    have hhere : Misses (do keyword name; pure name) k := by
      refine (misses_keyword ⟨name, hnames name mem_cons_self⟩ fun heq => ?_).bind
      exact Word.toList_ne_nil _ (heq ▸ h)
    cases names with
    | nil => exact hhere
    | cons other names => exact hhere.orElse (ih fun n hn => hnames n (mem_cons_of_mem _ hn))

theorem reads_param (hnames : ∀ n ∈ names, isWord n = true)
    {p : Param} (h : ParamSpelled p ts) (hp : p.1 ∈ names) :
    Reads (param names) p ts Anything := by
  cases h with
  | param name value =>
    refine (reads_choice hnames name hp).step (.commit ?_)
    exact (reads_mark rfl).step ((reads_word .word value).step reads_pure)

/-- **Lists with commas are read**, with a comma behind the last or without, up to
where neither a comma nor one more could stand. -/
theorem Commas.reads {α : Type} {p : Reader α} {spells : α → List Token → Prop}
    {follow : List Token → Prop} {as : List α} (h : Commas spells as ts)
    (hread : ∀ a ∈ as, ∀ ts, spells a ts → Reads p a ts Anything)
    (hmiss : ∀ k, follow k → Misses p k) (hcomma : ∀ k, follow k → lead k ≠ some ',') :
    Reads (commaList p) as ts follow := by
  obtain ⟨a, as, first, others, final, rfl, rfl, ha, hothers, hfinal⟩ := h.exists_each
  refine (hread a mem_cons_self first ha).bind ?_ fun _ _ => trivial
  have hend : Reads (do let _ ← optional (mark ","); pure (a :: as)) (a :: as) final follow := by
    rcases hfinal with rfl | rfl
    · exact .absent (fun k hk => misses_mark rfl (hcomma k hk)) reads_pure
    · exact (reads_mark rfl).optional.step reads_pure
  have hmany : Reads (many do mark ","; p) as others
      fun k => ∃ k', k = final ++ k' ∧ follow k' := by
    refine reads_many hothers ?_ ?_
    · rintro b hb _ ⟨us, rfl, hus⟩
      exact ⟨cons_ne_nil _ _,
        (reads_mark rfl).step (hread b (mem_cons_of_mem a hb) us hus)⟩
    · -- behind the last comma there is no other thing
      rintro _ ⟨k, rfl, hk⟩
      rcases hfinal with rfl | rfl
      · exact .bind (misses_mark rfl (hcomma k hk))
      · exact (reads_mark rfl).misses trivial (hmiss k hk)
  exact hmany.bind hend fun k hk => ⟨k, rfl, hk⟩

theorem reads_params (hnames : ∀ n ∈ names, isWord n = true)
    {ps : List Param} (h : ParamsSpelled ps ts)
    (hwell : ParamsWellFormed names ps) :
    Reads (params names) ps ts fun k => lead k ≠ some '(' := by
  cases h with
  | none =>
    exact .absent (fun k hk => .bind (misses_mark rfl hk)) reads_pure
  | @some _ ts h =>
    have hlist : Reads (commaList (param names)) ps ts (Before .rightParen) := by
      refine h.reads (fun p hp ts hts => reads_param hnames hts (hwell p hp).1) (fun k hk => ?_)
        fun k hk => ?_
      · exact .bind (misses_choice hnames hk.leadRun)
      · rw [hk.lead]
        decide
    have hinner : Reads (do let ps ← commaList (param names); mark ")"; pure ps) ps
        (ts ++ [.mark .rightParen]) Anything :=
      hlist.bind ((reads_mark rfl).step reads_pure) fun _ _ => rfl
    have houter : Reads (optional do
        mark "("
        commit do
          let ps ← commaList (param names)
          mark ")"
          pure ps) (some ps) (.mark .leftParen :: (ts ++ [.mark .rightParen])) Anything :=
      Reads.optional ((reads_mark rfl).step hinner.commit)
    rw [← append_nil (Token.mark .leftParen :: ts ++ _)]
    exact houter.bind reads_pure fun _ _ => trivial

end Params

/-! ## Declarations -/

section Declarations

variable {ts : List Token}

theorem reads_parent {up : Option String} (h : ParentSpelled up ts) :
    Reads parent up ts fun k => lead k ≠ some ':' := by
  cases h with
  | none => exact reads_optional_none fun k hk => .bind (misses_mark rfl hk)
  | some name =>
    refine Reads.mono (.optional ?_) fun _ _ => trivial
    exact (reads_mark rfl).step (reads_word .identifier name).commit

theorem reads_structDecl {ps : List Param} {up : Option String} {members : List Member}
    {params parent body : List Token} (name : Word) (hparams : ParamsSpelled ps params)
    (hparent : ParentSpelled up parent) (hbody : Each LineSpelled members body)
    (hwell : Declaration.WellFormed (.struct name.1 ps up members)) :
    Reads structDecl (.struct name.1 ps up members)
      (.word .struct :: .word name :: (params ++ (parent ++ (.mark .leftBrace :: (body
        ++ [.mark .rightBrace, .mark .semicolon]))))) Anything := by
  obtain ⟨-, hps, -, hmembers⟩ := hwell
  have hnames : ∀ n ∈ structParamNames, isWord n = true := by decide
  have hlines : Reads (many member) members body (Before .rightBrace) :=
    reads_many hbody (fun m hm ts hts => hts.reads (hmembers m hm))
      fun k hk => misses_member hk.leadRun
  refine (reads_keyword .struct).step (.commit ((reads_word .identifier name).step ?_))
  refine (reads_params hnames hparams hps).bind ((reads_parent hparent).bind ?_ ?_) ?_
  · refine (reads_mark rfl).step (hlines.bind ?_ fun _ _ => rfl)
    exact (reads_mark rfl).step ((reads_mark rfl).step reads_pure)
  · intro k _
    show Mark.leftBrace.text.toList.head? ≠ _
    decide
  · intro k _
    cases hparent with
    | none =>
      show Mark.leftBrace.text.toList.head? ≠ _
      decide
    | some name =>
      show Mark.colon.text.toList.head? ≠ _
      decide

theorem reads_entry {e : Entry} (h : e.Spelled ts) (hwell : e.WellFormed) :
    Reads entry e ts Anything := by
  cases h with
  | @entry ps ts name hparams n =>
    have hnames : ∀ n ∈ entryParamNames, isWord n = true := by decide
    refine (reads_word .identifier name).step (.commit ?_)
    refine (reads_params hnames hparams hwell.2).bind ?_ fun k _ => ?_
    · exact (reads_mark rfl).step ((reads_integer n).step reads_pure)
    · show Mark.equals.text.toList.head? ≠ _
      decide

theorem reads_entries {entries : List Entry} (h : EntriesSpelled entries ts)
    (hwell : ∀ e ∈ entries, e.WellFormed) {β : Type} {f : Option (List Entry) → Reader β} {b : β}
    {us : List Token} (hf : ∀ found : Option (List Entry), found.getD [] = entries →
      Reads (f found) b (.mark .rightBrace :: us) Anything) :
    Reads (optional (commaList entry) >>= f) b (ts ++ .mark .rightBrace :: us) Anything := by
  cases h with
  | none =>
    refine .absent (fun k _ => .bind (.bind (misses_word .identifier ?_))) (hf none rfl)
    rfl
  | some h =>
    have hlist : Reads (commaList entry) entries ts (Before .rightBrace) := by
      refine h.reads (fun e he ts hts => reads_entry hts (hwell e he))
        (fun k hk => ?_) fun k hk => ?_
      · exact .bind (misses_word .identifier hk.leadRun)
      · rw [hk.lead]
        decide
    exact hlist.optional.bind (hf (some entries) rfl) fun _ _ => rfl

theorem reads_enumDecl {ps : List Param} {entries : List Entry} {params body : List Token}
    (name : Word) (hparams : ParamsSpelled ps params) (hbody : EntriesSpelled entries body)
    (hwell : Declaration.WellFormed (.enum name.1 ps entries)) :
    Reads enumDecl (.enum name.1 ps entries)
      (.word .enum :: .word name :: (params ++ (.mark .leftBrace :: (body
        ++ [.mark .rightBrace, .mark .semicolon])))) Anything := by
  obtain ⟨-, hps, hentries⟩ := hwell
  have hnames : ∀ n ∈ enumParamNames, isWord n = true := by decide
  refine (reads_keyword .enum).step (.commit ((reads_word .identifier name).step ?_))
  refine (reads_params hnames hparams hps).bind ((reads_mark rfl).step ?_) ?_
  · refine reads_entries hbody hentries fun found hfound => ?_
    rw [← hfound]
    exact (reads_mark rfl).step ((reads_mark rfl).step reads_pure)
  · intro k _
    show Mark.leftBrace.text.toList.head? ≠ _
    decide

/-- **Declarations are read**, whatever follows them. -/
theorem Spelled.reads {d : Declaration} (h : Spelled d ts)
    (hwell : d.WellFormed) : ts ≠ [] ∧ Reads declaration d ts Anything := by
  cases h with
  | @struct ps up members params parent body name hparams hparent hbody =>
    refine ⟨cons_ne_nil _ _, .orElse ?_⟩
    have hreads := reads_structDecl name hparams hparent hbody hwell
    simpa only [cons_append, append_assoc] using hreads
  | @enum ps entries params body name hparams hbody =>
    refine ⟨cons_ne_nil _ _, .orElse_right (fun k _ => ?_) (.orElse ?_)⟩
    · exact .bind (misses_keyword .struct (Word.toList_ne (w := .enum) (by decide)))
    · have hreads := reads_enumDecl name hparams hbody hwell
      simpa only [cons_append, append_assoc] using hreads
  | version value =>
    refine ⟨cons_ne_nil _ _, .orElse_right (fun k _ => ?_) (.orElse_right (fun k _ => ?_) ?_)⟩
    · exact .bind (misses_keyword .struct (Word.toList_ne_nil .struct).symm)
    · exact .bind (misses_keyword .enum (Word.toList_ne_nil .enum).symm)
    · refine (reads_mark rfl).step (.commit ((reads_keyword .version).step ?_))
      exact (reads_word .word value).step reads_pure

theorem misses_declaration_nil : Misses declaration [] := by
  refine .orElse (.bind (misses_keyword .struct (Word.toList_ne_nil .struct).symm)) (.orElse
    (.bind (misses_keyword .enum (Word.toList_ne_nil .enum).symm)) (.bind (misses_mark rfl ?_)))
  exact fun h => nomatch h

/-- **A text of well-formed declarations is read as these declarations.** -/
theorem parse_of_written {ds : List Declaration} {text : String}
    (hwell : ∀ d ∈ ds, d.WellFormed) (hspelled : Each Spelled ds ts)
    (hwritten : Written ts text.toList) : parse text = .ok ds := by
  have hmany : Reads (many declaration) ds ts fun k => k = [] := by
    refine reads_many hspelled (fun d hd ts hts => hts.reads (hwell d hd)) ?_
    rintro _ rfl
    exact misses_declaration_nil
  have hrecoded := hwritten.recoded (recoded_expandTabs text)
  obtain ⟨rest, hread, hrest, -⟩ := hmany [] rfl _ (by rw [append_nil]; exact hrecoded)
  rw [parse, parseChars, hread]
  simp only [hrest.skipBlanks_eq_nil]

end Declarations

end FlowBindings.Declaration
