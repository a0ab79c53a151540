import FlowBindings.Proofs.Grammar.Recoding

/-!
# Readers on written texts

The grammar takes the first alternative that does not miss, and past a keyword a
miss ends everything. So two things have to be known of a reader: which tokens it
reads (`Reads`) and on which it misses (`Misses`). What it does on any other text
never matters here.

Whether a reader reads its tokens may depend on the tokens behind them: a list
without a comma at its end is only read to its end if no comma follows. Each
`Reads` therefore says what may follow, and most say that anything may.

An alternative misses for one of two reasons. Either its first token is another
one, which the word or the character at the front tells (`leadRun`, `lead`); or it
reads the common part, a type and a name, and misses behind it.
-/

namespace FlowBindings.Declaration

open List Reader String

/-! ## Reading and missing -/

section Combinators

variable {α β : Type} {p q : Reader α} {f : α → Reader β} {a : α} {b : β}
  {ts ts' k : List Token} {follow follow' : List Token → Prop}

/-- **A reader reads tokens**: from every text of the tokens, and of what may follow
them, it takes the value and leaves a text of what follows. It takes a character
at least for each token. -/
def Reads (p : Reader α) (a : α) (ts : List Token) (follow : List Token → Prop) : Prop :=
  ∀ k, follow k → ∀ cs, Written (ts ++ k) cs →
    ∃ rest, p cs = .ok a rest ∧ Written k rest ∧ rest.length + ts.length ≤ cs.length

/-- **A reader misses on tokens.** -/
def Misses (p : Reader α) (k : List Token) : Prop :=
  ∀ cs, Written k cs → ∃ what left, p cs = .miss what left

/-- Any tokens may follow. -/
def Anything : List Token → Prop := fun _ => True

variable {cs rest : List Char}

theorem bind_of_ok (h : p cs = .ok a rest) : (p >>= f) cs = f a rest := by
  show Reader.bind p f cs = _
  rw [Reader.bind, h]

theorem bind_of_miss {what : Expectation} {left : List Char} (h : p cs = .miss what left) :
    (p >>= f) cs = .miss what left := by
  show Reader.bind p f cs = _
  rw [Reader.bind, h]

theorem orElse_of_ok (h : p cs = .ok a rest) :
    Reader.orElse p q cs = .ok a rest := by
  rw [Reader.orElse, h]

theorem orElse_of_miss {what : Expectation} {left : List Char}
    (hp : p cs = .miss what left) (hq : q cs = .ok a rest) :
    Reader.orElse p q cs = .ok a rest := by
  rw [Reader.orElse, hp]
  simp only [hq]

theorem Reads.mono (h : Reads p a ts follow) (hfollow : ∀ k, follow' k → follow k) :
    Reads p a ts follow' :=
  fun k hk => h k (hfollow k hk)

theorem reads_pure : Reads (pure a) a [] follow :=
  fun _ _ cs hcs => ⟨cs, rfl, hcs, Nat.le_refl _⟩

theorem Reads.bind (hp : Reads p a ts follow) (hf : Reads (f a) b ts' follow')
    (hfollow : ∀ k, follow' k → follow (ts' ++ k)) : Reads (p >>= f) b (ts ++ ts') follow' := by
  intro k hk cs hcs
  rw [List.append_assoc] at hcs
  obtain ⟨mid, hmid, hwritten, hlength⟩ := hp _ (hfollow k hk) cs hcs
  obtain ⟨rest, hrest, hwritten', hlength'⟩ := hf k hk mid hwritten
  refine ⟨rest, ?_, hwritten', by rw [List.length_append]; omega⟩
  rw [bind_of_ok hmid, hrest]

theorem Reads.step {t : Token} (hp : Reads p a [t] Anything) (hf : Reads (f a) b ts follow) :
    Reads (p >>= f) b (t :: ts) follow :=
  hp.bind hf fun _ _ => trivial

theorem Reads.commit (hp : Reads p a ts follow) : Reads (commit p) a ts follow := by
  intro k hk cs hcs
  obtain ⟨rest, hrest, hwritten, hlength⟩ := hp k hk cs hcs
  exact ⟨rest, by rw [Reader.commit, hrest], hwritten, hlength⟩

theorem Reads.orElse (hp : Reads p a ts follow) : Reads (orElse p q) a ts follow := by
  intro k hk cs hcs
  obtain ⟨rest, hrest, hwritten, hlength⟩ := hp k hk cs hcs
  exact ⟨rest, orElse_of_ok hrest, hwritten, hlength⟩

theorem Reads.orElse_right (hp : ∀ k, follow k → Misses p (ts ++ k)) (hq : Reads q a ts follow) :
    Reads (Reader.orElse p q) a ts follow := by
  intro k hk cs hcs
  obtain ⟨what, left, hmiss⟩ := hp k hk cs hcs
  obtain ⟨rest, hrest, hwritten, hlength⟩ := hq k hk cs hcs
  exact ⟨rest, orElse_of_miss hmiss hrest, hwritten, hlength⟩

theorem Reads.optional (hp : Reads p a ts follow) :
    Reads (Reader.optional p) (some a) ts follow := by
  intro k hk cs hcs
  obtain ⟨rest, hrest, hwritten, hlength⟩ := hp k hk cs hcs
  exact ⟨rest, by rw [Reader.optional, hrest], hwritten, hlength⟩

theorem reads_optional_none (hp : ∀ k, follow k → Misses p k) :
    Reads (Reader.optional p) none [] follow := by
  intro k hk cs hcs
  obtain ⟨what, left, hmiss⟩ := hp k hk cs hcs
  exact ⟨cs, by rw [Reader.optional, hmiss], hcs, Nat.le_refl _⟩

theorem Reads.absent {g : Option α → Reader β} (hp : ∀ k, follow k → Misses p (ts ++ k))
    (hg : Reads (g none) b ts follow) : Reads (Reader.optional p >>= g) b ts follow := by
  have hnone : Reads (Reader.optional p) none [] (Misses p) := reads_optional_none fun _ hk => hk
  exact hnone.bind hg hp

theorem Misses.bind (hp : Misses p k) : Misses (p >>= f) k := by
  intro cs hcs
  obtain ⟨what, left, hmiss⟩ := hp cs hcs
  exact ⟨what, left, bind_of_miss hmiss⟩

theorem Reads.misses (hp : Reads p a ts follow) (hk : follow k) (hf : Misses (f a) k) :
    Misses (p >>= f) (ts ++ k) := by
  intro cs hcs
  obtain ⟨mid, hmid, hwritten, -⟩ := hp k hk cs hcs
  obtain ⟨what, left, hmiss⟩ := hf mid hwritten
  exact ⟨what, left, by rw [bind_of_ok hmid, hmiss]⟩

theorem Misses.orElse (hp : Misses p k) (hq : Misses q k) : Misses (Reader.orElse p q) k := by
  intro cs hcs
  obtain ⟨what, left, hmiss⟩ := hp cs hcs
  obtain ⟨what', left', hmiss'⟩ := hq cs hcs
  rw [Reader.orElse, hmiss]
  simp only [hmiss']
  split
  · exact ⟨what', left', rfl⟩
  · exact ⟨what, left, rfl⟩

end Combinators

/-! ## Lists -/

section Lists

variable {α : Type} {p : Reader α} {spells : α → List Token → Prop}
  {follow : List Token → Prop}

/-- **As many as there are**, up to where one more would be missed. -/
theorem reads_many {as : List α} {ts : List Token} (h : Each spells as ts)
    (hread : ∀ a ∈ as, ∀ ts, spells a ts → ts ≠ [] ∧ Reads p a ts Anything)
    (hmiss : ∀ k, follow k → Misses p k) : Reads (many p) as ts follow := by
  induction h with
  | nil =>
    intro k hk cs hcs
    obtain ⟨what, left, hend⟩ := hmiss k hk cs hcs
    exact ⟨cs, by rw [many, hend], hcs, Nat.le_refl _⟩
  | @cons a as ts ts' ha _ ih =>
    intro k hk cs hcs
    rw [List.append_assoc] at hcs
    obtain ⟨hne, hreads⟩ := hread a List.mem_cons_self ts ha
    obtain ⟨mid, hmid, hwritten, hlength⟩ := hreads (ts' ++ k) trivial cs hcs
    obtain ⟨rest, hrest, hwritten', hlength'⟩ :=
      ih (fun b hb => hread b (mem_cons_of_mem a hb)) k hk mid hwritten
    have hshorter : mid.length < cs.length := by
      have := length_pos_iff.mpr hne
      omega
    refine ⟨rest, ?_, hwritten', by rw [List.length_append]; omega⟩
    rw [many, hmid]
    simp only [hshorter, dite_true, hrest]

/-- A list with commas: its first thing, the others each behind a comma, and maybe a
last comma. -/
theorem Commas.exists_each {as : List α} {ts : List Token} (h : Commas spells as ts) :
    ∃ a as' first others final, as = a :: as' ∧ ts = first ++ (others ++ final)
      ∧ spells a first
      ∧ Each (fun b us => ∃ us', us = .mark .comma :: us' ∧ spells b us') as' others
      ∧ (final = [] ∨ final = [.mark .comma]) := by
  induction h with
  | @last a ts ha => exact ⟨a, [], ts, [], [], rfl, by simp, ha, .nil, .inl rfl⟩
  | @trailing a ts ha => exact ⟨a, [], ts, [], _, rfl, by simp, ha, .nil, .inr rfl⟩
  | @cons a as ts ts' ha _ ih =>
    obtain ⟨b, bs, first, others, final, rfl, rfl, hb, hbs, hfinal⟩ := ih
    refine ⟨a, b :: bs, ts, .mark .comma :: first ++ others, final, rfl, by simp, ha, ?_, hfinal⟩
    exact .cons ⟨first, rfl, hb⟩ hbs

end Lists

/-! ## Tokens -/

section Tokens

variable {k : List Token} {follow : List Token → Prop}

variable {c : Char} {after run : List Char} {s : String}

theorem isWordChar_of_isKeywordChar (h : isKeywordChar c = false) :
    isWordChar c = false := by
  rw [isKeywordChar, Bool.or_eq_false_iff] at h
  exact h.1

theorem takeWhile_append_stop {p : Char → Bool} {run after : List Char}
    (hrun : ∀ c ∈ run, p c = true) (hstop : ∀ c ∈ after.head?, p c = false) :
    (run ++ after).takeWhile p = run ∧ (run ++ after).dropWhile p = after := by
  rw [takeWhile_append_of_pos hrun, dropWhile_append_of_pos hrun]
  cases after with
  | nil => exact ⟨append_nil run, rfl⟩
  | cons c after =>
    have hc := hstop c rfl
    rw [takeWhile_cons, dropWhile_cons, hc]
    exact ⟨append_nil run, rfl⟩

theorem spanHere_append {p : Char → Bool} {what : Expectation}
    (hne : run ≠ []) (hrun : ∀ c ∈ run, p c = true) (hstop : ∀ c ∈ after.head?, p c = false) :
    spanHere p what (run ++ after) = .ok run after := by
  obtain ⟨htake, hdrop⟩ := takeWhile_append_stop hrun hstop
  rw [spanHere, htake, hdrop]
  cases run with
  | nil => exact absurd rfl hne
  | cons c run => rfl

theorem spanHere_miss {p : Char → Bool} {what : Expectation} {cs : List Char}
    (h : ∀ c ∈ cs.head?, p c = false) : spanHere p what cs = .miss what cs := by
  obtain ⟨htake, -⟩ := @takeWhile_append_stop p [] cs (fun c hc => nomatch hc) h
  rw [nil_append] at htake
  rw [spanHere, htake]

variable (what : Expectation) (w : Word) (n : Numeral)

theorem wordHere_run (hne : run ≠ [])
    (hrun : ∀ c ∈ run, isWordChar c = true) (hstop : ∀ c ∈ after.head?, isWordChar c = false) :
    wordHere what (run ++ after) = .ok (String.ofList run) after := by
  rw [wordHere, spanHere_append hne hrun hstop]

theorem wordHere_append (h : ∀ c ∈ after.head?, isWordChar c = false) :
    wordHere what (w.1.toList ++ after) = .ok w.1 after := by
  rw [wordHere_run what w.toList_ne_nil (fun c hc => w.isWordChar_of_mem hc) h,
    ofList_toList]

theorem wordHere_miss {cs : List Char}
    (h : ∀ c ∈ cs.head?, isWordChar c = false) : wordHere what cs = .miss what cs := by
  rw [wordHere, spanHere_miss h]

theorem markHere_append (s : String) (rest : List Char) :
    markHere s (s.toList ++ rest) = .ok () rest := by
  rw [markHere, if_pos (List.isPrefixOf_iff_prefix.mpr (prefix_append _ _)),
    ← length_toList, drop_left]

theorem markHere_miss {cs : List Char} (hs : s.toList ≠ [])
    (h : cs.head? ≠ s.toList.head?) : markHere s cs = .miss (.symbol s) cs := by
  rw [markHere, if_neg]
  intro hprefix
  obtain ⟨rest, rfl⟩ := isPrefixOf_iff_prefix.mp hprefix
  exact h (List.head?_append_of_ne_nil _ hs)

theorem keywordHere_append
    (hrun : ∀ c ∈ run, isWordChar c = true) (hstop : ∀ c ∈ after.head?, isKeywordChar c = false) :
    keywordHere w.1 (run ++ after)
      = if run = w.1.toList then .ok () after else .miss (.symbol w.1) (run ++ after) := by
  have hstop' : ∀ c ∈ after.head?, isWordChar c = false :=
    fun c hc => isWordChar_of_isKeywordChar (hstop c hc)
  unfold keywordHere
  by_cases hw : run = w.1.toList
  · have hdrop : (run ++ after).drop w.1.length = after := by
      rw [hw, ← length_toList, drop_left]
    rw [if_pos hw, hdrop, if_pos]
    rw [Bool.and_eq_true, Bool.not_eq_true', Option.any_eq_false]
    exact ⟨List.isPrefixOf_iff_prefix.mpr (hw ▸ prefix_append _ _), hstop⟩
  · rw [if_neg hw, if_neg]
    -- a keyword here would end where the word here ends
    intro hkeyword
    rw [Bool.and_eq_true, Bool.not_eq_true', Option.any_eq_false] at hkeyword
    obtain ⟨rest, hrest⟩ := isPrefixOf_iff_prefix.mp hkeyword.1
    have hnext : ∀ c ∈ rest.head?, isWordChar c = false := by
      intro c hc
      rw [← hrest, ← length_toList, drop_left] at hkeyword
      exact isWordChar_of_isKeywordChar (hkeyword.2 c hc)
    have hsame := (takeWhile_append_stop (fun c hc => w.isWordChar_of_mem hc) hnext).1
    rw [hrest, (takeWhile_append_stop hrun hstop').1] at hsame
    exact hw hsame

theorem keywordHere_word (h : ∀ c ∈ after.head?, isKeywordChar c = false) :
    keywordHere w.1 (w.1.toList ++ after) = .ok () after := by
  rw [keywordHere_append w (fun c hc => w.isWordChar_of_mem hc) h, if_pos rfl]

/-- A reader of one token: what it does is told by the token's text. -/
theorem reads_token {α : Type} {p : Reader α} {a : α} {t : Token}
    (h : ∀ rest, (t.isOpen = true → ∀ c ∈ rest.head?, isKeywordChar c = false) →
      p (t.text ++ rest) = .ok a rest) :
    Reads (fun cs => p (skipBlanks cs)) a [t] Anything := by
  intro k _ cs hcs
  obtain ⟨rest, hfront, hwritten, hopen, hlength⟩ := Written.front hcs
  refine ⟨rest, ?_, hwritten, hlength⟩
  show p (skipBlanks cs) = _
  rw [hfront, h rest hopen]

theorem reads_mark {t : Token} (h : t.text = s.toList) :
    Reads (mark s) () [t] Anything :=
  reads_token fun rest _ => by rw [h, markHere_append]

theorem misses_mark (hs : s.toList.head? = some c) (h : lead k ≠ some c) : Misses (mark s) k := by
  intro cs hcs
  refine ⟨_, _, markHere_miss (fun hnil => ?_) ?_⟩
  · rw [hnil] at hs
    cases hs
  · rw [hcs.head?_skipBlanks, hs]
    exact h

theorem reads_keyword : Reads (keyword w.1) () [.word w] Anything :=
  reads_token fun _ hopen => keywordHere_word w (hopen rfl)

theorem misses_keyword (h : leadRun k ≠ w.1.toList) : Misses (keyword w.1) k := by
  intro cs hcs
  obtain ⟨after, hfront, hstop, -⟩ := hcs.exists_skipBlanks_eq
  refine ⟨.symbol w.1, leadRun k ++ after, ?_⟩
  show keywordHere w.1 (skipBlanks cs) = _
  rw [hfront, keywordHere_append w (fun c hc => isWordChar_of_mem_leadRun hc) hstop, if_neg h]

theorem reads_word :
    Reads (fun cs => wordHere what (skipBlanks cs)) w.1 [.word w] Anything :=
  reads_token fun _ hopen =>
    wordHere_append what w fun c hc => isWordChar_of_isKeywordChar (hopen rfl c hc)

theorem misses_word (h : leadRun k = []) :
    Misses (fun cs => wordHere what (skipBlanks cs)) k := by
  intro cs hcs
  obtain ⟨after, hfront, hstop, -⟩ := hcs.exists_skipBlanks_eq
  rw [h, nil_append] at hfront
  refine ⟨_, _, wordHere_miss what fun c hc => ?_⟩
  rw [hfront] at hc
  exact isWordChar_of_isKeywordChar (hstop c hc)

theorem isWordChar_of_digitValue? (h : (Text.digitValue? c).isSome = true) :
    isWordChar c = true := by
  rw [isWordChar_iff]
  unfold Text.digitValue? at h
  split at h
  · next hdigit =>
    rw [Bool.and_eq_true, decide_eq_true_eq, decide_eq_true_eq] at hdigit
    exact .inr (.inr (.inl hdigit))
  · split at h
    · next hsmall =>
      rw [Bool.and_eq_true, decide_eq_true_eq, decide_eq_true_eq] at hsmall
      exact .inr (.inl ⟨hsmall.1, Nat.le_trans hsmall.2 (by decide)⟩)
    · split at h
      · next hcapital =>
        rw [Bool.and_eq_true, decide_eq_true_eq, decide_eq_true_eq] at hcapital
        exact .inl ⟨hcapital.1, Nat.le_trans hcapital.2 (by decide)⟩
      · cases h

theorem integerValue_text (rest : List Char) :
    integerValue n.text rest = .ok n.value rest := by
  rw [integerValue, readLiteral?_text]

theorem integerHere_digits {n : Numeral} (hdigits : ∀ c ∈ n.text, c.isDigit = true)
    {rest : List Char} (h : ∀ c ∈ rest.head?, isWordChar c = false) :
    integerHere (n.text ++ rest) = .ok n.value rest := by
  have hne : n.text ≠ [] := Token.text_ne_nil (.number n)
  have hstop : ∀ c ∈ rest.head?, c.isDigit = false := by
    intro c hc
    by_contra hdigit
    rw [Bool.not_eq_false] at hdigit
    exact absurd (isWordChar_of_isDigit hdigit) (by rw [h c hc]; exact Bool.false_ne_true)
  -- no `x` can stand second, inside the digits or right behind them
  have hmiss : markHere "0x" (n.text ++ rest) = .miss (.symbol "0x") (n.text ++ rest) := by
    rw [markHere, if_neg]
    intro hprefix
    obtain ⟨tail, htail⟩ := isPrefixOf_iff_prefix.mp hprefix
    match htext : n.text with
    | [] => exact hne htext
    | [c] =>
      rw [htext] at htail
      have hrest : 'x' :: tail = rest := (List.cons.inj htail).2
      have hx : 'x' ∈ rest.head? := by
        rw [← hrest]
        rfl
      exact absurd (h 'x' hx) (by decide)
    | c :: d :: cs =>
      rw [htext] at htail
      have hd : 'x' = d := (List.cons.inj (List.cons.inj htail).2).1
      have := hdigits d (by rw [htext]; exact mem_cons_of_mem c List.mem_cons_self)
      rw [← hd] at this
      cases this
  refine orElse_of_miss (bind_of_miss hmiss) ?_
  rw [bind_of_ok (spanHere_append hne hdigits hstop), integerValue_text]

theorem integerHere_text {rest : List Char} (h : ∀ c ∈ rest.head?, isWordChar c = false) :
    integerHere (n.text ++ rest) = .ok n.value rest := by
  cases n with
  | decimal n =>
    refine integerHere_digits (fun c hc => ?_) h
    exact Nat.isDigit_of_mem_toDigits (b := 10) (n := n) (by decide) (by decide) hc
  | octal digits =>
    have hdigit : ∀ d : Fin 8, (Nat.digitChar d).isDigit = true := by decide
    refine integerHere_digits (fun c hc => ?_) h
    rcases mem_cons.mp hc with rfl | hc
    · rfl
    · obtain ⟨d, -, rfl⟩ := mem_map.mp hc
      exact hdigit d
  | hex first rest' =>
    have hspan : spanHere (fun c => (Text.digitValue? c).isSome) .digits
        ((first :: rest').map HexDigit.char ++ rest)
        = .ok ((first :: rest').map HexDigit.char) rest := by
      refine spanHere_append (cons_ne_nil _ _) (fun c hc => ?_) fun c hc => ?_
      · obtain ⟨d, -, rfl⟩ := mem_map.mp hc
        rw [digitValue?_hexChar]
        rfl
      · by_contra hdigit
        rw [Bool.not_eq_false] at hdigit
        exact absurd (isWordChar_of_digitValue? hdigit) (by rw [h c hc]; exact Bool.false_ne_true)
    show integerHere ("0x".toList ++ ((first :: rest').map HexDigit.char ++ rest)) = _
    refine orElse_of_ok ?_
    rw [bind_of_ok (markHere_append _ _), bind_of_ok (by rw [Reader.commit, hspan])]
    exact integerValue_text (.hex first rest') rest

theorem reads_integer : Reads integer n.value [.number n] Anything :=
  reads_token fun _ hopen =>
    integerHere_text n fun c hc => isWordChar_of_isKeywordChar (hopen rfl c hc)

theorem misses_integer (h : ∀ c ∈ lead k, c.isDigit = false) : Misses integer k := by
  intro cs hcs
  have hmark : markHere "0x" (skipBlanks cs) = .miss (.symbol "0x") (skipBlanks cs) := by
    refine markHere_miss (by decide) ?_
    rw [hcs.head?_skipBlanks]
    intro hzero
    exact absurd (h '0' hzero) (by decide)
  have hspan : spanHere Char.isDigit .digits (skipBlanks cs) = .miss .digits (skipBlanks cs) :=
    spanHere_miss (by rw [hcs.head?_skipBlanks]; exact h)
  show ∃ what left, integerHere (skipBlanks cs) = .miss what left
  rw [integerHere, Reader.orElse, bind_of_miss hmark]
  simp only [bind_of_miss hspan]
  exact ⟨_, _, if_neg (Nat.lt_irrefl _)⟩

end Tokens

end FlowBindings.Declaration
