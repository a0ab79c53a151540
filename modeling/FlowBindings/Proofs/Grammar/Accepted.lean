import FlowBindings.Proofs.Grammar.Reading
import Mathlib.Data.List.TakeWhile

/-!
# What the grammar accepts

Whatever text is read, the declarations that come out are well formed, and no digits are made
up: what is left is the end of the text, so a numeral at which reading stops stands in the
text. For most rules this is a matter of each part by itself (`Sound`): a word is a word, a
parameter has one of the names the rule lists.

The types are the exception. That a named type is none of the words `enum`, `pad`
and `list` rests on the alternatives before it, which take these words as
keywords and then never give them back; and a keyword is overlooked only before a
dollar sign, where no name can follow and no member is read.
-/

namespace FlowBindings

/-! ## Numerals that are misread -/

/-- **A misread numeral**: digits that begin like an octal numeral, one of which no octal
numeral has. -/
def Misread (digits : List Char) : Prop :=
  digits.head? = some '0' ∧ (∀ c ∈ digits, c.isDigit = true) ∧ ('8' ∈ digits ∨ '9' ∈ digits)

section Numerals

open Text List

/-- Digits of a base are not read only if one of them is none. -/
theorem exists_of_readDigits?_eq_none {base acc : Nat} {cs : List Char}
    (h : readDigits? base acc cs = none) :
    ∃ c ∈ cs, ∀ d, digitValue? c = some d → base ≤ d := by
  induction cs generalizing acc with
  | nil => cases h
  | cons c cs ih =>
    rw [readDigits?] at h
    split at h
    · next d hd =>
      split at h
      · obtain ⟨x, hx, hbase⟩ := ih h
        exact ⟨x, mem_cons_of_mem c hx, hbase⟩
      · next hlarge =>
        refine ⟨c, mem_cons_self, fun d' hd' => ?_⟩
        rw [hd, Option.some.injEq] at hd'
        omega
    · next hnone =>
      refine ⟨c, mem_cons_self, fun d hd => ?_⟩
      rw [hnone] at hd
      cases hd

theorem lt_of_digitValue? {c : Char} {d : Nat} (h : digitValue? c = some d) : d < 16 := by
  have hle : ∀ a b : Char, a ≤ b ↔ a.toNat ≤ b.toNat := fun _ _ => Iff.rfl
  have hnine : '9'.toNat = 57 := rfl
  have hsmall : 'f'.toNat = 102 := rfl
  have hcapital : 'F'.toNat = 70 := rfl
  simp only [digitValue?, Bool.and_eq_true, decide_eq_true_eq, hle] at h
  split at h
  · cases h
    omega
  · split at h
    · cases h
      omega
    · split at h
      · cases h
        omega
      · cases h

theorem exists_of_isDigit {c : Char} (h : c.isDigit = true) :
    ∃ d < 10, digitValue? c = some d ∧ c = Nat.digitChar d := by
  obtain ⟨hzero, hnine⟩ : 48 ≤ c.toNat ∧ c.toNat ≤ 57 := by
    simpa [Char.isDigit, UInt32.le_iff_toNat_le] using h
  have hdigits : ∀ d : Fin 10, digitValue? (Char.ofNat (48 + d.val)) = some d.val
      ∧ Char.ofNat (48 + d.val) = Nat.digitChar d.val := by decide
  have hc := hdigits ⟨c.toNat - 48, by omega⟩
  dsimp only at hc
  rw [show 48 + (c.toNat - 48) = c.toNat by omega, Char.ofNat_toNat] at hc
  exact ⟨c.toNat - 48, by omega, hc⟩

theorem exists_of_readNat?_eq_none {base : Nat} {cs : List Char} (hne : cs ≠ [])
    (h : readNat? base cs = none) : ∃ c ∈ cs, ∀ d, digitValue? c = some d → base ≤ d := by
  unfold readNat? at h
  rw [if_neg (by rw [List.isEmpty_iff]; exact hne)] at h
  exact exists_of_readDigits?_eq_none h

/-- **Digits are no numeral only where they are misread.** -/
theorem misread_of_readLiteral? {run : List Char} (hne : run ≠ [])
    (hdigits : ∀ c ∈ run, c.isDigit = true) (h : readLiteral? run = none) : Misread run := by
  unfold readLiteral? at h
  split at h
  · exact absurd (hdigits 'x' (by simp)) (by decide)
  · cases h
  · next rest _ hsingle =>
    -- octal: a digit is too large, and decimal digits go up to nine
    have hrest : rest ≠ [] := fun hnil => hsingle hnil
    obtain ⟨c, hc, hlarge⟩ := exists_of_readNat?_eq_none hrest h
    have hmem : c ∈ '0' :: rest := mem_cons_of_mem _ hc
    obtain ⟨d, hd, hvalue, rfl⟩ := exists_of_isDigit (hdigits c hmem)
    have hoctal := hlarge d hvalue
    refine ⟨rfl, hdigits, ?_⟩
    obtain rfl | rfl : d = 8 ∨ d = 9 := by omega
    · exact Or.inl hmem
    · exact Or.inr hmem
  · obtain ⟨c, hc, hlarge⟩ := exists_of_readNat?_eq_none hne h
    obtain ⟨d, hd, hvalue, -⟩ := exists_of_isDigit (hdigits c hc)
    exact absurd (hlarge d hvalue) (by omega)

/-- Hexadecimal digits behind `0x` are always a numeral. -/
theorem readLiteral?_hex_ne_none {digits : List Char} (hne : digits ≠ [])
    (hdigits : ∀ c ∈ digits, (digitValue? c).isSome = true) :
    readLiteral? ('0' :: 'x' :: digits) ≠ none := by
  intro h
  obtain ⟨c, hc, hlarge⟩ := exists_of_readNat?_eq_none hne h
  obtain ⟨d, hd⟩ := Option.isSome_iff_exists.mp (hdigits c hc)
  exact absurd (hlarge d hd) (by have := lt_of_digitValue? hd; omega)

end Numerals

namespace Declaration

open Reader Text

/-! ## Blanks -/

section Blanks

theorem afterLine_suffix (cs : List Char) : afterLine cs <:+ cs := by
  fun_induction afterLine cs with
  | case1 => exact List.suffix_rfl
  | case2 rest ih => exact ih.trans ((List.suffix_cons _ _).trans (List.suffix_cons _ _))
  | case3 rest => exact List.suffix_rfl
  | case4 c rest _ _ ih => exact ih.trans (List.suffix_cons _ _)

theorem afterBlock?_suffix {cs rest : List Char} (h : afterBlock? cs = some rest) :
    rest <:+ cs := by
  fun_induction afterBlock? cs with
  | case1 => cases h
  | case2 after =>
    cases h
    exact (List.suffix_cons _ _).trans (List.suffix_cons _ _)
  | case3 c after _ ih => exact (ih h).trans (List.suffix_cons _ _)

theorem skipBlanks_suffix (cs : List Char) : skipBlanks cs <:+ cs := by
  fun_induction skipBlanks cs with
  | case1 => exact List.suffix_rfl
  | case2 rest ih =>
    exact ih.trans ((afterLine_suffix rest).trans
      ((List.suffix_cons _ _).trans (List.suffix_cons _ _)))
  | case3 rest after hafter ih =>
    exact ih.trans ((afterBlock?_suffix hafter).trans
      ((List.suffix_cons _ _).trans (List.suffix_cons _ _)))
  | case4 rest => exact List.suffix_rfl
  | case5 c rest _ _ _ ih => exact ih.trans (List.suffix_cons _ _)
  | case6 => exact List.suffix_rfl

end Blanks

/-! ## Outcomes of readers -/

section Outcomes

variable {α β : Type} {p q : Reader α} {f : α → Reader β} {Q : α → Prop} {R : β → Prop}

variable {cs rest : List Char} {a : α}

theorem exists_of_bind_eq_ok {b : β} (h : (p >>= f) cs = .ok b rest) :
    ∃ a mid, p cs = .ok a mid ∧ f a mid = .ok b rest := by
  cases hp : p cs with
  | ok a mid => exact ⟨a, mid, rfl, by rwa [bind_of_ok hp] at h⟩
  | miss what left =>
    rw [bind_of_miss hp] at h
    cases h
  | stop why =>
    change Reader.bind p f cs = _ at h
    rw [Reader.bind, hp] at h
    cases h

theorem eq_ok_of_commit_eq_ok (h : commit p cs = .ok a rest) :
    p cs = .ok a rest := by
  rw [commit] at h
  split at h
  · cases h
  · exact h

theorem cases_of_orElse_eq_ok (h : orElse p q cs = .ok a rest) :
    p cs = .ok a rest ∨ (∃ what left, p cs = .miss what left) ∧ q cs = .ok a rest := by
  rw [orElse] at h
  split at h
  · next hp =>
    split at h
    · split at h <;> cases h
    · exact .inr ⟨⟨_, _, hp⟩, h⟩
  · exact .inl h

/-- Why a reader may stop: something is missing, or a numeral of the text is misread. -/
def Stop.Sound (cs : List Char) : Stop → Prop
  | .missing _ _ => True
  | .badInteger digits => Misread digits.toList ∧ digits.toList <:+: cs

/-- What a reply may be: a value of a kind and behind it the end of the text, a miss, or a stop
for a reason. -/
def Reply.Sound (cs : List Char) (Q : α → Prop) : Reply α → Prop
  | .ok a rest => Q a ∧ rest <:+ cs
  | .miss _ _ => True
  | .stop why => why.Sound cs

/-- **A sound reader**: what it yields is of a kind, whatever the text, and it makes up no
digits. -/
def Sound (p : Reader α) (Q : α → Prop) : Prop := ∀ cs, (p cs).Sound cs Q

theorem Reply.Sound.mono {r : Reply α} (h : r.Sound rest Q) (hcs : rest <:+ cs) : r.Sound cs Q := by
  cases r with
  | ok a left => exact ⟨h.1, h.2.trans hcs⟩
  | miss => trivial
  | stop why =>
    cases why with
    | missing => trivial
    | badInteger digits => exact ⟨h.1, h.2.trans hcs.isInfix⟩

theorem Sound.of_eq_ok (hp : Sound p Q) (h : p cs = .ok a rest) : Q a ∧ rest <:+ cs := by
  have hsound := hp cs
  rwa [h] at hsound

theorem sound_pure (h : Q a) : Sound (pure a) Q := fun _ => ⟨h, List.suffix_rfl⟩

theorem Reply.Sound.bind (hp : (p cs).Sound cs Q)
    (hf : ∀ a rest, p cs = .ok a rest → Q a → (f a rest).Sound rest R) :
    ((p >>= f) cs).Sound cs R := by
  change Reply.Sound cs R (Reader.bind p f cs)
  unfold Reader.bind
  cases hread : p cs with
  | ok a rest =>
    rw [hread] at hp
    exact (hf a rest hread hp.1).mono hp.2
  | miss => trivial
  | stop why =>
    rw [hread] at hp
    exact hp

theorem Sound.bind (hp : Sound p Q) (hf : ∀ a, Q a → Sound (f a) R) : Sound (p >>= f) R :=
  fun cs => (hp cs).bind fun a rest _ ha => hf a ha rest

theorem Sound.commit (hp : Sound p Q) : Sound (commit p) Q := by
  intro cs
  unfold Reader.commit
  split
  · trivial
  · exact hp cs

/-- The second of two alternatives matters where the first one misses. -/
theorem Reply.Sound.orElse (hp : (p cs).Sound cs Q)
    (hq : ∀ what left, p cs = .miss what left → (q cs).Sound cs Q) :
    (orElse p q cs).Sound cs Q := by
  unfold Reader.orElse
  split
  · next what left hmiss =>
    split
    · split <;> trivial
    · exact hq what left hmiss
  · exact hp

theorem Sound.orElse (hp : Sound p Q) (hq : Sound q Q) : Sound (orElse p q) Q :=
  fun cs => (hp cs).orElse fun _ _ _ => hq cs

theorem Sound.optional (hp : Sound p Q) : Sound (optional p) fun o => ∀ a ∈ o, Q a := by
  intro cs
  have h := hp cs
  unfold Reader.optional
  cases hread : p cs with
  | ok a rest =>
    rw [hread] at h
    refine ⟨?_, h.2⟩
    rintro _ ⟨⟩
    exact h.1
  | miss =>
    refine ⟨?_, List.suffix_rfl⟩
    rintro _ ⟨⟩
  | stop why =>
    rw [hread] at h
    exact h

theorem Sound.many (hp : Sound p Q) : Sound (many p) fun as => ∀ a ∈ as, Q a := by
  intro cs
  fun_induction Reader.many p cs with
  | case1 => exact ⟨List.forall_mem_nil _, List.suffix_rfl⟩
  | case2 cs why hstop =>
    have h := hp cs
    rw [hstop] at h
    exact h
  | case3 cs a rest hread hlt as rest' hrest ih =>
    obtain ⟨ha, hsuffix⟩ := hp.of_eq_ok hread
    rw [hrest] at ih
    exact ⟨List.forall_mem_cons.mpr ⟨ha, ih.1⟩, ih.2.trans hsuffix⟩
  | case4 cs a rest hread hlt hstop ih => exact ih.mono (hp.of_eq_ok hread).2
  | case5 cs a rest hread hlt =>
    obtain ⟨ha, hsuffix⟩ := hp.of_eq_ok hread
    exact ⟨List.forall_mem_singleton.mpr ha, hsuffix⟩

theorem Sound.afterBlanks (hp : Sound p Q) : Sound (fun cs => p (skipBlanks cs)) Q :=
  fun cs => (hp _).mono (skipBlanks_suffix cs)

theorem Sound.imp {Q' : α → Prop} (hp : Sound p Q) (h : ∀ a, Q a → Q' a) : Sound p Q' := by
  intro cs
  have hsound := hp cs
  cases hread : p cs with
  | ok a rest =>
    rw [hread] at hsound
    exact ⟨h a hsound.1, hsound.2⟩
  | miss => trivial
  | stop why =>
    rw [hread] at hsound
    exact hsound

/-- A reader that never misses: it finds what it looks for, or the text is wrong. -/
def Certain (p : Reader α) : Prop :=
  ∀ cs what left, p cs ≠ .miss what left

theorem certain_commit : Certain (Reader.commit p) := by
  intro cs what left h
  rw [Reader.commit] at h
  split at h
  · cases h
  · next hmiss => exact hmiss what left h

/-- Behind the point of no return only the part before it can miss. -/
theorem miss_of_bind_eq_miss (hf : ∀ a, Certain (f a)) {what : Expectation} {left : List Char}
    (h : (p >>= f) cs = .miss what left) : p cs = .miss what left := by
  cases hp : p cs with
  | ok a mid =>
    rw [bind_of_ok hp] at h
    exact absurd h (hf a mid what left)
  | miss what' left' =>
    rw [bind_of_miss hp] at h
    cases h
    rfl
  | stop why =>
    change Reader.bind p f cs = _ at h
    rw [Reader.bind, hp] at h
    cases h

theorem Certain.bind_pure (hp : Certain p) {g : α → β} :
    Certain (do let a ← p; pure (g a)) := by
  intro cs what left h
  refine hp cs what left (miss_of_bind_eq_miss (fun a cs what left h => ?_) h)
  cases h

end Outcomes

/-! ## Tokens -/

section Tokens

theorem isWord_ofList {run : List Char} (hne : run ≠ []) (hrun : ∀ c ∈ run, isWordChar c = true) :
    isWord (String.ofList run) = true := by
  rw [isWord, String.toList_ofList, Bool.and_eq_true, List.all_eq_true, Bool.not_eq_true',
    Bool.eq_false_iff]
  refine ⟨fun hempty => hne ?_, hrun⟩
  rw [String.isEmpty_iff] at hempty
  rw [← String.toList_ofList (l := run), hempty]
  rfl

variable {what : Expectation} {cs rest run : List Char} {isPart : Char → Bool}

/-- A run that is read stands at the front; all its characters are of the class, and the one
behind it is not. -/
theorem exists_of_spanHere_eq_ok (h : spanHere isPart what cs = .ok run rest) :
    run ≠ [] ∧ (∀ c ∈ run, isPart c = true) ∧ cs = run ++ rest
      ∧ ∀ c ∈ rest.head?, isPart c = false := by
  unfold spanHere at h
  split at h
  · cases h
  · next hne =>
    cases h
    refine ⟨hne, fun c hc => List.mem_takeWhile_imp hc, List.takeWhile_append_dropWhile.symm,
      fun c hc => ?_⟩
    have hnot := List.head?_dropWhile_not isPart cs
    rw [Option.mem_def.mp hc] at hnot
    exact hnot

theorem spanHere_ne_stop {why : Stop} : spanHere isPart what cs ≠ .stop why := by
  unfold spanHere
  split <;> nofun

theorem sound_spanHere (isPart : Char → Bool) (what : Expectation) :
    Sound (spanHere isPart what) fun run => run ≠ [] ∧ ∀ c ∈ run, isPart c = true := by
  intro cs
  cases hread : spanHere isPart what cs with
  | ok run rest =>
    obtain ⟨hne, hrun, hcs, -⟩ := exists_of_spanHere_eq_ok hread
    exact ⟨⟨hne, hrun⟩, run, hcs.symm⟩
  | miss => trivial
  | stop why => exact absurd hread spanHere_ne_stop

theorem exists_of_wordHere_eq_ok {w : String} (h : wordHere what cs = .ok w rest) :
    ∃ v : Word, v.1 = w ∧ cs = v.1.toList ++ rest ∧ ∀ c ∈ rest.head?, isWordChar c = false := by
  unfold wordHere at h
  split at h
  · next run rest' hspan =>
    cases h
    obtain ⟨hne, hrun, hcs, hstop⟩ := exists_of_spanHere_eq_ok hspan
    exact ⟨⟨_, isWord_ofList hne hrun⟩, rfl, by rwa [String.toList_ofList], hstop⟩
  · cases h
  · cases h

theorem sound_wordHere (what : Expectation) : Sound (wordHere what) fun w => isWord w = true := by
  intro cs
  have h := sound_spanHere isWordChar what cs
  unfold wordHere
  cases hread : spanHere isWordChar what cs with
  | ok run rest =>
    rw [hread] at h
    exact ⟨isWord_ofList h.1.1 h.1.2, h.2⟩
  | miss => trivial
  | stop why =>
    rw [hread] at h
    exact h

theorem sound_word : Sound word fun w => isWord w = true := (sound_wordHere .word).afterBlanks

theorem sound_identifier : Sound identifier fun w => isWord w = true :=
  (sound_wordHere .identifier).afterBlanks

variable (text : String)

theorem sound_markHere : Sound (markHere text) fun _ => True := by
  intro cs
  unfold markHere
  split
  · exact ⟨trivial, List.drop_suffix _ _⟩
  · trivial

theorem sound_keywordHere : Sound (keywordHere text) fun _ => True := by
  intro cs
  unfold keywordHere
  split
  · exact ⟨trivial, List.drop_suffix _ _⟩
  · trivial

theorem sound_mark : Sound (mark text) fun _ => True := (sound_markHere text).afterBlanks

theorem sound_keyword : Sound (keyword text) fun _ => True := (sound_keywordHere text).afterBlanks

/-- **An integer stops the reader only where its digits are misread**: hexadecimal ones
never are. -/
theorem sound_integerHere : Sound integerHere fun _ => True := by
  refine Sound.orElse ?_ fun cs => ?_
  · refine (sound_markHere "0x").bind fun _ _ =>
      (sound_spanHere _ _).commit.bind fun run hrun cs => ?_
    unfold integerValue
    split
    · exact ⟨trivial, List.suffix_rfl⟩
    · next hnone => exact absurd hnone (readLiteral?_hex_ne_none hrun.1 hrun.2)
  · cases hread : spanHere Char.isDigit .digits cs with
    | ok run rest =>
      obtain ⟨hne, hrun, rfl, -⟩ := exists_of_spanHere_eq_ok hread
      rw [bind_of_ok hread]
      unfold integerValue
      split
      · exact ⟨trivial, List.suffix_append run rest⟩
      · next hnone =>
        show Misread (String.ofList run).toList ∧ (String.ofList run).toList <:+: run ++ rest
        rw [String.toList_ofList]
        exact ⟨misread_of_readLiteral? hne hrun hnone, (List.prefix_append run rest).isInfix⟩
    | miss what left =>
      rw [bind_of_miss hread]
      trivial
    | stop why => exact absurd hread spanHere_ne_stop

theorem sound_integer : Sound integer fun _ => True := sound_integerHere.afterBlanks

theorem Sound.commaList {α : Type} {p : Reader α} {Q : α → Prop} (hp : Sound p Q) :
    Sound (commaList p) fun as => ∀ a ∈ as, Q a := by
  refine hp.bind fun first hfirst => ?_
  refine Sound.bind (.many ((sound_mark _).bind fun _ _ => hp)) fun rest hrest => ?_
  exact (sound_mark _).optional.bind fun _ _ =>
    sound_pure (List.forall_mem_cons.mpr ⟨hfirst, hrest⟩)

end Tokens

/-! ## Types -/

section Types

variable {what : Expectation} {cs rest : List Char}

theorem head?_ne_dollar_of_word {w : String}
    (h : wordHere what (skipBlanks cs) = .ok w rest) : '$' ∉ cs.head? := by
  intro hdollar
  cases cs with
  | nil => cases hdollar
  | cons c cs =>
    obtain rfl := Option.some.inj hdollar
    rw [skipBlanks_of_head (by decide) (by decide), wordHere_miss what fun c hc => by
      rw [← Option.some.inj hc]; decide] at h
    cases h

/-- A keyword that is overlooked is not the word at the front, unless a dollar sign
follows. -/
theorem ne_of_keywordHere_eq_miss {w v : Word} {left : List Char}
    (h : keywordHere w.1 (v.1.toList ++ rest) = .miss what left)
    (hstop : ∀ c ∈ rest.head?, isWordChar c = false) (hdollar : '$' ∉ rest.head?) :
    v.1 ≠ w.1 := by
  intro heq
  rw [heq, keywordHere_word w fun c hc => ?_] at h
  · cases h
  · rw [isKeywordChar, hstop c hc, Bool.false_or, beq_eq_false_iff_ne]
    rintro rfl
    exact hdollar hc

theorem isPrefix_of_markHere_eq_ok {s : String}
    (h : markHere s cs = .ok () rest) : s.toList <+: cs := by
  unfold markHere at h
  split at h
  · next hprefix => exact List.isPrefixOf_iff_prefix.mp hprefix
  · cases h

/-- **A type that is read is well formed**, where no padding begins and no dollar sign
follows. -/
theorem wellFormed_of_anyType {type : TypeRef}
    (h : anyType cs = .ok type rest) (hpad : ∃ what left, keyword "pad" cs = .miss what left)
    (hdollar : '$' ∉ rest.head?) : type.WellFormed := by
  obtain ⟨_, _, hpad⟩ := hpad
  rcases cases_of_orElse_eq_ok h with h | ⟨⟨_, _, hmiss⟩, h⟩
  · -- an enum
    obtain ⟨_, _, -, h⟩ := exists_of_bind_eq_ok h
    obtain ⟨name, _, hname, h⟩ := exists_of_bind_eq_ok h
    cases h
    exact (sound_word.of_eq_ok (eq_ok_of_commit_eq_ok hname)).1
  have henum : keywordHere "enum" (skipBlanks cs) = _ :=
    miss_of_bind_eq_miss (fun _ => certain_commit.bind_pure) hmiss
  rcases cases_of_orElse_eq_ok h with h | ⟨-, h⟩
  · -- an array: its element is not one of the keywords, since a bracket follows it
    obtain ⟨_, _, helement, h⟩ := exists_of_bind_eq_ok h
    obtain ⟨_, _, hbracket, h⟩ := exists_of_bind_eq_ok h
    obtain ⟨_, _, hcount, h⟩ := exists_of_bind_eq_ok (eq_ok_of_commit_eq_ok h)
    obtain ⟨_, _, -, h⟩ := exists_of_bind_eq_ok h
    cases h
    obtain ⟨element, rfl, hfront, hstop⟩ := exists_of_wordHere_eq_ok helement
    obtain ⟨count, rfl, -, -⟩ := exists_of_wordHere_eq_ok hcount
    obtain ⟨after, rfl⟩ := isPrefix_of_markHere_eq_ok hbracket
    have hpad : keywordHere "pad" (skipBlanks cs) = _ := hpad
    rw [hfront] at henum hpad
    have hbracket : '$' ∉ ("[".toList ++ after).head? := fun h => nomatch Option.some.inj h
    have hne := ne_of_keywordHere_eq_miss (w := .enum) henum hstop hbracket
    have hne' := ne_of_keywordHere_eq_miss (w := .pad) hpad hstop hbracket
    refine ⟨element.2, count.2, fun hmem => ?_⟩
    rw [List.mem_cons, List.mem_singleton] at hmem
    exact hmem.elim hne hne'
  rcases cases_of_orElse_eq_ok h with h | ⟨⟨_, _, hmiss⟩, h⟩
  · -- a list
    obtain ⟨_, _, -, h⟩ := exists_of_bind_eq_ok h
    obtain ⟨_, _, -, h⟩ := exists_of_bind_eq_ok (eq_ok_of_commit_eq_ok h)
    obtain ⟨_, _, helement, h⟩ := exists_of_bind_eq_ok h
    obtain ⟨_, _, -, h⟩ := exists_of_bind_eq_ok h
    cases h
    obtain ⟨element, rfl, -, -⟩ := exists_of_wordHere_eq_ok helement
    exact element.2
  · -- a named type: each keyword was overlooked, and no dollar sign follows
    have hlist : keywordHere "list" (skipBlanks cs) = _ :=
      miss_of_bind_eq_miss (fun _ => certain_commit) hmiss
    obtain ⟨_, _, hname, h⟩ := exists_of_bind_eq_ok h
    cases h
    obtain ⟨name, rfl, hfront, hstop⟩ := exists_of_wordHere_eq_ok hname
    have hpad : keywordHere "pad" (skipBlanks cs) = _ := hpad
    rw [hfront] at henum hpad hlist
    have hne := ne_of_keywordHere_eq_miss (w := .enum) henum hstop hdollar
    have hne' := ne_of_keywordHere_eq_miss (w := .pad) hpad hstop hdollar
    have hne'' := ne_of_keywordHere_eq_miss (w := .list) hlist hstop hdollar
    refine ⟨name.2, fun hmem => ?_⟩
    rw [List.mem_cons, List.mem_cons, List.mem_singleton] at hmem
    exact hmem.elim hne fun hmem => hmem.elim hne' hne''

theorem sound_anyType : Sound anyType fun _ => True := by
  refine Sound.orElse ?_ (.orElse ?_ (.orElse ?_ ?_))
  · exact (sound_keyword _).bind fun _ _ => sound_word.commit.bind fun _ _ => sound_pure trivial
  · exact Sound.afterBlanks <| (sound_wordHere _).bind fun _ _ => (sound_markHere _).bind fun _ _ =>
      .commit <| (sound_wordHere _).bind fun _ _ => (sound_markHere _).bind fun _ _ =>
      sound_pure trivial
  · exact Sound.afterBlanks <| (sound_keywordHere _).bind fun _ _ => .commit <|
      (sound_markHere _).bind fun _ _ => (sound_wordHere _).bind fun _ _ =>
      (sound_markHere _).bind fun _ _ => sound_pure trivial
  · exact sound_word.bind fun _ _ => sound_pure trivial

end Types

/-! ## Members and declarations -/

section Declarations

/-- A member that begins with its type and its name, where no padding begins. -/
theorem sound_typeAndName {cs : List Char} {f : TypeRef → String → Reader Member}
    (hpad : ∃ what left, keyword "pad" cs = .miss what left)
    (hf : ∀ type name, TypeRef.WellFormed type → isWord name = true →
      Sound (f type name) Member.WellFormed) :
    Reply.Sound cs Member.WellFormed ((do f (← anyType) (← identifier)) cs) := by
  refine (sound_anyType cs).bind fun type mid htype _ => ?_
  refine (sound_identifier mid).bind fun name mid' hname hword => ?_
  exact hf type name (wellFormed_of_anyType htype hpad (head?_ne_dollar_of_word hname)) hword mid'

/-- **A member that is read is well formed.** -/
theorem sound_member : Sound member Member.WellFormed := by
  refine Sound.bind (fun cs => ?_) fun m hm => (sound_mark _).commit.bind fun _ _ => sound_pure hm
  have hpadding : Sound padMember Member.WellFormed :=
    (sound_keyword _).bind fun _ _ => .commit <| (sound_mark _).bind fun _ _ =>
      sound_integer.bind fun _ _ => (sound_mark _).bind fun _ _ => sound_pure trivial
  refine (hpadding cs).orElse fun _ _ hmiss => ?_
  have hpad : ∃ what left, keyword "pad" cs = .miss what left :=
    ⟨_, _, miss_of_bind_eq_miss (fun _ => certain_commit) hmiss⟩
  refine .orElse ?_ fun _ _ _ => .orElse ?_ fun _ _ _ => .orElse ?_ fun _ _ _ => ?_
  · -- a fixed value
    exact sound_typeAndName hpad fun _ _ htype hname => (sound_mark _).bind fun _ _ =>
      sound_integer.bind fun _ _ => sound_pure ⟨htype, hname⟩
  · -- a discriminator
    exact sound_typeAndName hpad fun _ _ htype hname => (sound_mark _).bind fun _ _ =>
      (sound_mark _).bind fun _ _ => sound_pure ⟨htype, hname⟩
  · -- the length of a field
    exact sound_typeAndName hpad fun _ _ htype hname => (sound_mark _).bind fun _ _ =>
      (sound_mark _).bind fun _ _ => (sound_mark _).bind fun _ _ =>
      sound_identifier.bind fun _ hfield => (sound_mark _).bind fun _ _ =>
      sound_pure ⟨htype, hname, hfield⟩
  · -- a plain field
    refine (sound_anyType cs).bind fun type mid htype _ => ?_
    refine (sound_identifier.commit mid).bind fun name mid' hname hword => ?_
    have hdollar := head?_ne_dollar_of_word (eq_ok_of_commit_eq_ok hname)
    exact sound_pure ⟨wellFormed_of_anyType htype hpad hdollar, hword⟩ mid'

variable (names : List String)

theorem sound_choice : Sound (param.choice names) fun n => n ∈ names := by
  induction names with
  | nil => exact fun _ => trivial
  | cons name names ih =>
    have hhere : Sound (do keyword name; pure name) fun n => n ∈ name :: names :=
      (sound_keyword name).bind fun _ _ => sound_pure List.mem_cons_self
    cases names with
    | nil => exact hhere
    | cons other names => exact hhere.orElse (ih.imp fun _ => List.mem_cons_of_mem name)

theorem sound_params : Sound (params names) (ParamsWellFormed names) := by
  have hparam : Sound (param names) fun p => p.1 ∈ names ∧ isWord p.2 = true :=
    (sound_choice names).bind fun _ hname => .commit <| (sound_mark _).bind fun _ _ =>
      sound_word.bind fun _ hvalue => sound_pure ⟨hname, hvalue⟩
  have hlist : Sound (commaList (param names)) (ParamsWellFormed names) := hparam.commaList
  refine Sound.bind (.optional <| (sound_mark _).bind fun _ _ => .commit <| hlist.bind fun _ hps =>
    (sound_mark _).bind fun _ _ => sound_pure hps) fun found hfound => sound_pure ?_
  cases found with
  | none => exact List.forall_mem_nil _
  | some ps => exact hfound ps rfl

theorem sound_structDecl : Sound structDecl Declaration.WellFormed := by
  refine (sound_keyword _).bind fun _ _ => .commit (sound_identifier.bind fun name hname => ?_)
  refine (sound_params _).bind fun ps hps => ?_
  refine Sound.bind (.optional <| (sound_mark _).bind fun _ _ => sound_identifier.commit)
    fun up hup => ?_
  refine (sound_mark _).bind fun _ _ => sound_member.many.bind fun members hmembers => ?_
  refine (sound_mark _).bind fun _ _ => (sound_mark _).bind fun _ _ => ?_
  exact sound_pure ⟨hname, hps, hup, hmembers⟩

theorem sound_enumDecl : Sound enumDecl Declaration.WellFormed := by
  have hentry : Sound entry Entry.WellFormed :=
    sound_identifier.bind fun _ hname => .commit <| (sound_params _).bind fun _ hps =>
      (sound_mark _).bind fun _ _ => sound_integer.bind fun _ _ => sound_pure ⟨hname, hps⟩
  refine (sound_keyword _).bind fun _ _ => .commit (sound_identifier.bind fun name hname => ?_)
  refine (sound_params _).bind fun ps hps => (sound_mark _).bind fun _ _ => ?_
  refine hentry.commaList.optional.bind fun found hfound => ?_
  refine (sound_mark _).bind fun _ _ => (sound_mark _).bind fun _ _ => sound_pure ⟨hname, hps, ?_⟩
  cases found with
  | none => exact List.forall_mem_nil _
  | some entries => exact hfound entries rfl

theorem sound_declaration : Sound declaration Declaration.WellFormed :=
  sound_structDecl.orElse <| sound_enumDecl.orElse <| (sound_mark _).bind fun _ _ => .commit <|
    (sound_keyword _).bind fun _ _ => sound_word.bind fun _ hvalue => sound_pure ⟨rfl, hvalue⟩

/-- **Whatever is read is well formed.** -/
theorem wellFormed_of_parse {text : String} {ds : List Declaration} (h : parse text = .ok ds) :
    ∀ d ∈ ds, d.WellFormed := by
  rw [parse, parseChars] at h
  split at h
  · next found rest hread =>
    split at h
    · cases h
      exact (sound_declaration.many.of_eq_ok hread).1
    · cases h
  · cases h
  · cases h
  · cases h

end Declarations

end Declaration

end FlowBindings
