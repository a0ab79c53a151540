import FlowBindings.Proofs.Grammar.Spelling
import FlowBindings.Proofs.Numerals
import Mathlib.Data.List.Forall2

/-!
# Tokens and gaps in a text

What a reader finds at the front of a written text. Behind the gap stands the
first token, and what follows the token is a written text again
(`Written.front`); everything the grammar's readers do is said from there on. A
reader that looks for a keyword sees only the word the token begins with
(`Token.run`), and that word ends where no keyword could go on
(`Written.exists_skipBlanks_eq`).
-/

namespace FlowBindings.Declaration

open List Text

/-! ## Numerals -/

section Numerals

theorem readDigits?_eq_foldl {base : Nat} {cs : List Char} {ds : List Nat}
    (h : Forall₂ (fun c d => digitValue? c = some d ∧ d < base) cs ds) (acc : Nat) :
    readDigits? base acc cs = some (ds.foldl (fun n d => n * base + d) acc) := by
  induction h generalizing acc with
  | nil => rfl
  | cons hd _ ih =>
    rw [readDigits?, hd.1]
    show (if _ then _ else _) = _
    rw [if_pos hd.2, ih]
    rfl

/-- The value of digits, the first counting most, is what reading them gives. -/
theorem readDigits?_eq_ofDigits {base : Nat} {cs : List Char} {ds : List Nat}
    (h : Forall₂ (fun c d => digitValue? c = some d ∧ d < base) cs ds) :
    readDigits? base 0 cs = some (Nat.ofDigits base ds.reverse) := by
  rw [readDigits?_eq_foldl h, Nat.ofDigits_eq_foldr, foldr_reverse]
  congr 2
  funext n d
  rw [Nat.cast_id, Nat.mul_comm, Nat.add_comm]

theorem digitValue?_hexChar (d : HexDigit) : digitValue? d.char = some d.1.val := by
  have hcapital : ∀ d : Fin 16, digitValue? (Nat.digitChar d).toUpper = some d.val := by decide
  obtain ⟨d, _ | _⟩ := d
  · exact digitValue?_digitChar d d.isLt
  · exact hcapital d

/-- **Every numeral is read as the number it stands for.** -/
theorem readLiteral?_text (n : Numeral) : readLiteral? n.text = some n.value := by
  cases n with
  | decimal n => exact readLiteral?_decimal n
  | hex first rest =>
    show readDigits? 16 0 ((first :: rest).map HexDigit.char) = _
    refine readDigits?_eq_ofDigits ?_
    rw [forall₂_map_left_iff, forall₂_map_right_iff, forall₂_same]
    exact fun d _ => ⟨digitValue?_hexChar d, d.1.isLt⟩
  | octal digits =>
    have hall : Forall₂ (fun c d => digitValue? c = some d ∧ d < 8)
        (digits.map fun d => Nat.digitChar d.val) (digits.map Fin.val) := by
      rw [forall₂_map_left_iff, forall₂_map_right_iff, forall₂_same]
      exact fun d _ => ⟨digitValue?_digitChar d (by omega), d.isLt⟩
    cases digits with
    | nil => rfl
    | cons d digits =>
      have hx : ∀ d : Fin 8, Nat.digitChar d.val ≠ 'x' := by decide
      have hread := readDigits?_eq_ofDigits hall
      show readLiteral? ('0' :: Nat.digitChar d.val :: _) = _
      unfold readLiteral?
      split
      · next heq => exact absurd (List.cons.inj (List.cons.inj heq).2).1 (hx d)
      · next heq => cases (List.cons.inj heq).2
      · next heq =>
        rw [← (List.cons.inj heq).2]
        exact hread
      · next hoctal => exact absurd rfl (hoctal _)

end Numerals

/-! ## Gaps -/

section Gaps

variable {body : List Char}

theorem afterLine_append (hline : '\n' ∉ body) (hlast : body.getLast? ≠ some '\\')
    (rest : List Char) : afterLine (body ++ '\n' :: rest) = '\n' :: rest := by
  induction body with
  | nil => rfl
  | cons c body ih =>
    obtain ⟨hc, hbody⟩ := not_or.mp (mem_cons.not.mp hline)
    have hnext : afterLine (body ++ '\n' :: rest) = '\n' :: rest := by
      refine ih hbody fun h => hlast ?_
      rw [getLast?_cons, h]
      rfl
    rw [cons_append]
    unfold afterLine
    split
    · next heq => cases heq
    · next heq =>
      -- a newline right behind the backslash would end the body there
      obtain ⟨rfl, hrest⟩ := List.cons.inj heq
      cases body with
      | nil => exact absurd rfl hlast
      | cons d body => exact absurd ((List.cons.inj hrest).1 ▸ mem_cons_self) hbody
    · next heq => exact absurd (List.cons.inj heq).1.symm hc
    · next heq =>
      obtain ⟨rfl, rfl⟩ := List.cons.inj heq
      exact hnext

theorem afterBlock?_append (h : ¬ ['*', '/'] <:+: body) (rest : List Char) :
    afterBlock? (body ++ '*' :: '/' :: rest) = some rest := by
  induction body with
  | nil => rfl
  | cons c body ih =>
    rw [infix_cons_iff, not_or] at h
    rw [cons_append]
    unfold afterBlock?
    split
    · next heq => cases heq
    · next heq =>
      obtain ⟨rfl, hrest⟩ := List.cons.inj heq
      cases body with
      | nil => cases (List.cons.inj hrest).1
      | cons d body =>
        obtain ⟨rfl, -⟩ := List.cons.inj hrest
        exact absurd ⟨body, rfl⟩ h.1
    · next heq =>
      obtain ⟨rfl, rfl⟩ := List.cons.inj heq
      exact ih h.2

theorem skipBlanks_blank {c : Char} (h : isSpace c = true) (rest : List Char) :
    skipBlanks (c :: rest) = skipBlanks rest := by
  have hslash : c ≠ '/' := by
    rintro rfl
    cases h
  rw [skipBlanks, if_pos h]
  · rintro _ rfl
    exact absurd rfl hslash
  · rintro _ rfl
    exact absurd rfl hslash

theorem skipBlanks_line (rest : List Char) :
    skipBlanks ('/' :: '/' :: rest) = skipBlanks (afterLine rest) := by
  rw [skipBlanks]

theorem skipBlanks_block {rest : List Char} (h : afterBlock? body = some rest) :
    skipBlanks ('/' :: '*' :: body) = skipBlanks rest := by
  rw [skipBlanks]
  split
  · next after heq =>
    rw [h] at heq
    cases heq
    rfl
  · next heq =>
    rw [h] at heq
    cases heq

theorem skipBlanks_of_head {c : Char} (hspace : isSpace c = false) (hslash : c ≠ '/')
    (rest : List Char) : skipBlanks (c :: rest) = c :: rest := by
  rw [skipBlanks, if_neg (by rw [hspace]; exact Bool.false_ne_true)]
  · rintro _ rfl
    exact absurd rfl hslash
  · rintro _ rfl
    exact absurd rfl hslash

/-- **A gap is skipped.** -/
theorem Gap.skipBlanks_append {gap : List Char} (h : Gap gap) (rest : List Char) :
    skipBlanks (gap ++ rest) = skipBlanks rest := by
  induction h with
  | nil => rfl
  | blank hc _ ih => rw [cons_append, skipBlanks_blank hc, ih]
  | @line body gap hline hlast _ ih =>
    rw [append_assoc]
    show skipBlanks ('/' :: '/' :: (body ++ '\n' :: (gap ++ rest))) = _
    rw [skipBlanks_line, afterLine_append hline hlast, skipBlanks_blank rfl, ih]
  | @block body gap hblock _ ih =>
    rw [append_assoc]
    show skipBlanks ('/' :: '*' :: (body ++ '*' :: '/' :: (gap ++ rest))) = _
    rw [skipBlanks_block (afterBlock?_append hblock _), ih]

end Gaps

/-! ## Characters of tokens -/

section Characters

/-- The characters of marks and brackets. -/
def markChars : List Char := "()\x7b\x7d[];:=,?#".toList

/-- The characters tokens are made of. -/
def isTokenChar (c : Char) : Bool :=
  isWordChar c || markChars.contains c

variable {c : Char}

theorem isTokenChar_of_isWordChar (h : isWordChar c = true) : isTokenChar c = true := by
  rw [isTokenChar, h, Bool.true_or]

theorem isWordChar_iff : isWordChar c = true
    ↔ (65 ≤ c.toNat ∧ c.toNat ≤ 90) ∨ (97 ≤ c.toNat ∧ c.toNat ≤ 122)
      ∨ (48 ≤ c.toNat ∧ c.toNat ≤ 57) ∨ c = '_' := by
  unfold isWordChar Char.isAlphanum Char.isAlpha Char.isUpper Char.isLower Char.isDigit
  simp only [Bool.or_eq_true, Bool.and_eq_true, decide_eq_true_eq, beq_iff_eq, ge_iff_le,
    UInt32.le_iff_toNat_le, or_assoc]
  rfl

theorem toNat_lt_of_isWordChar (h : isWordChar c = true) : c.toNat < 128 := by
  rcases isWordChar_iff.mp h with h | h | h | rfl
  · omega
  · omega
  · omega
  · decide

theorem toNat_lt_of_isTokenChar (h : isTokenChar c = true) : c.toNat < 128 := by
  rw [isTokenChar, Bool.or_eq_true, contains_iff_mem] at h
  rcases h with h | h
  · exact toNat_lt_of_isWordChar h
  · have hmarks : markChars.all (fun c => c.toNat < 128) = true := by decide
    exact of_decide_eq_true (all_eq_true.mp hmarks c h)

theorem isSpace_of_isTokenChar (h : isTokenChar c = true) : isSpace c = false := by
  rw [Bool.eq_false_iff]
  intro hspace
  simp only [isSpace, Bool.or_eq_true, beq_iff_eq] at hspace
  rcases hspace with ((rfl | rfl) | rfl) | rfl <;> exact absurd h (by decide)

theorem Word.isWordChar_of_mem (w : Word) (h : c ∈ w.1.toList) :
    isWordChar c = true := by
  have hw := w.2
  rw [isWord, Bool.and_eq_true, all_eq_true] at hw
  exact hw.2 c h

theorem Word.toList_ne_nil (w : Word) : w.1.toList ≠ [] := by
  have hw := w.2
  rw [isWord, Bool.and_eq_true] at hw
  intro h
  rw [String.toList_eq_nil_iff] at h
  rw [h] at hw
  cases hw.1

theorem isWordChar_of_isDigit (h : c.isDigit = true) : isWordChar c = true := by
  rw [isWordChar, Char.isAlphanum, h, Bool.or_true, Bool.true_or]

theorem HexDigit.isWordChar_char (d : HexDigit) : isWordChar d.char = true := by
  have hsmall : ∀ d : Fin 16, isWordChar (Nat.digitChar d) = true := by decide
  have hcapital : ∀ d : Fin 16, isWordChar (Nat.digitChar d).toUpper = true := by decide
  obtain ⟨d, _ | _⟩ := d
  · exact hsmall d
  · exact hcapital d

theorem Numeral.isWordChar_of_mem (n : Numeral) (h : c ∈ n.text) :
    isWordChar c = true := by
  cases n with
  | decimal n => exact isWordChar_of_isDigit (Nat.isDigit_of_mem_toDigits (by decide) (by decide) h)
  | hex first rest =>
    rcases mem_cons.mp h with rfl | h
    · decide
    rcases mem_cons.mp h with rfl | h
    · decide
    obtain ⟨d, -, rfl⟩ := mem_map.mp h
    exact d.isWordChar_char
  | octal digits =>
    rcases mem_cons.mp h with rfl | h
    · decide
    obtain ⟨d, -, rfl⟩ := mem_map.mp h
    exact HexDigit.isWordChar_char (⟨d.val, by omega⟩, false)

theorem Token.isTokenChar_of_mem {t : Token} (h : c ∈ t.text) :
    isTokenChar c = true := by
  cases t with
  | word w => exact isTokenChar_of_isWordChar (w.isWordChar_of_mem h)
  | mark m =>
    have hmark : m.text.toList.all isTokenChar = true := by cases m <;> decide
    exact all_eq_true.mp hmark c h
  | number n => exact isTokenChar_of_isWordChar (n.isWordChar_of_mem h)
  | array element count =>
    rcases mem_append.mp h with h | h
    · rcases mem_append.mp h with h | h
      · exact isTokenChar_of_isWordChar (element.isWordChar_of_mem h)
      · rcases mem_cons.mp h with rfl | h
        · decide
        · exact isTokenChar_of_isWordChar (count.isWordChar_of_mem h)
    · rw [mem_singleton.mp h]
      decide
  | list element =>
    have hlist : "list(".toList.all isTokenChar = true := by decide
    rcases mem_append.mp h with h | h
    · rcases mem_append.mp h with h | h
      · exact all_eq_true.mp hlist c h
      · exact isTokenChar_of_isWordChar (element.isWordChar_of_mem h)
    · rw [mem_singleton.mp h]
      decide

end Characters

/-! ## The front of a text -/

section Front

/-- The word a token begins with. -/
def Token.run : Token → List Char
  | word w => w.1.toList
  | mark _ => []
  | number n => n.text
  | array element _ => element.1.toList
  | list _ => "list".toList

/-- The token behind the word it begins with. -/
def Token.afterRun : Token → List Char
  | word _ | number _ => []
  | mark m => m.text.toList
  | array _ count => '[' :: count.1.toList ++ [']']
  | list element => '(' :: element.1.toList ++ [')']

theorem Token.text_eq (t : Token) : t.text = t.run ++ t.afterRun := by
  cases t with
  | word w => exact (append_nil _).symm
  | mark m => rfl
  | number n => exact (append_nil _).symm
  | array element count => exact append_assoc _ _ _
  | list element => rfl

variable {c : Char} {cs : List Char} {ts : List Token} {t : Token}

theorem Token.isWordChar_of_mem_run (h : c ∈ t.run) :
    isWordChar c = true := by
  cases t with
  | word w => exact w.isWordChar_of_mem h
  | mark m => cases h
  | number n => exact n.isWordChar_of_mem h
  | array element _ => exact element.isWordChar_of_mem h
  | list _ =>
    have hlist : "list".toList.all isWordChar = true := by decide
    exact all_eq_true.mp hlist c h

/-- A token that does not run on goes on behind its word with a bracket or a mark, and
only an array with a square one. -/
theorem Token.exists_afterRun_eq (h : t.isOpen = false) :
    ∃ c cs, t.afterRun = c :: cs ∧ isKeywordChar c = false
      ∧ (c = '[' → ∃ element count, t = .array element count) := by
  cases t with
  | word _ => cases h
  | number _ => cases h
  | mark m => cases m <;> exact ⟨_, _, rfl, by decide, fun hc => absurd hc (by decide)⟩
  | array element count => exact ⟨_, _, rfl, by decide, fun _ => ⟨element, count, rfl⟩⟩
  | list _ => exact ⟨_, _, rfl, by decide, fun hc => absurd hc (by decide)⟩

theorem Token.afterRun_eq_nil (h : t.isOpen = true) : t.afterRun = [] := by
  cases t with
  | word _ => rfl
  | number _ => rfl
  | mark _ => cases h
  | array _ _ => cases h
  | list _ => cases h

theorem Token.text_ne_nil (t : Token) : t.text ≠ [] := by
  cases t with
  | word w => exact w.toList_ne_nil
  | mark m => cases m <;> decide
  | number n =>
    cases n with
    | decimal n => exact Nat.toDigits_ne_nil
    | hex _ _ => exact cons_ne_nil _ _
    | octal _ => exact cons_ne_nil _ _
  | array element _ => exact fun h => element.toList_ne_nil (append_eq_nil_iff.mp
      (append_eq_nil_iff.mp h).1).1
  | list _ => exact fun h => nomatch (append_eq_nil_iff.mp h).2

theorem Token.head?_ne_bracket (t : Token) : t.text.head? ≠ some '[' := by
  rw [t.text_eq]
  cases hrun : t.run with
  | nil =>
    cases t with
    | word w => exact absurd hrun w.toList_ne_nil
    | mark m => cases m <;> decide
    | number n => exact absurd hrun (Token.text_ne_nil (.number n))
    | array element _ => exact absurd hrun element.toList_ne_nil
    | list _ => cases hrun
  | cons c cs =>
    intro h
    have hc : isWordChar c = true :=
      Token.isWordChar_of_mem_run (t := t) (by rw [hrun]; exact mem_cons_self)
    rw [Option.some.inj h] at hc
    cases hc

theorem Gap.head? {gap : List Char} (h : Gap gap) (hc : c ∈ gap.head?) :
    isSpace c = true ∨ c = '/' := by
  cases h with
  | nil => cases hc
  | blank hspace _ =>
    rw [← Option.some.inj hc]
    exact .inl hspace
  | line _ _ _ => exact .inr (Option.some.inj hc).symm
  | block _ _ => exact .inr (Option.some.inj hc).symm

/-- What a written text can begin with: never a dollar sign or a bracket. -/
theorem Written.head? (h : Written ts cs) (hc : c ∈ cs.head?) : c ≠ '$' ∧ c ≠ '[' := by
  have hgap : isSpace c = true ∨ c = '/' → c ≠ '$' ∧ c ≠ '[' := by
    rintro (hspace | rfl)
    · refine ⟨?_, ?_⟩ <;> rintro rfl <;> cases hspace
    · exact ⟨by decide, by decide⟩
  cases h with
  | done h => exact hgap (h.head? hc)
  | @token t ts gap text h _ _ =>
    cases gap with
    | cons d gap => exact hgap (h.head? hc)
    | nil =>
      rw [nil_append, head?_append_of_ne_nil _ t.text_ne_nil] at hc
      refine ⟨?_, fun hbracket => t.head?_ne_bracket (hbracket ▸ hc)⟩
      rintro rfl
      exact absurd (Token.isTokenChar_of_mem (mem_of_mem_head? hc)) (by decide)

/-- **Behind the gap of a written text stands its first token**, and behind that a
written text. -/
theorem Written.front (h : Written (t :: ts) cs) :
    ∃ rest, skipBlanks cs = t.text ++ rest ∧ Written ts rest
      ∧ (t.isOpen = true → ∀ c ∈ rest.head?, isKeywordChar c = false)
      ∧ rest.length < cs.length := by
  cases h with
  | @token _ _ gap rest hgap hrest hopen =>
    refine ⟨rest, ?_, hrest, fun ht c hc => ?_, ?_⟩
    · rw [append_assoc, hgap.skipBlanks_append]
      cases htext : t.text with
      | nil => exact absurd htext t.text_ne_nil
      | cons c cs =>
        have hc : isTokenChar c = true :=
          Token.isTokenChar_of_mem (by rw [htext]; exact mem_cons_self)
        refine skipBlanks_of_head (isSpace_of_isTokenChar hc) ?_ _
        rintro rfl
        exact absurd hc (by decide)
    · rw [isKeywordChar, hopen ht c hc, Bool.false_or, beq_eq_false_iff_ne]
      exact (hrest.head? hc).1
    · have := length_pos_iff.mpr t.text_ne_nil
      simp only [length_append]
      omega

theorem Written.skipBlanks_eq_nil (h : Written [] cs) : skipBlanks cs = [] := by
  cases h with
  | done hgap =>
    rw [← append_nil cs, hgap.skipBlanks_append, skipBlanks]

/-- The character a sequence of tokens begins with. -/
def lead : List Token → Option Char
  | [] => none
  | t :: _ => t.text.head?

theorem Written.head?_skipBlanks (h : Written ts cs) :
    (skipBlanks cs).head? = lead ts := by
  cases ts with
  | nil =>
    rw [h.skipBlanks_eq_nil]
    rfl
  | cons t ts =>
    obtain ⟨rest, hfront, -⟩ := h.front
    rw [hfront, head?_append_of_ne_nil _ t.text_ne_nil]
    rfl

/-- The word a sequence of tokens begins with. -/
def leadRun : List Token → List Char
  | [] => []
  | t :: _ => t.run

theorem isWordChar_of_mem_leadRun (h : c ∈ leadRun ts) :
    isWordChar c = true := by
  cases ts with
  | nil => cases h
  | cons t ts => exact Token.isWordChar_of_mem_run h

/-- The word a written text begins with ends where no keyword could go on, and only
an array goes on with a bracket. -/
theorem Written.exists_skipBlanks_eq (h : Written ts cs) :
    ∃ after, skipBlanks cs = leadRun ts ++ after
      ∧ (∀ c ∈ after.head?, isKeywordChar c = false)
      ∧ ('[' ∈ after.head? → ∃ element count, .array element count ∈ ts.head?) := by
  cases ts with
  | nil => exact ⟨[], h.skipBlanks_eq_nil, fun c hc => (nomatch hc), fun hc => (nomatch hc)⟩
  | cons t ts =>
    obtain ⟨rest, hfront, hrest, hopen, -⟩ := h.front
    have hfront' : skipBlanks cs = t.run ++ (t.afterRun ++ rest) := by
      rw [hfront, t.text_eq, append_assoc]
    refine ⟨t.afterRun ++ rest, hfront', ?_⟩
    cases ht : t.isOpen with
    | true =>
      rw [Token.afterRun_eq_nil ht, nil_append]
      exact ⟨hopen ht, fun hc => absurd rfl (hrest.head? hc).2⟩
    | false =>
      obtain ⟨d, ds, hafter, hd, hbracket⟩ := Token.exists_afterRun_eq ht
      rw [hafter]
      refine ⟨fun c hc => ?_, fun hc => ?_⟩
      · rw [← Option.some.inj hc]
        exact hd
      · obtain ⟨element, count, rfl⟩ := hbracket (Option.some.inj hc)
        exact ⟨element, count, rfl⟩

end Front

end FlowBindings.Declaration
