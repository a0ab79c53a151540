import FlowBindings.Proofs.Grammar.Lexical

/-!
# Bytes and tabs

Before a text is read its characters become bytes and its tabs become blanks. The
tokens come through this unchanged and the gaps stay gaps, so that the text that
is read is a text of the same tokens (`Written.recoded`).

Both changes go character by character, and neither makes a character that a
comment or a token looks for: a tab becomes blanks, and the bytes of a character
beyond ASCII lie beyond ASCII (`Recodes`).
-/

namespace FlowBindings.Declaration

open List

/-- What may become of a character before a text is read: a tab becomes blanks, a
character beyond ASCII becomes such characters, and any other stays. -/
def Recodes (c : Char) (run : List Char) : Prop :=
  if c = '\t' then run ≠ [] ∧ ∀ d ∈ run, d = ' '
  else if c.toNat < 128 then run = [c]
  else run ≠ [] ∧ ∀ d ∈ run, 128 ≤ d.toNat

/-- What may become of a text, character by character. -/
inductive Recoded : List Char → List Char → Prop
  | nil : Recoded [] []
  | cons {c : Char} {run cs cs' : List Char} :
    Recodes c run → Recoded cs cs' → Recoded (c :: cs) (run ++ cs')

variable {c x : Char} {cs out run : List Char}

theorem Recodes.ne_nil (h : Recodes c run) : run ≠ [] := by
  unfold Recodes at h
  split at h
  · exact h.1
  · split at h
    · rw [h]
      exact cons_ne_nil c []
    · exact h.1

/-- An ASCII character other than the blank comes from itself only. -/
theorem Recodes.of_mem (h : Recodes c run) (hx : x ∈ run)
    (hascii : x.toNat < 128) (hblank : x ≠ ' ') : c = x ∧ run = [x] := by
  unfold Recodes at h
  split at h
  · exact absurd (h.2 x hx) hblank
  · split at h
    · rw [h, mem_singleton] at hx
      exact ⟨hx.symm, by rw [h, hx]⟩
    · exact absurd (h.2 x hx) (by omega)

theorem Recoded.of_cons (h : Recoded (c :: cs) out)
    (htab : c ≠ '\t') (hascii : c.toNat < 128) : ∃ cs', out = c :: cs' ∧ Recoded cs cs' := by
  cases h with
  | cons hc hcs =>
    unfold Recodes at hc
    rw [if_neg htab, if_pos hascii] at hc
    rw [hc]
    exact ⟨_, rfl, hcs⟩

theorem Recoded.of_append {ds : List Char} (h : Recoded (cs ++ ds) out) :
    ∃ cs' ds', out = cs' ++ ds' ∧ Recoded cs cs' ∧ Recoded ds ds' := by
  induction cs generalizing out with
  | nil => exact ⟨[], out, rfl, .nil, h⟩
  | cons c cs ih =>
    cases h with
    | @cons _ run _ rest hc hrest =>
      obtain ⟨cs', ds', rfl, hcs, hds⟩ := ih hrest
      exact ⟨run ++ cs', ds', (append_assoc _ _ _).symm, .cons hc hcs, hds⟩

theorem Recoded.head? (h : Recoded cs out) (hx : x ∈ out.head?)
    (hascii : x.toNat < 128) (hblank : x ≠ ' ') : x ∈ cs.head? := by
  cases h with
  | nil => exact hx
  | cons hc _ =>
    rw [head?_append_of_ne_nil _ hc.ne_nil] at hx
    rw [(hc.of_mem (mem_of_mem_head? hx) hascii hblank).1]
    rfl

theorem Recoded.eq_of_isTokenChar (h : Recoded cs out)
    (hcs : ∀ c ∈ cs, isTokenChar c = true) : out = cs := by
  induction cs generalizing out with
  | nil =>
    cases h
    rfl
  | cons c cs ih =>
    have hc := hcs c mem_cons_self
    have htab : c ≠ '\t' := by
      rintro rfl
      exact absurd hc (by decide)
    obtain ⟨cs', rfl, hrest⟩ := h.of_cons htab (toNat_lt_of_isTokenChar hc)
    rw [ih hrest fun d hd => hcs d (mem_cons_of_mem c hd)]

theorem Recoded.not_mem (h : Recoded cs out) (hx : x ∉ cs)
    (hascii : x.toNat < 128) (hblank : x ≠ ' ') : x ∉ out := by
  induction h with
  | nil => exact hx
  | cons hc _ ih =>
    rw [mem_cons, not_or] at hx
    rw [mem_append, not_or]
    exact ⟨fun hmem => hx.1 (hc.of_mem hmem hascii hblank).1.symm, ih hx.2⟩

theorem Recoded.getLast?_ne (h : Recoded cs out)
    (hx : cs.getLast? ≠ some x) (hascii : x.toNat < 128) (hblank : x ≠ ' ') :
    out.getLast? ≠ some x := by
  induction h with
  | nil => exact hx
  | @cons c run cs cs' hc hcs ih =>
    cases hcs with
    | nil =>
      rw [append_nil]
      intro hlast
      exact hx (congrArg some (hc.of_mem (mem_of_getLast? hlast) hascii hblank).1)
    | @cons d drun ds ds' hd hds =>
      rw [getLast?_append_of_ne_nil _ (by simp [hd.ne_nil])]
      exact ih (by rwa [getLast?_cons_cons] at hx)

/-- ASCII characters other than blanks and tabs stand at the front before a text is recoded if
they do so afterwards. -/
theorem Recoded.isPrefix (h : Recoded cs out) (hrun : run <+: out)
    (hplain : ∀ c ∈ run, c.toNat < 128 ∧ c ≠ ' ' ∧ c ≠ '\t') : run <+: cs := by
  induction run generalizing cs out with
  | nil => exact nil_prefix
  | cons x run ih =>
    obtain ⟨hascii, hblank, htab⟩ := hplain x mem_cons_self
    obtain ⟨after, rfl⟩ := hrun
    have hhead := h.head? (x := x) rfl hascii hblank
    cases cs with
    | nil => cases hhead
    | cons c cs =>
      obtain rfl := Option.some.inj hhead
      obtain ⟨out', hout, hrest⟩ := h.of_cons htab hascii
      rw [cons_append, List.cons.injEq] at hout
      refine cons_prefix_cons.mpr ⟨rfl, ih hrest ⟨after, hout.2⟩ fun d hd => ?_⟩
      exact hplain d (mem_cons_of_mem c hd)

/-- **Such characters stand in the text before it is recoded.** -/
theorem Recoded.isInfix (h : Recoded cs out) (hrun : run <:+: out)
    (hplain : ∀ c ∈ run, c.toNat < 128 ∧ c ≠ ' ' ∧ c ≠ '\t') : run <:+: cs := by
  cases run with
  | nil => exact nil_infix
  | cons x run =>
    obtain ⟨hascii, hblank, -⟩ := hplain x mem_cons_self
    induction h with
    | nil => exact hrun
    | @cons c made cs cs' hc hcs ih =>
      rw [infix_cons_iff]
      by_cases hmem : x ∈ made
      · -- the first character is there itself, and the others follow it
        have hmade := hc
        obtain ⟨rfl, rfl⟩ := hc.of_mem hmem hascii hblank
        rw [singleton_append, infix_cons_iff] at hrun
        exact hrun.imp (fun hpre => (Recoded.cons hmade hcs).isPrefix hpre hplain) ih
      · refine Or.inr (ih ?_)
        clear hc
        induction made with
        | nil => exact hrun
        | cons d made ihmade =>
          rw [mem_cons, not_or] at hmem
          rw [cons_append, infix_cons_iff] at hrun
          rcases hrun with hpre | hrun
          · exact absurd (cons_prefix_cons.mp hpre).1 hmem.1
          · exact ihmade hrun hmem.2

/-- **A gap stays a gap.** -/
theorem Gap.recoded {gap : List Char} (hgap : Gap gap) (h : Recoded gap out) : Gap out := by
  induction hgap generalizing out with
  | nil =>
    cases h
    exact .nil
  | @blank c gap hspace _ ih =>
    cases h with
    | @cons _ run _ rest hc hrest =>
      have hall : ∀ d ∈ run, isSpace d = true := by
        intro d hd
        by_cases htab : c = '\t'
        · unfold Recodes at hc
          rw [if_pos htab] at hc
          rw [hc.2 d hd]
          rfl
        · have hascii : c.toNat < 128 := by
            simp only [isSpace, Bool.or_eq_true, beq_iff_eq] at hspace
            rcases hspace with ((rfl | rfl) | rfl) | rfl <;> decide
          unfold Recodes at hc
          rw [if_neg htab, if_pos hascii] at hc
          rw [hc, mem_singleton] at hd
          rw [hd]
          exact hspace
      clear hc
      induction run with
      | nil => exact ih hrest
      | cons d run ihrun =>
        exact .blank (hall d mem_cons_self)
          (ihrun fun e he => hall e (mem_cons_of_mem d he))
  | @line body gap hline hlast _ ih =>
    obtain ⟨_, _, rfl, hopening, hclosing⟩ := h.of_append
    obtain ⟨_, rfl, hslash⟩ := hopening.of_cons (by decide) (by decide)
    obtain ⟨body', rfl, hbody⟩ := hslash.of_cons (by decide) (by decide)
    obtain ⟨gap', rfl, hgap⟩ := hclosing.of_cons (by decide) (by decide)
    exact .line (hbody.not_mem hline (by decide) (by decide))
      (hbody.getLast?_ne hlast (by decide) (by decide)) (ih hgap)
  | @block body gap hblock _ ih =>
    obtain ⟨_, _, rfl, hopening, hclosing⟩ := h.of_append
    obtain ⟨_, rfl, hstar⟩ := hopening.of_cons (by decide) (by decide)
    obtain ⟨body', rfl, hbody⟩ := hstar.of_cons (by decide) (by decide)
    obtain ⟨_, rfl, hslash⟩ := hclosing.of_cons (by decide) (by decide)
    obtain ⟨gap', rfl, hgap⟩ := hslash.of_cons (by decide) (by decide)
    refine .block (fun hclose => hblock (hbody.isInfix hclose ?_)) (ih hgap)
    rw [forall_mem_cons, forall_mem_singleton]
    decide

/-- **A text of tokens stays a text of the same tokens.** -/
theorem Written.recoded {ts : List Token} (hcs : Written ts cs)
    (h : Recoded cs out) : Written ts out := by
  induction hcs generalizing out with
  | done hgap => exact .done (hgap.recoded h)
  | @token t ts gap text hgap _ hopen ih =>
    obtain ⟨start, text', rfl, hstart, htext⟩ := h.of_append
    obtain ⟨gap', t', rfl, hgap', ht'⟩ := hstart.of_append
    rw [ht'.eq_of_isTokenChar fun c hc => Token.isTokenChar_of_mem hc]
    refine .token (hgap.recoded hgap') (ih htext) fun ht c hc => ?_
    by_contra hword
    rw [Bool.not_eq_false] at hword
    have hblank : c ≠ ' ' := by
      rintro rfl
      cases hword
    rw [hopen ht c (htext.head? hc (toNat_lt_of_isWordChar hword) hblank)] at hword
    cases hword

theorem utf8_of_toNat_lt (h : c.toNat < 128) :
    ((String.utf8EncodeChar c).map fun b => Char.ofNat b.toNat) = [c] := by
  have hc : c.val.toNat ≤ 127 := Nat.le_of_lt_succ h
  unfold String.utf8EncodeChar
  rw [if_pos hc, map_singleton, UInt8.toNat_ofNat_of_lt' (Nat.lt_of_le_of_lt hc (by decide))]
  exact congrArg (fun d => [d]) (Char.ofNat_toNat c)

theorem le_toNat_byte {n : Nat} (hwide : 128 ≤ n) (hbyte : n < 256) :
    128 ≤ (Char.ofNat (UInt8.ofNat n).toNat).toNat := by
  have hvalid : n.isValidChar := Or.inl (by omega)
  rw [UInt8.toNat_ofNat_of_lt' hbyte, Char.ofNat, dif_pos hvalid]
  exact hwide

theorem utf8_of_le_toNat (h : 128 ≤ c.toNat) :
    ((String.utf8EncodeChar c).map fun b => Char.ofNat b.toNat) ≠ []
      ∧ ∀ d ∈ (String.utf8EncodeChar c).map fun b => Char.ofNat b.toNat, 128 ≤ d.toNat := by
  have hc : ¬ c.val.toNat ≤ 127 := Nat.not_le_of_lt h
  unfold String.utf8EncodeChar
  rw [if_neg hc]
  refine ⟨?_, ?_⟩
  · split
    · exact cons_ne_nil _ _
    · split <;> exact cons_ne_nil _ _
  · rw [forall_mem_map]
    -- each of the two, three or four bytes has its highest bit set
    split_ifs <;>
      simp only [forall_mem_cons, not_mem_nil, IsEmpty.forall_iff, implies_true, and_true] <;>
      and_intros <;> exact le_toNat_byte (by omega) (by omega)

theorem expandTabs_append (h : ∀ d ∈ run, 128 ≤ d.toNat) (column : Nat) (rest : List Char) :
    expandTabs column (run ++ rest) = run ++ expandTabs (column + run.length) rest := by
  induction run generalizing column with
  | nil => rfl
  | cons d run ih =>
    have hd := h d mem_cons_self
    have hne : ∀ x : Char, x.toNat < 128 → (d == x) = false := by
      intro x hx
      rw [beq_eq_false_iff_ne]
      rintro rfl
      omega
    rw [cons_append, expandTabs, hne '\t' (by decide), hne '\n' (by decide),
      hne '\r' (by decide)]
    show d :: expandTabs (column + 1) (run ++ rest) = d :: (run ++ _)
    rw [ih (fun e he => h e (mem_cons_of_mem d he)), length_cons, Nat.add_assoc,
      Nat.add_comm 1]

theorem bytes_eq (s : String) :
    Text.bytes s = s.toList.flatMap fun c =>
      (String.utf8EncodeChar c).map fun b => Char.ofNat b.toNat := by
  obtain ⟨cs, rfl⟩ : ∃ cs, s = String.ofList cs := ⟨s.toList, String.ofList_toList.symm⟩
  rw [Text.bytes, String.toList_ofList, String.toByteArray_ofList, List.utf8Encode]
  simp [map_flatMap]

/-- **The text that is read is the given one, recoded.** -/
theorem recoded_expandTabs (s : String) : Recoded s.toList (expandTabs 0 (Text.bytes s)) := by
  rw [bytes_eq]
  generalize s.toList = cs
  generalize 0 = column
  induction cs generalizing column with
  | nil => exact .nil
  | cons c cs ih =>
    rw [flatMap_cons]
    by_cases hascii : c.toNat < 128
    · rw [utf8_of_toNat_lt hascii, singleton_append, expandTabs]
      by_cases htab : c = '\t'
      · rw [if_pos (by rw [htab]; rfl)]
        refine .cons ?_ (ih _)
        unfold Recodes
        rw [if_pos htab]
        refine ⟨fun hnil => ?_, fun d hd => eq_of_mem_replicate hd⟩
        rw [replicate_eq_nil_iff] at hnil
        omega
      · have hkeep : Recodes c [c] := by
          unfold Recodes
          rw [if_neg htab, if_pos hascii]
        rw [if_neg (by rw [beq_iff_eq]; exact htab)]
        split
        · exact .cons hkeep (ih _)
        · exact .cons hkeep (ih _)
    · obtain ⟨hne, hwide⟩ := utf8_of_le_toNat (Nat.le_of_not_lt hascii)
      rw [expandTabs_append hwide]
      refine .cons ?_ (ih _)
      unfold Recodes
      rw [if_neg (fun htab => hascii (by rw [htab]; decide)), if_neg hascii]
      exact ⟨hne, hwide⟩

end FlowBindings.Declaration
