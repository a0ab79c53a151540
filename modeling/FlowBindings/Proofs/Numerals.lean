import FlowBindings.Text.Numeral
import Mathlib.Data.List.Basic

/-!
# Numbers and their digits

Digits are read one by one, each time multiplying what was read by the base. A number is read
back from its own digits in every base up to sixteen (`readDigits?_toDigits`), and so it is from
a literal: behind `0x` the digits are hexadecimal, and digits that do not begin with a zero are
decimal.
-/

namespace FlowBindings.Text

open List

theorem digitValue?_digitChar : ∀ d < 16, digitValue? d.digitChar = some d := by decide

theorem readDigits?_append (base acc : Nat) (cs cs' : List Char) :
    readDigits? base acc (cs ++ cs')
      = (readDigits? base acc cs).bind fun n => readDigits? base n cs' := by
  fun_induction readDigits? base acc cs with
  | case1 acc => rfl
  | case2 acc c rest d hd hlt ih =>
    rw [cons_append, readDigits?, hd]
    exact (if_pos hlt).trans ih
  | case3 acc c rest d hd hlt =>
    rw [cons_append, readDigits?, hd]
    exact if_neg hlt
  | case4 acc c rest hd =>
    rw [cons_append, readDigits?, hd]
    rfl

/-- What is read as digits holds nothing else. -/
theorem isSome_digitValue?_of_mem {base acc n : Nat} {cs : List Char}
    (h : readDigits? base acc cs = some n) {c : Char} (hc : c ∈ cs) : (digitValue? c).isSome := by
  obtain ⟨front, back, rfl⟩ := append_of_mem hc
  rw [readDigits?_append, Option.bind_eq_some_iff] at h
  obtain ⟨m, -, h⟩ := h
  cases hvalue : digitValue? c with
  | some d => rfl
  | none =>
    rw [readDigits?, hvalue] at h
    cases h

/-- **A number is read back from its digits.** -/
theorem readDigits?_toDigits {base : Nat} (hone : 1 < base) (hbase : base ≤ 16) (n : Nat) :
    readDigits? base 0 (Nat.toDigits base n) = some n := by
  induction n using Nat.strongRecOn with
  | ind n ih =>
    have hdigit : ∀ acc d, d < base → readDigits? base acc [d.digitChar]
        = some (acc * base + d) := by
      intro acc d hd
      rw [readDigits?, digitValue?_digitChar d (Nat.lt_of_lt_of_le hd hbase)]
      exact if_pos hd
    by_cases hsmall : n < base
    · rw [Nat.toDigits_of_lt_base hsmall, hdigit 0 n hsmall, Nat.zero_mul, Nat.zero_add]
    · have hle := Nat.le_of_not_lt hsmall
      rw [Nat.toDigits_of_base_le hone hle, readDigits?_append,
        ih (n / base) (Nat.div_lt_self (by omega) hone), Option.bind_some,
        hdigit _ _ (Nat.mod_lt n (by omega)), Nat.div_add_mod']

theorem head?_toDigits_ne_zero {n : Nat} (h : n ≠ 0) : (Nat.toDigits 10 n).head? ≠ some '0' := by
  induction n using Nat.strongRecOn with
  | ind n ih =>
    have hdigit : ∀ d : Fin 10, d.val ≠ 0 → Nat.digitChar d.val ≠ '0' := by decide
    rw [Nat.toDigits_eq_if (by decide)]
    split
    · next hlt => exact fun heq => hdigit ⟨n, hlt⟩ h (Option.some.inj heq)
    · next hle =>
      rw [List.head?_append_of_ne_nil _ Nat.toDigits_ne_nil]
      exact ih (n / 10) (by omega) (by omega)

theorem toList_hex (n : Nat) : (hex n).toList = '0' :: 'x' :: Nat.toDigits 16 n := by
  show ("0x" ++ String.ofList (Nat.toDigits 16 n)).toList = "0x".toList ++ Nat.toDigits 16 n
  rw [String.toList_append]
  exact congrArg _ String.toList_ofList

theorem readLiteral?_hex (n : Nat) :
    readLiteral? ('0' :: 'x' :: Nat.toDigits 16 n) = some n := by
  show readNat? 16 (Nat.toDigits 16 n) = some n
  rw [readNat?, isEmpty_eq_false_iff.mpr Nat.toDigits_ne_nil]
  exact readDigits?_toDigits (by decide) (by decide) n

theorem readLiteral?_decimal (n : Nat) : readLiteral? (Nat.toDigits 10 n) = some n := by
  by_cases hn : n = 0
  · subst hn
    rfl
  · -- no zero in front, so the digits are read as decimal ones
    have hhead := head?_toDigits_ne_zero hn
    have hread := readDigits?_toDigits (show 1 < 10 by decide) (by decide) n
    cases hdigits : Nat.toDigits 10 n with
    | nil => exact absurd hdigits Nat.toDigits_ne_nil
    | cons c cs =>
      rw [hdigits] at hhead hread
      have hc : c ≠ '0' := fun hc => hhead (by rw [hc, List.head?_cons])
      rw [← hread]
      unfold readLiteral?
      split
      · next heq => exact absurd (List.cons.inj heq).1 hc
      · next heq => exact absurd (List.cons.inj heq).1 hc
      · next heq => exact absurd (List.cons.inj heq).1 hc
      · rfl

end FlowBindings.Text
