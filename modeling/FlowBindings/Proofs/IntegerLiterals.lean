import FlowBindings.ObjectModel.Literal
import FlowBindings.Proofs.Numerals
import Mathlib.Data.Int.ModEq

/-!
# What integer literals come to

A literal is written for a compiler that has its own rules. Digits without a mark are of the type
`int`, with an `L` behind them of the type `long`. Hexadecimal digits give all bits of the type,
the sign among them; decimal digits give a number that is not negative. A cast keeps the lowest
bits. `TypedInt.read?` follows these rules from the text on, and `TypedInt.isAssignableTo` says
which variables take the outcome.

By these rules a literal comes to its value, up to the bits of its type, but for the upper half of
the type `long`: there the negated value is written, and written without a mark
(`literal_denotes_iff`).
-/

namespace FlowBindings.ObjectModel

open Text List

namespace Primitive

def integral : List Primitive := [byte, char, short, int, long]

variable (t : Primitive)

/-- **The number of a type with the same lowest bits.** -/
def wrap (n : Int) : Int :=
  if t.isSigned then n.bmod (2 ^ t.bits) else n % 2 ^ t.bits

/-- Whether a type has the number. -/
def has (n : Int) : Bool := t.wrap n = n

/-- Whether a type has all numbers of another one. -/
def includes (s : Primitive) : Bool :=
  t = s || (t.isSigned && s.bits < t.bits)

theorem wrap_modEq (n : Int) : t.wrap n ≡ n [ZMOD 2 ^ t.bits] := by
  unfold wrap
  split
  · exact_mod_cast Int.bmod_emod (x := n) (m := 2 ^ t.bits)
  · exact Int.mod_modEq n _

end Primitive

/-- **A constant**: the type and the value that a compiler finds for an expression. -/
structure TypedInt where
  type : Primitive
  value : Int
  deriving DecidableEq, Repr

namespace TypedInt

/-- The constant of a type for the number that digits stand for. A number in decimal digits, which
begin with no zero, must be positive in the type. -/
def ofDigits? (type : Primitive) (digits : List Char) : Option TypedInt := do
  let n ← readLiteral? digits
  let width := if digits.head? = some '0' then type.bits else type.bits - 1
  if n < 2 ^ width then some ⟨type, type.wrap n⟩ else none

/-- The constant of a literal: digits, with an `L` behind them in the type `long`. -/
def ofLiteral? (text : List Char) : Option TypedInt :=
  if text.getLast? = some 'L' then ofDigits? .long text.dropLast else ofDigits? .int text

/-- **The constant of an expression**: of a literal, or of a literal behind a cast. -/
def read? (text : String) : Option TypedInt :=
  let cast := Primitive.integral.findSome? fun t =>
    (text.toList.dropPrefix? ("(" ++ t.name ++ ") ").toList).map fun rest => (t, rest)
  match cast with
  | some (t, rest) => (ofLiteral? rest).map fun c => ⟨t, t.wrap c.value⟩
  | none => ofLiteral? text.toList

/-- **Whether a variable of a type takes a constant**: its type has all numbers of the constant's
type, or it is a short type and has this very number. -/
def isAssignableTo (c : TypedInt) (t : Primitive) : Bool :=
  t.includes c.type || (c.type ≠ .long && t.bits < 32 && t.has c.value)

end TypedInt

/-- **An expression stands for a number in a type**: a variable of the type takes its constant, and
the constant agrees with the number in all bits of the type. -/
def Denotes (text : String) (t : Primitive) (n : Int) : Prop :=
  ∃ c, TypedInt.read? text = some c ∧ c.isAssignableTo t = true ∧ c.value ≡ n [ZMOD 2 ^ t.bits]

section Reading

variable {k : Nat}

/-- The digits of a number are neither marks nor brackets. -/
theorem isSome_digitValue?_of_mem_toDigits {base : Nat} (hone : 1 < base) (hbase : base ≤ 16)
    {c : Char} (hc : c ∈ Nat.toDigits base k) : (digitValue? c).isSome :=
  isSome_digitValue?_of_mem (readDigits?_toDigits hone hbase k) hc

theorem getLast?_toDigits {base : Nat} (hone : 1 < base) (hbase : base ≤ 16) :
    (Nat.toDigits base k).getLast? ≠ some 'L' := by
  intro hlast
  cases isSome_digitValue?_of_mem_toDigits hone hbase (mem_of_getLast? hlast)

theorem ofDigits?_hex (type : Primitive) (h : k < 2 ^ type.bits) :
    TypedInt.ofDigits? type ('0' :: 'x' :: Nat.toDigits 16 k) = some ⟨type, type.wrap k⟩ := by
  rw [TypedInt.ofDigits?, readLiteral?_hex]
  exact if_pos h

theorem ofLiteral?_hex (h : k < 2 ^ 32) :
    TypedInt.ofLiteral? ('0' :: 'x' :: Nat.toDigits 16 k) = some ⟨.int, Primitive.int.wrap k⟩ := by
  have hlast : ('0' :: 'x' :: Nat.toDigits 16 k).getLast? ≠ some 'L' := by
    rw [getLast?_cons_cons, getLast?_cons_of_ne_nil Nat.toDigits_ne_nil]
    exact getLast?_toDigits (by decide) (by decide)
  rw [TypedInt.ofLiteral?, if_neg hlast]
  exact ofDigits?_hex .int h

theorem ofLiteral?_decimal (hk : k ≠ 0) :
    TypedInt.ofLiteral? (Nat.toDigits 10 k)
      = if k < 2 ^ 31 then some ⟨.int, Primitive.int.wrap k⟩ else none := by
  rw [TypedInt.ofLiteral?, if_neg (getLast?_toDigits (by decide) (by decide)), TypedInt.ofDigits?,
    readLiteral?_decimal]
  simp only [head?_toDigits_ne_zero hk]
  rfl

theorem read?_of_head {text : String} (h : text.toList.head? ≠ some '(') :
    TypedInt.read? text = TypedInt.ofLiteral? text.toList := by
  unfold TypedInt.read?
  cases hchars : text.toList with
  | nil => rfl
  | cons c cs =>
    rw [hchars, head?_cons, Ne, Option.some.injEq] at h
    simp [Primitive.integral, Primitive.name, List.dropPrefix?, h]

theorem read?_cast {t : Primitive} (ht : t ≠ .boolean) (rest : String) :
    TypedInt.read? ("(" ++ t.name ++ ") " ++ rest)
      = (TypedInt.ofLiteral? rest.toList).map fun c => ⟨t, t.wrap c.value⟩ := by
  unfold TypedInt.read?
  cases t with
  | boolean => exact absurd rfl ht
  | _ => simp [Primitive.integral, Primitive.name, List.dropPrefix?]

end Reading

/-! ## Literals -/

section Literals

variable {k : Nat}

/-- A cast literal agrees with its number in the bits of a type that has no more than `int`. -/
theorem denotes_cast {t : Primitive} (ht : t ≠ .boolean) (hbits : t.bits ≤ 32)
    (h : k < 2 ^ t.bits) : Denotes (Literal.hex (some t) k false).render t k := by
  have hint : k < 2 ^ 32 := Nat.lt_of_lt_of_le h (Nat.pow_le_pow_right (by decide) hbits)
  have hread : TypedInt.read? (Literal.hex (some t) k false).render
      = some ⟨t, t.wrap (Primitive.int.wrap k)⟩ := by
    show TypedInt.read? ("(" ++ t.name ++ ") " ++ "0x" ++ hexDigits k ++ "") = _
    rw [String.append_empty, String.append_assoc, read?_cast ht, ← Text.hex, toList_hex,
      ofLiteral?_hex hint, Option.map_some]
  refine ⟨_, hread, by simp [TypedInt.isAssignableTo, Primitive.includes], ?_⟩
  exact (t.wrap_modEq _).trans
    ((Primitive.int.wrap_modEq k).of_dvd (pow_dvd_pow 2 hbits))

theorem denotes_plain (isLong : Bool) (h : k < 2 ^ (if isLong then Primitive.long else .int).bits) :
    Denotes (Literal.hex none k isLong).render (if isLong then .long else .int) k := by
  have hread : TypedInt.read? (Literal.hex none k isLong).render
      = some ⟨if isLong then .long else .int,
        (if isLong then Primitive.long else .int).wrap k⟩ := by
    have hchars : (Literal.hex none k isLong).render.toList
        = '0' :: 'x' :: (Nat.toDigits 16 k ++ if isLong then ['L'] else []) := by
      show ("" ++ "0x" ++ hexDigits k ++ _).toList = _
      rw [String.empty_append, ← Text.hex, String.toList_append, toList_hex]
      cases isLong <;> rfl
    rw [read?_of_head (by rw [hchars]; simp), hchars]
    cases isLong with
    | false =>
      rw [if_neg Bool.false_ne_true, append_nil]
      exact ofLiteral?_hex h
    | true =>
      rw [if_pos rfl, ← cons_append, ← cons_append, TypedInt.ofLiteral?,
        if_pos getLast?_concat, dropLast_concat]
      exact ofDigits?_hex .long h
  exact ⟨_, hread, by cases isLong <;> rfl, Primitive.wrap_modEq _ _⟩

/-- The upper half of the type `long` is written as the decimal digits of the negated value. -/
theorem read?_upper {n : Int} (hlow : 2 ^ 63 ≤ n) (hlt : n < 2 ^ 64) :
    TypedInt.read? (Literal.decimal (2 ^ 64 - n)).render
      = if 2 ^ 64 - n < 2 ^ 31 then some ⟨.int, 2 ^ 64 - n⟩ else none := by
  obtain ⟨k, hk⟩ := Int.eq_ofNat_of_zero_le (show 0 ≤ 2 ^ 64 - n by omega)
  have hne : k ≠ 0 := by omega
  have hchars : (Literal.decimal k).render.toList = Nat.toDigits 10 k := String.toList_ofList
  have hhead : (Nat.toDigits 10 k).head? ≠ some '(' := by
    intro hhead
    cases isSome_digitValue?_of_mem_toDigits (by decide) (by decide) (mem_of_head? hhead)
  rw [hk, read?_of_head (by rwa [hchars]), hchars, ofLiteral?_decimal hne]
  by_cases hfits : k < 2 ^ 31
  · have hwrap : Primitive.int.wrap k = k := by
      simp only [Primitive.wrap, Primitive.isSigned, Primitive.bits, if_true]
      exact Int.bmod_eq_of_le (by omega) (by omega)
    rw [if_pos hfits, if_pos (by omega), hwrap]
  · rw [if_neg hfits, if_neg (by omega)]

/-- Elsewhere a literal is written in hexadecimal digits, with a cast if its type needs one. -/
theorem exists_denotes {t : Primitive} (ht : t ≠ .boolean) (hk : k < 2 ^ t.bits)
    (hlower : ¬ (t = .long ∧ 2 ^ 63 ≤ (k : Int))) :
    ∃ l, Literal.ofInt? t k = some l ∧ Denotes l.render t k := by
  have hfits : ¬ Int.pow 2 t.bits ≤ (k : Int) := not_le.mpr (show (k : Int) < 2 ^ t.bits by
    exact_mod_cast hk)
  rw [Literal.ofInt?, if_neg hfits]
  by_cases hlong : t = .long
  · subst hlong
    have hlow : ¬ Int.pow 2 63 ≤ (k : Int) := fun hlow => hlower ⟨rfl, hlow⟩
    refine ⟨.hex none k true, if_neg ?_, denotes_plain true hk⟩
    rw [Bool.and_eq_true_iff, decide_eq_true_eq]
    exact fun h => hlow h.2
  · have hbits : t.bits ≤ 32 := by cases t <;> simp [Primitive.bits] at hlong ⊢
    rw [if_neg hlong, decide_eq_false hlong]
    by_cases hint : t = .int
    · subst hint
      split
      · exact ⟨_, rfl, denotes_cast ht hbits hk⟩
      · exact ⟨_, rfl, denotes_plain false hk⟩
    · have hcast : t.needsCast = true := by
        cases t <;> simp [Primitive.needsCast] at ht hlong hint ⊢
      rw [hcast, if_pos rfl, ite_self]
      exact ⟨_, rfl, denotes_cast ht hbits hk⟩

end Literals

/-- **A literal stands for its value**, for every integral type and every value of its bits, but
for the upper half of the type `long`. There the text stands for the negated value, if that fits
the type `int`, and for nothing otherwise. -/
theorem literal_denotes_iff {t : Primitive} (ht : t ≠ .boolean) {n : Int} (hpos : 0 ≤ n)
    (hlt : n < 2 ^ t.bits) :
    ∃ l, Literal.ofValue t (.int n) = .ok l
      ∧ (Denotes l.render t n ↔ ¬ (t = .long ∧ 2 ^ 63 ≤ n))
      ∧ (t = .long → 2 ^ 63 ≤ n → TypedInt.read? l.render
        = if 2 ^ 64 - n < 2 ^ 31 then some ⟨.int, 2 ^ 64 - n⟩ else none) := by
  obtain ⟨k, rfl⟩ := Int.eq_ofNat_of_zero_le hpos
  have hk : k < 2 ^ t.bits := by exact_mod_cast hlt
  have hvalue : Literal.ofValue t (.int k) = orFault (Literal.ofInt? t k)
      (.refused ("Value " ++ toString (k : Int) ++ " to large for type " ++ t.name)) := by
    cases t with
    | boolean => exact absurd rfl ht
    | _ => rfl
  rw [hvalue]
  by_cases hupper : t = .long ∧ 2 ^ 63 ≤ (k : Int)
  · obtain ⟨rfl, hlow⟩ := hupper
    have hread := read?_upper hlow hlt
    have hlt : (k : Int) < 2 ^ 64 := hlt
    have hl : Literal.ofInt? .long k = some (.decimal (2 ^ 64 - k)) :=
      (if_neg (not_le.mpr hlt)).trans
        ((if_pos (Bool.and_eq_true_iff.mpr ⟨rfl, decide_eq_true hlow⟩)).trans (if_pos rfl))
    refine ⟨.decimal (2 ^ 64 - k), by rw [hl]; rfl, iff_of_false ?_ (not_not_intro ⟨rfl, hlow⟩),
      fun _ _ => hread⟩
    rintro ⟨c, hc, -, hmod⟩
    rw [hread] at hc
    split at hc
    · next hfits =>
      cases hc
      have hmod : (2 ^ 64 - (k : Int)) % 2 ^ 64 = k % 2 ^ 64 := hmod
      omega
    · cases hc
  · obtain ⟨l, hl, hdenotes⟩ := exists_denotes ht hk hupper
    refine ⟨l, by rw [hl]; rfl, iff_of_true hdenotes hupper, fun hlong hlow => ?_⟩
    exact absurd ⟨hlong, hlow⟩ hupper

/-- A byte above the largest positive one is cast, and stands for its value. -/
theorem literal_denotes_iff_byte :
    ∃ l, Literal.ofValue .byte (.int 200) = .ok l ∧ l.render = "(byte) 0xc8"
      ∧ Denotes l.render .byte 200 := by
  obtain ⟨l, hl, hiff, -⟩ := literal_denotes_iff (show Primitive.byte ≠ .boolean by decide)
    (show (0 : Int) ≤ 200 by decide) (by decide)
  refine ⟨l, hl, ?_, hiff.mpr (by decide)⟩
  rw [← Except.ok.inj hl]
  decide

/-- **The largest value of the type `long` is written as one**, where it stands for minus one. -/
theorem upper_long_negated :
    ∃ l, Literal.ofValue .long (.int (2 ^ 64 - 1)) = .ok l ∧ l.render = "1"
      ∧ TypedInt.read? l.render = some ⟨.int, 1⟩ ∧ ¬ Denotes l.render .long (2 ^ 64 - 1) := by
  have htext : (Literal.decimal 1).render = "1" := by decide
  have hread : TypedInt.read? "1" = some ⟨.int, 1⟩ := by decide
  refine ⟨.decimal 1, rfl, htext, by rw [htext, hread], ?_⟩
  rintro ⟨c, hc, -, hmod⟩
  rw [htext, hread] at hc
  cases hc
  have hmod : (1 : Int) % 2 ^ 64 = (2 ^ 64 - 1) % 2 ^ 64 := hmod
  omega

end FlowBindings.ObjectModel
