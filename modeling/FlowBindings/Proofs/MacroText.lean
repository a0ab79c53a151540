import FlowBindings.Loci.IdentifierHeader
import FlowBindings.Proofs.Initializers

/-!
# Macros and what they come to

The header of identifiers is made of macros over a version. `MacroExpr` has the expressions that
occur in them, with the parentheses in which they are written, so that `MacroExpr.text` can be
read in one way only. `MacroExpr.eval` is what a compiler makes of them.

A number stands for itself: it is written in hexadecimal and read back as the same number
(`literalValue?_hexLiteral`). An expression that tests for one version after another comes to the
value of the version (`eval_pick`, `eval_anyOf`).
-/

namespace FlowBindings.Loci

open Text List

/-! ## Numbers -/

section Numbers

/-- The number that digits stand for. -/
def literalValue? (digits : String) : Option Nat := readLiteral? digits.toList

/-- **A number stands for itself.** -/
theorem literalValue?_hexLiteral (n : Nat) : literalValue? (hexLiteral n) = some n := by
  unfold literalValue?
  exact (congrArg readLiteral? (toList_hex n)).trans (readLiteral?_hex n)

theorem mapM_literalValue? (values : List Nat) :
    (values.map fun k : Nat => hexLiteral k).mapM literalValue? = some values := by
  induction values with
  | nil => rfl
  | cons k values ih =>
    rw [map_cons, mapM_cons, literalValue?_hexLiteral, ih]
    rfl

end Numbers

/-! ## Expressions -/

/-- **An expression over a version.** -/
inductive MacroExpr where
  /-- A number, by its digits. -/
  | literal (digits : String)
  /-- A parameter or a constant. -/
  | name (name : String)
  /-- An expression in parentheses. -/
  | parens (e : MacroExpr)
  /-- An expression on the next line. -/
  | nextLine (e : MacroExpr)
  /-- Whether the version is the given one. -/
  | isVersion (v : Version)
  /-- Whether one of two conditions holds. -/
  | either (test rest : MacroExpr)
  /-- A value if a condition holds, and the rest otherwise. -/
  | choose (test value rest : MacroExpr)

namespace MacroExpr

/-- How an expression is written. -/
def text : MacroExpr → String
  | literal digits => digits
  | name n => n
  | parens e => "(" ++ e.text ++ ")"
  | nextLine e => "\\\n     " ++ e.text
  | isVersion v => "(version) == " ++ v.constant "OF_VERSION_"
  | either test rest => "(" ++ test.text ++ ") || " ++ rest.text
  | choose test value rest => "(" ++ test.text ++ ") ? (" ++ value.text ++ ") : " ++ rest.text

/-- **What an expression comes to** in a version, given the values of names. -/
def eval (v : Version) (values : Table String Nat) : MacroExpr → Option Nat
  | literal digits => literalValue? digits
  | name n => values.get? n
  | parens e => e.eval v values
  | nextLine e => e.eval v values
  | isVersion w => some (if v = w then 1 else 0)
  | either test rest => do
    if (← test.eval v values) ≠ 0 then pure 1
    else pure (if (← rest.eval v values) ≠ 0 then 1 else 0)
  | choose test value rest => do
    if (← test.eval v values) ≠ 0 then value.eval v values else rest.eval v values

variable {v : Version} {values : Table String Nat}

/-! ### Tests for one version after another -/

/-- Whether the version is one of the given ones. -/
def anyOf : List Version → MacroExpr
  | [] => literal ""
  | [w] => parens (isVersion w)
  | w :: w' :: rest => either (isVersion w) (nextLine (anyOf (w' :: rest)))

/-- The value of the version among those of the given ones, the last of which serves for all
others. -/
def pick : Version → List Version → MacroExpr
  | w, [] => choose (isVersion w) (name (Catalog.valueParameter w))
    (parens (name (Catalog.valueParameter w)))
  | w, w' :: rest => choose (isVersion w) (name (Catalog.valueParameter w))
      (nextLine (pick w' rest))

/-- **A test for several versions.** -/
theorem eval_anyOf {vs : List Version} (h : vs ≠ []) :
    (anyOf vs).eval v values = some (if v ∈ vs then 1 else 0) := by
  fun_induction anyOf vs with
  | case1 => exact absurd rfl h
  | case2 w =>
    simp only [eval, mem_singleton]
  | case3 w w' rest ih =>
    rw [eval, eval, eval, ih (cons_ne_nil _ _)]
    by_cases hw : v = w
    · simp [hw]
    · by_cases hrest : v ∈ w' :: rest <;> simp [hw, hrest]

/-- **A choice among versions** comes to the value of the version. -/
theorem eval_pick {w : Version} {rest : List Version} (h : v ∈ w :: rest) :
    (pick w rest).eval v values = values.get? (Catalog.valueParameter v) := by
  induction rest generalizing w with
  | nil =>
    rw [mem_singleton.mp h]
    simp [pick, eval]
  | cons w' rest ih =>
    rw [pick, eval, eval, eval, eval]
    by_cases hw : v = w
    · simp [hw]
    · rw [ih ((mem_cons.mp h).resolve_left hw)]
      simp [hw]

variable (w : Version)

/-- The text of a test for a version. -/
def versionTest : String := "((version) == " ++ w.constant "OF_VERSION_" ++ ")"

theorem parens_isVersion : "(" ++ (isVersion w).text ++ ")" = versionTest w := by
  unfold versionTest text
  rw [← String.append_assoc]
  rfl

theorem text_anyOf (vs : List Version) :
    (anyOf vs).text = join " || \\\n     " (vs.map versionTest) := by
  fun_induction anyOf vs with
  | case1 => rfl
  | case2 w => exact parens_isVersion w
  | case3 w w' rest ih =>
    rw [text, text, ih, map_cons, map_cons, map_cons, join_cons_cons,
      show " || \\\n     " = " || " ++ "\\\n     " from rfl, show ") || " = ")" ++ " || " from rfl,
      ← parens_isVersion w]
    simp only [String.append_assoc]

/-- The text of a version's arm in a choice. -/
def versionArm : String :=
  versionTest w ++ " ? (" ++ Catalog.valueParameter w ++ ") : "

theorem text_pick (rest : List Version) :
    (pick w rest).text = join "\\\n     " ((w :: rest).map versionArm) ++ "("
      ++ Catalog.valueParameter ((w :: rest).getLast (cons_ne_nil w rest)) ++ ")" := by
  have harm : ∀ (v : Version) (e : MacroExpr),
      (choose (isVersion v) (name (Catalog.valueParameter v)) e).text = versionArm v ++ e.text := by
    intro v e
    rw [text, versionArm, ← parens_isVersion, show ") ? (" = ")" ++ " ? (" from rfl]
    simp only [String.append_assoc]
    rfl
  induction rest generalizing w with
  | nil =>
    rw [pick, harm, text, ← String.append_assoc, ← String.append_assoc]
    rfl
  | cons w' rest ih =>
    rw [pick, harm, text, ih, map_cons, map_cons, map_cons, join_cons_cons]
    simp only [String.append_assoc]
    rfl

end MacroExpr

end FlowBindings.Loci
