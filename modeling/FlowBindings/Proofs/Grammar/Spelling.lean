import FlowBindings.Declaration.Parser
import Mathlib.Data.Nat.Digits.Defs

/-!
# How declarations are written

The written form of a declaration, told without the reader. It has three layers.
A declaration is **spelled** as a sequence of tokens, which leaves two things
open: a comma may stand behind the last of a list, and a number has many
numerals. A sequence of tokens is **written** as a text with gaps of blanks and
comments between the tokens. And the declarations that can be written are the
**well-formed** ones, whose names are words and whose member types do not begin
with a word that begins something else.

An array or list type is one token: no gap may stand inside it. A gap may be
empty wherever the text before it and the text behind it do not grow together to
one word.
-/

namespace FlowBindings.Declaration

open Text

/-! ## Well-formed declarations -/

/-- A type whose names are words. A named type is none of the words that begin
another kind of member or type, and the element of an array is none of those that
may stand directly before a bracket. -/
def TypeRef.WellFormed : TypeRef → Prop
  | scalar name => isWord name = true ∧ name ∉ ["enum", "pad", "list"]
  | enum name => isWord name = true
  | array element count =>
    isWord element = true ∧ isWord count = true ∧ element ∉ ["enum", "pad"]
  | list element => isWord element = true

instance : DecidablePred TypeRef.WellFormed
  | .scalar _ => inferInstanceAs (Decidable (_ ∧ _))
  | .enum _ => inferInstanceAs (Decidable (_ = _))
  | .array _ _ => inferInstanceAs (Decidable (_ ∧ _))
  | .list _ => inferInstanceAs (Decidable (_ = _))

/-- A member whose type is well formed and whose names are words. -/
def Member.WellFormed : Member → Prop
  | pad _ => True
  | fixed type name _ => type.WellFormed ∧ isWord name = true
  | discriminator type name => type.WellFormed ∧ isWord name = true
  | fieldLength type name field =>
    type.WellFormed ∧ isWord name = true ∧ isWord field = true
  | data type name => type.WellFormed ∧ isWord name = true
  | unknown _ => False

instance : DecidablePred Member.WellFormed
  | .pad _ => inferInstanceAs (Decidable True)
  | .fixed _ _ _ | .discriminator _ _ | .fieldLength _ _ _ | .data _ _ =>
    inferInstanceAs (Decidable (_ ∧ _))
  | .unknown _ => inferInstanceAs (Decidable False)

/-- Parameters with known names, whose values are words. -/
def ParamsWellFormed (names : List String) (ps : List Param) : Prop :=
  ∀ p ∈ ps, p.1 ∈ names ∧ isWord p.2 = true

instance (names : List String) : DecidablePred (ParamsWellFormed names) :=
  fun _ => List.decidableBAll _ _

/-- A constant whose name is a word and whose parameters are well formed. -/
def Entry.WellFormed (e : Entry) : Prop :=
  isWord e.name = true ∧ ParamsWellFormed entryParamNames e.params

instance : DecidablePred Entry.WellFormed :=
  fun _ => inferInstanceAs (Decidable (_ ∧ _))

/-- **A well-formed declaration**: a struct, an enum or a version line all of whose
parts are. -/
def WellFormed : Declaration → Prop
  | .struct name ps up members =>
    isWord name = true ∧ ParamsWellFormed structParamNames ps
      ∧ (∀ w ∈ up, isWord w = true) ∧ ∀ m ∈ members, m.WellFormed
  | .enum name ps entries =>
    isWord name = true ∧ ParamsWellFormed enumParamNames ps
      ∧ ∀ e ∈ entries, e.WellFormed
  | .metadata key value => key = "version" ∧ isWord value = true
  | .unknown => False

instance : DecidablePred Declaration.WellFormed
  | .struct _ _ _ _ => inferInstanceAs (Decidable (_ ∧ _ ∧ _ ∧ _))
  | .enum _ _ _ => inferInstanceAs (Decidable (_ ∧ _ ∧ _))
  | .metadata _ _ => inferInstanceAs (Decidable (_ ∧ _))
  | .unknown => inferInstanceAs (Decidable False)

/-! ## Tokens -/

/-- A nonempty run of letters, digits and underscores. -/
abbrev Word := {w : String // isWord w = true}

/-- The words with a meaning of their own. -/
def Word.struct : Word := ⟨"struct", by decide⟩

@[inherit_doc Word.struct]
def Word.enum : Word := ⟨"enum", by decide⟩

@[inherit_doc Word.struct]
def Word.pad : Word := ⟨"pad", by decide⟩

@[inherit_doc Word.struct]
def Word.list : Word := ⟨"list", by decide⟩

@[inherit_doc Word.struct]
def Word.length : Word := ⟨"length", by decide⟩

@[inherit_doc Word.struct]
def Word.version : Word := ⟨"version", by decide⟩

/-- The punctuation marks. -/
inductive Mark where
  | leftParen | rightParen | leftBrace | rightBrace
  | semicolon | colon | comma | equals | doubleEquals | question | hash
  deriving DecidableEq, Repr

/-- A mark as it is written. -/
def Mark.text : Mark → String
  | leftParen => "("
  | rightParen => ")"
  | leftBrace => "\x7b"
  | rightBrace => "\x7d"
  | semicolon => ";"
  | colon => ":"
  | comma => ","
  | equals => "="
  | doubleEquals => "=="
  | question => "?"
  | hash => "#"

/-- A hexadecimal digit, with a capital letter or a small one. -/
abbrev HexDigit := Fin 16 × Bool

/-- The character of a hexadecimal digit. -/
def HexDigit.char : HexDigit → Char
  | (d, capital) => if capital then (Nat.digitChar d.val).toUpper else Nat.digitChar d.val

/-- **A number as it is written**, of which there are three kinds: decimal without
zeros in front, hexadecimal behind `0x`, and octal behind `0`. -/
inductive Numeral where
  | decimal (n : Nat)
  | hex (first : HexDigit) (rest : List HexDigit)
  | octal (digits : List (Fin 8))
  deriving DecidableEq, Repr

/-- The characters of a numeral. -/
def Numeral.text : Numeral → List Char
  | decimal n => Nat.toDigits 10 n
  | hex first rest => '0' :: 'x' :: (first :: rest).map HexDigit.char
  | octal digits => '0' :: digits.map fun d => Nat.digitChar d.val

/-- The number a numeral stands for: its first digit counts most. -/
def Numeral.value : Numeral → Nat
  | decimal n => n
  | hex first rest => Nat.ofDigits 16 ((first :: rest).map fun d => d.1.val).reverse
  | octal digits => Nat.ofDigits 8 (digits.map Fin.val).reverse

/-- A token: what has no gap inside. -/
inductive Token where
  | word (w : Word)
  | mark (m : Mark)
  | number (n : Numeral)
  /-- `element[count]` -/
  | array (element count : Word)
  /-- `list(element)` -/
  | list (element : Word)
  deriving DecidableEq, Repr

/-- The characters of a token. -/
def Token.text : Token → List Char
  | word w => w.1.toList
  | mark m => m.text.toList
  | number n => n.text
  | array element count => element.1.toList ++ '[' :: count.1.toList ++ [']']
  | list element => "list(".toList ++ element.1.toList ++ [')']

/-- Whether a letter directly behind the token would become part of it. -/
def Token.isOpen : Token → Bool
  | word _ | number _ => true
  | mark _ | array _ _ | list _ => false

/-! ## Spelling -/

section Spelling

variable {α : Type}

/-- The things of a list, one behind the other. -/
inductive Each (spells : α → List Token → Prop) : List α → List Token → Prop
  | nil : Each spells [] []
  | cons {a : α} {as : List α} {ts ts' : List Token} :
    spells a ts → Each spells as ts' → Each spells (a :: as) (ts ++ ts')

/-- The things of a nonempty list with commas between them, and maybe one behind
the last. -/
inductive Commas (spells : α → List Token → Prop) : List α → List Token → Prop
  | last {a : α} {ts : List Token} : spells a ts → Commas spells [a] ts
  | trailing {a : α} {ts : List Token} : spells a ts → Commas spells [a] (ts ++ [.mark .comma])
  | cons {a : α} {as : List α} {ts ts' : List Token} :
    spells a ts → Commas spells as ts' → Commas spells (a :: as) (ts ++ .mark .comma :: ts')

end Spelling

inductive TypeRef.Spelled : TypeRef → List Token → Prop
  | scalar (name : Word) : Spelled (.scalar name.1) [.word name]
  | enum (name : Word) : Spelled (.enum name.1) [.word .enum, .word name]
  | array (element count : Word) : Spelled (.array element.1 count.1) [.array element count]
  | list (element : Word) : Spelled (.list element.1) [.list element]

/-- The spellings of a member: its type, its name and what it is. -/
inductive Member.Spelled : Member → List Token → Prop
  | pad (n : Numeral) :
    Spelled (.pad n.value) [.word .pad, .mark .leftParen, .number n, .mark .rightParen]
  | fixed {type : TypeRef} {ts : List Token} (h : type.Spelled ts) (name : Word) (n : Numeral) :
    Spelled (.fixed type name.1 n.value) (ts ++ [.word name, .mark .doubleEquals, .number n])
  | discriminator {type : TypeRef} {ts : List Token} (h : type.Spelled ts) (name : Word) :
    Spelled (.discriminator type name.1)
      (ts ++ [.word name, .mark .doubleEquals, .mark .question])
  | fieldLength {type : TypeRef} {ts : List Token} (h : type.Spelled ts) (name field : Word) :
    Spelled (.fieldLength type name.1 field.1)
      (ts ++ [.word name, .mark .doubleEquals, .word .length, .mark .leftParen, .word field,
        .mark .rightParen])
  | data {type : TypeRef} {ts : List Token} (h : type.Spelled ts) (name : Word) :
    Spelled (.data type name.1) (ts ++ [.word name])

/-- A member with its semicolon. -/
inductive LineSpelled : Member → List Token → Prop
  | line {m : Member} {ts : List Token} (h : m.Spelled ts) :
    LineSpelled m (ts ++ [.mark .semicolon])

/-- The spelling of a parameter. -/
inductive ParamSpelled : Param → List Token → Prop
  | param (name value : Word) :
    ParamSpelled (name.1, value.1) [.word name, .mark .equals, .word value]

/-- The spellings of parameters in parentheses; no parameters, no parentheses. -/
inductive ParamsSpelled : List Param → List Token → Prop
  | none : ParamsSpelled [] []
  | some {ps : List Param} {ts : List Token} (h : Commas ParamSpelled ps ts) :
    ParamsSpelled ps (.mark .leftParen :: ts ++ [.mark .rightParen])

inductive ParentSpelled : Option String → List Token → Prop
  | none : ParentSpelled none []
  | some (name : Word) : ParentSpelled (some name.1) [.mark .colon, .word name]

/-- The spellings of a constant. -/
inductive Entry.Spelled : Entry → List Token → Prop
  | entry {ps : List Param} {ts : List Token} (name : Word) (h : ParamsSpelled ps ts)
      (n : Numeral) :
    Spelled ⟨name.1, ps, n.value⟩ (.word name :: ts ++ [.mark .equals, .number n])

/-- The spellings of the constants of an enum. -/
inductive EntriesSpelled : List Entry → List Token → Prop
  | none : EntriesSpelled [] []
  | some {es : List Entry} {ts : List Token} (h : Commas Entry.Spelled es ts) :
    EntriesSpelled es ts

/-- **The spellings of a declaration.** -/
inductive Spelled : Declaration → List Token → Prop
  | struct {ps : List Param} {up : Option String} {members : List Member}
      {params parent body : List Token} (name : Word) (hparams : ParamsSpelled ps params)
      (hparent : ParentSpelled up parent) (hbody : Each LineSpelled members body) :
    Spelled (.struct name.1 ps up members)
      (.word .struct :: .word name :: params ++ parent ++ .mark .leftBrace :: body
        ++ [.mark .rightBrace, .mark .semicolon])
  | enum {ps : List Param} {entries : List Entry} {params body : List Token} (name : Word)
      (hparams : ParamsSpelled ps params) (hbody : EntriesSpelled entries body) :
    Spelled (.enum name.1 ps entries)
      (.word .enum :: .word name :: params ++ .mark .leftBrace :: body
        ++ [.mark .rightBrace, .mark .semicolon])
  | version (value : Word) :
    Spelled (.metadata "version" value.1) [.mark .hash, .word .version, .word value]

/-! ## Writing -/

/-- **A gap**: blanks, comments that end with their line, and comments that end with
`*/`. The newline that ends a line must not be escaped. -/
inductive Gap : List Char → Prop
  | nil : Gap []
  | blank {c : Char} {gap : List Char} : isSpace c = true → Gap gap → Gap (c :: gap)
  | line {body gap : List Char} : '\n' ∉ body → body.getLast? ≠ some '\\' → Gap gap →
    Gap ('/' :: '/' :: body ++ '\n' :: gap)
  | block {body gap : List Char} : ¬ ['*', '/'] <:+: body → Gap gap →
    Gap ('/' :: '*' :: body ++ '*' :: '/' :: gap)

/-- **The texts of a sequence of tokens**: the tokens in order, with gaps before,
between and behind them. Behind a word no character of a word may follow, so two
words never stand side by side. -/
inductive Written : List Token → List Char → Prop
  | done {gap : List Char} : Gap gap → Written [] gap
  | token {t : Token} {ts : List Token} {gap text : List Char} : Gap gap → Written ts text →
    (t.isOpen = true → ∀ c ∈ text.head?, isWordChar c = false) →
    Written (t :: ts) (gap ++ t.text ++ text)

end FlowBindings.Declaration
