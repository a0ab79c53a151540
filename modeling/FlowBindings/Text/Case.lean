import FlowBindings.Text.CaseTable

/-!
# Letter case

Texts in small letters, in capitals and as titles. A letter may have a counterpart of
several characters, and the small form of the Greek sigma depends on its place: at the
end of a word it has a form of its own.
-/

namespace FlowBindings.Text

/-! ## Characters -/

variable (c : Char) (s : String)

def isCased : Bool :=
  if c.toNat < 128 then c.isAlpha else inRanges casedRanges c.toNat

def isOverlooked : Bool :=
  if c.toNat < 128 then ['\'', '.', ':', '^', '`'].contains c else inRanges overlookedRanges c.toNat

/-- The small letter of a capital; any other character itself. -/
def lowerChar : Char :=
  if c.toNat < 128 then c.toLower
  else ((CaseRange.shifted? lowerRanges c.toNat).map Char.ofNat).getD c

/-- The capital of a small letter; any other character itself. -/
def upperChar : Char :=
  if c.toNat < 128 then c.toUpper
  else ((CaseRange.shifted? upperRanges c.toNat).map Char.ofNat).getD c

def lowerForm : List Char :=
  if c.toNat < 128 then [c.toLower] else (lowerExpansions.get? c.toNat).getD [lowerChar c]

def upperForm : List Char :=
  if c.toNat < 128 then [c.toUpper] else (upperExpansions.get? c.toNat).getD [upperChar c]

def titleForm : List Char :=
  if c.toNat < 128 then [c.toUpper]
  else
    match titleExpansions.get? c.toNat, CaseRange.shifted? titleRanges c.toNat with
    | some form, _ => form
    | none, some n => [Char.ofNat n]
    | none, none => upperForm c

/-! ## Texts -/

/-- Whether a letter stands at the end of a word: a character with a case is before it
and none behind it. `before` holds what precedes, latest first. -/
def isWordEnd (before rest : List Char) : Bool :=
  ((before.dropWhile isOverlooked).head?.any isCased)
    && !((rest.dropWhile isOverlooked).head?.any isCased)

def lowerFormAt (before : List Char) (c : Char) (rest : List Char) : List Char :=
  if c = 'Σ' then [if isWordEnd before rest then 'ς' else 'σ'] else lowerForm c

/-- Characters in small letters; `before` holds what precedes, latest first. -/
def lowerFrom (before : List Char) : List Char → List Char
  | [] => []
  | c :: rest => lowerFormAt before c rest ++ lowerFrom (c :: before) rest

def lower : String := String.ofList (lowerFrom [] s.toList)

def upper : String := String.ofList (s.toList.flatMap upperForm)

/-- `s` with a capital first letter and small letters after it. -/
def capitalize : String :=
  match s.toList with
  | [] => ""
  | c :: rest => String.ofList (titleForm c ++ lowerFrom [c] rest)

/-- Characters with a capital at the start of each word; `before` holds what precedes,
latest first. A word starts behind a character that has no case. -/
def titleFrom (before : List Char) : List Char → List Char
  | [] => []
  | c :: rest =>
    (if before.head?.any isCased then lowerFormAt before c rest else titleForm c)
      ++ titleFrom (c :: before) rest

/-- `s` with a capital at the start of each word. -/
def title : String := String.ofList (titleFrom [] s.toList)

end FlowBindings.Text
