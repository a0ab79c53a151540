import FlowBindings.Value

/-!
# Reading values

What a caller expects of a value: a text, a number, a sequence, a field. A value of
another kind is a fault.
-/

namespace FlowBindings.Value

def isNull : Value → Bool
  | null => true
  | _ => false

variable (v : Value) (name : String)

def field? : Option Value :=
  match v with
  | record fields => Table.get? fields name
  | _ => none

def needField : Outcome Value := orFault (v.field? name) (.noEntry name)

/-- The entry that a record has to have under a name; only records have entries. -/
def entry : Outcome Value :=
  match v with
  | record _ => v.needField name
  | _ => throw (.wrongKind "record")

def asText : Value → Outcome String
  | text s => pure s
  | _ => throw (.wrongKind "text")

/-- An integer; truth values count as numbers. -/
def asInt : Outcome Int := orFault v.number? (.wrongKind "integer")

/-- A number that counts something. -/
def asNat : Outcome Nat :=
  match v.number? with
  | some (.ofNat n) => pure n
  | _ => throw (.wrongKind "natural number")

def asList : Value → Outcome (List Value)
  | list xs => pure xs
  | _ => throw (.wrongKind "sequence")

def asListOf {α : Type} (element : Value → Outcome α) (v : Value) : Outcome (List α) := do
  (← v.asList).mapM element

def asTexts : Value → Outcome (List String) := asListOf asText

/-- A version, found by its dotted name. Values that cannot be names of anything are of the
wrong kind; others only name no version. -/
def asVersion : Value → Outcome Version
  | text name => orFault (Version.ofDotted? name) (.noEntry name)
  | list _ | record _ => throw (.wrongKind "version")
  | _ => throw (.noEntry "version")

def asPair : Value → Outcome (String × String)
  | list [a, b] => do pure (← a.asText, ← b.asText)
  | list _ => throw .noElement
  | _ => throw (.wrongKind "pair")

def asPairs : Value → Outcome (List (String × String)) := asListOf asPair

/-- The elements of a value that can be gone through. -/
def elements : Outcome (List Value) := orFault v.elements? (.wrongKind "sequence")

/-- The element at a place. A text has its characters as elements, and a record has none
at a place. -/
def item (i : Nat) : Value → Outcome Value
  | list xs => orFault xs[i]? .noElement
  | text s => orFault (s.toList[i]?.map fun c => text (String.ofList [c])) .noElement
  | record _ => throw (.noEntry (toString i))
  | _ => throw (.wrongKind "sequence")

/-- The two elements of a value that has to have two. -/
def unpack : Outcome (Value × Value) := do
  match ← v.elements with
  | [a, b] => pure (a, b)
  | _ :: _ :: _ => throw (.badValue "too many values to unpack (expected 2)")
  | few =>
    throw (.badValue ("not enough values to unpack (expected 2, got " ++ toString few.length ++ ")"))

/-- The entries of a table that a sequence of pairs makes: pairs are sequences of two
elements, and texts of two characters are pairs too. -/
def asEntries (items : List Value) : Outcome (List (Value × Value)) :=
  items.zipIdx.mapM fun (item, i) => do
    match ← orFault item.elements? (.wrongKind "pair") with
    | [a, b] => pure (a, b)
    | other =>
      throw (.badValue ("dictionary update sequence element #" ++ toString i ++ " has length "
        ++ toString other.length ++ "; 2 is required"))

end FlowBindings.Value
