import FlowBindings.Fault

/-!
# Values

A value whose shape is only known when it is looked at: what a document holds.
Documents serve to look into the library's own types, and they are what a caller
hands over where any value may stand. A place in a document whose content could
not be found holds the reason instead.
-/

namespace FlowBindings

inductive Value where
  | null
  | bool (b : Bool)
  | int (n : Int)
  | text (s : String)
  | list (xs : List Value)
  /-- Values by name, in an order that carries no meaning. -/
  | record (fields : List (String × Value))
  | fault (f : Fault)
  deriving Repr, Inhabited

namespace Value

instance : Coe String Value := ⟨text⟩
instance : Coe Bool Value := ⟨bool⟩
instance : Coe Int Value := ⟨int⟩
instance : Coe Nat Value := ⟨fun n => int n⟩

def nat (n : Nat) : Value := int n

def opt {α : Type} (f : α → Value) (o : Option α) : Value := (o.map f).getD null

/-- A sequence, each element turned into a value. -/
def each {α : Type} (f : α → Value) (xs : List α) : Value := list (xs.map f)

/-- A record with a further field; other values stay as they are. -/
def withField (v : Value) (name : String) (w : Value) : Value :=
  match v with
  | record fields => record (fields ++ [(name, w)])
  | v => v

def texts (xs : List String) : Value := each text xs

def named {α : Type} (f : α → Value) (t : Table String α) : Value :=
  record (t.map fun (k, v) => (k, f v))

/-- A table as pairs of a key and its value; an empty table is an empty record. -/
def pairs {κ α : Type} (f : κ → Value) (g : α → Value) (t : List (κ × α)) : Value :=
  if t.isEmpty then record [] else list (t.map fun (k, v) => list [f k, g v])

/-- A result, or the reason why there is none. -/
def ofOutcome {α : Type} (f : α → Value) : Outcome α → Value
  | .ok a => f a
  | .error e => fault e

/-- The result of a question: the value found, or the reason why there is none. -/
def answer {α : Type} (f : α → Value) : Outcome α → Value
  | .ok a => record [("ok", f a)]
  | .error e => fault e

def version (v : Version) : Value := text v.dotted

/-! ## Sums -/

def number? : Value → Option Int
  | bool b => some (if b then 1 else 0)
  | int n => some n
  | _ => none

/-- The elements of a value that can be gone through. -/
def elements? : Value → Option (List Value)
  | list xs => some xs
  | text s => some (s.toList.map fun c => text (String.singleton c))
  | record fields => some (fields.map fun (name, _) => text name)
  | _ => none

/-- A value, increased by another one: numbers are added, texts joined, and sequences
take up the elements of what follows. -/
def plus (v w : Value) : Outcome Value :=
  match v, w with
  | text s, text t => pure (text (s ++ t))
  | list xs, w => do pure (list (xs ++ (← orFault w.elements? (.wrongKind "sequence"))))
  | v, w => do
    pure (int ((← orFault v.number? (.wrongKind "number")) + (← orFault w.number? (.wrongKind "number"))))

/-! ## Comparisons -/

mutual

def equal : Value → Value → Bool
  | null, null => true
  | text s, text t => s = t
  | list xs, list ys => equalAll xs ys
  | record fs, record gs => fs.length = gs.length && equalFields fs gs
  | bool b, w => w.number? = some (if b then 1 else 0)
  | int n, w => w.number? = some n
  | _, _ => false

def equalAll : List Value → List Value → Bool
  | [], [] => true
  | x :: xs, y :: ys => equal x y && equalAll xs ys
  | _, _ => false

def equalFields : List (String × Value) → List (String × Value) → Bool
  | [], _ => true
  | (k, v) :: fs, gs =>
    (match Table.get? gs k with
      | some w => equal v w
      | none => false) && equalFields fs gs

end

mutual

/-- Whether a value is above another one: numbers by size, texts by their characters, and
sequences by the first elements that differ. -/
def isAbove : Value → Value → Outcome Bool
  | text s, text t => pure (decide (t < s))
  | list xs, list ys => isAboveAll xs ys
  | v, w => do
    pure (decide ((← orFault w.number? (.wrongKind "number")) < (← orFault v.number? (.wrongKind "number"))))

def isAboveAll : List Value → List Value → Outcome Bool
  | [], _ => pure false
  | _ :: _, [] => pure true
  | x :: xs, y :: ys => if x.equal y then isAboveAll xs ys else isAbove x y

end

/-- The first element above a limit. -/
def firstAbove? (limit : Value) : List Value → Outcome (Option Value)
  | [] => pure none
  | v :: vs => do if ← v.isAbove limit then pure (some v) else firstAbove? limit vs

/-! ## Texts

Shown, a text stands for itself; quoted, and inside of sequences and records, it stands
between quotes. -/

mutual

def quoted : Value → String
  | null => "None"
  | bool true => "True"
  | bool false => "False"
  | int n => toString n
  | text s => Text.quoted s
  | list xs => "[" ++ quotedItems xs ++ "]"
  | record fs => "\x7b" ++ quotedFields fs ++ "\x7d"
  | fault f => f.message

/-- Values, separated by commas. -/
def quotedItems : List Value → String
  | [] => ""
  | [x] => quoted x
  | x :: xs => quoted x ++ ", " ++ quotedItems xs

/-- Fields, separated by commas. -/
def quotedFields : List (String × Value) → String
  | [] => ""
  | [(k, v)] => Text.quoted k ++ ": " ++ quoted v
  | (k, v) :: fs => Text.quoted k ++ ": " ++ quoted v ++ ", " ++ quotedFields fs

end

def shown : Value → String
  | text s => s
  | v => v.quoted

/-- A value as a text of a page, where nothing leaves no trace. -/
def written : Value → String
  | null => ""
  | v => v.shown

/-- Whether a value counts as true: all do but nothing, zero and what is empty. -/
def isTrue : Value → Bool
  | null => false
  | bool b => b
  | int n => n ≠ 0
  | text s => !s.isEmpty
  | list xs => !xs.isEmpty
  | record fs => !fs.isEmpty
  | fault _ => false

/-- Whether a value is zero; false counts as zero. -/
def isZero : Value → Bool
  | bool b => !b
  | int n => n = 0
  | _ => false

end Value

end FlowBindings
