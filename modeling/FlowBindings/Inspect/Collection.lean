import FlowBindings.DefaultTable
import FlowBindings.Inspect.Steps
import FlowBindings.Memo
import FlowBindings.OrderedSet
import FlowBindings.Sequence

/-!
# Looking into collections

Collections of any values, driven step by step: a step answers a question or changes the
collection.
-/

namespace FlowBindings.Value

/-! ## Ordered sets -/

def keyed (xs : List Value) : Outcome (List (Key × Value)) := xs.mapM fun x => do pure (← x.key, x)

abbrev ValueSet := OrderedSet Key Value

def asSet : Value → Outcome ValueSet
  | null => pure .empty
  | v => do pure (OrderedSet.ofEntries (← keyed (← v.elements)))

def setText (s : ValueSet) : String :=
  "OrderedSet(" ++ (if s.size = 0 then "" else (list s.toList).quoted) ++ ")"

def compareSets (f : String) (s t : ValueSet) : Outcome Value :=
  match f with
  | "eq" => pure (s.sameOrder t)
  | "union" => pure (list (s.union t).toList)
  | "inter" => pure (list (s.inter t).toList)
  | "diff" => pure (list (s.diff t).toList)
  | "xor" => pure (list (s.symmDiff t).toList)
  | "le" => pure (s.isSubset t)
  | "disjoint" => pure (s.isDisjoint t)
  | _ => throw (.noEntry f)

def setStep (s : ValueSet) (args : List Value) : Outcome (ValueSet × Value) := do
  match args with
  | [text "add", x] => do pure (s.add (← x.key) x, null)
  | [text "discard", x] => do pure (s.discard (← x.key), null)
  | [text "remove", x] =>
    if s.contains (← x.key) then do pure (s.discard (← x.key), null) else throw (.noEntry x.shown)
  | [text "pop"] | [text "pop", _] =>
    let (x, s) ← orFault (s.pop? (args[1]?.elim true isTrue)) (.noEntry "set is empty")
    pure (s, x)
  | [text "clear"] => pure (.empty, null)
  | text f :: _ =>
    if ["add", "discard", "remove", "pop", "clear"].contains f then throw (.wrongKind "argument")
    else if f = "contains" then do pure (s, s.contains (← (← argument args 1).key))
    else if f = "reversed" then pure (s, list s.toListReversed)
    else if f = "repr" then pure (s, setText s)
    else if f = "len" then pure (s, s.size)
    else if f = "eq_list" then do
      let xs ← (← argument args 1).elements
      pure (s, s.sameElements (OrderedSet.ofEntries (← keyed xs)))
    else do pure (s, ← compareSets f s (← (← argument args 1).asSet))
  | _ => throw .noElement

def inspectSet (v : Value) : Outcome (List StepResult) := do
  let start ← ((v.field? "init").getD null).asSet
  pure (takeSteps (whole setStep) (fun s _ => [("state", list s.toList)]) start (← v.stepsOf)).1

/-! ## Tables with a default -/

abbrev ValueTable := DefaultTable Key Value Value

variable (t : ValueTable) (args : List Value)

def tablePairs : Value := each (fun (k, v) => list [k, v]) t.pairs

def defaultOf : Value → Outcome (Option Value)
  | text "list" => pure (some (list []))
  | text "int" => pure (some (int 0))
  | text "none" => pure none
  | text "bad" => throw (.wrongKind "default")
  | _ => throw (.noEntry "default")

def startPair (v : Value) : Outcome (Value × Value) := do
  match ← v.elements with
  | [k, x] => pure (k, x)
  | [] => throw (.badValue "need more than 0 values to unpack")
  | [_] => throw (.badValue "need more than 1 value to unpack")
  | _ => throw (.badValue "too many values to unpack (expected 2)")

def writeKey (k v : Value) : Outcome ValueTable := do pure (t.set (← k.key) k v)

/-- A table that starts with the fields of a record, or with pairs taken in one by one. -/
def startTable (default? : Option Value) : Value → Outcome ValueTable
  | record fields => fields.foldlM (fun t (k, v) => writeKey t (text k) v) ⟨default?, []⟩
  | v => do
    (← v.elements).foldlM (fun t pair => do let (k, x) ← startPair pair; writeKey t k x) ⟨default?, []⟩

def readKey (k : Value) : Outcome (Value × ValueTable) := do
  orFault (t.read? (← k.key) k) (.noEntry k.shown)

def append (x : Value) : Value → Outcome Value
  | list xs => pure (list (xs ++ [x]))
  | _ => throw (.noProperty "append")

def changeKey (k : Value) (f : Value → Outcome Value) : ValueTable × Outcome Value :=
  match readKey t k with
  | .error e => (t, .error e)
  | .ok (old, t) =>
    match (do writeKey t k (← f old) : Outcome ValueTable) with
    | .ok t => (t, .ok null)
    | .error e => (t, .error e)

def tableText : String :=
  t.describe "OrderedDefaultDict" quoted quoted fun
    | none => "None"
    | some (int _) => "<class 'int'>"
    | some _ => "<class 'list'>"

def tableStep : Outcome (ValueTable × Value) := do
  let f ← argument args 0
  match f with
  | text "get" => do let (v, t) ← readKey t (← argument args 1); pure (t, v)
  | text "set" => do pure (← writeKey t (← argument args 1) (← argument args 2), null)
  | text "del" => do
    let k ← argument args 1
    pure (← orFault (t.erase? (← k.key)) (.noEntry k.shown), null)
  | text "in" => do pure (t, t.entries.has (← (← argument args 1).key))
  | text "copy" => do pure (t, tablePairs (← readKey t "copied").2)
  | text "deepcopy" => pure (t, tablePairs t)
  | text "repr" => pure (t, tableText t)
  | text "reduce" =>
    pure (t, list ["OrderedDefaultDict", nat t.default?.toList.length, null, null, tablePairs t])
  | _ => throw (.noEntry f.shown)

def anyTableStep : ValueTable × Outcome Value :=
  match args with
  | [text "append", k, x] => changeKey t k (append x)
  | [text "incr", k, x] => changeKey t k (·.plus x)
  | _ => whole tableStep t args

def inspectTable (v : Value) : Outcome (List StepResult) := do
  let default? ← defaultOf ((v.field? "factory").getD "list")
  let start ← startTable default? ((v.field? "init").getD (list []))
  pure (takeSteps anyTableStep (fun t _ => [("state", tablePairs t)]) start (← v.stepsOf)).1

/-! ## Records -/

def kindName : Value → String
  | null => "NoneType"
  | bool _ => "bool"
  | int _ => "int"
  | text _ => "str"
  | list _ => "list"
  | _ => "DotDict"

/-- What stands behind a name: a value, or a function, of which no more can be said. -/
inductive Found where
  | value (v : Value)
  | function

def recordFunctions : List String :=
  ["clear", "copy", "fromkeys", "get", "items", "keys", "pop", "popitem", "setdefault", "update", "values"]

def textFunctions : List String :=
  ["capitalize", "casefold", "center", "count", "encode", "endswith", "expandtabs", "find", "format",
   "format_map", "index", "isalnum", "isalpha", "isascii", "isdecimal", "isdigit", "isidentifier",
   "islower", "isnumeric", "isprintable", "isspace", "istitle", "isupper", "join", "ljust", "lower",
   "lstrip", "maketrans", "partition", "removeprefix", "removesuffix", "replace", "rfind", "rindex",
   "rjust", "rpartition", "rsplit", "rstrip", "split", "splitlines", "startswith", "strip", "swapcase",
   "title", "translate", "upper", "zfill"]

def listFunctions : List String :=
  ["append", "clear", "copy", "count", "extend", "index", "insert", "pop", "remove", "reverse", "sort"]

def numberFunctions : List String :=
  ["as_integer_ratio", "bit_count", "bit_length", "conjugate", "from_bytes", "to_bytes"]

def numberProperty (n : Int) (name : String) : Outcome Found :=
  match name with
  | "real" | "numerator" => pure (.value (int n))
  | "imag" => pure (.value (int 0))
  | "denominator" => pure (.value (int 1))
  | _ => if numberFunctions.contains name then pure .function else throw (.noProperty name)

/-- What a value has under a name. A record lacks no name: what it does not hold is
nothing. Its own functions come before what it holds. -/
def property (v : Value) (name : String) : Outcome Found :=
  let only (functions : List String) : Outcome Found :=
    if functions.contains name then pure .function else throw (.noProperty name)
  match v with
  | record fields =>
    if recordFunctions.contains name then pure .function
    else pure (.value ((Table.get? fields name).getD null))
  | text _ => only textFunctions
  | list _ => only listFunctions
  | bool b => numberProperty (if b then 1 else 0) name
  | int n => numberProperty n name
  | _ => throw (.noProperty name)

def followNames : Found → List String → Outcome Found
  | found, [] => pure found
  | .value v, name :: rest => do followNames (← v.property name) rest
  | .function, name :: _ => throw (.noProperty name)

def recordStep (t : Table String Value) (args : List Value) :
    Outcome (Table String Value × Value) := do
  match args with
  | text "get" :: path =>
    match ← followNames (.value (record t)) (← path.mapM asText) with
    | .value v => pure (t, list [kindName v, v])
    | .function => throw (.wrongKind "function")
  | [text "set", k, v] => do pure (t.set (← k.asText) v, null)
  | [text "del", k] => do
    let k ← k.asText
    if t.has k then pure (t.erase k, null) else throw (.noEntry k)
  | [text "setin", k, k2, _] => do
    let _ ← k2.asText
    match ← (record t).property (← k.asText) with
    | .value (record _) => pure (t, null)
    | _ => throw (.noProperty "")
  | text f :: _ =>
    if ["set", "del", "setin"].contains f then throw .noElement else throw (.noEntry f)
  | _ => throw .noElement

def startFields : Value → Outcome (Table String Value)
  | record fields => pure fields
  | v => do
    let pairs ← (← asEntries (← v.elements)).mapM fun (k, x) => do pure (← k.asText, x)
    pure (Table.ofPairs pairs)

def inspectRecord (v : Value) : Outcome (List StepResult) := do
  let start ← startFields ((v.field? "init").getD (record []))
  pure (takeSteps (whole recordStep) (fun t _ => [("state", record t)]) start (← v.stepsOf)).1

/-! ## Sequences and remembered results -/

def inRuns (v n : Value) : Outcome Value := do
  match v with
  | text s => do
    pure (each (fun cs => text (String.ofList cs)) (← Sequence.runsOf (← n.asInt) s.toList))
  | record [] => do pure (each list (← Sequence.runsOf (← n.asInt) []))
  | v => do
    let xs ← v.asList
    pure (each list (← Sequence.runsOf (← n.asInt) xs))

def argumentsText (a : Arguments Value) : Value :=
  text (Text.join "/" (a.listed.map shown ++ a.named.map fun (k, v) => k ++ "=" ++ v.shown))

def argumentsOf (listed named : Value) : Outcome (Arguments Value) := do
  let listed ← listed.elements
  match named with
  | record named => pure ⟨listed, named⟩
  | _ => throw (.wrongKind "arguments")

/-- Calls of a function whose results are remembered: each result, with the number of
times that the function was called. -/
def rememberedCalls (calls : List Value) : List Value :=
  (calls.foldl (fun (m, done) call =>
    match call with
    | list [listed, named] =>
      match (do Memo.call key argumentsText m (← argumentsOf listed named) : Outcome (Value × Memo Value)) with
      | .ok (r, m) => (m, done ++ [list [record [("ok", r)], m.computed]])
      | .error e => (m, done ++ [list [fault e, m.computed]])
    | _ => (m, done)) (({} : Memo Value), ([] : List Value))).2

def sequenceStep : Outcome Value := do
  match args with
  | [text "chunks", v, n] => inRuns v n
  | text "chunks" :: _ => throw (.wrongKind "argument")
  | text "find_gt" :: _ => do
    let limit ← argument args 1
    pure (opt id (← firstAbove? limit (← (← argument args 2).elements)))
  | text "count_gt" :: _ => do
    let _ ← argument args 1
    let _ ← argument args 2
    throw (.noName "iterable")
  | f :: _ => throw (.noEntry f.shown)
  | [] => throw .noElement

def inspectSequences (v : Value) : Outcome Value := do
  pure (each (fun step =>
    match step with
    | list [text "memoize", list calls] => list (rememberedCalls calls)
    | step => answer id (step.asList >>= sequenceStep)) (← v.stepsOf))

end FlowBindings.Value
