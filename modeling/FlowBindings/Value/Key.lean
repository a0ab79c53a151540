import FlowBindings.Value

/-!
# Keys

Values that may serve as keys of a collection. Two values are the same key if they are
equal, and a truth value is equal to the number that stands for it. Values that can
change are no keys.
-/

namespace FlowBindings

/-- What a value is as a key. -/
inductive Key where
  | null
  /-- A number, or a truth value. -/
  | number (n : Int)
  | text (s : String)
  | row (keys : List Key)
  deriving Repr

namespace Key

mutual

def same : Key → Key → Bool
  | null, null => true
  | number m, number n => m = n
  | text s, text t => s = t
  | row xs, row ys => sameAll xs ys
  | _, _ => false

/-- Whether keys in a row are equal, one by one. -/
def sameAll : List Key → List Key → Bool
  | [], [] => true
  | x :: xs, y :: ys => same x y && sameAll xs ys
  | _, _ => false

end

mutual

theorem same_iff : ∀ x y : Key, same x y = true ↔ x = y
  | null, y => by cases y <;> simp [same]
  | number _, y => by cases y <;> simp [same]
  | text _, y => by cases y <;> simp [same]
  | row xs, y => by
    cases y with
    | row ys => simp [same, sameAll_iff xs ys]
    | _ => simp [same]

theorem sameAll_iff : ∀ xs ys : List Key, sameAll xs ys = true ↔ xs = ys
  | [], ys => by cases ys <;> simp [sameAll]
  | x :: xs, ys => by
    cases ys with
    | nil => simp [sameAll]
    | cons y ys => simp [sameAll, same_iff x y, sameAll_iff xs ys]

end

/-- Whether a key is not above another one: nothing is below numbers, numbers are below
texts, and texts below rows. -/
def upTo : Key → Key → Bool
  | null, _ => true
  | _, null => false
  | number m, number n => m ≤ n
  | number _, _ => true
  | _, number _ => false
  | text s, text t => !(decide (t < s))
  | text _, _ => true
  | _, text _ => false
  | row xs, row ys => xs.length ≤ ys.length

instance : DecidableEq Key := fun x y => decidable_of_iff (same x y = true) (same_iff x y)

end Key

def Value.key : Value → Outcome Key
  | .null => pure .null
  | .bool b => pure (.number (if b then 1 else 0))
  | .int n => pure (.number n)
  | .text s => pure (.text s)
  | _ => throw (.wrongKind "key")

/-! ## Mappings -/

/-- Values by keys of any kind, each with its first spelling. -/
abbrev Mapping := Table Key (Value × Value)

namespace Mapping

def write (m : Mapping) (k v : Value) : Outcome Mapping := do
  let key ← k.key
  pure (m.set key (((m.get? key).map (·.1)).getD k, v))

/-- The mapping that pairs of a key and a value make, the last value of a key winning. -/
def ofPairs (pairs : List (Value × Value)) : Outcome Mapping :=
  pairs.foldlM (fun m (k, v) => m.write k v) []

/-- A mapping as a value: a record if all keys are texts, else the pairs of a key and its
value in the order of the keys. -/
def toValue (m : Mapping) : Value :=
  let texts := m.filterMap fun (k, _, v) =>
    match k with
    | .text s => some (s, v)
    | _ => none
  if texts.length = m.length then .record texts
  else .list ((m.mergeSort fun a b => a.1.upTo b.1).map fun (_, k, v) => .list [k, v])

end Mapping

end FlowBindings
