import FlowBindings.Inspect.Steps
import FlowBindings.Value.Key

/-!
# Looking into the table of identifiers

Identifiers collected step by step, with names, constants, groups and versions of any
kind. An identifier keeps the value that it has in each version, and the first of them as
the common one.
-/

namespace FlowBindings.Inspect

open Value

structure AnyIdentifier where
  values : Mapping
  /-- The value that came first. -/
  common : Value
  constant : Value
  group : Value

/-- Identifiers by name, and the names of each group. -/
structure AnyIdentifiers where
  /-- The identifiers, each with the first spelling of its name. -/
  byName : Table Key (Value × AnyIdentifier) := []
  groups : Mapping := []

namespace AnyIdentifiers

def namesPort : Value → Outcome Bool
  | text s => pure (Text.startsWith s "OFPP_")
  | _ => throw (.noProperty "find")

def revise (i : AnyIdentifier) (constant group value version : Value) : Change AnyIdentifier Unit := do
  set { i with values := ← .of (i.values.write version value) }
  unless i.constant.equal constant && i.group.equal group do
    unless ← .of (namesPort constant) do
      modify fun i => { i with constant := constant, group := group }

def enter (ids : AnyIdentifiers) (name group : Value) : Outcome AnyIdentifiers := do
  let names := ((ids.groups.get? (← group.key)).map (·.2)).getD (list [])
  let names := match names with
    | list xs => if xs.any name.equal then xs else xs ++ [name]
    | _ => [name]
  pure { ids with groups := ← ids.groups.write group (list names) }

def add (name constant group value version : Value) : Change AnyIdentifiers Value := do
  if value.number?.isNone then throw (.assertion "")
  let key ← .of name.key
  let ids ← get
  match ids.byName.get? key with
  | some (spelling, i) =>
    let (answer, i) := (revise i constant group value version).run.run i
    set { ids with byName := ids.byName.set key (spelling, i) }
    let _ ← .of answer
  | none =>
    let i : AnyIdentifier := ⟨← .of (Mapping.ofPairs [(version, value)]), value, constant, group⟩
    let ids := { ids with byName := ids.byName.set key (name, i) }
    set ids
    set (← .of (ids.enter name group))
  pure null

/-- Whether an identifier has its common value in all those of the versions that define it. -/
def agree (ids : AnyIdentifiers) (versions name : Value) : Outcome Bool := do
  let (_, i) ← orFault (ids.byName.get? (← name.key)) (.noEntry name.shown)
  go i (← versions.elements)
where
  /-- The versions in turn, up to the first that does not agree. -/
  go (i : AnyIdentifier) : List Value → Outcome Bool
    | [] => pure true
    | v :: vs => do
      match i.values.get? (← v.key) with
      | some (_, x) => if x.shown = i.common.shown then go i vs else pure false
      | none => go i vs

def step : List Value → Change AnyIdentifiers Value
  | [text "add", name, constant, group, value, version] => add name constant group value version
  | [text "agree", versions, name] => do pure (← .of ((← get).agree versions name))
  | text f :: _ => throw (if ["add", "agree"].contains f then .wrongKind "argument" else .noEntry f)
  | _ => throw .noElement

def shown (i : AnyIdentifier) : Value :=
  record [("common_value", i.common), ("ofp_group", i.group), ("ofp_name", i.constant),
    ("values_by_version", i.values.toValue)]

def inspect (v : Value) : Outcome (List StepResult × List (String × Value)) := do
  let (results, ids) := takeSteps (gradual step) (fun _ _ => []) ({} : AnyIdentifiers) (← v.stepsOf)
  let identifiers : Mapping := ids.byName.map fun (k, name, i) => (k, name, shown i)
  pure (results, [("identifiers", identifiers.toValue), ("groups", ids.groups.toValue)])

end AnyIdentifiers

end FlowBindings.Inspect
