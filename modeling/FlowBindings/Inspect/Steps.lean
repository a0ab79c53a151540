import FlowBindings.Value.Read

/-!
# Steps

Something that changes, driven step by step. A step is a list with the name of an
operation in front; it answers a question or changes the state, and after each step the
state can be looked at.
-/

namespace FlowBindings.Value

/-- The answer of a step, and what is to be seen after it. -/
abbrev StepResult := Outcome Value × List (String × Value)

def takeSteps {σ : Type} (step : σ → List Value → σ × Outcome Value)
    (shown : σ → List Value → List (String × Value)) : σ → List Value → List StepResult × σ
  | s, [] => ([], s)
  | s, v :: vs =>
    let args := v.asList.toOption.getD []
    let (s, answer) := step s args
    let (results, final) := takeSteps step shown s vs
    ((answer, shown s args) :: results, final)

def whole {σ : Type} (step : σ → List Value → Outcome (σ × Value)) (s : σ) (args : List Value) :
    σ × Outcome Value :=
  match step s args with
  | .ok (s, v) => (s, .ok v)
  | .error e => (s, .error e)

def stepsOf (v : Value) : Outcome (List Value) := do (← v.needField "steps").elements

def argument (args : List Value) (i : Nat) : Outcome Value := orFault args[i]? .noElement

/-- What a step does to a state, keeping what it has changed when it fails. -/
abbrev Change (σ α : Type) := ExceptT Fault (StateM σ) α

def Change.of {σ α : Type} (r : Outcome α) : Change σ α := ExceptT.mk (pure r)

def gradual {σ : Type} (step : List Value → Change σ Value) (s : σ) (args : List Value) :
    σ × Outcome Value :=
  let (answer, s) := (step args).run.run s
  (s, answer)

end FlowBindings.Value
