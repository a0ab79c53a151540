import FlowBindings.Value

/-!
# Calls

A function is called with arguments by position and arguments by name. Each of its
parameters takes one of them, or its default; arguments that are left over are an
error, unless the function takes further arguments by name.
-/

namespace FlowBindings.Value

/-- A parameter, with its default if it has one. -/
abbrev Parameter := String × Option Value

structure Parameters where
  listed : List Parameter
  /-- Whether further arguments by name are taken. -/
  takesNamed : Bool := false
  /-- Whether further arguments by position are taken. -/
  takesMore : Bool := false
  deriving Repr

/-- The values of parameters, and the arguments that are left over. -/
def fill : List Parameter → List Value → Table String Value →
    Outcome (List Value × List Value × Table String Value)
  | [], args, named => pure ([], args, named)
  | (name, _) :: ps, arg :: args, named =>
    if named.has name then throw (.wrongKind name)
    else do
      let (values, more, rest) ← fill ps args named
      pure (arg :: values, more, rest)
  | (name, default?) :: ps, [], named => do
    let value ← orFault ((named.get? name).or default?) (.wrongKind name)
    let (values, more, rest) ← fill ps [] (named.erase name)
    pure (value :: values, more, rest)

/-- The values of the parameters of a function, the further arguments by position
and those by name. -/
def Parameters.bind (p : Parameters) (args : List Value) (named : Table String Value) :
    Outcome (List Value × List Value × Table String Value) := do
  let (values, more, rest) ← fill p.listed args named
  if !more.isEmpty && !p.takesMore then throw (.wrongKind "argument")
  if !rest.isEmpty && !p.takesNamed then throw (.wrongKind "argument")
  pure (values, more, rest)

end FlowBindings.Value
