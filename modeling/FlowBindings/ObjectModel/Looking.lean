import FlowBindings.ObjectModel.Factory

/-!
# Looking at the object model

A property whose type is not known is reported when the properties of its interface or
class are looked at. The fields of an interface are remembered once its versions turn out
to agree on them, and those of a class once they are seen; what is remembered is not
reported again. The object model itself is opened when it is first needed: entries of
matches and statistics are looked at then, for their types tell which interfaces they
extend.

A look that fails keeps what has been reported before.
-/

namespace FlowBindings.ObjectModel

/-- What has been seen of an object model, and what was said. -/
structure Notes where
  isOpen : Bool := false
  /-- The classes whose interfaces are remembered. -/
  interfaces : List String := []
  /-- The classes that are remembered. -/
  classes : List (String × Version) := []
  lines : List String := []

/-- Something that is found out by looking. -/
abbrev Looking (α : Type) := ExceptT Fault (StateM Notes) α

namespace Looking

def of {α : Type} (r : Outcome α) : Looking α := ExceptT.mk (pure r)

def say (lines : List String) : Looking Unit := modify fun n => { n with lines := n.lines ++ lines }

def attempt {α : Type} (x : Looking α) : Looking (Outcome α) := ExceptT.mk (do pure (.ok (← x.run)))

end Looking

def lookAtFields (u : Unified) (c : Unified.Class) : Looking Unit := do
  if (← get).interfaces.contains c.name then return
  let (lines, agrees) := Interface.reports u c
  .say lines
  if agrees then modify fun n => { n with interfaces := c.name :: n.interfaces }

def Interface.look (i : Interface) (l : Library) : Looking (List Property) := do
  lookAtFields l.model.unified i.source
  .of i.properties

def Implementation.lookAnew (c : Implementation) (l : Library) : Looking (List Part) := do
  .say (c.reports l.model.unified)
  .of (c.parts l)

def Implementation.look (c : Implementation) (l : Library) : Looking (List Part) := do
  let key := (c.source.name, c.version)
  if (← get).classes.contains key then .of (c.parts l)
  else
    modify fun n => { n with classes := key :: n.classes }
    c.lookAnew l

def lookAtNew (u : Unified) (c : Unified.Class) : Looking Unit := do
  let name := className c.name
  let _ ← .of (Interface.variableNameOf name)
  if Interface.isTypedByValue u name c then
    lookAtFields u c
    let _ ← .of (Interface.build u c)

namespace Library

def opened (m : Model) (library : Outcome Library) : Looking Library := do
  unless (← get).isOpen do
    match ← (m.unified.classes.forM (lookAtNew m.unified)).attempt with
    | .ok _ => modify fun n => { n with isOpen := true }
    | .error e =>
      modify fun n => { n with interfaces := [] }
      throw e
  .of library

/-- Look for a method that sets a property, as far as `fuel` steps tell: it may be set here
or in an interface above. -/
def lookForSetterWithin (l : Library) (i : Interface) (p : Property) : (fuel : Nat) → Looking Bool
  | 0 => pure false
  | n + 1 => do
    if i.isWriteable p then return true
    match l.above? i with
    | none => pure false
    | some up =>
      match (← up.look l).find? (·.name = p.name) with
      | some q => l.lookForSetterWithin up q n
      | none => pure false

def lookForSetter (l : Library) (i : Interface) (p : Property) : Looking Bool :=
  l.lookForSetterWithin i p (l.interfaces.length + 1)

end Library

end FlowBindings.ObjectModel
