import FlowBindings.Inspect.Steps
import FlowBindings.Value.Key

/-!
# Looking into the layouts of classes

Classes collected step by step from the layouts that they have in versions. Members and
versions may be values of any kind: a member is kept whole, though only its type, name and
offset matter.
-/

namespace FlowBindings.Inspect

open Value

def memberLine (m : Value) : Outcome String := do
  let type ← m.entry "m_type"
  let name ← m.entry "name"
  let offset ← m.entry "offset"
  pure (Text.join "," [← type.asText, ← name.asText, offset.shown])

def layoutLine (members : Value) : Outcome String := do
  pure (Text.join ";" (← (← members.elements).mapM memberLine))

def memberPlace (name : Value) (members : Value) : Outcome Int := do
  go 0 (← members.elements)
where
  go (i : Int) : List Value → Outcome Int
    | [] => pure (-1)
    | m :: ms => do if (← m.entry "name").equal name then pure i else go (i + 1) ms

structure AnyClass where
  /-- The layouts by version: the members, or the version whose layout is shared. -/
  layouts : Mapping := []
  /-- The members of all versions, each with its type and its rank. -/
  union : Table String Value := []
  /-- The names of the members, in the order in which they came. -/
  order : List String := []

namespace AnyClass

def needNumber (wire : Value) : Outcome Unit := do
  let _ ← wire.asInt

def isWire : Value → Bool
  | int _ => true
  | _ => false

def shared? (line : String) : List (Value × Value) → Outcome (Option Value)
  | [] => pure none
  | (wire, layout) :: rest => do
    if isWire wire && (layout.field? "use_version").isNone then
      if (← layoutLine (← layout.entry "members")) = line then return some wire
    shared? line rest

def addMember (wire : Value) (rank : Nat) (m : Value) : Change AnyClass Nat := do
  let (name, type) ← .of do pure (← (← m.entry "name").asText, ← m.entry "m_type")
  if Text.startsWith name "pad" then return rank
  let c ← get
  match c.union.get? name with
  | some known =>
    unless ((known.field? "m_type").getD null).equal type do
      .of (needNumber wire)
      throw (.exit 1 [] "")
  | none =>
    set { c with union := c.union.set name (record [("m_type", type), ("memid", rank)]) }
  modify fun c => if c.order.contains name then c else { c with order := c.order ++ [name] }
  pure (if c.union.has name then rank else rank + 1)

def addLayout (wire members : Value) : Change AnyClass Unit := do
  let c ← get
  set { c with layouts := ← .of (c.layouts.write wire (record [("members", members)])) }
  let _ ← (← .of members.elements).foldlM (addMember wire) 0

def extend (line : String) (wire members : Value) : Change AnyClass Unit := do
  let c ← get
  let key ← .of wire.key
  if c.layouts.has key || key = .text "union" then
    .of (needNumber wire)
    throw (.exit 1 [] "")
  set { c with layouts := ← .of (c.layouts.write wire (record [])) }
  match ← .of (shared? line (c.layouts.map (·.2))) with
  | some other =>
    .of (needNumber wire)
    set { c with layouts := ← .of (c.layouts.write wire (record [("use_version", other)])) }
  | none => addLayout wire members

def shown (c : AnyClass) : Value :=
  record (("union", record c.union) :: c.layouts.map fun (_, wire, layout) => (wire.shown, layout))

end AnyClass

abbrev AnyClasses := Table Key AnyClass

namespace AnyClasses

def add (wire name members : Value) : Change AnyClasses Value := do
  let line ← .of (layoutLine members)
  let key ← .of name.key
  let t ← get
  let known := t.get? key
  if known.isNone then .of (AnyClass.needNumber wire)
  let change := if known.isSome then AnyClass.extend line wire members else AnyClass.addLayout wire members
  let (answer, c) := change.run.run (known.getD {})
  set (t.set key c)
  let _ ← .of answer
  pure null

def step : List Value → Change AnyClasses Value
  | [wire, name, members] => add wire name members
  | _ => throw (.wrongKind "argument")

def seen (t : AnyClasses) (args : List Value) : List (String × Value) :=
  let c := (args[1]?.bind fun name => name.key.toOption).bind t.get?
  [("unified", opt AnyClass.shown c), ("ordered_members", opt (texts ·.order) c)]

def inspect (v : Value) : Outcome (List StepResult) := do
  pure (takeSteps (gradual step) seen ([] : AnyClasses) (← v.stepsOf)).1

end AnyClasses

end FlowBindings.Inspect
