import FlowBindings.Packing.Expression

/-!
# Packing

The body of the method that packs an object: a sequence of steps that append the bytes
of the members one after another. A length is not known when its turn comes, so zero is
packed in its place. The length of a field is put there as soon as the field has been
packed, that of the whole object at the end.
-/

namespace FlowBindings.Packing

open Text

/-- A step of packing. The bytes of members are kept apart until the end, so that those
at an index can be replaced. -/
inductive PackStep where
  /-- Append the bytes of zero for a length, which is the member at an index. -/
  | placeholder (expression name : String) (index : Nat)
  | zeros (count : Nat)
  | append (expression : String)
  | replace (index : Nat) (expression : String)
  /-- Add up the lengths of all bytes so far. -/
  | measure
  /-- Append the bytes that align the object; they count for its length. -/
  | alignCounted
  /-- Append the bytes that align the object; they do not count for its length. -/
  | alignUncounted
  deriving DecidableEq, Repr

namespace PackStep

def render : PackStep → String
  | placeholder e name index =>
    "        packed.append(" ++ e ++ ") # placeholder for " ++ name ++ " at index "
      ++ toString index ++ "\n"
  | zeros count => "        packed.append('\\x00' * " ++ toString count ++ ")\n"
  | append e => "        packed.append(" ++ e ++ ")\n"
  | replace index e => "        packed[" ++ toString index ++ "] = " ++ e ++ "\n"
  | measure => "        length = sum([len(x) for x in packed])\n"
  | alignCounted => block r"
		packed.append(loxi.generic_util.pad_to(8, length))
		length += len(packed[-1])
"
  | alignUncounted => "        packed.append(loxi.generic_util.pad_to(8, length))\n"

end PackStep

/-- A length that is still to be put in its place: its type and its index. -/
structure Pending where
  type : String
  index : Nat
  deriving DecidableEq, Repr

/-- What packing remembers: the index of the next member, the lengths of fields and
the length of the object. Of several lengths for the same, the last counts. -/
structure PackState where
  index : Nat := 0
  fields : Table String Pending := []
  object : Option Pending := none
  deriving DecidableEq, Repr

def packMember (m : Model) (v : Version) (s : PackState) :
    Member → Outcome (List PackStep × PackState)
  | .pad length _ => pure ([.zeros length], { s with index := s.index + 1 })
  | .field f => do
    let next := { s with index := s.index + 1 }
    match f.role with
    | .length =>
      pure ([.placeholder (← packExpression m v f.type "0") f.name s.index],
        { next with object := some ⟨f.type, s.index⟩ })
    | .fieldLength target =>
      pure ([.placeholder (← packExpression m v f.type "0") f.name s.index],
        { next with fields := s.fields.set target ⟨f.type, s.index⟩ })
    | _ =>
      let step := PackStep.append (← packExpression m v f.type ("self." ++ f.name))
      match s.fields.get? f.name with
      | none => pure ([step], next)
      | some p =>
        pure ([step, .replace p.index (← packExpression m v p.type "len(packed[-1])")], next)

def packMembers (m : Model) (v : Version) (s : PackState) :
    List Member → Outcome (List PackStep × PackState)
  | [] => pure ([], s)
  | x :: rest => do
    let (steps, next) ← packMember m v s x
    let (others, last) ← packMembers m v next rest
    pure (steps ++ others, last)

/-- The steps that complete an object: its length is put in its place, and it is
aligned. -/
def packEnd (m : Model) (v : Version) (c : Class) (s : PackState) : Outcome (List PackStep) := do
  let length ← match s.object with
    | none => pure []
    | some p =>
      pure ([PackStep.measure] ++ (if c.hasInternalAlignment then [.alignCounted] else [])
        ++ [.replace p.index (← packExpression m v p.type "length")])
  pure (length ++ if c.hasExternalAlignment then [.alignUncounted] else [])

/-- The steps that pack an object of a class. -/
def packSteps (m : Model) (v : Version) (c : Class) : Outcome (List PackStep) := do
  let (steps, s) ← packMembers m v {} c.members
  pure (steps ++ (← packEnd m v c s))

end FlowBindings.Packing
