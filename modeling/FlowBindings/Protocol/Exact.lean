import FlowBindings.Fault

/-!
# Exact lengths

Lengths that must be the same in every object. Asking for the exact length of a
member or class of variable length is a fault that names what was asked about.
-/

namespace FlowBindings

/-- The number of bytes a member of the named class always takes. -/
def Member.exactLength (className : String) (m : Member) : Outcome Nat :=
  if m.isFixedLength then .ok m.baseLength
  else .error (.refused ("Not a fixed length member: " ++ className ++ ".(unnnamed) ["
    ++ m.label ++ "]"))

/-- The number of bytes an object of the class always takes. -/
def Class.exactLength (c : Class) : Outcome Nat :=
  if c.isFixedLength then .ok c.baseLength
  else .error (.refused ("Not a fixed length class: " ++ c.name))

end FlowBindings
