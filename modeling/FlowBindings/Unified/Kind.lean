import FlowBindings.Fault

/-!
# Kinds of classes

Questions about a class by its name alone, answered by the unified protocol. A
name no class has is of no kind.
-/

namespace FlowBindings.Unified

/-- Whether the name is that of a message; the common header is none. -/
def isMessage (u : Unified) (name : String) : Bool :=
  name ≠ "of_header" && u.isInstanceOf name "of_header"

/-- Whether the name is that of a statistics request. Nothing else can be asked
of a class about statistics. -/
def isStatsMessage (u : Unified) (name : String) : Outcome Bool :=
  if u.isInstanceOf name "of_stats_request" then .ok true
  else .error (.noProperty "ir_instanceof")

/-- Whether a type is that of an object: a class followed by `_t`. -/
def isObjectType (u : Unified) (type : String) : Bool :=
  (u.class? (WireType.className type)).isSome

end FlowBindings.Unified

namespace FlowBindings.WireType

def isListClass (name : String) : Bool :=
  Text.startsWith name "of_list_"

/-- The element class of a type that must be a list. -/
def needListElement (type : String) : Outcome String :=
  if isList type then .ok (listElement type) else .error (.assertion "")

end FlowBindings.WireType
