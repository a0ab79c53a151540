import FlowBindings.Dissector.Field

/-!
# Dissecting a class

The function that dissects the objects of a class. For a class that only stands for
others it looks up the function of the subclass.
-/

namespace FlowBindings.Dissector

open Text

def functionName (v : Version) (className : String) : String :=
  "dissect_" ++ className ++ "_v" ++ toString v.wire

def tableName (v : Version) (className : String) : String :=
  className ++ "_v" ++ toString v.wire ++ "_dissectors"

def elementClass (type : String) : String :=
  Text.replace (Text.replace (Text.replace type "_t)" "") "(" "") "list" ""

variable (p : Protocol) (c : Class)

def readList (f : FlowBindings.Field) (isMeasured : Bool) : String :=
  let element := elementClass f.type
  let reader := if isMeasured then "reader.slice(_" ++ f.name ++ "_length)" else "reader"
  "    read_list(" ++ reader ++ ", " ++ functionName p.version element ++ ", subtree, '" ++ element ++ "')\n"
    ++ when c.hasExternalAlignment "    orig_reader.skip_align()\n"

def readField (measured : List String) (f : FlowBindings.Field) : String :=
  if startsWith f.type "list" then readList p c f (measured.contains f.name)
  else
    "    " ++ reader p c f ++ "(reader, " ++ toString p.version.wire ++ ", subtree, '"
      ++ fullName p.version c.name f.name ++ "')\n"

def readMembers (p : Protocol) (c : Class) (measured : List String) : List Member → String
  | [] => ""
  | .pad length _ :: rest =>
    "    reader.skip(" ++ toString length ++ ")\n" ++ readMembers p c measured rest
  | .field f :: rest =>
    match f.role with
    | .fieldLength target =>
      let measured' := measured ++ [target]
      "    local _" ++ target ++ "_length = reader.peek(0, " ++ toString f.baseLength ++ "):uint()\n"
        ++ readField p c measured' f ++ readMembers p c measured' rest
    | _ => readField p c measured f ++ readMembers p c measured rest

def shownOffset (offset : Option Nat) : String := offset.elim "None" toString

def cutOut : String :=
  match c.isFixedLength, c.lengthField? with
  | false, some f => form [("offset", shownOffset f.offset), ("length", toString f.baseLength)] r"
	local _length = reader.peek(«offset», «length»):uint()
	local orig_reader = reader
	reader = orig_reader.slice(_length)
"
  | _, _ => ""

def body : Outcome String := do
  if c.isVirtual then
    let f ← orFault c.discriminator? (.noProperty "offset")
    let length ← (Member.field f).exactLength c.name
    pure ("    return " ++ tableName p.version c.name ++ "[reader.peek(" ++ shownOffset f.offset ++ ","
      ++ toString length ++ "):uint()](reader, subtree)\n")
  else pure (cutOut c ++ readMembers p c [] c.members ++ "    return '" ++ c.name ++ "'\n")

def comment : Outcome String := do
  let kind := (if c.isVirtual then ["virtual"] else [])
    ++ [if c.superclass?.isSome then "child" else "top-level"]
  let choice ←
    if c.isVirtual then do
      let f ← orFault c.discriminator? (.noProperty "name")
      pure ("-- Discriminator is " ++ f.name ++ "\n")
    else pure ""
  pure ("-- " ++ join " " kind ++ " class " ++ c.name ++ "\n"
    ++ c.superclass?.elim "" (fun above => "-- Child of " ++ above ++ "\n") ++ choice)

def registration : Outcome String := do
  match c.superclass? with
  | none => pure ""
  | some name =>
    let f ← orFault ((p.class? name).bind Class.discriminator?) (.noProperty "name")
    let own ← orFault (c.field? f.name) (.noProperty "value")
    let value ← orFault own.fixedValue? (.noProperty "value")
    pure (tableName p.version name ++ "[" ++ toString value ++ "] = " ++ functionName p.version c.name
      ++ "\n\n")

def classText : Outcome String := do
  let start ← comment c
  let statements ← body p c
  pure (start ++ "function " ++ functionName p.version c.name ++ "(reader, subtree)\n" ++ statements
    ++ "end\n" ++ (← registration p c))

end FlowBindings.Dissector
