import FlowBindings.Text.Case

/-!
# Names of the object model

Declarations write names in small letters with underscores. Properties get the same
name with a capital at each word but the first; classes with a capital at every
word, and the protocol's own initials in capitals.
-/

namespace FlowBindings.ObjectModel

open Text

variable (s : String)

def camelName : String :=
  match splitOn '_' (trimLead s "_") with
  | [] => ""
  | first :: rest => first ++ concat (rest.map title)

def capsName : String :=
  let name := camelName (title s)
  if startsWith name "Ofp" then "OF" ++ dropFirst 3 name
  else if startsWith name "Of" then "OF" ++ dropFirst 2 name
  else name

/-- The name of the class for a declared class. The head of all messages is named
for what it stands for. -/
def className : String := if s = "of_header" then "OFMessage" else capsName s

/-- A name without its type parameters: everything before the last opening bracket
that has a closing one behind it on its line. -/
def eraseParameters : String :=
  let line := s.toList.takeWhile (· ≠ '\n')
  let behindClose := line.reverse.dropWhile (· ≠ '>')
  match behindClose.dropWhile (· ≠ '<') with
  | [] => s
  | _ :: before => String.ofList before.reverse

def upperFirst : String :=
  match s.toList with
  | [] => ""
  | c :: rest => String.ofList (upperForm c ++ rest)

def lowerFirst : String :=
  match s.toList with
  | [] => ""
  | c :: rest => String.ofList (lowerForm c ++ rest)

end FlowBindings.ObjectModel
