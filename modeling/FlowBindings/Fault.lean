import FlowBindings.Protocol.Layout
import FlowBindings.Template.Error
import FlowBindings.Text.Regex.Notation
import FlowBindings.Unified

/-!
# Faults

Everything that can keep the library from answering. The stages of reading
declarations have causes of their own, which are carried here unchanged; the
generators fail for a few plain reasons, mostly because a table lacks an entry
that a protocol's classes presuppose.
-/

namespace FlowBindings

/-- Why a question has no answer. -/
inductive Fault where
  /-- A text is no sequence of declarations. -/
  | declaration (e : Declaration.Error)
  /-- Declarations make no source. -/
  | source (e : Source.Error)
  /-- Sources make no protocol. -/
  | protocol (e : Protocol.Error)
  /-- Versions cannot be unified. -/
  | unified (e : Unified.Error)
  /-- A text is no template. -/
  | template (e : Template.Error)
  /-- A table has no entry for a key. -/
  | noEntry (key : String)
  /-- A sequence has no element at a place. -/
  | noElement
  /-- A thing has no property of a name. -/
  | noProperty (name : String)
  /-- An operation does not apply to a thing of this kind. -/
  | wrongKind (what : String)
  /-- A name stands for nothing. -/
  | noName (name : String)
  /-- A value is used on a way on which it was never given. -/
  | unassigned (name : String)
  /-- A pattern is no regular expression. -/
  | pattern (e : Text.Regex.Fault)
  /-- A file does not exist. -/
  | noFile (path : String)
  | isDirectory (path : String)
  | notDirectory (path : String)
  | noGenerator (language : String)
  /-- A value is outside what an operation accepts. -/
  | badValue (text : String)
  /-- Something a generator relies on does not hold. -/
  | assertion (text : String)
  /-- A case no generator covers. -/
  | notCovered (text : String)
  /-- A generator gives up, for the reason given. -/
  | refused (text : String)
  /-- The program ends with a status, having printed some lines and written the
  text as a complaint. -/
  | exit (status : Nat) (printed : List String) (complaint : String)
  deriving DecidableEq, Repr

namespace Fault

def message : Fault → String
  | declaration e => e.message
  | source e => e.message
  | protocol e => e.message
  | unified e => e.message
  | template e => e.message
  | noEntry key => key
  | noElement => ""
  | noProperty name => name
  | wrongKind what => what
  | noName name => name
  | unassigned name => name
  | pattern e => e.message
  | noFile path => path
  | isDirectory path => path
  | notDirectory path => path
  | noGenerator language => language
  | badValue text => text
  | assertion text => text
  | notCovered text => text
  | refused text => text
  | exit status _ _ => toString status

def printed : Fault → List String
  | exit _ lines _ => lines
  | _ => []

end Fault

/-- An answer, or the reason why there is none. -/
abbrev Outcome (α : Type) := Except Fault α

/-- The value of a key, or the fault that there is none. -/
def Table.need {κ ν : Type} [DecidableEq κ] [ToString κ] (t : Table κ ν) (k : κ) : Outcome ν :=
  match t.get? k with
  | some v => .ok v
  | none => .error (.noEntry (toString k))

/-- The value, or the given fault. -/
def orFault {α : Type} (o : Option α) (f : Fault) : Outcome α :=
  match o with
  | some a => .ok a
  | none => .error f

end FlowBindings
