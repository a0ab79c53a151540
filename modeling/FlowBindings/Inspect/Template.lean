import FlowBindings.Template.Prepare
import FlowBindings.Template.Script
import FlowBindings.Value.Read

/-!
# Looking into templates

A template in a document, with the rules and options that apply to it, and what becomes
of it.
-/

namespace FlowBindings.Template

def attributesOf (items : List Value) : Outcome (Table String (Option String)) := do
  let entries ← (← Value.asEntries items).mapM fun (k, v) => do
    pure (← k.asText, v.asText.toOption)
  pure (Table.ofPairs entries)

/-- The rule of a list with its name in front. A name that is not known stands for no
rule. -/
def Rule.ofValue? : Value → Outcome (Option Rule)
  | .list (.text "prefix" :: rest) =>
    match rest with
    | [] => pure (some (.marked standardMark))
    | [mark] => do pure (some (.marked (← mark.asText)))
    | _ => throw (.wrongKind "argument")
  | .list (.text "trim" :: rest) =>
    match rest with
    | [] => pure (some (.trim false))
    | [all] => pure (some (.trim all.isTrue))
    | _ => throw (.wrongKind "argument")
  | .list (.text "js" :: items) => do pure (some (.inline (← attributesOf items)))
  | .list (_ :: _) => pure none
  | .list [] => throw .noElement
  | .text s => if s.isEmpty then throw .noElement else pure none
  | .record _ => throw (.noEntry "rule")
  | _ => throw (.wrongKind "rule")

def optionNames : List String :=
  ["filename", "encoding", "input", "escapefunc", "tostrfunc", "indent", "preamble", "postamble",
   "smarttrim", "trace"]

def Options.ofValue (d : Dialect) (given : String → Option Value) : Options :=
  let standard := Options.standard d
  let function (name : String) (otherwise : ValueFunction) : ValueFunction :=
    (given name).elim otherwise fun v => ⟨v.shown, v.isTrue⟩
  let line (name whenTrue : String) : Option String :=
    match given name with
    | some (.text s) => some s
    | some (.bool true) => some whenTrue
    | some v => if v.isTrue then none else some ""
    | none => some ""
  { escape := function "escapefunc" standard.escape
    toText := function "tostrfunc" standard.toText
    indent := (given "indent").elim standard.indent fun v => v.number?.map Int.toNat
    preamble := line "preamble" "_buf = []"
    postamble := line "postamble" "print(''.join(_buf))"
    trims := (given "smarttrim").any Value.isTrue }

def templateText : Value → Outcome String
  | .text s => pure s
  | _ => throw (.noProperty "find")

/-- The script of a template in a document. An option can hold a template that is read
before the one that is asked for, and whose declared arguments hold. -/
def scriptOf (d : Dialect) (options : Table String Value) (input : String) : Outcome Script := do
  if !(options.keys.all optionNames.contains) then throw (.wrongKind "argument")
  let given (name : String) : Option Value := (options.get? name).filter (!·.isNull)
  let isSet (name : String) : Bool := (given name).any Value.isTrue
  let o := Options.ofValue d given
  let convert (declared : Option (List String)) (v : Value) : Outcome Script := do
    let text ← templateText v
    if isSet "encoding" then throw (.noProperty "decode")
    (Template.convert d o declared text).mapError .template
  let declared ←
    if isSet "input" then do pure (← convert none ((given "input").getD .null)).args
    else if isSet "filename" then throw (.noFile (((given "filename").getD .null).shown))
    else pure none
  convert declared (.text input)

/-- What becomes of the template of a document: its text once the rules are applied, its
script, the declared arguments and the line break. -/
def inspect (v : Value) : Outcome (List (String × Value)) := do
  let rules ← (← ((v.field? "pp").getD (.list [])).asList).mapM Rule.ofValue?
  let text ← templateText (← v.needField "text")
  let input ← prepare "f.jshtml" (rules.filterMap id) text
  let name := (v.field? "cls").getD "Template"
  let d ← orFault (Dialect.all.find? fun d => name.asText.toOption = some d.name) (.noEntry "dialect")
  let options ← match (v.field? "options").getD (.record []) with
    | .record fields => pure fields
    | _ => throw (.wrongKind "options")
  let s ← scriptOf d options input
  pure [("input", input), ("script", s.text), ("args", .opt .texts s.args), ("newline", s.newline)]

end FlowBindings.Template
