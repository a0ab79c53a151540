import FlowBindings.Value.Call

/-!
# Markup

Small functions for pages: escaping, attributes of tags, line breaks. They accept
any values, as the expressions of a template do. Parameters that a page hands on to
itself travel through escaping and through addresses; `decodeParameters` finds them
again in any of these forms.
-/

namespace FlowBindings.Markup

open Text

variable (name : String) (v : Value) (s : String)

/-- A text with the characters that have a meaning on a page escaped. -/
def escape : String :=
  concat (s.toList.map fun
    | '&' => "&amp;"
    | '<' => "&lt;"
    | '>' => "&gt;"
    | '"' => "&quot;"
    | '\'' => "&#39;"
    | c => c.toString)

def escapeValue : String := escape v.written

def needText : Value → Outcome String
  | .text s => pure s
  | _ => throw (.noProperty "replace")

def tagAttribute (value : String) : String := " " ++ name ++ "=\"" ++ value ++ "\""

/-- Whether a value is shown as an attribute: true values and zero are. -/
def isShown : Bool := v.isTrue || v.isZero

/-- The attributes that are either set to their own name or absent. -/
def switches : List String := ["checked", "selected", "disabled"]

/-- Attributes in their final form: `klass` stands for `class`, and an attribute
that is either set or absent is set to its own name. Those that are rewritten move
to the end. -/
def normalize (attributes : Table String Value) : Table String Value :=
  let renamed := match attributes.get? "klass" with
    | some v => (attributes.erase "klass").set "class" v
    | none => attributes
  switches.foldl (fun t name =>
    match t.get? name with
    | some v => (t.erase name).set name (if v.isTrue then .text name else .null)
    | none => t) renamed

/-- Any value as attributes in their final form. What does not hold the name of an
attribute to be changed stays as it is. -/
def normalizeValue : Value → Outcome Value
  | .record fields => pure (.record (normalize fields))
  | .list xs =>
    if ("klass" :: switches).any fun name => xs.any (·.equal (.text name)) then throw (.wrongKind "attributes")
    else pure (.list xs)
  | .text s =>
    if ("klass" :: switches).any (Text.contains s) then throw (.noProperty "pop") else pure (.text s)
  | _ => throw (.wrongKind "attributes")

/-- Attributes of a tag; those without a value are left out. -/
def attributes (given : Table String Value) : String :=
  concat (((normalize given).filter fun (_, v) => isShown v).map fun (k, v) => tagAttribute k (escapeValue v))

/-- An attribute that is shown if `condition` holds, with `condition` as its value
unless another is given. -/
def attributeIf (name condition value : Value) (escapes : Bool) : String :=
  if !isShown condition then ""
  else
    let value := match value with
      | .null => condition
      | v => v
    tagAttribute name.shown (if escapes then escapeValue value else value.shown)

/-- An attribute that is either set to its own name or absent. -/
def switch (condition : Value) : String :=
  if condition.isTrue then tagAttribute name name else ""

def markBreaks : String := Text.replace s "\n" "<br />\n"

/-- A text for a page, with its line breaks and, if asked for, its blanks kept. -/
def pageText (keepsBlanks : Bool) : String :=
  if !v.isTrue then ""
  else
    let s := escapeValue v
    markBreaks (if keepsBlanks then Text.replace s "  " " &nbsp;" else s)

/-- The name and the value of a field, and an identifier made of both if there is
something to put between them. -/
def nameAndValue (name value separator : Value) (others : Table String Value) : Outcome String := do
  let name := escapeValue name
  let value := escapeValue value
  let start := "name=\"" ++ name ++ "\" value=\"" ++ value ++ "\""
  let identifier ←
    if !separator.isTrue then pure ""
    else match separator with
      | .text s => pure (tagAttribute "id" (name ++ s ++ value))
      | _ => throw (.wrongKind "separator")
  pure (start ++ identifier ++ attributes others)

def scriptLink (label script : Value) (others : Table String Value) : String :=
  "<a href=\"javascript:undefined\" onclick=\"" ++ escapeValue script ++ ";return false\""
    ++ attributes others ++ ">" ++ escapeValue label ++ "</a>"

/-! ## Parameters -/

/-- A parameter that is not escaped. -/
def plainParameter : String := "<`#" ++ v.shown ++ "#`>"

def escapedParameter : String := "<`$" ++ v.shown ++ "$`>"

/-- The characters that an escape stands for. -/
def entities : Table String String :=
  [("lt", "<"), ("gt", ">"), ("amp", "&"), ("quot", "\""), ("#039", "'")]

def unescape : String :=
  (Regex.ofText {} "&(lt|gt|quot|amp|#039);").replaceAll
    (fun m => ((m.group? 1).bind entities.get?).getD "") s

/-- The forms in which a parameter may stand on a page, with the mark it is written
with and how its text is found. -/
def parameterForms : List (String × String × (String → String)) :=
  [(r"%3C%60%23(.*?)%23%60%3E", "#", unquote), (r"%3C%60%24(.*?)%24%60%3E", "$", unquote),
   (r"&lt;`#(.*?)#`&gt;", "#", unescape), (r"&lt;`\$(.*?)\$`&gt;", "$", unescape),
   (r"<`#(.*?)#`>", "#", id), (r"<`\$(.*?)\$`>", "$", id)]

def decodeParameters : String :=
  parameterForms.foldl (fun s (pattern, mark, read) =>
    (Regex.ofText {} pattern).replaceAll
      (fun m => mark ++ "\x7b" ++ read ((m.group? 1).getD "") ++ "\x7d") s) v.written

/-! ## Calls by name -/

/-- A function that can be called with arguments by position and by name. -/
structure Function where
  parameters : Value.Parameters
  /-- What it does with their values and the further arguments by name. -/
  run : List Value → Table String Value → Outcome Value

def Function.ofValue (f : Value → Outcome Value) : Function where
  parameters := { listed := [(name, none)] }
  run
    | [v], _ => f v
    | _, _ => throw (.wrongKind "argument")

/-- A function of one value that always has a text. -/
def Function.ofText (f : Value → String) : Function :=
  .ofValue name fun v => pure (.text (f v))

def functions : Table String Function :=
  let escaping : Function := .ofValue "s" fun v => do pure (.text (escape (← needText v)))
  [("escape_html", escaping), ("escape_xml", escaping), ("escape", escaping),
   ("tagattr", ⟨{ listed := [("name", none), ("expr", none), ("value", some .null), ("escape", some (.bool true))] },
     fun
     | [name, condition, value, escapes], _ => pure (.text (attributeIf name condition value escapes.isTrue))
     | _, _ => throw (.wrongKind "argument")⟩),
   ("tagattrs", ⟨{ listed := [], takesNamed := true }, fun _ named => pure (.text (attributes named))⟩),
   ("_normalize_attrs", .ofValue "kwargs" normalizeValue),
   ("checked", .ofText "expr" (switch "checked")), ("selected", .ofText "expr" (switch "selected")),
   ("disabled", .ofText "expr" (switch "disabled")),
   ("nl2br", .ofValue "text" fun v => do
     if !v.isTrue then pure (.text "") else pure (.text (markBreaks (← needText v)))),
   ("text2html", ⟨{ listed := [("text", none), ("use_nbsp", some (.bool true))] }, fun
     | [v, keepsBlanks], _ => pure (.text (pageText v keepsBlanks.isTrue))
     | _, _ => throw (.wrongKind "argument")⟩),
   ("nv", ⟨{ listed := [("name", none), ("value", none), ("sep", some .null)], takesNamed := true }, fun
     | [name, value, separator], named => do pure (.text (← nameAndValue name value separator named))
     | _, _ => throw (.wrongKind "argument")⟩),
   ("js_link", ⟨{ listed := [("label", none), ("onclick", none)], takesNamed := true }, fun
     | [label, script], named => pure (.text (scriptLink label script named))
     | _, _ => throw (.wrongKind "argument")⟩),
   ("to_str", .ofText "val" (·.written)), ("_p", .ofText "arg" plainParameter),
   ("_P", .ofText "arg" escapedParameter), ("_decode_params", .ofText "s" decodeParameters),
   ("is_escaped", .ofValue "value" fun _ => pure (.bool false)),
   ("as_escaped", .ofValue "s" fun
     | .text s => pure (.text s)
     | _ => throw (.wrongKind "text")),
   ("to_escaped", .ofText "value" escapeValue)]

def call (args : List Value) (named : Table String Value) : Outcome Value := do
  let f ← orFault (functions.get? name) (.noProperty name)
  let (values, _, rest) ← f.parameters.bind args named
  f.run values rest

end FlowBindings.Markup
