import FlowBindings.Value.Key
import FlowBindings.Value.Read

/-!
# Sources from outlines

Declarations can be handed over as an outline: nested lists, one list per declaration
with its kind in front. What stands in such a list need not be what declarations can say.
A name may be a number, a list may have more elements than are asked for, and a text
serves as the list of its characters. Only what is looked at has to be there, in the order
in which it is looked at.

For lists that come from declarations the outcome is the source of the declarations.
-/

namespace FlowBindings.Source.Outline

open Value

def typeName (t : Value) : Outcome Value := do
  let kind ← t.item 0
  let name ← t.item 1
  if kind matches .text "enum" then let _ ← name.key
  pure name

def memberRecord (role : String) (fields : List (String × Value)) : Value :=
  .record (("kind", .text role) :: fields)

def roleOf : Value → Role
  | .text name => roleOfName name
  | _ => .data

def member (m : Value) : Outcome (Value × Bool) := do
  let kind ← m.item 0
  let field (role : Role) (extra : List (String × Value)) : Outcome Value := do
    let name ← m.item 2
    let type ← typeName (← m.item 1)
    pure (memberRecord role.label ([("name", name), ("oftype", type)] ++ extra))
  match kind with
  | .text "pad" => do pure (memberRecord "OFPadMember" [("length", ← m.item 1)], false)
  | .text "type" => do
    let r ← field (.fixed 0) []
    pure (r.withField "value" (← m.item 3), false)
  | .text "data" => do pure (← field (roleOf (← m.item 2)) [], false)
  | .text "discriminator" => do pure (← field .discriminator [], true)
  | .text "field_length" => do
    let r ← field (.fieldLength "") []
    pure (r.withField "field_name" (← m.item 3), false)
  | other => throw (.source (.unknownMember other.shown))

def params (v : Value) : Outcome Value := do
  let table ← (← v.elements).foldlM (fun m pair => do
    let (name, value) ← pair.unpack
    Mapping.write m name value) ([] : Mapping)
  pure (Mapping.toValue table)

def renderMember (m : Value) : String :=
  match m with
  | .record (("kind", kind) :: fields) =>
    kind.shown ++ "(" ++ Text.join ", " (fields.map fun (k, v) => k ++ "=" ++ v.quoted) ++ ")"
  | _ => ""

def classOf (d : Value) : Outcome Value := do
  let above ← d.item 3
  let members ← (← (← d.item 4).elements).mapM member
  let name ← d.item 1
  let discriminators := (members.filter (·.2)).map (·.1)
  if 1 < discriminators.length then
    throw (.source (.manyDiscriminators name.shown (discriminators.map renderMember)))
  pure (.record [("kind", "OFClass"), ("name", name), ("superclass", above),
    ("members", .each (·.1) members), ("virtual", !discriminators.isEmpty),
    ("params", ← params (← d.item 2))])

def enumOf (d : Value) : Outcome Value := do
  let name ← d.item 1
  let entries ← (← (← d.item 3).elements).mapM fun x => do
    let name ← x.item 0
    let value ← x.item 2
    pure (.record [("kind", "OFEnumEntry"), ("name", name), ("value", value),
      ("params", ← params (← x.item 1))])
  pure (.record [("kind", "OFEnum"), ("name", name), ("entries", .list entries),
    ("params", ← params (← d.item 2))])

def versionsOf (v : Value) : Outcome (List Version) := do
  match v with
  | .text word => (versionsOfWord word).mapError .source
  | _ =>
    match ← v.asInt with
    | .ofNat n => do pure [← orFault (Version.ofWire? n) (.source (.unknownVersion v.quoted))]
    | .negSucc _ => throw (.source (.unknownVersion v.quoted))

/-- What an outline has said so far. -/
structure Said where
  versions : List Version := []
  classes : List Value := []
  enums : List Value := []

def Said.add (s : Said) (d : Value) : Outcome Said := do
  match ← d.item 0 with
  | .text "struct" => do pure { s with classes := s.classes ++ [← classOf d] }
  | .text "enum" => do pure { s with enums := s.enums ++ [← enumOf d] }
  | .text "metadata" =>
    if (← d.item 1) matches .text "version" then
      let vs ← versionsOf (← d.item 2)
      pure { s with versions := Version.all.filter fun v => s.versions.contains v || vs.contains v }
    else pure s
  | _ => pure s

def inspect (file outline : Value) : Outcome (List (String × Value)) := do
  let s ← (← outline.elements).foldlM Said.add {}
  if s.versions.isEmpty then throw (.source .noVersion)
  pure [("filename", file), ("wire_versions", .each (fun v => .nat v.wire) s.versions),
    ("classes", .list s.classes), ("enums", .list s.enums)]

end FlowBindings.Source.Outline
