import FlowBindings.Protocol.Layout

/-!
# Building a protocol

A protocol is built from the sources of one version. Class names are visited in
alphabetical order; before a class is laid out, its superclass and every class
one of its members needs are laid out. The order in which layouts finish is the
order of the protocol's classes, so a class always stands behind what it needs.

Classes that need each other in a circle have no layout. The walk carries the
names it is inside of, and a name met again on the way down is reported with the
whole path.

From version 1.3 on an action or instruction can be named without being spelled
out. For each class below `of_action` and `of_instruction` the protocol then
holds a second class with `_id` in its name that keeps only the members that
identify it.
-/

namespace FlowBindings.Protocol

/-! ## Declared names -/

/-- The declared classes by name, each with the file that declares it. -/
abbrev Declared := Table String (Source.Class × String)

/-- File the items of one file under their names, refusing a name that is filed
already. -/
def fileItems {α : Type} (name : α → String) (refuse : α → String → Error) (file : String)
    (known : Table String (α × String)) (items : List α) :
    Except Error (Table String (α × String)) :=
  items.foldlM (fun known x =>
    match known.get? (name x) with
    | some (_, previous) => throw (refuse x previous)
    | none => pure (known.set (name x) (x, file))) known

/-- File the classes of a source, refusing a second declaration. -/
def declareClasses (known : Declared) (s : Source) : Except Error Declared :=
  fileItems (·.name) (fun c previous => .classRedefined s.file c.name previous) s.file known
    s.classes

/-- File the enums of a source, refusing a second declaration. -/
def declareEnums (known : Table String (Source.Enum × String)) (s : Source) :
    Except Error (Table String (Source.Enum × String)) :=
  fileItems (·.name) (fun e previous => .enumRedefined s.file e.name previous) s.file known
    s.enums

/-- All declared classes and enums. Each source's classes come before its
enums, and a source before the next. -/
def declared (sources : List Source) :
    Except Error (Declared × Table String (Source.Enum × String)) :=
  sources.foldlM (fun (classes, enums) s => do
    let classes ← declareClasses classes s
    let enums ← declareEnums enums s
    pure (classes, enums)) ([], [])

/-! ## The walk -/

/-- The declared classes a member's type names: without a final `_t`, and as it
stands. -/
def dependencies (decls : Declared) (m : Source.Member) : List String :=
  match m.type? with
  | none => []
  | some type => [WireType.className type, type].filter decls.has

/-- Lay out the named class and everything it needs behind the classes in
`done`. `path` holds the names the walk is inside of, and `fuel` bounds how much
deeper it may go. -/
def visit (v : Version) (decls : Declared) (enums : List Enum) :
    (fuel : Nat) → (path : List String) → (name : String) → (done : List Class) →
      Except Error (List Class)
  | 0, _, name, _ => throw (.endless name)
  | fuel + 1, path, name, done => do
    if done.any (·.name = name) then return done
    if path.contains name then throw (.cycle (path ++ [name]))
    let some (c, _) := decls.get? name | throw (.classNotFound name)
    let inside := path ++ [name]
    let done ←
      match c.superclass with
      | some up => visit v decls enums fuel inside up done
      | none => pure done
    let needed := c.members.flatMap (dependencies decls)
    let done ← needed.foldlM (fun done n => visit v decls enums fuel inside n done) done
    let laidOut ← Class.ofSource ⟨v, done, enums⟩ (lineage done c.superclass) c
    pure (done ++ [laidOut])
where
  /-- The superclass and the classes above it. -/
  lineage (done : List Class) (superclass : Option String) : List Ancestor :=
    match superclass.bind fun up => done.find? (·.name = up) with
    | some up => up.asAncestor :: up.ancestors
    | none => []

/-! ## Identifying classes -/

/-- The classes whose subclasses can be named without being spelled out. -/
def idRoots : List String := ["of_action", "of_instruction"]

/-- The name of the class that identifies `name` among the classes below
`root`. -/
def idName (root name : String) : String :=
  root ++ "_id" ++ Text.dropFirst root.length name

def identifies : Source.Member → Bool
  | .pad _ => false
  | .field _ _ .data => false
  | .field _ _ _ => true

/-- Put a class in the place of one with its name, or behind all others. -/
def place (done : List Class) (c : Class) : List Class :=
  if done.any (·.name = c.name) then done.map fun d => if d.name = c.name then c else d
  else done ++ [c]

/-- Add the class that identifies a class, and those above it. The name of the
identifying class depends on where `name` continues behind `root`; a class not
named after its root can take the place of one above it. The way up is not checked
for circles; `fuel` bounds its length. -/
def visitId (v : Version) (decls : Declared) (enums : List Enum) (root : String) :
    (fuel : Nat) → (name : String) → (done : List Class) → Except Error (List Class)
  | 0, name, _ => throw (.endless name)
  | fuel + 1, name, done => do
    let own := idName root name
    if done.any (·.name = own) then return done
    let some (c, _) := decls.get? name | throw (.undeclaredId name)
    let done ←
      match c.superclass with
      | some up => visitId v decls enums root fuel up done
      | none => pure done
    let idClass : Source.Class :=
      { name := own
        superclass := c.superclass.map (idName root)
        members := c.members.filter identifies
        isVirtual := c.isVirtual
        params := [] }
    let laidOut ←
      Class.ofSource ⟨v, done, enums⟩ (visit.lineage done idClass.superclass) idClass
    if !laidOut.isVirtual && !laidOut.isFixedLength then throw (.variableId own)
    pure (place done laidOut)

/-! ## The whole protocol -/

/-- Visit a declared name, then add what identifies its class. -/
def visitDeclared (v : Version) (decls : Declared) (enums : List Enum) (done : List Class)
    (name : String) : Except Error (List Class) := do
  let done ← visit v decls enums (decls.length + 1) [] name done
  let some c := done.find? (·.name = name) | pure done
  if v.wire < 4 then return done
  idRoots.foldlM (fun done root =>
    if c.isInstanceOf root then visitId v decls enums root (decls.length + 1) name done
    else pure done) done

def enumOfSource (e : Source.Enum) : Enum where
  name := e.name
  entries := e.entries.map fun x => { name := x.name, value := x.value, params := x.params }
  params := e.params.map fun (k, value) => (k, some value)

/-- The protocol of a version, made from the sources that speak about it. -/
def build (v : Version) (sources : List Source) : Except Error Protocol := do
  let (decls, enumDecls) ← declared sources
  let enums := enumDecls.values.map fun (e, _) => enumOfSource e
  let names := decls.keys.mergeSort fun a b => a ≤ b
  let classes ← names.foldlM (visitDeclared v decls enums) []
  pure { version := v, classes := classes, enums := enums }

end FlowBindings.Protocol
