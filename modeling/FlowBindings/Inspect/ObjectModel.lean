import FlowBindings.ObjectModel.Looking
import FlowBindings.Value.Read

/-!
# Looking into the object model

Types, interfaces, classes, enums and factories of the object model as records.
-/

namespace FlowBindings.ObjectModel

open Value

def inspectText (o : Outcome String) : Value := ofOutcome text o

/-- The types of the object model, with their expressions for a version. Without a
version there are no expressions. -/
def FieldType.inspect (t : FieldType) (v : Option Version) : Value :=
  let said (f : Version → Outcome String) : Value :=
    answer text (orFault v (.noProperty "dotless_version") >>= f)
  let sides (name : String) (f : Bool → Version → Outcome String) : List (String × Value) :=
    [(name ++ "_pub", said (f true)), (name ++ "_priv", said (f false))]
  record ([("public_type", text t.pub), ("priv_type", text t.priv), ("has_priv", bool t.hasPrivate),
    ("is_primitive", bool t.isPrimitive), ("is_array", bool t.isArray)]
    ++ sides "read" (fun b v => pure (t.readOp v b))
    ++ sides "read_len" (fun b v => pure (t.readOp v b "LEN"))
    ++ sides "write" (fun b v => pure (t.writeOp v "NAME" b))
    ++ sides "default" (fun b v => t.defaultOp v b)
    ++ sides "funnel" (fun b v => pure (t.funnelOp v "NAME" b))
    ++ [("skip", said fun v => pure (t.skipOp v))])

def Property.inspectFields (p : Property) : List (String × Value) :=
  [("name", text p.name), ("c_name", text p.fieldName), ("virtual", bool p.isVirtual), ("pad", bool false),
   ("type", text p.type.pub), ("priv", text p.type.priv), ("title_name", inspectText p.titleName),
   ("constant_name", text p.constantName), ("getter_name", inspectText p.getterName),
   ("setter_name", inspectText p.setterName), ("is_field_length_value", bool p.isFieldLength),
   ("is_discriminator", bool p.isDiscriminator), ("is_length_value", bool p.isLength),
   ("is_public", bool p.isPublic), ("is_data", bool p.isData), ("is_nullable", bool false)]

variable (l : Library)

def Property.inspectIn (i : Interface) (p : Property) : Looking Value := do
  let _ ← (l.lookForSetter i p).attempt
  pure <| record (p.inspectFields ++
    [("is_fixed_value", ofOutcome bool (Interface.isFixed p)), ("is_writeable", bool (i.isWriteable p)),
     ("needs_setter", ofOutcome bool (l.needsSetter i p)), ("is_universal", bool (i.isUniversal p))])

def Part.inspect (c : Implementation) : Part → Value
  | .pad length =>
    record [("name", text ""), ("c_name", text ""), ("virtual", bool false), ("pad", bool true),
      ("length", nat length)]
  | .property p =>
    record (p.inspectFields ++
      [("is_fixed_value", bool (c.isFixed p)), ("is_writeable", bool p.isData),
       ("default_name", text (c.defaultName p)), ("default_value", ofOutcome id (c.defaultValue l p)),
       ("enum_value", ofOutcome id (c.namedValue l p)), ("value", ofOutcome id (c.value p)),
       ("priv_value", ofOutcome id (c.privateValue p))])

def Interface.inspect (i : Interface) : Looking Value := do
  let properties ← i.look l
  let members ← properties.mapM (·.inspectIn l i)
  let names (ps : List Property) : Value := texts (ps.map (·.name))
  pure (record
    [("name", text i.name), ("c_name", text i.source.name), ("variable_name", text i.variableName),
     ("title_name", text i.titleName), ("constant_name", text i.constantName), ("package", text i.package),
     ("parent_interface", opt text i.parent), ("type_annotation", opt text i.parameter),
     ("type_variable", text i.typeVariable), ("all_parent_interfaces", texts (l.parents i)),
     ("is_virtual", bool i.isVirtual), ("is_universal", bool (l.isUniversal i)),
     ("all_versions", each Value.version i.versions), ("super_class", opt (text ·.name) (l.above? i)),
     ("inherited_declaration", texts [i.declaration, i.declaration "X"]),
     ("members", list members), ("writeable", names (← .of i.writeable)),
     ("factory", opt (fun f => list [text f.name, answer text (f.methodName i),
       answer text (f.methodName i false)]) (l.factoryOf? i))])

def Implementation.inspect (data : Directory) (c : Implementation) :
    Looking Value := do
  let parts ← c.look l
  let name : Part → String
    | .pad _ => ""
    | .property p => p.name
  let where_ (test : Part → Bool) : Value := texts ((parts.filter test).map name)
  let ofProperty (test : Property → Bool) (p : Part) : Bool := p.property?.any test
  pure (record
    [("name", text c.name), ("c_name", text c.source.name), ("variable_name", text c.variableName),
     ("constant_name", text c.constantName), ("package", text c.package), ("length", ofOutcome nat c.length),
     ("min_length", nat c.minLength), ("is_fixed_length", bool c.isFixedLength),
     ("is_virtual", bool c.isVirtual), ("align", ofOutcome int c.align),
     ("length_includes_align", bool c.lengthIncludesAlign), ("superclass", null),
     ("subclasses", texts ((c.subclasses l).map (·.name))),
     ("discriminator", opt (text ·.name) c.source.discriminator?), ("members", each (·.inspect l c) parts),
     ("data_members", where_ (ofProperty (·.isData))),
     ("fixed_value_members", where_ (ofProperty c.isFixed)),
     ("public_members", where_ (ofProperty (·.isPublic))), ("generate", bool c.isGenerated),
     ("tests", each (fun t => texts [t.name, t.file, t.tested.package]) (UnitTest.all data c))])

def EnumType.inspect (versions : List Version) (e : EnumType) : Outcome Value := do
  let constant (c : Constant) : Outcome Value := do
    let traits ← e.traits.mapM fun t => do
      pure (list [text t.variableName, text t.getterName, text t.type.pub, ← e.traitOf c t])
    pure (record
      [("name", text c.name), ("values", each (fun (v, n) => list [Value.version v, nat n]) c.values),
       ("formatted", each (fun v => answer id (e.formatted c v)) c.values.keys),
       ("all", each (fun v => (c.values.get? v).elim (text "-") nat) versions), ("params", list traits),
       ("group", opt (text ·.name) (e.groupOf? c)), ("is_mask", bool (e.isMask c)),
       ("stable_value", ofOutcome nat (e.stableValue c))])
  pure (record
    [("name", text e.name), ("c_name", text e.declared), ("name_prefix", text (EnumType.lead e.name)),
     ("package", text basePackage), ("stable", bool e.isStable),
     ("is_bitmask", bool e.isBitmask), ("versions", each Value.version e.versions.keys),
     ("wire_types", each (fun v => list [Value.version v, answer (text ·.pub) (e.wireType v)])
       e.versions.keys),
     ("entries", list (← e.constants.mapM constant))])

def Factory.inspect (f : Factory) : Value :=
  record
    [("package", text f.package), ("name", text f.name), ("base_class", text f.base),
     ("remove_prefix", text f.dropped), ("sub_factories", named text f.others),
     ("xid_generator", bool f.numbers), ("members", texts (f.members.map (·.name))),
     ("classes", each (fun v => list [text (Implementation.packageOf v), text (f.classNameFor v),
       text f.base, opt (text ·.name) (f.versionedBase? l v)]) l.versions)]

def inspectEntries (entries : Table String Library.EntryKind) : Value :=
  named (fun e => list [text e.type, text e.constant, bool e.isMasked]) entries

def Library.lookAtEntries (above : String) (entries : Outcome (Table String Library.EntryKind)) :
    Looking Value := do
  for i in l.interfaces.filter (·.source.isSubclassOf above) do
    let _ ← i.look l
  pure (inspectEntries (← .of entries))

def inspectPart (m : Model) (targets : List Version) (library : Outcome Library) (data : Directory)
    (name : String) : Looking (List (String × Value)) := do
  match name with
  | "interfaces" => do
    let l ← Library.opened m library
    pure [(name, list (← l.interfaces.mapM (·.inspect l)))]
  | "classes" => do
    let l ← Library.opened m library
    pure [(name, list (← l.classes.mapM (·.inspect l data)))]
  | "enums" => .of do
    let versions := targets.eraseDups
    pure [(name, list (← (← enumsOf m versions).mapM (·.inspect versions)))]
  | "factories" => do
    let l ← Library.opened m library
    pure [(name, each (·.inspect l) l.factories)]
  | "maps" => do
    let l ← Library.opened m library
    pure [("oxm_map", ← l.lookAtEntries "of_oxm" l.matchEntries),
      ("oxs_map", ← l.lookAtEntries "of_oxs" l.statEntries)]
  | _ => pure []

def inspectParts (m : Model) (targets : List Version) (library : Outcome Library) (data : Directory)
    (want : List String) : Looking (List (String × Value)) := do
  let parts ← (["interfaces", "classes", "enums", "factories", "maps"].filter want.contains).mapM
    (inspectPart m targets library data)
  pure parts.flatten

end FlowBindings.ObjectModel
