import FlowBindings.Loci.Notice
import FlowBindings.Loci.Object
import FlowBindings.Protocol.Exact

/-!
# Types on the wire

An object says on the wire which class it is of: a field of each class on the way
down from the root has a value that only that class has. New objects get these
values written, and the class of a received object is found by reading them from
the root downward.

What has to be written or read is kept as data, one entry per version, and turned
into C code afterwards. Versions that stand next to each other and write the same
share one case.
-/

namespace FlowBindings.Loci

open Text

def versionName (v : Version) : String := v.constant "OF_VERSION_"

/-- A place in an object as C code gives it; a place without a fixed offset has no
number. -/
def offsetText (offset : Option Nat) : String := Unified.renderOffset offset

def mergeAdjacent {κ ν : Type} [DecidableEq ν] : List (κ × ν) → List (ν × List κ)
  | [] => []
  | (k, v) :: rest =>
    match mergeAdjacent rest with
    | [] => [(v, [k])]
    | (w, ks) :: groups => if v = w then (w, k :: ks) :: groups else (v, [k]) :: (w, ks) :: groups

/-! ## Writing -/

/-- A value that every object of a class carries. -/
structure WrittenField where
  name : String
  offset : Option Nat
  length : Nat
  /-- The C expression of its value. -/
  value : String
  deriving DecidableEq, Repr

/-- What is written into every object of a class. -/
structure WrittenTypes where
  className : String
  /-- The values, with the versions that have just these. -/
  cases : List (List WrittenField × List Version)
  deriving Repr

namespace WrittenTypes

/-- What a field's value is written as. A field for the version takes it from the
object, so that versions can share their code. -/
def valueText (v : Version) (name : String) (value : Nat) : String :=
  if name = "version" ∧ value = v.wire then "obj->version" else hex value

def ofVersion (v : Version) (c : Class) : Outcome (List WrittenField) :=
  c.fields.filterMapM fun f =>
    match f.fixedValue? with
    | none => pure none
    | some value => do
      pure (some
        ⟨f.name, f.offset, ← (Member.field f).exactLength c.name, valueText v f.name value⟩)

def versionsOf (u : Unified.Class) : List (Version × Class) :=
  u.versions.mergeSort fun a b => a.1.wire ≤ b.1.wire

/-- What is written for a class, if anything: a class that only groups others, or
has no fixed values, writes nothing. -/
def ofClass (u : Unified.Class) : Outcome (Option WrittenTypes) := do
  if u.isVirtual || !u.hasFixedFields then return none
  let perVersion ← (versionsOf u).mapM fun (v, c) => do pure (v, ← ofVersion v c)
  pure (some ⟨u.name, mergeAdjacent perVersion⟩)

def statement (f : WrittenField) : Outcome String := do
  let (type, value) ← match f.length with
    | 1 => pure ("uint8_t", f.value)
    | 2 => pure ("uint16_t", "U16_HTON(" ++ f.value ++ ")")
    | 4 => pure ("uint32_t", "U32_HTON(" ++ f.value ++ ")")
    | 8 => pure ("uint64_t", "U64_HTON(" ++ f.value ++ ")")
    | _ => throw (.wrongKind "length")
  pure ("        *(" ++ type ++ " *)(buf + " ++ offsetText f.offset ++ ") = " ++ value ++ "; /* "
    ++ f.name ++ " */\n")

def render (t : WrittenTypes) : Outcome String := do
  let cases ← t.cases.mapM fun (fields, versions) => do
    pure (each versions (fun v => "    case " ++ versionName v ++ ":\n")
      ++ concat (← fields.mapM statement)
      ++ "        break;\n")
  pure (form [("cls", t.className), ("cases", concat cases)] r"
void
«cls»_push_wire_types(ωt *obj)
{
	unsigned char *buf = ΩBUFFER_INDEX(obj, 0);
	switch (obj->version) {
«cases»	default:
		UNREACHABLE();
	}
}
")

end WrittenTypes

/-! ## Reading -/

/-- A class that a value of the discriminator leads to. -/
structure Target where
  className : String
  value : Nat
  isVirtual : Bool
  deriving DecidableEq, Repr

/-- How a version tells the classes below a class apart. -/
structure Dispatch where
  version : Version
  source : Class
  /-- The classes below it, ordered by value. -/
  targets : List Target
  deriving Repr

def Class.needDiscriminator (c : Class) : Outcome Field :=
  orFault c.discriminator? (.noProperty "discriminator")

def valueBelow (discriminator : Field) (c : Class) : Outcome Nat := do
  let f ← orFault (c.field? discriminator.name) (.noProperty "value")
  orFault f.fixedValue? (.noProperty "value")

def classesBelow (p : Protocol) (c : Class) : List Class :=
  p.classes.filter fun d => d.superclass? = some c.name

namespace Dispatch

def ofVersion (p : Protocol) (v : Version) (c : Class) : Outcome Dispatch := do
  let targets ← (classesBelow p c).mapM fun d => do
    pure (Target.mk d.name (← valueBelow (← Class.needDiscriminator c) d) d.isVirtual)
  pure ⟨v, c, targets.mergeSort fun a b => a.value ≤ b.value⟩

def ofClass (m : Model) (u : Unified.Class) : Outcome (Option (List Dispatch)) := do
  if !u.isVirtual then return none
  some <$> (WrittenTypes.versionsOf u).mapM fun (v, c) => do
    ofVersion (← orFault (m.protocol? v) (.noProperty "protocol")) v c

def readText (c : Class) (f : Field) : Outcome String := do
  let place := "(buf + " ++ offsetText f.offset ++ ")"
  let (type, value) ← match ← (Member.field f).exactLength c.name with
    | 1 => pure ("uint8_t", "*(uint8_t *)" ++ place)
    | 2 => pure ("uint16_t", "U16_NTOH(*(uint16_t *)" ++ place ++ ")")
    | 4 => pure ("uint32_t", "U32_NTOH(*(uint32_t *)" ++ place ++ ")")
    | 8 => pure ("uint64_t", "U64_NTOH(*(uint64_t *)" ++ place ++ ")")
    | _ => throw (.wrongKind "length")
  pure ("        " ++ type ++ " value = " ++ value ++ "; /* " ++ f.name ++ " */\n")

def targetText (t : Target) : String :=
  "        case " ++ hex t.value ++ ":\n"
  ++ (if t.isVirtual then "            " ++ t.className ++ "_wire_object_id_get(obj, id);\n"
      else "            *id = " ++ upper t.className ++ ";\n")
  ++ "            break;\n"

def render (className : String) (d : Dispatch) : Outcome String := do
  let f ← Class.needDiscriminator d.source
  pure (form [("version", versionName d.version), ("read", ← readText d.source f),
    ("targets", each d.targets targetText), ("CLS", upper className)] r"
	case «version»: {
«read»		switch (value) {
«targets»		default:
			*id = «CLS»;
			break;
		}
		break;
	}
")

def renderAll (className : String) (ds : List Dispatch) : Outcome String := do
  pure (form [("cls", className), ("cases", concat (← ds.mapM (render className)))] r"
void
«cls»_wire_object_id_get(ωt *obj, ωid_t *id)
{
	unsigned char *buf = ΩBUFFER_INDEX(obj, 0);
	switch (obj->version) {
«cases»	default:
		λ0);
	}
}
")

end Dispatch

/-! ## Source files of classes -/

def classSourceHead : String :=
  notice ++ pragmas ++ block r#"

#include "loci_log.h"
#include "loci_int.h"

"#

def wireTypeFunctions (m : Model) (u : Unified.Class) : Outcome String := do
  let written ← WrittenTypes.ofClass u
  let dispatch ← Dispatch.ofClass m u
  let writing ← match written with
    | some t => do pure ((← t.render) ++ "\n")
    | none => pure ""
  let reading ← match dispatch with
    | some ds => do pure ((← Dispatch.renderAll u.name ds) ++ "\n")
    | none => pure ""
  pure (classSourceHead ++ writing ++ "\n" ++ reading)

def classSource (c : Catalog) (u : Unified.Class) : Outcome String := do
  pure ((← wireTypeFunctions c.model u) ++ (← c.newDefinitions u.name)
    ++ (← c.accessorDefinitions u.name))

end FlowBindings.Loci
