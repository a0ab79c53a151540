import FlowBindings.ObjectModel.TypeTable
import FlowBindings.Unified.Kind

/-!
# Choosing the type of a property

The type of a property follows from the class, the name of the field and the type of
the field on the wire; the first rule that applies decides. A type no rule knows
becomes a class of its name, and the choice is reported.
-/

namespace FlowBindings.ObjectModel

open Text

/-- A type that was chosen, and what there is to report about the choice. -/
structure TypeChoice where
  type : FieldType
  /-- A report, if the type is not known. -/
  report : Option String := none
  deriving DecidableEq, Repr

variable (u : Unified) (className field type : String)

def listElement? : Option String := do
  guard (startsWith type "list(of_")
  let rest := (dropFirst 8 type).toList
  let name := String.ofList (rest.takeWhile fun c => c.isAlpha || c = '_')
  guard ((rest.drop name.length).head? = some ')' && endsWith name "_t" && 3 ≤ name.length)
  pure (dropLast 2 name)

def listElementClass : Outcome String :=
  match listElement? type with
  | some name => pure ("OF" ++ capsName name)
  | none => throw (.refused ("Not a recgonized standard list type declaration: " ++ type))

def enumType (e : Enum) : FieldType :=
  .ofEnum (capsName (trimLineTail e.name "_t")) e.isBitmask

def enumTypes : Table String FieldType :=
  u.enums.map fun e => (e.name, enumType e)

def typeByName? : Option FieldType :=
  let isBelow := u.isInstanceOf className
  if (className = "of_header" || u.isMessage className) && field = "type" && type = "uint8_t" then
    some .messageType
  else if field = "type" && startsWith className "of_action" then some .actionType
  else if field = "err_type" then some .errorType
  else if isBelow "of_error_msg" && field = "data" then some .errorCause
  else if field = "stats_type" then some .statsType
  else if field = "type" && startsWith className "of_instruction" then some .instructionType
  else if isBelow "of_flow_mod" && field = "table_id" && type = "uint8_t" then some .firstTableId
  else if isBelow "of_flow_mod" && field = "out_group" && type = "uint32_t" then some .anyGroup
  else if field = "table_id" && type = "uint8_t" then some .tableId
  else if field = "version" && type = "uint8_t" then some .protocolVersion
  else if field = "buffer_id" && type = "uint32_t" then some .bufferId
  else if field = "group_id" && type = "uint32_t" then some .group
  else if field = "datapath_id" then some .datapathId
  else if field = "actions" && className = "of_features_reply" then some .actionTypeSet
  else if field = "table_id" && startsWith className "of_bsn_gentable" then some .genTableId
  else if field = "bundle_id" && startsWith className "of_bundle_" then some .bundleId
  else none

def knownType? : Option FieldType :=
  (FieldType.ofSingleField? className field).or
    (if className = "of_header" then
      (if field = "type" && type = "uint8_t" then some .messageType
      else if field = "err_type" then some .errorType
      else none)
    else none)

def chooseType : TypeChoice :=
  match (FieldType.ofSingleField? className field).or
      ((typeByName? u className field type).or (FieldType.byWireType.get? type)) with
  | some t => { type := t }
  | none =>
    match listElement? type, (enumTypes u).get? type with
    | some name, _ => { type := .ofList ("OF" ++ capsName name) }
    | none, some t => { type := t }
    | none, none =>
      { type := .plain (capsName (trimLineTail type "_t"))
        report := some ("WARN: Couldn't find java type conversion for '" ++ type ++ "' in "
          ++ className ++ ":" ++ field) }

/-! ## Types of constants on the wire -/

def constantTypes : Table String FieldType :=
  let wire (pub unit : String) := (FieldType.plain pub).withOps (FieldType.unitOps unit)
  [("uint8_t", wire "byte" "Byte"), ("uint16_t", wire "short" "Short"), ("uint32_t", wire "int" "Int"),
   ("uint64_t", wire "long" "Long"), ("uint128_t", wire "long" "Long")]

end FlowBindings.ObjectModel
