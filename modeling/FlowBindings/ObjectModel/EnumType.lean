import FlowBindings.Model
import FlowBindings.ObjectModel.TypeChoice

/-!
# Enums of the object model

An enum of the object model stands for the enums of its name in all versions. It has
every constant that some version has, and for each the values in the versions that
have it. An enum that is declared stable shows its values; they are the same in all
versions.

Some enums whose constants are bits hold groups of constants that exclude each
other, and a constant that masks them.
-/

namespace FlowBindings.ObjectModel

open Text

structure Constant where
  name : String
  values : Table Version Nat
  deriving DecidableEq, Repr

/-- What is told about each constant of an enum besides its name. -/
inductive ConstantTrait where
  | portSpeed
  /-- Whether a port takes part in the spanning tree. -/
  | stpState
  /-- The value, which is the same in all versions. -/
  | stableValue (type : FieldType)
  deriving DecidableEq, Repr

/-- Constants of a set that exclude each other. -/
structure MaskedGroup where
  name : String
  mask : String
  members : List String
  deriving DecidableEq, Repr

structure EnumType where
  declared : String
  name : String
  isStable : Bool
  versions : Table Version Enum
  constants : List Constant
  /-- What is told about its constants. -/
  traits : List ConstantTrait
  deriving DecidableEq, Repr

namespace ConstantTrait

def name : ConstantTrait → String
  | portSpeed => "PortSpeed"
  | stpState => "StpState"
  | stableValue _ => "StableValue"

def type : ConstantTrait → FieldType
  | portSpeed => .portSpeed
  | stpState => .boolean
  | stableValue t => t

def variableName (t : ConstantTrait) : String := lowerFirst t.name

def getterName (t : ConstantTrait) : String :=
  (if t.type = .boolean then "is" else "get") ++ t.name

end ConstantTrait

def basePackage : String := "org.projectfloodlight.openflow.protocol"

def omittedEnums : List String := ["OFDefinitions", "OFPortNo", "OFVlanId", "OFGroup"]

def omittedConstants : Table String (List String) :=
  [("OFFlowWildcards", ["NW_DST_BITS", "NW_SRC_BITS", "NW_SRC_SHIFT", "NW_DST_SHIFT"])]

def maskedGroups : Table String (List MaskedGroup) :=
  let fragments := ["FRAG_NORMAL", "FRAG_DROP", "FRAG_REASM"]
  [("OFPortState",
     [⟨"stp_flags", "STP_MASK", ["STP_LISTEN", "STP_LEARN", "STP_FORWARD", "STP_BLOCK"]⟩]),
   ("OFConfigFlags", [⟨"frag_flags", "FRAG_MASK", fragments⟩]),
   ("OFTableConfig", [⟨"table_miss_flags", "TABLE_MISS_MASK",
     ["TABLE_MISS_CONTROLLER", "TABLE_MISS_CONTINUE", "TABLE_MISS_DROP"]⟩]),
   ("OFGetConfigReply", [⟨"flags", "OFP_FRAG_MASK", fragments⟩]),
   ("OFSetConfig", [⟨"flags", "OFP_FRAG_MASK", fragments⟩])]

def fixedTraits : Table String (List ConstantTrait) :=
  [("OFPortFeatures", [.portSpeed]), ("OFPortState", [.stpState])]

def behindUnderscore (s : String) : String := join "_" ((splitOn '_' s).drop 1)

def valuesByName (versions : Table Version Enum) : Table String (Table Version Nat) :=
  versions.foldl (fun t (v, e) =>
    e.entries.foldl (fun t x => t.update x.name [] (·.set v x.value)) t) []

namespace EnumType

/-- The text in front of the names of the constants: those that begin with a digit
need one. -/
def lead (name : String) : String := if name = "OFPortFeatures" then "PF_" else ""

def nameOf (declared : String) : String := "OF" ++ capsName (behindUnderscore declared)

def constantType (e : Enum) : Outcome FieldType :=
  match e.params.get? "wire_type" with
  | some type => orFault (type.bind constantTypes.get?) (.noEntry (type.getD "None"))
  | none => pure .u8

def build (declared : String) (isStable : Bool) (versions : Table Version Enum) :
    Outcome EnumType := do
  let name := nameOf declared
  let constants := (valuesByName versions).map fun (n, values) =>
    ({ name := lead name ++ upper (behindUnderscore n), values } : Constant)
  let traits := (fixedTraits.get? name).getD []
  let stable ← match isStable, versions with
    | true, (_, e) :: _ => do pure [.stableValue (← constantType e)]
    | _, _ => pure []
  pure
    { declared, name, isStable, versions
      constants := constants.filter fun c =>
        !(((omittedConstants.get? name).getD []).contains c.name)
      traits := traits ++ stable }

variable (e : EnumType) (c : Constant) (v : Version)

def wireType : Outcome FieldType := do
  constantType (← orFault (e.versions.get? v) (.noEntry v.dotted))

def isBitmask : Bool := e.versions.any fun (_, x) => x.isBitmask

def groups : List MaskedGroup := (maskedGroups.get? e.name).getD []

def groupOf? : Option MaskedGroup :=
  e.groups.find? (·.members.contains c.name)

def isMask : Bool := e.groups.any (·.mask = c.name)

def stableValue : Outcome Nat :=
  if e.isStable then orFault (c.values.values.head?) .noElement
  else throw (.refused ("Enum " ++ e.name ++ " not stable"))

def formatted : Outcome Value := do
  (← e.wireType v).formatValue (.nat (← orFault (c.values.get? v) (.noEntry v.dotted)))

def isSpeed (word : String) : Bool :=
  let digits := word.toList.takeWhile Char.isDigit
  match word.toList.drop digits.length with
  | unit :: 'B' :: _ => !digits.isEmpty && ['M', 'G', 'T', 'P'].contains unit
  | _ => false

def traitOf : ConstantTrait → Outcome Value
  | .portSpeed =>
    pure (.text (match splitOn '_' c.name with
      | _ :: word :: _ =>
        if isSpeed word then "PortSpeed.SPEED_" ++ word else "PortSpeed.SPEED_NONE"
      | _ => "PortSpeed.SPEED_NONE"))
  | .stpState => pure (.text (if (splitOn '_' c.name).head? = some "STP" then "true" else "false"))
  | .stableValue _ => do pure (.nat (← e.stableValue c))

def constant (name : String) : Outcome Constant :=
  orFault (e.constants.find? (·.name = name)) (.noEntry name)

def constantWith (value : Value) : Outcome Constant :=
  orFault (e.constants.find? fun c =>
    match c.values.get? v, value.number? with
    | some n, some m => (n : Int) = m
    | _, _ => false) (.noEntry e.name)

end EnumType

def isDeclaredStable (e : Enum) : Bool := e.params.get? "stable" = some (some "True")

/-- The enums of one name, in the versions asked for. -/
structure EnumFamily where
  /-- Whether the first of them is stable. -/
  isStable : Bool
  versions : Table Version Enum
  deriving DecidableEq, Repr

/-- Add an enum of a version to the families. All enums of a family must agree
whether they are stable. -/
def addToFamily (v : Version) (families : Table String EnumFamily) (e : Enum) :
    Outcome (Table String EnumFamily) :=
  match families.get? e.name with
  | none => pure (families.set e.name ⟨isDeclaredStable e, [(v, e)]⟩)
  | some f =>
    if f.isStable = isDeclaredStable e then
      pure (families.set e.name { f with versions := f.versions.set v e })
    else throw (.refused "Inconsistent enum stability (should be caught  by IR)")

/-- The families of enums in the versions asked for, each of which the model must
have. -/
def enumFamilies (m : Model) (versions : List Version) : Outcome (Table String EnumFamily) :=
  versions.foldlM (fun families v => do
    (← orFault (m.protocol? v) (.noEntry v.dotted)).enums.foldlM (addToFamily v) families) []

def enumsOf (m : Model) (versions : List Version) : Outcome (List EnumType) := do
  let all ← (← enumFamilies m versions).mapM fun (name, f) =>
    EnumType.build name f.isStable f.versions
  pure (all.filter fun e => !omittedEnums.contains e.name)

end FlowBindings.ObjectModel
