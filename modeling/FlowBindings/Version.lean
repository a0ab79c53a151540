/-!
# Protocol versions

The six published versions of the OpenFlow protocol. A version is known by two
names: the dotted number of the specification (`"1.3"`) and the number its
messages carry on the wire (`4`). Both are total functions of the version, and
both can be read back; nothing else in the library compares versions by text.
-/

namespace FlowBindings

/-- A published version of the OpenFlow protocol. -/
inductive Version where
  | v10
  | v11
  | v12
  | v13
  | v14
  | v15
  deriving DecidableEq, Repr

namespace Version

/-- Every version, oldest first. -/
def all : List Version := [v10, v11, v12, v13, v14, v15]

/-- The number a message of this version carries in its first byte. -/
def wire : Version → Nat
  | v10 => 1
  | v11 => 2
  | v12 => 3
  | v13 => 4
  | v14 => 5
  | v15 => 6

def dotted : Version → String
  | v10 => "1.0"
  | v11 => "1.1"
  | v12 => "1.2"
  | v13 => "1.3"
  | v14 => "1.4"
  | v15 => "1.5"

/-- The number without its point: two digits, as file and class names use it. -/
def digits : Version → String
  | v10 => "10"
  | v11 => "11"
  | v12 => "12"
  | v13 => "13"
  | v14 => "14"
  | v15 => "15"

/-- The number with an underscore for its point, as constants use it. -/
def underscored : Version → String
  | v10 => "1_0"
  | v11 => "1_1"
  | v12 => "1_2"
  | v13 => "1_3"
  | v14 => "1_4"
  | v15 => "1_5"

def ofWire? : Nat → Option Version
  | 1 => some v10
  | 2 => some v11
  | 3 => some v12
  | 4 => some v13
  | 5 => some v14
  | 6 => some v15
  | _ => none

def ofDotted? (text : String) : Option Version :=
  all.find? (·.dotted == text)

/-- The version as a constant's name: a lead-in, then the underscored number. -/
def constant (leadIn : String) (v : Version) : String :=
  leadIn ++ v.underscored

/-- A wire number leads back to its version. -/
@[simp]
theorem ofWire?_wire (v : Version) : ofWire? v.wire = some v := by
  cases v <;> rfl

/-- Distinct versions have distinct wire numbers. -/
theorem wire_injective {v w : Version} (h : v.wire = w.wire) : v = w := by
  have : ofWire? v.wire = ofWire? w.wire := by rw [h]
  simpa using this

/-- `all` leaves no version out. -/
theorem mem_all (v : Version) : v ∈ all := by
  cases v <;> simp [all]

end Version

end FlowBindings
