import FlowBindings.Loci.Catalog
import FlowBindings.Loci.Notice

/-!
# The header of identifiers

Each identifier becomes a few macros: whether a version has it, its value by
version, its value where the versions agree, and for flags how to set, clear and
test it. `Catalog.identifierMacros` lists what is defined, identifier by
identifier in the order of the header; the text is written from that list.
-/

namespace FlowBindings.Loci

open Text

inductive Support where
  | all
  | only (wires : List Nat)
  deriving DecidableEq, Repr

inductive ValueByVersion where
  /-- One value, whatever the version. -/
  | common (value : Int)
  /-- A value per version asked for, in their order; 0 where a version has not
  got the identifier. -/
  | each (values : List Int)
  deriving DecidableEq, Repr

structure IdentifierMacros where
  name : String
  constant : String
  support : Support
  value : ValueByVersion
  isFlag : Bool
  generic : Nat
  deriving DecidableEq, Repr

def hexLiteral (n : Int) : String := Text.hexInt n

/-- The macros of an identifier for the versions asked for, with its name and number. -/
def Identifier.macros (i : Identifier) (targets : List Version) (name : String) (generic : Nat) :
    IdentifierMacros :=
  let asked := targets.map Version.wire
  let wires := i.values.keys.mergeSort fun a b => a ≤ b
  { name := name
    constant := i.constant
    support := if wires.length = targets.length then .all else .only wires
    value := if i.agreesOn asked then .common i.common
      else .each (asked.map fun w => (i.values.get? w).getD 0)
    isFlag := Identifier.isFlagName name
    generic := generic }

namespace Catalog

variable (c : Catalog) (name : String)

def sortedGroups : List (String × List String) :=
  (c.identifiers.groups.map fun (group, names) => (group, sortNames names)).mergeSort
    fun a b => a.1 ≤ b.1

def macrosOf (generic : Nat) : Outcome IdentifierMacros := do
  pure ((← c.identifiers.byName.need name).macros c.targets name generic)

def macrosFrom (c : Catalog) : Nat → List (String × List String) →
    Outcome (List (String × List IdentifierMacros))
  | _, [] => pure []
  | start, (group, names) :: rest => do
    let macros ← (names.zipIdx start).mapM fun (name, n) => c.macrosOf name n
    pure ((group, macros) :: (← macrosFrom c (start + names.length) rest))

def identifierMacros : Outcome (List (String × List IdentifierMacros)) :=
  c.macrosFrom 1 c.sortedGroups

def Support.render : Support → Outcome String
  | .all => pure ("#define " ++ name ++ "_SUPPORTED(version) OF_IDENT_IN_ALL_VERSIONS\n")
  | .only wires => do
    let tests ← wires.mapM fun w => do pure ("((version) == " ++ (← c.versionConstant w) ++ ")")
    pure (form [("ident", name), ("sup_str", join " || \\\n     " tests)] r"
δ«ident»_SUPPORTED(version)	  \
	(«sup_str»)
")

def renderValue : ValueByVersion → String
  | .common value => form [("ident", name), ("value", hexLiteral value)] r"
δ«ident» («value»)
δ«ident»_BY_VERSION(version) («value»)
"
  | .each values => form [("ident", name), ("val_str", join ", " (values.map hexLiteral))] r"
δ«ident»_BY_VERSION(version)	 \
	OF_VALUE_BY_VERSION(version, «val_str»)
"

def renderMacros (m : IdentifierMacros) : Outcome String := do
  let holes := [("ident", m.name), ("ofp_name", m.constant), ("count", toString m.generic)]
  pure (form holes r"

/*
 * Defines for «ident»
 * Original name «ofp_name»
 */
"
    ++ (← Support.render c m.name m.support)
    ++ renderValue m.name m.value
    ++ when m.isFlag (form holes r"

δ«ident»_SET(flags, version)	 \
	OF_FLAG_SET(flags, «ident»_BY_VERSION(version))
δ«ident»_TEST(flags, version)	\
	OF_FLAG_TEST(flags, «ident»_BY_VERSION(version))
δ«ident»_CLEAR(flags, version)   \
	OF_FLAG_CLEAR(flags, «ident»_BY_VERSION(version))
")
    ++ fill holes "#define «ident»_GENERIC «count»\n")

def valueParameter (v : Version) : String := "value_" ++ v.constant "OF_"

/-- The expression that picks a version's value. The last value serves for
versions not asked for. Versions must differ for this to be of use: with fewer
than two there is no such expression. -/
def pickValue : Outcome (String × String) :=
  match c.targets.getLast? with
  | none => throw (.unassigned "vbv_params")
  | some last =>
    if c.targets.length ≤ 1 then throw (.unassigned "vbv_params")
    else
      let tests := c.targets.map fun v =>
        "((version) == " ++ v.constant "OF_VERSION_" ++ ") ? (" ++ valueParameter v ++ ") : "
      pure (join ", " (c.targets.map valueParameter),
        join "\\\n     " tests ++ "(" ++ valueParameter last ++ ")")

def identifierPreface (fileName : String) : String :=
  topMatter fileName ++ block r"

¶For each identifier from an OpenFlow header file, a Loxi version
 * of the identifier is generated.  For example, ofp_port_flood becomes
 * OF_PORT_DEST_FLOOD.  Loxi provides the following macros related to
 * OpenFlow identifiers (using OF_IDENT_ as an example below):
 *	 OF_IDENT_BY_VERSION(version) Get the value for the specific version
 *	 OF_IDENT_SUPPORTED(version) Boolean: Is OF_IDENT defined for version
 *	 OF_IDENT The common value across all versions if defined
 *	 OF_IDENT_GENERIC A unique value across all OF identifiers
 *
 * For identifiers marked as flags, the following are also defined
 *	 OF_IDENT_SET(flags, version)
 *	 OF_IDENT_CLEAR(flags, version)
 *	 OF_IDENT_TEST(flags, version)
 *
 * Notes:
 *
 *	 OF_IDENT_BY_VERSION(version) returns an undefined value
 * if the passed version does not define OF_IDENT.  It does not generate an
 * error, nor record anything to the log file.  If the value is the same
 * across all defined versions, the version is ignored.
 *
 *	 OF_IDENT is only defined if the value is the same across all
 * target LOXI versions FOR WHICH IT IS DEFINED.  No error checking is
 * done.  This allows code to be written without requiring the version
 * to be known or referenced when it doesn't matter.  It does mean
 * that when porting to a new version of OpenFlow, compile errors may
 * occur.  However, this is an indication that the existing code must
 * be updated to account for a change in the semantics with the newly
 * supported OpenFlow version.
 *
 * @fixme Currently we do not handle multi-bit flags or field values; for
 * example, OF_TABLE_CONFIG_TABLE_MISS_CONTROLLER is the meaning for
 * a zero value in the bits indicated by OF_TABLE_CONFIG_TABLE_MISS_MASK.
 *
 * @fixme Need to decide (or make a code gen option) on the requirement
 * for defining OF_IDENT:  Is it that all target versions define it and
 * the agree?  Or only that the versions which define it agree?
 */
"

def flagMacros : String := block r"

¶@brief Generic set a flag
 */
δOF_FLAG_SET(flags, mask) (flags) = (flags) | (mask)

¶@brief Generic test if a flag is set
 */
δOF_FLAG_CLEAR(flags, mask) (flags) = (flags) & ~(mask)

¶@brief Generic test if a flag is set
 */
δOF_FLAG_TEST(flags, mask) ((flags) & (mask) ? 1 : 0)

¶@brief Set a flag where the value is an enum indication of bit shift
 */
δOF_FLAG_ENUM_SET(flags, e_val) OF_FLAG_SET(flags, 1 << (e_val))

¶@brief Clear a flag where the value is an enum indication of bit shift
 */
δOF_FLAG_ENUM_CLEAR(flags, e_val) OF_FLAG_CLEAR(flags, 1 << (e_val))

¶@brief Test a flag where the value is an enum indication of bit shift
 */
δOF_FLAG_ENUM_TEST(flags, e_val) OF_FLAG_TEST(flags, 1 << (e_val))
"

def sharedMacros (parameters expression : String) : String :=
  form [("1", parameters), ("2", expression)] r"

¶@brief True for the special case of all versions supported
 */
δOF_IDENT_IN_ALL_VERSIONS 1 /* Indicates identifier in all versions */

¶@brief General macro to map version to value where values given as params
 *
 * If unknown version is passed, use the latest version's value
 */
δOF_VALUE_BY_VERSION(version, «1») \
	(«2»)
"
  ++ flagMacros

def renderGroup (group : String) (macros : List IdentifierMacros) :
    Outcome String := do
  pure (form [("1", group)] r"

/§
 * Identifiers from «1»
 *****************************************************************/
"
    ++ concat (← macros.mapM c.renderMacros))

def identifierHeader (fileName : String) : Outcome String := do
  let (parameters, expression) ← c.pickValue
  let groups ← (← c.identifierMacros).mapM fun (group, macros) => c.renderGroup group macros
  pure (identifierPreface fileName
    ++ sharedMacros parameters expression
    ++ concat groups
    ++ "\n#endif /* Loci identifiers header file */\n")

end Catalog

end FlowBindings.Loci
