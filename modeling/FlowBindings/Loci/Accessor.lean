import FlowBindings.Loci.Catalog
import FlowBindings.Text.Form

/-!
# Accessors

Each member of a class has functions that read and write it. Where the member
lies in the object, and how long it is, depends on the version, so every accessor
begins with a switch over versions. Neighbouring versions that agree share an
arm: `Catalog.arms` computes the arms, and the text of the switch is written
from them.

Members of object type are bound instead of read: the child shares the buffer of
its parent.
-/

namespace FlowBindings.Loci

open Text

inductive Access where
  | get
  | set
  /-- Let a child object share the buffer of its parent. -/
  | bind
  deriving DecidableEq, Repr

namespace Access

def suffix : Access → String
  | get => "get"
  | set => "set"
  | bind => "bind"

end Access

def enumName (cls : String) : String := upper cls

/-! ## Names and types -/

def wireAccessor (type verb : String) : String :=
  let short := match WireForm.builtin.get? type with
    | some f => f.shortName
    | none => type
  let short := match WireForm.mixed.get? short with
    | some m => m.shortName
    | none => short
  let short := trimTail short "_t"
  "of_wire_buffer_" ++ (if short = "octets" then "octets_data" else short) ++ "_" ++ verb

def objectCheck (cls : String) : String :=
  if ["of_flow_modify", "of_flow_modify_strict", "of_flow_delete", "of_flow_delete_strict",
      "of_flow_add"].contains cls then "IS_FLOW_MOD_SUBTYPE(obj->object_id)"
  else "obj->object_id == " ++ enumName cls

namespace Catalog

variable (c : Catalog) (cls member type : String)

/-- Whether an accessor may fail: writing a value of variable length, and
anything done with a match. -/
def returnsError (a : Access) (type : String) : Bool :=
  (a = .set && !WireForm.isScalar type && c.wires.any (c.isVariable (dropLast 2 type) ·))
    || type = "of_match_t"

def returnType (a : Access) (type : String) : String :=
  if c.returnsError a type then "int WARN_UNUSED_RESULT" else "void"

def returnValue (a : Access) (type : String) : String :=
  if c.returnsError a type then "OF_ERROR_NONE" else ""

def bareType : Outcome String := do
  pure (trimTail (← (← c.record cls).union.need member).type "_t")

def accessorType : Outcome String := do
  pure (cls ++ "_" ++ (← c.bareType cls member))

def parameters (a : Access) :
    Outcome (List String) := do
  let type := (← (← c.record cls).union.need member).type
  pure [cls ++ "_t *obj",
    if a = .set && WireForm.isScalar type then type ++ " " ++ member
    else type ++ " *" ++ member]

def parameterText (a : Access) : Outcome String := do
  pure (join ",\n    " (← c.parameters cls member a))

/-! ## Where a member lies -/

/-- A member's type and offset in one version. -/
structure Placement where
  /-- Its type, with a mixed type resolved for the version. -/
  type : String
  /-- Its offset; -1 if that varies. -/
  offset : Int
  deriving DecidableEq, Repr

/-- The versions that have a member, by their numbers, with where it lies in each. -/
def placements : Outcome (Table Nat Placement) := do
  let r ← c.record cls
  pure (r.layouts.keys.filterMap fun wire =>
    ((r.members wire).find? (·.name = member)).map fun m =>
      (wire, ⟨((WireForm.mixedForm? m.type wire).join).getD m.type, m.offset⟩))

def matchOffset : Outcome Int := do
  match (← c.placements cls "match").get? 3 with
  | some p => pure (if p.type = "of_match_v3_t" then p.offset else -1)
  | none => pure (-1)

def typeIn (wire : Nat) : Outcome String :=
  match WireForm.mixedForm? type wire with
  | none => pure type
  | some form => orFault form (.noEntry (toString wire))

/-- The number of bytes that a type with one form takes in a version; -1 if that varies. -/
def knownLength? (wire : Nat) : Option Int :=
  match WireForm.builtin.get? type with
  | some f => some ((f.bytes.map Int.ofNat).getD (-1))
  | none => (c.baseLengths.get? (dropLast 2 type, wire)).map Int.ofNat

def unknownLength (version : String) : Fault :=
  .exit 1 ["Unknown length request " ++ type ++ " " ++ version] ""

def lengthOf (wire : Nat) : Outcome Int := do
  let type ← typeIn type wire
  orFault (c.knownLength? type wire) (unknownLength type (toString wire))

def lengthExpr : String :=
  if startsWith type "of_match" then "_WIRE_MATCH_PADDED_LEN(obj, offset)"
  else if startsWith type "of_list_oxm" then "wire_match_len(obj, 0) - 4"
  else if c.isTypeLength type then "_TLV16_LEN(obj, offset)"
  else if cls = "of_packet_out" && type = "of_list_action_t" then
    "_PACKET_OUT_ACTION_LEN(obj)"
  else if cls = "of_bsn_gentable_entry_add" && member = "key" then
    "of_object_u16_get(obj, 18)"
  else if cls = "of_bsn_gentable_entry_desc_stats_entry" && member = "key" then
    "of_object_u16_get(obj, 2)"
  else if cls = "of_bsn_gentable_entry_stats_entry" && member = "key" then
    "of_object_u16_get(obj, 2)"
  else "_END_LEN(obj, offset)"

/-- The members without fixed offset for which the library has a macro that
computes it. -/
def hasOffsetMacro : Bool :=
  (isFlowMod cls && member = "instructions")
    || [("of_flow_stats_entry", "instructions"), ("of_packet_in", "data"),
        ("of_packet_out", "data"), ("of_bsn_gentable_entry_add", "value"),
        ("of_bsn_gentable_entry_desc_stats_entry", "value"),
        ("of_bsn_gentable_entry_stats_entry", "stats")].contains (cls, member)

/-- What an arm of an accessor's switch assigns. -/
structure Assignments where
  offset : String
  /-- Its current length; members handled by value need none. -/
  length : Option String
  deriving DecidableEq, Repr

def assignments (wire : Nat) (type : String) (offset : Int) : Outcome Assignments := do
  let offsetText ←
    if offset ≠ -1 then pure (toString offset)
    else if hasOffsetMacro cls member then
      pure ("_" ++ dropFirst 3 (upper cls) ++ "_" ++ upper member ++ "_OFFSET(obj)")
    else throw (.exit 1 [] "")
  if WireForm.isScalar type then pure ⟨offsetText, none⟩
  else if c.isVariable (dropLast 2 type) wire || type = "of_match_t" then
    pure ⟨offsetText, some (c.lengthExpr cls member type)⟩
  else
    match c.baseLengths.get? (dropLast 2 type, wire) with
    | some n => pure ⟨offsetText, some (toString n)⟩
    | none => throw (.noEntry type)

def Assignments.render (a : Assignments) : String :=
  "        offset = " ++ a.offset ++ ";\n"
    ++ (a.length.map fun l => "        cur_len = " ++ l ++ ";\n").getD ""
    ++ "        break;\n"

structure Arm where
  wires : List Nat
  body : Assignments
  deriving DecidableEq, Repr

/-- The arms for the versions in `rest`, behind the versions in `wires` that
share the placement `p` of length `len`. A closed arm is computed for its first
version, the last one for the last version of all. -/
def armsFrom (c : Catalog) (cls member type : String) (first : Nat) (wires : List Nat)
    (p : Placement) (len : Int) : List (Nat × Placement) → Outcome (List Arm)
  | [] => do
    let body ← c.assignments cls member (wires.getLastD first) type p.offset
    pure [⟨wires, body⟩]
  | (wire, q) :: rest => do
    let qlen ← c.lengthOf q.type wire
    if q.offset = p.offset ∧ qlen = len then
      armsFrom c cls member type first (wires ++ [wire]) p len rest
    else
      let body ← c.assignments cls member first type p.offset
      let more ← armsFrom c cls member type wire [wire] q qlen rest
      pure (⟨wires, body⟩ :: more)

variable (places : Table Nat Placement)

/-- The arms of an accessor's switch: the versions in increasing order,
neighbours that agree on offset and length in one arm. -/
def arms :
    Outcome (List Arm) :=
  match places.mergeSort (fun a b => a.1 ≤ b.1) with
  | [] => throw (.unassigned "first")
  | (wire, p) :: rest => do
    let len ← c.lengthOf p.type wire
    armsFrom c cls member type wire [wire] p len rest

def Arm.render (arm : Arm) : Outcome String := do
  let labels ← arm.wires.mapM c.versionConstant
  pure (each labels (fun l => "    case " ++ l ++ ":\n") ++ arm.body.render)

/-! ## Bodies -/

def getBody (member : String) : String :=
  let holes := [("m_name", member), ("m_type", dropLast 2 type)]
  if WireForm.isScalar type then
    form [("wa", wireAccessor type "get"), ("ver", when (WireForm.mixed.has type) "ver, "),
        ("m_name", member)] r"
	«wa»(«ver»wbuf, abs_offset, «m_name»);
"
      ++ when (type = "of_port_no_t") ("    OF_PORT_NO_VALUE_CHECK(*" ++ member ++ ", ver);\n")
  else if type = "of_octets_t" then
    form holes r"
	λcur_len + abs_offset <= WBUF_CURRENT_BYTES(wbuf));
	«m_name»->bytes = cur_len;
	«m_name»->data = OF_WIRE_BUFFER_INDEX(wbuf, abs_offset);
"
  else if type = "of_match_t" then
    form holes r"

	λcur_len + abs_offset <= WBUF_CURRENT_BYTES(wbuf));
	OF_TRY(μdeserialize(ver, «m_name», obj, offset, cur_len));
"
  else
    form holes r"

	/* Initialize child */
	«m_type»_init(«m_name», obj->version, 0, 1);
	/* Attach to parent */
	ωattach(obj, «m_name», offset, cur_len);
"
      ++ when (type = "of_oxm_t") ("    of_object_wire_init(" ++ member ++ ", OF_OXM, 0);\n")
      ++ when (type = "of_bsn_vport_t")
        ("    of_object_wire_init(" ++ member ++ ", OF_BSN_VPORT, 0);\n")

def putValue (member : String) : String :=
  let holes := [("m_name", member), ("ret_success", c.returnValue .set type)]
  if WireForm.isScalar type || type = "of_octets_t" then
    when (type = "of_octets_t") (form holes r"
	new_len = «m_name»->bytes;
	βgrow(wbuf, abs_offset + (new_len - cur_len));
")
    ++ form [("wa", wireAccessor type "set"), ("ver", when (WireForm.mixed.has type) "ver, "),
        ("m_name", member), ("cur_len", when (type = "of_octets_t") ", cur_len")] r"
	«wa»(«ver»wbuf, abs_offset, «m_name»«cur_len»);
"
  else if type = "of_match_t" then
    form holes r"

	{
		/* Match object */
		of_octets_t match_octets;
		OF_TRY(μserialize(ver, «m_name», &match_octets));
		new_len = match_octets.bytes;
		βreplace_data(wbuf, abs_offset, cur_len,
			match_octets.data, new_len);
		/* Free match serialized octets */
		FREE(match_octets.data);
	}
"
  else
    "\n    /* LOCI object type */" ++ form holes r"

	new_len = «m_name»->length;
	/* If underlying buffer already shared; nothing to do */
	if (obj->wbuf == «m_name»->wbuf) {
		βgrow(wbuf, abs_offset + new_len);
		/* Verify that the offsets are correct */
		λabs_offset == ΩABSOLUTE_OFFSET(«m_name», 0));
		/* λnew_len == cur_len); */ /* fixme: may fail for OXM lists */
		ρ«ret_success»;
	}

	/* Otherwise, replace existing object in data buffer */
	βreplace_data(wbuf, abs_offset, cur_len,
		ΩBUFFER_INDEX(«m_name», 0), new_len);
"

/-- How a writing accessor keeps lengths right after a value that may have
changed its length. -/
def updateLengths (member : String) : String :=
  let holes := [("m_name", member)]
  (if cls = "of_packet_out" && type = "of_list_action_t" then
      form holes r"

	/* Special case for setting action lengths */
	_PACKET_OUT_ACTION_LEN_SET(obj, «m_name»->length);
"
    else if cls = "of_bsn_gentable_entry_add" && member = "key" then
      form holes r"

	/* Special case for setting key length */
	ωu16_set(obj, 18, «m_name»->length);
"
    else if ["of_bsn_gentable_entry_desc_stats_entry",
        "of_bsn_gentable_entry_stats_entry"].contains cls && member = "key" then
      form holes r"

	/* Special case for setting key length */
	ωu16_set(obj, 2, «m_name»->length);
"
    else if !(["of_match_t", "of_octets_t"].contains type) then
      form holes r"

	/* @fixme Shouldn't this precede copying value's data to buffer? */
	ωwire_length_set((ωt *)«m_name», «m_name»->length);
"
    else "")
  ++ block r"

	/* Not scalar, update lengths if needed */
	delta = new_len - cur_len;
	if (delta != 0) {
		/* Update parent(s) */
		ωparent_length_update((ωt *)obj, delta);
	}
"

def setBody (member : String) : String :=
  c.putValue type member
    ++ when (!WireForm.isScalar type) (updateLengths cls type member)

def accessorBody (a : Access) (type : String) : Outcome String := do
  let arms ← c.arms cls member type places
  let switch ← arms.mapM (Arm.render c)
  let isScalar := WireForm.isScalar type
  pure (block r"
{
	βt *wbuf;
	int offset = 0; /* Offset of value relative to the start obj */
	int abs_offset; /* Offset of value relative to start of wbuf */
	of_version_t ver;
"
    ++ when (!isScalar) "    int cur_len = 0; /* Current length of object data */\n"
    ++ when (!isScalar && a = .set)
      "    int new_len, delta; /* For set, need new length and delta */\n"
    ++ form [("assert_str", objectCheck cls)] r"

	λ«assert_str»);
	ver = obj->version;
	wbuf = ΩTO_WBUF(obj);
	λwbuf != NULL);

	/* By version, determine offset and current length (where needed) */
	switch (ver) {
"
    ++ concat switch
    ++ block r"
	default:
		λ0);
	}

	abs_offset = ΩABSOLUTE_OFFSET(obj, offset);
	λabs_offset >= 0);
"
    ++ when (!isScalar) "    LOCI_ASSERT(cur_len >= 0 && cur_len < 64 * 1024);\n"
    ++ (if a = .set then c.setBody cls type member else getBody type member)
    ++ form [("1", c.returnValue a type)] r"

	OF_LENGTH_CHECK_ASSERT(obj);

	ρ«1»;
}
")

/-! ## Definitions -/

def accessorHead (a : Access) (type : String) :
    Outcome String := do
  pure (c.returnType a type ++ "\n" ++ cls ++ "_" ++ member ++ "_" ++ a.suffix
    ++ "(\n    " ++ (← c.parameterText cls member a) ++ ")\n")

def copyChild : String :=
  form [("m_name", member), ("m_type", type), ("cls", cls)] r"

¶Create a copy of «m_name» into a new variable of type «m_type» from
 * a «cls» instance.
 *
πobj Pointer to the source of type «cls»_t
 * @returns A pointer to a new instance of type «m_type» whose contents
 * match that of «m_name» from source
 * @returns NULL if an error occurs
 */
«m_type» *
«cls»_«m_name»_get(«cls»_t *obj) {
	«m_type» _«m_name»;
	«m_type» *_«m_name»_ptr;

	«cls»_«m_name»_bind(obj, &_«m_name»);
	_«m_name»_ptr = («m_type» *)ωdup(&_«m_name»);
	ρ_«m_name»_ptr;
}
"

def bindDefinition : Outcome String := do
  pure (form [("m_name", member), ("m_type", type), ("cls", cls)] r"

¶Bind an object of type «m_type» to the parent of type «cls» for
 * member «m_name»
πobj Pointer to an object of type «cls».
π«m_name» Pointer to the child object of type
 * «m_type» to be filled out.
 * \ingroup «cls»
 *
 * The parameter «m_name» is filled out to point to the same underlying
 * wire buffer as its parent.
 *
 */
"
    ++ (← c.accessorHead cls member .bind type)
    ++ (← c.accessorBody cls member places .bind type))

def getDefinition : Outcome String := do
  pure (form [("m_name", member), ("m_type", type), ("cls", cls)] r"

¶Get «m_name» from an object of type «cls».
πobj Pointer to an object of type «cls».
π«m_name» Pointer to the child object of type
 * «m_type» to be filled out.
 *
 */
"
    ++ (← c.accessorHead cls member .get type)
    ++ (← c.accessorBody cls member places .get type))

def setDefinition : Outcome String := do
  let holes := [("m_name", member), ("m_type", type), ("cls", cls)]
  pure (form holes r"

¶Set «m_name» in an object of type «cls».
πobj Pointer to an object of type «cls».
"
    ++ (if WireForm.isScalar type || type = "of_octets_t" then
        form holes r"
π«m_name» The value to write into the object
 */
"
      else
        form holes r"
π«m_name» Pointer to the child of type «m_type».
 *
 * If the child's wire buffer is the same as the parent's, then
 * nothing is done as the changes have already been registered in the
 * parent.  Otherwise, the data in the child's wire buffer is inserted
 * into the parent's and the appropriate lengths are updated.
 */
")
    ++ (← c.accessorHead cls member .set type)
    ++ (← c.accessorBody cls member places .set type))

def accessible : Outcome (List String) := do
  pure ((← c.record cls).order.filter fun m => !WireForm.maintained.contains m)

def accessorDefinitions : Outcome String := do
  concat <$> (← c.accessible cls).mapM fun member => do
    let type ← c.memberType cls member
    let places ← c.placements cls member
    let reading ←
      if c.isObjectType type then do
        pure ((← c.bindDefinition cls member type places)
          ++ copyChild cls member type)
      else c.getDefinition cls member type places
    pure (reading ++ (← c.setDefinition cls member type places))

/-! ## Declarations -/

def accessorDeclaration : Outcome String := do
  let type ← c.memberType cls member
  let holes := [("base_name", cls ++ "_" ++ member), ("m_name", member), ("m_type", type),
    ("cls", cls),
    ("sparams", ← c.parameterText cls member .set),
    ("bparams", ← c.parameterText cls member .bind),
    ("gparams", ← c.parameterText cls member .get),
    ("set_ret_type", c.returnType .set type), ("bind_ret_type", c.returnType .bind type),
    ("get_ret_type", c.returnType .get type)]
  pure (if c.isObjectType type then
    form holes r"

extern «set_ret_type» «base_name»_set(
	«sparams»);
extern «bind_ret_type» «base_name»_bind(
	«bparams»);
extern «m_type» *«cls»_«m_name»_get(
	«cls»_t *obj);
"
  else
    form holes r"

extern «set_ret_type» «base_name»_set(
	«sparams»);
extern «get_ret_type» «base_name»_get(
	«gparams»);
")

def listDeclaration : String :=
  form [("cls", cls), ("u_cls", upper cls),
      ("e_type", WireForm.entryClass cls)] r"

extern int «cls»_first(
	«cls»_t *list, ωt *iter);
extern int «cls»_next(
	«cls»_t *list, ωt *iter);
extern int «cls»_append_bind(
	«cls»_t *list, ωt *iter);
extern int «cls»_append(
	«cls»_t *list, ωt *iter);

¶Iteration macro for list of type «cls»
πlist Pointer to the list being iterated over of
 * type «cls»
πelt Pointer to an element of type «e_type»
πrv On exiting the loop will have the value εRANGE.
 */
δ«u_cls»_ITER(list, elt, rv)  \
	for ((rv) = «cls»_first((list), (elt));   \
		 (rv) == εNONE;   \
		 (rv) = «cls»_next((list), (elt)))
"

def accessorDeclarations : Outcome String := do
  let parts ← c.classes.mapM fun cls => do
    if (← c.isVirtual cls) && !WireType.isListClass cls then pure ""
    else
      let members ← (← c.accessible cls).mapM (c.accessorDeclaration cls)
      pure ("\n/* Unified accessor functions for " ++ cls ++ " */\n" ++ concat members
        ++ when (WireType.isListClass cls) (listDeclaration cls))
  pure (block r"

/§
 *
 * Unified, per-member accessor function declarations
 *
 §/
"
    ++ concat parts)

end Catalog

end FlowBindings.Loci
