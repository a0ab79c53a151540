import FlowBindings.Proofs.IdentifierRegistry
import FlowBindings.Proofs.MacroText
import Mathlib.Data.List.Pairwise

/-!
# The macros of identifiers

An identifier becomes a few macros of a version. `IdentifierBlock` has what a compiler reads of
them, and `IdentifierBlock.WrittenAs` says how they are written. What they come to is
`MacroBody.eval`: an expression by itself, and the choice by version through the macro
`ValueMacro` that all identifiers share, whose arguments go to its parameters by their places
(`ValueMacro.apply_ofVersions`).

The text of the macros of an identifier is that of its block (`Catalog.renderMacros_eq`). No
macro is defined twice unless an identifier reads like another one with the ending of a macro
(`nodup_macroNames_iff`).
-/

namespace FlowBindings.Loci

open Text List

/-! ## The choice by version -/

/-- The macro that chooses a value by version. -/
structure ValueMacro where
  /-- Its parameters behind the version. -/
  parameters : List String
  /-- What it comes to. -/
  body : MacroExpr

namespace ValueMacro

/-- The definition of the macro. -/
def text (f : ValueMacro) : String :=
  "#define OF_VALUE_BY_VERSION(version, " ++ (join ", " f.parameters ++ (") \\\n    ("
    ++ (f.body.text ++ ")\n")))

/-- **What the macro comes to** in a version: arguments go to parameters by their places. -/
def apply (f : ValueMacro) (v : Version) (arguments : List Nat) : Option Nat :=
  if arguments.length = f.parameters.length then f.body.eval v (f.parameters.zip arguments)
  else none

/-- The macro for given versions. -/
def ofVersions (w : Version) (rest : List Version) : ValueMacro where
  parameters := (w :: rest).map Catalog.valueParameter
  body := .pick w rest

theorem valueParameter_injective {v w : Version}
    (h : Catalog.valueParameter v = Catalog.valueParameter w) : v = w := by
  have hall : ∀ v ∈ Version.all, ∀ w ∈ Version.all,
      Catalog.valueParameter v = Catalog.valueParameter w → v = w := by
    decide
  exact hall v (Version.mem_all v) w (Version.mem_all w) h

/-- **The macro chooses the argument of the version.** -/
theorem apply_ofVersions {v w : Version} {rest : List Version} (h : v ∈ w :: rest)
    (value : Version → Nat) :
    (ofVersions w rest).apply v ((w :: rest).map value) = some (value v) := by
  have hget : ∀ {l : List Version}, v ∈ l →
      Table.get? (l.map fun w => (Catalog.valueParameter w, value w)) (Catalog.valueParameter v)
        = some (value v) := by
    intro l hl
    induction l with
    | nil => exact absurd hl not_mem_nil
    | cons u l ih =>
      rw [map_cons, Table.get?_cons]
      by_cases hu : v = u
      · rw [if_pos (by rw [hu]), hu]
      · rw [if_neg fun heq => hu (valueParameter_injective heq).symm]
        exact ih ((mem_cons.mp hl).resolve_left hu)
  have hzip : ((w :: rest).map Catalog.valueParameter).zip ((w :: rest).map value)
      = (w :: rest).map fun w => (Catalog.valueParameter w, value w) := zip_map'
  unfold apply ofVersions
  rw [if_pos (by rw [length_map, length_map])]
  dsimp only
  rw [MacroExpr.eval_pick h, hzip, hget h]

end ValueMacro

/-! ## The macros of one identifier -/

/-- What an identifier's macro comes to: an expression, or the choice by version among given
numbers. -/
inductive MacroBody where
  /-- An expression. -/
  | expr (e : MacroExpr)
  /-- The choice by version. -/
  | byVersion (arguments : List String)

namespace MacroBody

/-- How it is written. -/
def text : MacroBody → String
  | expr e => e.text
  | byVersion arguments => "OF_VALUE_BY_VERSION(version, " ++ (join ", " arguments ++ ")")

/-- **What it comes to** in a version. -/
def eval (f : ValueMacro) (v : Version) : MacroBody → Option Nat
  | expr e => e.eval v [("OF_IDENT_IN_ALL_VERSIONS", 1)]
  | byVersion arguments => (arguments.mapM literalValue?).bind (f.apply v)

end MacroBody

/-- The macros of an identifier, as they are read in the header. -/
structure IdentifierBlock where
  /-- The identifier. -/
  name : String
  /-- The constant it stands for. -/
  constant : String
  /-- Whether a version has it. -/
  supported : MacroBody
  /-- Its value where no version is asked for, by its digits. -/
  common : Option String
  /-- Its value by version. -/
  byVersion : MacroBody
  /-- Whether it can be set, tested and cleared. -/
  isFlag : Bool
  /-- Its number. -/
  generic : Nat

/-- What may stand between a macro and its body, which may be on the next line. -/
inductive IsGap : String → Prop
  /-- The body on the same line. -/
  | sameLine : IsGap " "
  /-- The body of a value on the next line. -/
  | valueBelow : IsGap "     \\\n    "
  /-- The body of a test on the next line. -/
  | testBelow : IsGap "      \\\n    "

/-- A text defines a macro. -/
def Defines (head body text : String) : Prop :=
  ∃ gap, IsGap gap ∧ text = "#define " ++ (head ++ (gap ++ (body ++ "\n")))

/-- The definition of a value where no version is asked for, if there is one. -/
def commonText (name : String) : Option String → String
  | some digits => "#define " ++ (name ++ (" (" ++ (digits ++ ")\n")))
  | none => ""

/-- The definitions of the macros of a flag. -/
def flagText (name : String) : String :=
  "\n#define " ++ (name ++ ("_SET(flags, version)     \\\n    OF_FLAG_SET(flags, "
    ++ (name ++ ("_BY_VERSION(version))\n#define "
    ++ (name ++ ("_TEST(flags, version)    \\\n    OF_FLAG_TEST(flags, "
    ++ (name ++ ("_BY_VERSION(version))\n#define "
    ++ (name ++ ("_CLEAR(flags, version)   \\\n    OF_FLAG_CLEAR(flags, "
    ++ (name ++ "_BY_VERSION(version))\n")))))))))))

/-- **How the macros of an identifier are written.** -/
def IdentifierBlock.WrittenAs (b : IdentifierBlock) (text : String) : Prop :=
  ∃ supported byVersion, Defines (b.name ++ "_SUPPORTED(version)") b.supported.text supported
    ∧ Defines (b.name ++ "_BY_VERSION(version)") b.byVersion.text byVersion
    ∧ text = "\n/*\n * Defines for "
        ++ (b.name ++ ("\n * Original name " ++ (b.constant ++ "\n */\n")))
      ++ supported ++ (commonText b.name b.common ++ byVersion) ++ when b.isFlag (flagText b.name)
      ++ ("#define " ++ (b.name ++ ("_GENERIC " ++ (toString b.generic ++ "\n"))))

/-- What the names of the macros of an identifier have behind the identifier. -/
def IdentifierBlock.endings (b : IdentifierBlock) : List String :=
  "_SUPPORTED" :: (if b.common.isSome then [""] else []) ++ "_BY_VERSION"
    :: (if b.isFlag then ["_SET", "_TEST", "_CLEAR"] else []) ++ ["_GENERIC"]

/-- **The names of the macros of an identifier**, as they are written (`WrittenAs`). -/
def IdentifierBlock.macroNames (b : IdentifierBlock) : List String := b.endings.map (b.name ++ ·)

/-- Whether a version has an identifier, as an expression. -/
def Support.body : Support → MacroBody
  | .all => .expr (.name "OF_IDENT_IN_ALL_VERSIONS")
  | .only wires => .expr (.parens (.anyOf (wires.filterMap Version.ofWire?)))

namespace ValueByVersion

/-- The value of an identifier where no version is asked for. -/
def digits? : ValueByVersion → Option String
  | .common value => some (hexLiteral value)
  | .each _ => none

/-- The value of an identifier by version. -/
def body : ValueByVersion → MacroBody
  | .common value => .expr (.parens (.literal (hexLiteral value)))
  | .each values => .byVersion (values.map hexLiteral)

end ValueByVersion

/-- The macros of an identifier, in the form in which they are read. -/
def IdentifierMacros.block (x : IdentifierMacros) : IdentifierBlock where
  name := x.name
  constant := x.constant
  supported := x.support.body
  common := x.value.digits?
  byVersion := x.value.body
  isFlag := x.isFlag
  generic := x.generic

/-- What the holes in the texts of an identifier stand for. -/
abbrev IdentifierMacros.holes (x : IdentifierMacros) : Table String String :=
  [("ident", x.name), ("ofp_name", x.constant), ("count", toString x.generic)]

namespace Catalog

variable {c : Catalog}

theorem renderValue_eq (name : String) (value : ValueByVersion) :
    ∃ text, Defines (name ++ "_BY_VERSION(version)") value.body.text text
      ∧ renderValue name value = commonText name value.digits? ++ text := by
  cases value with
  | common value =>
    refine ⟨_, ⟨_, .sameLine, rfl⟩, ?_⟩
    dsimp only [renderValue, ValueByVersion.digits?, commonText, ValueByVersion.body,
      MacroBody.text, MacroExpr.text]
    simp only [String.append_assoc]
    refine Fills.form_eq (.text <| .hole "ident" <| .text <| .hole "value" <| .text <| .text <|
      .hole "ident" <| .text <| .text <| .text <| .hole "value" <| .text .last) ?_
    decide
  | each values =>
    refine ⟨_, ⟨_, .valueBelow, rfl⟩, ?_⟩
    dsimp only [renderValue, ValueByVersion.digits?, commonText, ValueByVersion.body,
      MacroBody.text]
    simp only [String.empty_append, String.append_assoc]
    refine Fills.form_eq (.text <| .hole "ident" <| .text <| .text <| .text <| .hole "val_str" <|
      .text .last) ?_
    decide

theorem filterMap_ofWire? (vs : List Version) :
    (vs.map Version.wire).filterMap Version.ofWire? = vs := by
  rw [filterMap_map]
  have hback : Version.ofWire? ∘ Version.wire = some := funext Version.ofWire?_wire
  rw [hback, filterMap_some]

theorem exists_versions {targets : List Version} {wires : List Nat}
    (h : ∀ w ∈ wires, ∃ v ∈ targets, v.wire = w) :
    ∃ vs : List Version, wires = vs.map Version.wire ∧ ∀ v ∈ vs, v ∈ targets := by
  induction wires with
  | nil => exact ⟨[], rfl, fun v hv => absurd hv not_mem_nil⟩
  | cons w wires ih =>
    obtain ⟨v, hv, rfl⟩ := h w mem_cons_self
    obtain ⟨vs, rfl, hvs⟩ := ih fun x hx => h x (mem_cons_of_mem _ hx)
    refine ⟨v :: vs, rfl, fun u hu => ?_⟩
    rcases mem_cons.mp hu with rfl | hu
    · exact hv
    · exact hvs u hu

theorem support_render_eq (name : String) {support : Support}
    (h : ∀ wires, support = .only wires → ∀ w ∈ wires, ∃ v ∈ c.targets, v.wire = w) :
    ∃ text, Defines (name ++ "_SUPPORTED(version)") support.body.text text
      ∧ Support.render c name support = .ok text := by
  cases support with
  | all =>
    refine ⟨_, ⟨_, .sameLine, rfl⟩, congrArg Except.ok ?_⟩
    rw [show "_SUPPORTED(version) OF_IDENT_IN_ALL_VERSIONS\n"
      = "_SUPPORTED(version)" ++ (" " ++ ("OF_IDENT_IN_ALL_VERSIONS" ++ "\n")) from rfl]
    dsimp only [Support.body, MacroBody.text, MacroExpr.text]
    simp only [String.append_assoc]
  | only wires =>
    refine ⟨_, ⟨_, .testBelow, rfl⟩, ?_⟩
    have htests : wires.mapM (fun w => do
        pure ("((version) == " ++ (← c.versionConstant w) ++ ")"))
        = .ok ((wires.filterMap Version.ofWire?).map MacroExpr.versionTest) := by
      obtain ⟨vs, rfl, hvs⟩ := exists_versions (h wires rfl)
      rw [filterMap_ofWire?, mapM_map]
      refine mapM_eq_ok fun v hv => ?_
      show (c.versionConstant v.wire >>= fun label => _) = _
      rw [versionConstant_of_mem (hvs v hv)]
      rfl
    refine bind_eq_ok_iff.mpr ⟨_, htests, congrArg Except.ok ?_⟩
    dsimp only [Support.body, MacroBody.text]
    rw [MacroExpr.text, MacroExpr.text_anyOf]
    simp only [String.append_assoc]
    refine Fills.form_eq (.text <| .hole "ident" <| .text <| .text <| .text <| .hole "sup_str" <|
      .text .last) ?_
    decide

/-- **The macros of an identifier are written as they are read.** -/
theorem renderMacros_eq (x : IdentifierMacros)
    (h : ∀ wires, x.support = .only wires → ∀ w ∈ wires, ∃ v ∈ c.targets, v.wire = w) :
    ∃ text, c.renderMacros x = .ok text ∧ x.block.WrittenAs text := by
  obtain ⟨supported, hsupported, hrender⟩ := support_render_eq x.name h
  obtain ⟨byVersion, hbyVersion, hvalue⟩ := renderValue_eq x.name x.value
  refine ⟨_, bind_eq_ok_iff.mpr ⟨supported, hrender, rfl⟩, supported, byVersion, hsupported,
    hbyVersion, ?_⟩
  have hhead : Fills x.holes _ ("\n/*\n * Defines for "
      ++ (x.name ++ ("\n * Original name " ++ (x.constant ++ "\n */\n")))) :=
    .text <| .hole "ident" <| .text <| .hole "ofp_name" .last
  have hflag : Fills x.holes _ (flagText x.name) :=
    .text <| .hole "ident" <| .text <| .hole "ident" <| .text <| .hole "ident" <| .text <|
      .hole "ident" <| .text <| .hole "ident" <| .text <| .hole "ident" .last
  have hnumber : Fills x.holes _
      ("#define " ++ (x.name ++ ("_GENERIC " ++ (toString x.generic ++ "\n")))) :=
    .text <| .hole "ident" <| .text <| .hole "count" .last
  rw [hvalue, hhead.form_eq ?_, hflag.form_eq ?_, hnumber.fill_eq ?_]
  · rfl
  · decide +kernel
  · decide +kernel
  · decide +kernel

end Catalog

/-! ## The names of all macros -/

/-- All endings there are. -/
def macroEndings : List String :=
  ["_SUPPORTED", "", "_BY_VERSION", "_SET", "_TEST", "_CLEAR", "_GENERIC"]

theorem endings_sublist (b : IdentifierBlock) : b.endings.Sublist macroEndings := by
  unfold IdentifierBlock.endings
  cases b.common.isSome <;> cases b.isFlag <;> decide

/-- Two names with endings are the same only if the identifiers are, or one of them has no
ending. -/
theorem eq_of_endings {n n' e e' : String} (he : e ∈ macroEndings) (he' : e' ∈ macroEndings)
    (hne : e ≠ "") (hne' : e' ≠ "") (h : n ++ e = n' ++ e') : n = n' := by
  have hsuffix : ∀ a ∈ macroEndings, ∀ b ∈ macroEndings,
      a ≠ "" → a.toList <:+ b.toList → a = b := by
    decide
  have hlists : n.toList ++ e.toList = n'.toList ++ e'.toList := by
    rw [← String.toList_append, h, String.toList_append]
  obtain rfl : e = e' := by
    have hback : e'.toList <:+ n.toList ++ e.toList := hlists ▸ suffix_append _ _
    rcases suffix_or_suffix_of_suffix (suffix_append n.toList e.toList) hback with hs | hs
    · exact hsuffix e he e' he' hne hs
    · exact (hsuffix e' he' e he hne' hs).symm
  rwa [String.append_left_inj] at h

/-- **When the macros of all identifiers have different names**: no identifier that is a macro by
itself is another identifier with one of its endings. -/
theorem nodup_macroNames_iff {blocks : List IdentifierBlock} (h : (blocks.map (·.name)).Nodup) :
    (blocks.flatMap (·.macroNames)).Nodup ↔ ∀ b ∈ blocks, b.common.isSome = true →
      ∀ b' ∈ blocks, ∀ e ∈ b'.endings, e ≠ "" → b.name ≠ b'.name ++ e := by
  have hplain : ∀ b : IdentifierBlock, "" ∈ b.endings ↔ b.common.isSome = true := by
    intro b
    unfold IdentifierBlock.endings
    cases b.common.isSome <;> cases b.isFlag <;> decide
  rw [nodup_flatMap]
  constructor
  · rintro ⟨-, hapart⟩ b hb hcommon b' hb' e he hne heq
    have hother : b ≠ b' := by
      rintro rfl
      rw [← String.append_empty (s := b.name), String.append_assoc, String.append_right_inj] at heq
      exact hne heq.symm
    have : Std.Symm (Function.onFun List.Disjoint IdentifierBlock.macroNames) :=
      ⟨fun _ _ hdisjoint _ hx hx' => hdisjoint hx' hx⟩
    refine hapart.forall hb hb' hother ?_ (mem_map.mpr ⟨e, he, heq.symm⟩)
    exact mem_map.mpr ⟨"", (hplain b).mpr hcommon, String.append_empty⟩
  · intro hnames
    refine ⟨fun b _ => ?_, (pairwise_map.mp h).imp_of_mem fun {b b'} hb hb' hother x hx hx' => ?_⟩
    · exact (((by decide : macroEndings.Nodup).sublist (endings_sublist b)).map
        fun e e' => (String.append_right_inj _).mp)
    · obtain ⟨e, he, rfl⟩ := mem_map.mp hx
      obtain ⟨e', he', heq⟩ := mem_map.mp hx'
      by_cases hne : e = ""
      · subst hne
        rw [String.append_empty] at heq
        by_cases hne' : e' = ""
        · subst hne'
          exact hother (by simpa using heq.symm)
        · exact hnames b hb ((hplain b).mp he) b' hb' e' he' hne' heq.symm
      · by_cases hne' : e' = ""
        · subst hne'
          rw [String.append_empty] at heq
          exact hnames b' hb' ((hplain b').mp he') b hb e he hne heq
        · exact hother (eq_of_endings ((endings_sublist b).subset he)
            ((endings_sublist b').subset he') hne hne' heq.symm)

end FlowBindings.Loci
