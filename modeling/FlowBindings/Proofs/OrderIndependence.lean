import FlowBindings.Proofs.Declared
import Mathlib.Data.List.Sort
import Mathlib.Data.String.Basic

/-!
# The order of declarations

A protocol is a function of what is declared, not of where: the same classes and
enums, spread differently over files and listed in another order, give the same
classes in the same order, or the same complaint. Only the enums follow the
order of the files.

The walk never looks at its tables as a whole. It asks which class has a name,
which type the enum of a name has on the wire and how many classes there are, and
`Agree` says that two pairs of tables answer these three alike. Everything the walk does is then the
same on both, step by step and complaint by complaint, down to the path a cycle
is reported with. The order of the walk itself comes from the sorted names, which
forget how the names were listed (`sortedNames_eq_of_perm`).
-/

namespace FlowBindings

open List

namespace Protocol

/-- **Tables that answer every question of the walk alike.** -/
structure Agree (decls decls' : Declared) (enums enums' : List Enum) : Prop where
  /-- The same class under each name. -/
  class_eq : ∀ n, (decls.get? n).map Prod.fst = (decls'.get? n).map Prod.fst
  /-- The same type on the wire for the enum under each name. -/
  wireType_eq : ∀ n, (enums.find? fun e => e.name = n).map Enum.wireType?
    = (enums'.find? fun e => e.name = n).map Enum.wireType?
  /-- The same number of classes, which bounds the depth of the walk. -/
  length_eq : decls.length = decls'.length

namespace Agree

variable {v : Version} {decls decls' : Declared} {enums enums' : List Enum}

variable (h : Agree decls decls' enums enums')

include h

/-- Both tables lack a name, or both hold the same class under it. -/
theorem get?_cases (n : String) :
    (decls.get? n = none ∧ decls'.get? n = none)
      ∨ ∃ c file file', decls.get? n = some (c, file) ∧ decls'.get? n = some (c, file') := by
  have hn := h.class_eq n
  cases hget : decls.get? n with
  | none =>
    rw [hget, Option.map_none] at hn
    exact Or.inl ⟨rfl, Option.map_eq_none_iff.mp hn.symm⟩
  | some p =>
    rw [hget, Option.map_some] at hn
    obtain ⟨q, hq, hqp⟩ := Option.map_eq_some_iff.mp hn.symm
    exact Or.inr ⟨p.1, p.2, q.2, rfl, by rw [hq, ← hqp]⟩

theorem has_eq (n : String) :
    decls.has n = decls'.has n := by
  rw [Table.has_eq_isSome, Table.has_eq_isSome]
  obtain ⟨hn, hn'⟩ | ⟨c, file, file', hn, hn'⟩ := h.get?_cases n
  · rw [hn, hn']
  · rw [hn, hn']
    rfl

theorem dependencies_eq :
    dependencies decls = dependencies decls' := by
  funext m
  unfold dependencies
  cases m.type? with
  | none => rfl
  | some type => exact filter_congr fun n _ => h.has_eq n

theorem tableName_eq (done : List Class) :
    Context.tableName ⟨v, done, enums⟩ = Context.tableName ⟨v, done, enums'⟩ := by
  funext base
  have hwire := h.wireType_eq base
  unfold Context.tableName
  cases he : enums.find? (·.name = base) <;> cases he' : enums'.find? (·.name = base) <;> simp_all

theorem typeExtent_eq (done : List Class)
    (className field type : String) :
    Context.typeExtent ⟨v, done, enums⟩ className field type
      = Context.typeExtent ⟨v, done, enums'⟩ className field type := by
  unfold Context.typeExtent
  simp only [h.tableName_eq]

theorem memberExtent_eq (done : List Class)
    (className : String) :
    Context.memberExtent ⟨v, done, enums⟩ className
      = Context.memberExtent ⟨v, done, enums'⟩ className := by
  funext m
  cases m with
  | pad length => rfl
  | field name type role =>
    unfold Context.memberExtent
    simp only [h.typeExtent_eq]

theorem ofSource_eq (done : List Class)
    (ancestors : List Ancestor) (c : Source.Class) :
    Class.ofSource ⟨v, done, enums⟩ ancestors c
      = Class.ofSource ⟨v, done, enums'⟩ ancestors c := by
  unfold Class.ofSource
  simp only [h.memberExtent_eq]

/-! ## The walk on tables that agree -/

theorem visit_eq (fuel : Nat) (path : List String)
    (name : String) (done : List Class) :
    visit v decls enums fuel path name done = visit v decls' enums' fuel path name done := by
  induction fuel generalizing path name done with
  | zero => rfl
  | succ fuel ih =>
    rw [visit, visit, h.dependencies_eq]
    obtain ⟨hn, hn'⟩ | ⟨c, file, file', hn, hn'⟩ := h.get?_cases name
    · simp only [hn, hn']
    · simp only [hn, hn', ih, h.ofSource_eq]

theorem visitId_eq (root : String) (fuel : Nat)
    (name : String) (done : List Class) :
    visitId v decls enums root fuel name done = visitId v decls' enums' root fuel name done := by
  induction fuel generalizing name done with
  | zero => rfl
  | succ fuel ih =>
    rw [visitId, visitId]
    obtain ⟨hn, hn'⟩ | ⟨c, file, file', hn, hn'⟩ := h.get?_cases name
    · simp only [hn, hn']
    · simp only [hn, hn', ih, h.ofSource_eq]

theorem visitDeclared_eq :
    visitDeclared v decls enums = visitDeclared v decls' enums' := by
  funext done name
  unfold visitDeclared
  simp only [h.length_eq, h.visit_eq, h.visitId_eq]

end Agree

/-! ## Sorted names -/

/-- **Sorting forgets the order in which names were listed.** -/
theorem sortedNames_eq_of_perm {l l' : List String} (h : l.Perm l') :
    (l.mergeSort fun a b => a ≤ b) = l'.mergeSort fun a b => a ≤ b := by
  have hsorted : ∀ l : List String,
      (l.mergeSort fun a b => decide (a ≤ b)).Pairwise (· ≤ ·) := by
    intro l
    refine (pairwise_mergeSort ?_ ?_ l).imp of_decide_eq_true
    · intro a b c hab hbc
      exact decide_eq_true (le_trans (of_decide_eq_true hab) (of_decide_eq_true hbc))
    · intro a b
      rw [Bool.or_eq_true, decide_eq_true_iff, decide_eq_true_iff]
      exact le_total a b
  refine List.Perm.eq_of_pairwise (fun a b _ _ => le_antisymm) (hsorted l) (hsorted l') ?_
  exact (mergeSort_perm l _).trans (h.trans (mergeSort_perm l' _).symm)

/-! ## Two arrangements of the same declarations -/

/-- **The same declarations in another arrangement give tables that agree.** -/
theorem agree_of_perm {sources sources' : List Source}
    (hclasses : (classesOf sources).Perm (classesOf sources'))
    (henums : (enumsOf sources).Perm (enumsOf sources'))
    (hclassNames : ((classesOf sources).map (·.name)).Nodup)
    (henumNames : ((enumsOf sources).map (·.name)).Nodup) :
    Agree (classRows sources) (classRows sources') (protocolEnums sources)
      (protocolEnums sources') where
  class_eq n := by
    rw [get?_classRows, get?_classRows, find?_name_eq_of_perm hclasses hclassNames n]
  wireType_eq n := by
    refine congrArg _ (find?_name_eq_of_perm (henums.map enumOfSource) ?_ n)
    rw [map_map]
    exact henumNames
  length_eq := by
    have hlen := ((hclasses.map (·.name)).length_eq)
    rw [← keys_classRows, ← keys_classRows] at hlen
    unfold Table.keys at hlen
    rw [length_map, length_map] at hlen
    exact hlen

/-- Two outcomes of building that a reader of the protocol cannot tell apart: the
same complaint, or the same version with the same classes in the same order and
the same enums in some order. -/
def SameOutcome : Except Error Protocol → Except Error Protocol → Prop
  | .ok p, .ok q => p.version = q.version ∧ p.classes = q.classes ∧ p.enums.Perm q.enums
  | .error e, .error e' => e = e'
  | _, _ => False

/-- **A protocol does not depend on the order or the files of its declarations.**
When no class and no enum is declared twice, any other arrangement of the same
declarations is answered with the same classes in the same order, each with the
same members, lengths, parameters and ancestors, and the same enums up to their
order; or it is refused for the same reason. -/
theorem build_sameOutcome_of_perm (v : Version) {sources sources' : List Source}
    (hclasses : (classesOf sources).Perm (classesOf sources'))
    (henums : (enumsOf sources).Perm (enumsOf sources'))
    (hclassNames : ((classesOf sources).map (·.name)).Nodup)
    (henumNames : ((enumsOf sources).map (·.name)).Nodup) :
    SameOutcome (build v sources) (build v sources') := by
  have hagree := agree_of_perm hclasses henums hclassNames henumNames
  have hnames : sortedNames sources = sortedNames sources' :=
    sortedNames_eq_of_perm (hclasses.map (·.name))
  rw [build_eq_walk v hclassNames henumNames,
    build_eq_walk v ((hclasses.map (·.name)).nodup_iff.mp hclassNames)
      ((henums.map (·.name)).nodup_iff.mp henumNames),
    hnames, hagree.visitDeclared_eq]
  -- the two walks are one walk now; only the enums beside its answer differ
  cases (sortedNames sources').foldlM
      (visitDeclared v (classRows sources') (protocolEnums sources')) [] with
  | error e => rfl
  | ok classes => exact ⟨rfl, rfl, henums.map enumOfSource⟩

/-- An output action that holds a port, and two enums. -/
def outputDeclarations : List Source.Class × List Source.Enum :=
  ([⟨"of_action", none, [.field "type" "uint16_t" .discriminator], true, []⟩,
    ⟨"of_action_output", some "of_action", [.field "type" "uint16_t" (.fixed 0),
     .field "port" "of_port_t" .data], false, []⟩,
    ⟨"of_port", none, [.field "number" "ofp_port" .data], false, []⟩],
   [{ name := "ofp_port", entries := [], params := [("wire_type", "uint32_t")] },
    { name := "ofp_table", entries := [], params := [] }])

/-- One file that holds all of it reads as two files that share it out, each in
reverse. -/
theorem build_sameOutcome_of_split :
    SameOutcome
      (build .v13 [⟨"standard-1.3", [.v13], outputDeclarations.1, outputDeclarations.2⟩])
      (build .v13
        [⟨"ports", [.v13], (outputDeclarations.1.drop 1).reverse, outputDeclarations.2.reverse⟩,
         ⟨"actions", [.v13], outputDeclarations.1.take 1, []⟩]) :=
  build_sameOutcome_of_perm .v13 (by decide) (by decide) (by decide) (by decide)

end Protocol

end FlowBindings
