import FlowBindings.Proofs.ObjectTables

/-!
# Tables by version

What belongs to a version is found by the number that the version has on the wire, in arrays
that have room for the greatest of these numbers. There are two ways to fill such an array. The
tables of printing functions name the index of each element. The table of lengths does not: its
elements follow one another behind an element for the number zero, which no version has.

`Text.elementAt` reads both as a compiler does. Functions are always found
(`elementAt_functions`); lengths are found where the targets are the first versions, without a
gap (`lengthTable_by_wire`). Elsewhere the lengths of a version stand at the number of an
earlier one (`lengthTable_misplaced`).
-/

namespace FlowBindings

/-! ## Reading initializers -/

namespace Text

/-- **An initializer of an array**: an expression, with its index if it names one. -/
structure Initializer where
  index? : Option Nat
  expression : String
  deriving DecidableEq

/-- The initializer on a line; a line that is blank holds none. -/
def initializer? (element : String) : Option Initializer :=
  if element.toList.head? = some '[' then
    let digits := element.toList.tail.takeWhile Char.isDigit
    let rest := element.toList.tail.drop digits.length
    if "] = ".toList.isPrefixOf rest then
      (readNat? 10 digits).map fun i => ⟨some i, String.ofList (rest.drop 4)⟩
    else none
  else if element.isEmpty then none
  else some ⟨none, element⟩

/-- The expressions of initializers with their indices. One that names no index is for the
index behind that of the one before. -/
def placed : (next : Nat) → (elements : List String) → List (Nat × String)
  | _, [] => []
  | next, e :: rest =>
    match initializer? e with
    | none => placed next rest
    | some e => (e.index?.getD next, e.expression) :: placed (e.index?.getD next + 1) rest

/-- **The element of an array at an index**, of the initializers with the index the last. -/
def elementAt (elements : List String) (i : Nat) : Option String :=
  (Table.ofPairs (placed 0 elements)).get? i

/-- An initializer that names its index. -/
def indexed (digits x : String) : String := "[" ++ digits ++ "] = " ++ x

theorem initializer?_indexed {digits : String} (hdigits : ∀ c ∈ digits.toList, c.isDigit = true)
    {i : Nat} (hi : readNat? 10 digits.toList = some i) (x : String) :
    initializer? (indexed digits x) = some ⟨some i, x⟩ := by
  have hchars : (indexed digits x).toList
      = '[' :: (digits.toList ++ ']' :: ' ' :: '=' :: ' ' :: x.toList) := by
    simp only [indexed, String.toList_append, List.append_assoc]
    rfl
  have htake : (digits.toList ++ ']' :: ' ' :: '=' :: ' ' :: x.toList).takeWhile Char.isDigit
      = digits.toList := by
    rw [List.takeWhile_append_of_pos hdigits]
    exact List.append_nil _
  unfold initializer?
  rw [hchars, List.head?_cons, if_pos rfl, List.tail_cons, htake]
  dsimp only
  rw [List.drop_left, hi]
  exact (if_pos (by simp)).trans
    (congrArg (fun s => some (Initializer.mk (some i) s)) String.ofList_toList)

theorem compact_indexed {digits x : String} (hdigits : Solid digits) (hx : Solid x)
    (hne : x.toList ≠ []) : Compact (indexed digits x) where
  inside := by
    intro c hc
    simp only [indexed, String.toList_append, List.mem_append] at hc
    rcases hc with ((hc | hc) | hc) | hc
    · rw [List.mem_singleton.mp hc]
      decide
    · exact hdigits.compact.inside c hc
    · exact (show ∀ c ∈ "] = ".toList, c ≠ '\n' ∧ c ≠ ',' ∧ c ≠ '/' by simp) c hc
    · exact hx.compact.inside c hc
  first := by
    intro c hc
    simp only [indexed, String.toList_append] at hc
    obtain rfl : '[' = c := Option.some.inj hc
    decide
  last := by
    intro c hc
    simp only [indexed, String.toList_append] at hc
    rw [List.getLast?_append_of_ne_nil _ hne] at hc
    exact hx.compact.last c hc

theorem placed_append {es : List String} (h : ∀ e ∈ es, initializer? e = some ⟨none, e⟩)
    (next : Nat) (rest : List String) :
    placed next (es ++ rest)
      = (es.zipIdx next).map Prod.swap ++ placed (next + es.length) rest := by
  induction es generalizing next with
  | nil => rfl
  | cons e es ih =>
    rw [List.forall_mem_cons] at h
    rw [List.cons_append, placed, h.1, List.zipIdx_cons, List.map_cons, List.length_cons]
    show (next, e) :: placed (next + 1) (es ++ rest) = _
    rw [ih h.2, Nat.add_right_comm, Nat.add_assoc]
    rfl

/-- **Expressions without an index stand at their places.** -/
theorem elementAt_positional {es : List String} (h : ∀ e ∈ es, initializer? e = some ⟨none, e⟩)
    (i : Nat) : elementAt (es ++ [""]) i = es[i]? := by
  have hplaced : placed 0 (es ++ [""]) = (es.zipIdx 0).map Prod.swap := by
    rw [placed_append h]
    exact List.append_nil _
  have hnodup : (Table.keys ((es.zipIdx 0).map Prod.swap)).Nodup := by
    rw [Table.keys, List.map_map]
    exact (List.zipIdx_map_snd 0 es).symm ▸ List.nodup_range'
  rw [elementAt, hplaced, Table.ofPairs_eq_self hnodup]
  refine Option.ext fun x => ?_
  rw [Table.get?_eq_some_iff hnodup]
  exact (List.mem_map_of_injective Prod.swap_injective (a := (x, i))).trans
    List.mem_zipIdx_iff_getElem?

/-- **Expressions with an index stand at it.** -/
theorem elementAt_indexed {α : Type} {l : List α} {index : α → Nat} {x element : α → String}
    (h : ∀ a ∈ l, initializer? (element a) = some ⟨some (index a), x a⟩)
    (hnodup : (l.map index).Nodup) {i : Nat} {e : String} :
    elementAt (l.map element) i = some e ↔ ∃ a ∈ l, index a = i ∧ x a = e := by
  have hplaced : ∀ next, placed next (l.map element) = l.map fun a => (index a, x a) := by
    clear hnodup
    induction l with
    | nil => exact fun _ => rfl
    | cons a l ih =>
      intro next
      rw [List.forall_mem_cons] at h
      rw [List.map_cons, placed, h.1]
      exact congrArg ((index a, x a) :: ·) (ih h.2 _)
  have hkeys : (Table.keys (l.map fun a => (index a, x a))).Nodup := by
    rwa [Table.keys, List.map_map]
  rw [elementAt, hplaced, Table.ofPairs_eq_self hkeys, Table.get?_eq_some_iff hkeys]
  simp

end Text

/-! ## Versions in ascending order -/

section Ascending

variable {versions : List Version}

theorem Version.wire_pos (v : Version) : 0 < v.wire := by
  cases v <;> decide

/-- The place of a version in an ascending list is below its number. -/
theorem lt_wire_of_ascending (h : versions.Pairwise fun v w => v.wire < w.wire) {i : Nat}
    {v : Version} (hv : versions[i]? = some v) : i < v.wire := by
  induction i generalizing v with
  | zero => exact v.wire_pos
  | succ i ih =>
    obtain ⟨hlen, rfl⟩ := List.getElem?_eq_some_iff.mp hv
    have hbefore := ih (List.getElem?_eq_getElem (Nat.lt_of_succ_lt hlen))
    exact Nat.lt_of_le_of_lt hbefore
      (List.pairwise_iff_getElem.mp h i (i + 1) _ hlen (Nat.lt_succ_self i))

/-- The number of a version is one more than its place among all versions. -/
theorem getElem?_all_eq_some_iff {i : Nat} {v : Version} :
    Version.all[i]? = some v ↔ v.wire = i + 1 := by
  have hplace : ∀ v : Version, Version.all[v.wire - 1]? = some v := by
    intro v
    cases v <;> rfl
  constructor
  · intro hv
    obtain ⟨hi, -⟩ := List.getElem?_eq_some_iff.mp hv
    have hnodup : Version.all.Nodup := by decide
    have hsame : i = v.wire - 1 := (List.getElem?_inj hi hnodup).mp (hv.trans (hplace v).symm)
    have hpos := v.wire_pos
    omega
  · intro hwire
    rw [← hplace v, hwire]
    rfl

/-- **Ascending versions stand at their numbers, counted from one, exactly if they are the first
versions.** -/
theorem getElem?_wire_iff_isPrefix (h : versions.Pairwise fun v w => v.wire < w.wire) :
    (∀ v ∈ versions, versions[v.wire - 1]? = some v) ↔ versions <+: Version.all := by
  rw [List.prefix_iff_getElem?]
  constructor
  · intro hplaces i hi
    rw [getElem?_all_eq_some_iff]
    have hplace := hplaces _ (List.getElem_mem hi)
    have hnodup : versions.Nodup :=
      h.imp fun hlt heq => Nat.ne_of_lt hlt (congrArg Version.wire heq)
    have hsame : i = versions[i].wire - 1 :=
      (List.getElem?_inj hi hnodup).mp ((List.getElem?_eq_getElem hi).trans hplace.symm)
    have hpos := versions[i].wire_pos
    omega
  · intro hinit v hv
    obtain ⟨i, hi, rfl⟩ := List.getElem_of_mem hv
    rw [getElem?_all_eq_some_iff.mp (hinit i hi), Nat.add_sub_cancel]
    exact List.getElem?_eq_getElem hi

end Ascending

namespace Loci.Catalog

open Text
open List hiding concat concat_append concat_cons concat_nil

variable {m : Model} {targets : List Version} {c : Catalog}

/-- The table of lengths of a version. -/
def lengthTableName (v : Version) : String := "of_object_fixed_len_v" ++ toString v.wire

theorem lengthTableName_injective {v w : Version} (h : lengthTableName v = lengthTableName w) :
    v = w := by
  have hdigits : v.wire.repr = w.wire.repr := (String.append_right_inj _).mp h
  exact Version.wire_injective (repr_injective hdigits)

/-- **The table of the tables of lengths.** -/
theorem declaresArray_outer (hbuild : build m targets = .ok c) :
    DeclaresArray c.lengthTables
      "const int *const of_object_fixed_len[OF_VERSION_ARRAY_MAX] = \x7b\n"
      ("NULL" :: targets.map lengthTableName ++ [""]) := by
  have hrow : ∀ v ∈ targets,
      Row (lengthTableName v) ("    " ++ lengthTableName v ++ ("," ++ "\n")) :=
    fun v _ => row_comma (Solid.append (by decide) (solid_repr v.wire)) (by decide)
  have hrows : Forall₂ Row ("NULL" :: targets.map lengthTableName ++ [""])
      (["    NULL,\n"] ++ (targets.map (fun v => "    " ++ lengthTableName v ++ ("," ++ "\n"))
        ++ ["\n"])) := by
    refine .cons ⟨by decide, by decide, by decide⟩ (rel_append (forall₂_row_map hrow) ?_)
    exact .cons ⟨by decide, by decide, by decide⟩ .nil
  have hnames : each c.outerTable (fun name => "    " ++ name ++ ",\n")
      = concat (targets.map fun v => "    " ++ lengthTableName v ++ ("," ++ "\n")) := by
    rw [each, outerTable, wires, targets_of_build hbuild, map_map, map_map]
    rfl
  -- the blank line before the brace is a row without an element
  have hend : ∀ front rows, front ++ concat rows ++ "\n\x7d;\n"
      = front ++ concat (rows ++ ["\n"]) ++ closing := by
    intro front rows
    rw [concat_append]
    simp only [String.append_assoc]
    rfl
  unfold lengthTables
  rw [hnames, hend]
  refine declaresArray_of_layout ["    NULL,\n"] ?_ (prefix_refl _) hrows
  rw [block_ofList, String.toList_ofList]
  decide

/-- The table of printing functions of a version. -/
def functionTableName (o : Output) (v : Version) : String :=
  o.verb ++ "_funs_v" ++ toString v.wire

theorem row_functions (o : Output) (v : Version) :
    Row (indexed (toString v.wire) (functionTableName o v))
      (fill (("v", toString v.wire) :: o.holes) "    [«v»] = «verb»_funs_v«v»,\n") := by
  have hfill : Fills (("v", toString v.wire) :: o.holes) _ ("    [" ++ (toString v.wire ++ ("] = "
      ++ (o.verb ++ ("_funs_v" ++ (toString v.wire ++ ",\n")))))) :=
    .text <| .hole "v" <| .text <| .hole "verb" <| .text <| .hole "v" .last
  have hsolid : Solid (functionTableName o v) :=
    Solid.append (Solid.append (by cases o <;> decide) (by decide)) (solid_repr v.wire)
  have hne : (functionTableName o v).toList ≠ [] := by
    simp [functionTableName, String.toList_append]
  have hrow := (compact_indexed (solid_repr v.wire) hsolid hne).row_comma
    (show IsLine "\n" by decide)
  rw [hfill.fill_eq ?_]
  · rw [show "    [" = "    " ++ "[" from rfl, show ",\n" = "," ++ "\n" from rfl]
    simpa only [indexed, functionTableName, String.append_assoc] using hrow
  · decide

/-- **The table of the tables of printing functions.** -/
theorem declaresArray_indexed (hbuild : build m targets = .ok c) (o : Output) {text : String}
    (h : c.outputSource o = .ok text) :
    DeclaresArray text
      ("static const loci_obj_" ++ o.verb ++ "_f *const " ++ o.verb ++ "_funs[] = \x7b\n")
      (targets.map fun v => indexed (toString v.wire) (functionTableName o v)) := by
  have hhead : fill o.holes "\nstatic const loci_obj_«verb»_f *const «verb»_funs[] = \x7b\n"
      = "\n" ++ ("static const loci_obj_" ++ o.verb ++ "_f *const " ++ o.verb
        ++ "_funs[] = \x7b\n") := by
    simp only [String.append_assoc]
    refine Fills.fill_eq (.text <| .text <| .hole "verb" <| .text <| .hole "verb" .last) ?_
    decide
  obtain ⟨functions, -, h⟩ := bind_eq_ok_iff.mp h
  obtain ⟨tables, -, h⟩ := bind_eq_ok_iff.mp h
  rw [← Except.ok.inj h, each, wires, targets_of_build hbuild, map_map]
  rw [hhead]
  refine DeclaresArray.append (declaresArray_of_layout [] ?_ (prefix_refl _)
    (forall₂_row_map fun v _ => row_functions o v)) _
  rw [concat_nil, String.append_empty]

/-- **Printing functions are found by the number of their version.** -/
theorem elementAt_functions (hascending : targets.Pairwise fun v w => v.wire < w.wire)
    (o : Output) {i : Nat} {x : String} :
    elementAt (targets.map fun v => indexed (toString v.wire) (functionTableName o v)) i = some x
      ↔ ∃ v ∈ targets, v.wire = i ∧ functionTableName o v = x := by
  refine elementAt_indexed (fun v _ => initializer?_indexed ?_ ?_ _) ?_
  · exact fun c hc => isDigit_of_mem_repr hc
  · cases v <;> rfl
  · exact pairwise_map.mpr (hascending.imp Nat.ne_of_lt)

/-- **What stands in the table of lengths**: nothing at zero, then the targets one after
another. -/
theorem elementAt_lengths (targets : List Version) (i : Nat) :
    elementAt ("NULL" :: targets.map lengthTableName ++ [""]) i
      = ("NULL" :: targets.map lengthTableName)[i]? := by
  refine elementAt_positional (forall_mem_cons.mpr ⟨by decide, fun e he => ?_⟩) i
  obtain ⟨v, -, rfl⟩ := mem_map.mp he
  have hchars : (lengthTableName v).toList
      = 'o' :: ("f_object_fixed_len_v".toList ++ (toString v.wire).toList) := String.toList_append
  unfold initializer?
  rw [hchars, List.head?_cons, if_neg (by decide), if_neg]
  rw [String.isEmpty_iff, ← String.toList_eq_nil_iff, hchars]
  exact cons_ne_nil _ _

/-- **The number of elements of an array by version** is one more than the greatest number. -/
theorem size_mem_versionEnum (hbuild : build m targets = .ok c) (hne : targets ≠ []) :
    ∃ size, "#define OF_VERSION_ARRAY_MAX " ++ (toString size ++ "\n") ∈ linesKept c.versionEnum
      ∧ (∃ v ∈ targets, size = v.wire + 1) ∧ ∀ v ∈ targets, v.wire < size := by
  have hnonempty : targets.eraseDups.map Version.wire ≠ [] := by
    obtain ⟨v, hv⟩ := exists_mem_of_ne_nil targets hne
    exact ne_nil_of_mem (mem_map_of_mem (mem_eraseDups.mpr hv))
  obtain ⟨top, htop⟩ := Option.ne_none_iff_exists'.mp (mt max?_eq_none_iff.mp hnonempty)
  obtain ⟨hmem, hle⟩ := max?_eq_some_iff.mp htop
  have hmax : (targets.eraseDups.map Version.wire).foldl max 0 = top := by
    rw [foldl_max, htop]
    exact Nat.zero_max top
  refine ⟨top + 1, ?_, ?_, fun v hv => ?_⟩
  · have hfoot : ∀ size : String, Fills [("1", size)] _
        ("\n\x7d of_version_t;\n\n/**\n * @brief "
          ++ ("Use this when declaring arrays indexed by wire version\n */"
            ++ ("\n" ++ ("#define OF_VERSION_ARRAY_MAX " ++ (size ++ "\n"))))) :=
      fun size => .text <| .text <| .text <| .text <| .hole "1" .last
    have hline : IsLine ("#define OF_VERSION_ARRAY_MAX " ++ (toString (top + 1) ++ "\n")) :=
      IsLine.append (by decide) (IsLine.append
        (fun hmem => absurd (solid_repr _ _ hmem).1 (by decide)) (by decide))
    have hlast := linesKept_line_append hline ""
    rw [String.append_empty] at hlast
    unfold versionEnum
    dsimp only
    rw [targets_of_build hbuild, hmax, (hfoot _).form_eq (by decide), ← String.append_assoc,
      ← String.append_assoc, ← String.append_assoc,
      linesKept_append (endsLine_append_newline _), hlast]
    exact mem_append_right _ mem_cons_self
  · obtain ⟨v, hv, rfl⟩ := mem_map.mp hmem
    exact ⟨v, mem_eraseDups.mp hv, rfl⟩
  · exact Nat.lt_succ_of_le (hle _ (mem_map_of_mem (mem_eraseDups.mpr hv)))

/-- **Lengths and printing functions by version.** Arrays by version have room for the numbers of
all targets. The table of lengths has the targets one after another, so that each is found at its
number exactly if the targets are the first versions, without a gap. The tables of printing
functions name the numbers, and each target is found in them. -/
theorem lengthTable_by_wire (hbuild : build m targets = .ok c) (hne : targets ≠ [])
    (hascending : targets.Pairwise fun v w => v.wire < w.wire) :
    ∃ size, "#define OF_VERSION_ARRAY_MAX " ++ (toString size ++ "\n") ∈ linesKept c.versionEnum
      ∧ (∃ v ∈ targets, size = v.wire + 1) ∧ (∀ v ∈ targets, v.wire < size)
      ∧ (∃ elements, DeclaresArray c.lengthTables
          "const int *const of_object_fixed_len[OF_VERSION_ARRAY_MAX] = \x7b\n" elements
        ∧ (∀ i, elementAt elements i = ("NULL" :: targets.map lengthTableName)[i]?)
        ∧ (∀ i x, elementAt elements i = some x → i < size)
        ∧ ((∀ v ∈ targets, elementAt elements v.wire = some (lengthTableName v))
          ↔ targets <+: Version.all))
      ∧ ∀ o text, c.outputSource o = .ok text → ∃ elements,
        DeclaresArray text
          ("static const loci_obj_" ++ o.verb ++ "_f *const " ++ o.verb ++ "_funs[] = \x7b\n")
          elements
        ∧ ∀ i x, elementAt elements i = some x
          ↔ ∃ v ∈ targets, v.wire = i ∧ functionTableName o v = x := by
  obtain ⟨size, hsize, hgreatest, hfits⟩ := size_mem_versionEnum hbuild hne
  refine ⟨size, hsize, hgreatest, hfits,
    ⟨_, declaresArray_outer hbuild, elementAt_lengths targets, fun i x hx => ?_, ?_⟩,
    fun o text htext => ⟨_, declaresArray_indexed hbuild o htext,
      fun i x => elementAt_functions hascending o⟩⟩
  · rw [elementAt_lengths] at hx
    cases i with
    | zero => exact hgreatest.elim fun v hv => hv.2 ▸ Nat.succ_pos _
    | succ i =>
      rw [getElem?_cons_succ, getElem?_map, Option.map_eq_some_iff] at hx
      obtain ⟨v, hv, -⟩ := hx
      exact Nat.lt_of_le_of_lt (lt_wire_of_ascending hascending hv) (hfits v (mem_of_getElem? hv))
  · rw [← getElem?_wire_iff_isPrefix hascending]
    refine forall₂_congr fun v hv => ?_
    obtain ⟨i, hi⟩ := Nat.exists_eq_succ_of_ne_zero (Nat.pos_iff_ne_zero.mp v.wire_pos)
    rw [elementAt_lengths, hi, getElem?_cons_succ, getElem?_map, Nat.succ_sub_one,
      Option.map_eq_some_iff]
    constructor
    · rintro ⟨w, hw, hname⟩
      rw [lengthTableName_injective hname] at hw
      exact hw
    · exact fun hv => ⟨v, hv, rfl⟩

/-- A greeting of the first two versions. -/
def earlyFiles : Directory :=
  [("a-1.0", "#version 1\nstruct of_hello { uint32_t xid; };\n"),
   ("b-1.1", "#version 2\nstruct of_hello { uint32_t xid; };\n")]

/-- Of the first two versions, lengths and functions are found. -/
theorem lengthTable_by_wire_first :
    ∃ (m : Model) (c : Catalog) (text : String), Model.load earlyFiles [.v10, .v11] = .ok m
      ∧ build m [.v10, .v11] = .ok c ∧ c.outputSource .dump = .ok text
      ∧ (∃ elements, DeclaresArray c.lengthTables
          "const int *const of_object_fixed_len[OF_VERSION_ARRAY_MAX] = \x7b\n" elements
        ∧ elementAt elements 1 = some "of_object_fixed_len_v1"
        ∧ elementAt elements 2 = some "of_object_fixed_len_v2")
      ∧ ∃ elements, DeclaresArray text "static const loci_obj_dump_f *const dump_funs[] = \x7b\n"
          elements
        ∧ elementAt elements 2 = some "dump_funs_v2" := by
  have htest : (Model.load earlyFiles [.v10, .v11]).toOption.any (fun m =>
      (build m [.v10, .v11]).toOption.any fun c =>
        (c.outputSource .dump).toOption.any fun _ => true) = true := by
    simp only [Model.load, Model.inputFiles, mergeSort_files, Protocol.build, mergeSort_names,
      build, buildRecords, mergeSort_newest, sortNames]
    decide +kernel
  obtain ⟨m, hload, htest⟩ := exists_ok_of_any htest
  obtain ⟨c, hbuild, htest⟩ := exists_ok_of_any htest
  obtain ⟨text, htext, -⟩ := exists_ok_of_any htest
  obtain ⟨size, -, -, -, ⟨elements, hdeclares, -, -, hfound⟩, hfunctions⟩ :=
    lengthTable_by_wire hbuild (by decide) (by decide)
  obtain ⟨functions, hdeclares', hfunction⟩ := hfunctions .dump text htext
  have hlengths := hfound.mpr (by decide)
  exact ⟨m, c, text, hload, hbuild, htext, ⟨elements, hdeclares, hlengths .v10 (by decide),
    hlengths .v11 (by decide)⟩, functions, hdeclares',
    (hfunction 2 _).mpr ⟨.v11, by decide, rfl, rfl⟩⟩

/-- A greeting of a later version. -/
def lateFiles : Directory :=
  [("c-1.3", "#version 4\nstruct of_hello { uint32_t xid; };\n")]

/-- Of a later version by itself, the lengths stand at the number of the first version, and none
at its own. Its functions are found. -/
theorem lengthTable_misplaced :
    ∃ (m : Model) (c : Catalog) (text : String), Model.load lateFiles [.v13] = .ok m
      ∧ build m [.v13] = .ok c ∧ c.outputSource .dump = .ok text
      ∧ (∃ elements, DeclaresArray c.lengthTables
          "const int *const of_object_fixed_len[OF_VERSION_ARRAY_MAX] = \x7b\n" elements
        ∧ elementAt elements 1 = some "of_object_fixed_len_v4" ∧ elementAt elements 4 = none)
      ∧ ∃ elements, DeclaresArray text "static const loci_obj_dump_f *const dump_funs[] = \x7b\n"
          elements
        ∧ elementAt elements 4 = some "dump_funs_v4" := by
  have htest : (Model.load lateFiles [.v13]).toOption.any (fun m =>
      (build m [.v13]).toOption.any fun c =>
        (c.outputSource .dump).toOption.any fun _ => true) = true := by
    simp only [Model.load, Model.inputFiles, mergeSort_files, Protocol.build, mergeSort_names,
      build, buildRecords, mergeSort_newest, sortNames]
    decide +kernel
  obtain ⟨m, hload, htest⟩ := exists_ok_of_any htest
  obtain ⟨c, hbuild, htest⟩ := exists_ok_of_any htest
  obtain ⟨text, htext, -⟩ := exists_ok_of_any htest
  exact ⟨m, c, text, hload, hbuild, htext, ⟨_, declaresArray_outer hbuild, elementAt_lengths _ 1,
    elementAt_lengths _ 4⟩, _, declaresArray_indexed hbuild .dump htext,
    (elementAt_functions (by decide) .dump).mpr ⟨.v13, by decide, rfl, rfl⟩⟩

end Loci.Catalog

end FlowBindings
