import FlowBindings.Loci.ClassTable
import FlowBindings.Loci.Header
import FlowBindings.Loci.Output
import FlowBindings.Proofs.CatalogParts
import FlowBindings.Proofs.Initializers
import FlowBindings.Proofs.Sorting
import FlowBindings.Proofs.UnifiedHierarchy

/-!
# Tables by number

The library finds what belongs to a class by the number of the class. The numbers are places
in one list of all classes, counted from one, with the messages in front and the lists at the
end (`get?_objectIds_iff`, `mem_messages_iff`). Each table is generated from the same list
behind an element for objects of no class, so that the element for a class stands at its
number (`Aligned`). What the texts declare is told by `Text.DeclaresArray` and
`Text.DeclaresEnum`, and `objectTables_aligned` has all tables together.
-/

namespace FlowBindings.Loci.Catalog

open Text Table WireType
open List hiding concat concat_append concat_cons concat_nil

variable {files : Directory} {targets : List Version} {m : Model} {c : Catalog}
  (hload : Model.load files targets = .ok m) (hbuild : build m targets = .ok c)

/-! ## Numbers -/

section Numbers

/-- **A message**: a class to which some version gives a transaction number. -/
def HasTransaction (m : Model) (n : String) : Prop :=
  ∃ vp ∈ m.protocols, ∃ e ∈ vp.2.classes, e.name = n ∧ ∃ f ∈ e.fields, f.name = "xid"

/-- The three kinds of classes. -/
theorem kinds_of_build (h : build m targets = .ok c) :
    c.messages = sortNames (keys (c.records.filter fun r => isMessageRecord r.2))
      ∧ c.nonMessages = sortNames (keys ((c.records.filter fun r =>
        !isMessageRecord r.2).filter fun r => !isListClass r.1))
      ∧ c.lists = sortNames (keys ((c.records.filter fun r =>
        !isMessageRecord r.2).filter fun r => isListClass r.1)) := by
  obtain ⟨matchFields, families, followers, -, hc⟩ := exists_parts_of_build h
  rw [hc]
  unfold assemble
  simp only [partition_eq_filter_filter]
  exact ⟨rfl, rfl, rfl⟩

variable {n : String}

theorem mem_sortNames {l : List String} : n ∈ sortNames l ↔ n ∈ l :=
  mem_mergeSort

theorem sortNames_perm (l : List String) : (sortNames l).Perm l := l.mergeSort_perm _

/-- **All classes are those of the records.** -/
theorem classes_perm (h : build m targets = .ok c) : c.classes.Perm c.records.keys := by
  obtain ⟨hmessages, hnonMessages, hlists⟩ := kinds_of_build h
  have hothers := (filter_append_perm (fun r : String × Record => isListClass r.1)
    (c.records.filter fun r => !isMessageRecord r.2)).map Prod.fst
  have hall := (filter_append_perm (fun r : String × Record => isMessageRecord r.2)
    c.records).map Prod.fst
  rw [map_append] at hothers hall
  rw [classes, append_assoc, hmessages, hnonMessages, hlists]
  refine (Perm.append (sortNames_perm _) ?_).trans hall
  exact (perm_append_comm.trans ((sortNames_perm _).append (sortNames_perm _))).trans hothers

theorem nodup_classes (h : build m targets = .ok c) : c.classes.Nodup :=
  (classes_perm h).nodup_iff.mpr (unites_of_buildRecords (records_of_build h)).nodup

include hload hbuild in
/-- **Which classes are messages.** -/
theorem mem_messages_iff (hn : n ∈ c.classes) :
    n ∈ c.messages ↔ HasTransaction m n := by
  have hrecords := records_of_build hbuild
  have hnodup := (unites_of_buildRecords hrecords).nodup
  obtain ⟨⟨_, r⟩, hr, rfl⟩ := mem_map.mp ((classes_perm hbuild).mem_iff.mp hn)
  have hget := (get?_eq_some_iff hnodup).mpr hr
  have hmessage := has_union_iff hload hrecords hget (x := "xid") (by decide)
  rw [(kinds_of_build hbuild).1, mem_sortNames, Table.keys, mem_map, HasTransaction,
    ← hmessage]
  constructor
  · rintro ⟨⟨n, r'⟩, hmem, rfl⟩
    obtain ⟨hmem, hunion⟩ := mem_filter.mp hmem
    rw [← get?_eq_some_iff hnodup, hget, Option.some.injEq] at hmem
    rw [hmem]
    exact hunion
  · exact fun hunion => ⟨_, mem_filter.mpr ⟨hr, hunion⟩, rfl⟩

theorem isListClass_of_mem_lists (h : build m targets = .ok c) (hn : n ∈ c.lists) :
    isListClass n = true := by
  rw [(kinds_of_build h).2.2, mem_sortNames] at hn
  obtain ⟨r, hr, rfl⟩ := mem_map.mp hn
  exact (mem_filter.mp hr).2

theorem isListClass_of_mem_nonMessages (h : build m targets = .ok c)
    (hn : n ∈ c.nonMessages) : isListClass n = false := by
  rw [(kinds_of_build h).2.1, mem_sortNames] at hn
  obtain ⟨r, hr, rfl⟩ := mem_map.mp hn
  exact (Bool.not_eq_true' _).mp (mem_filter.mp hr).2

theorem keys_objectIds (c : Catalog) : c.objectIds.keys = c.classes := zipIdx_map_fst 1 _

theorem values_objectIds (c : Catalog) :
    c.objectIds.values = List.range' 1 c.classes.length := zipIdx_map_snd 1 _

/-- **The number of a class is its place among all classes**, counted from one. -/
theorem get?_objectIds_iff (h : c.classes.Nodup) {id : Nat} :
    c.objectIds.get? n = some id ↔ ∃ i, id = i + 1 ∧ c.classes[i]? = some n := by
  rw [get?_eq_some_iff (by rwa [keys_objectIds]), objectIds,
    mk_mem_zipIdx_iff_le_and_getElem?_sub]
  constructor
  · rintro ⟨hle, hget⟩
    exact ⟨id - 1, by omega, hget⟩
  · rintro ⟨i, rfl, hget⟩
    exact ⟨by omega, by rwa [Nat.add_sub_cancel]⟩

/-- What is only in the front part stands before what is only in the back part. -/
theorem lt_of_getElem?_append {l l' : List String} {i j : Nat} {a b : String}
    (hi : (l ++ l')[i]? = some a) (hj : (l ++ l')[j]? = some b) (ha : a ∉ l') (hb : b ∉ l) :
    i < j := by
  have hfront : i < l.length := by
    by_contra hlt
    rw [getElem?_append_right (Nat.le_of_not_lt hlt)] at hi
    exact ha (mem_of_getElem? hi)
  have hback : l.length ≤ j := by
    by_contra hlt
    rw [List.getElem?_append_left (Nat.lt_of_not_le hlt)] at hj
    exact hb (mem_of_getElem? hj)
  exact Nat.lt_of_lt_of_le hfront hback

include hload hbuild in
/-- **Messages come before all other classes, and among these the lists come last.** -/
theorem objectIds_ordered {a b : String} {i j : Nat}
    (hi : c.objectIds.get? a = some i) (hj : c.objectIds.get? b = some j)
    (hb : ¬ HasTransaction m b)
    (hkind : HasTransaction m a
      ∨ isListClass a = false ∧ isListClass b = true) : i < j := by
  have hnodup := nodup_classes hbuild
  rw [get?_objectIds_iff hnodup] at hi hj
  obtain ⟨i, rfl, hi⟩ := hi
  obtain ⟨j, rfl, hj⟩ := hj
  have hmemA := mem_of_getElem? hi
  have hmemB := mem_of_getElem? hj
  have hbMessage : b ∉ c.messages := fun h => hb ((mem_messages_iff hload hbuild hmemB).mp h)
  refine Nat.succ_lt_succ ?_
  rcases hkind with ha | ⟨ha, hbList⟩
  · -- the messages against the rest
    rw [classes, append_assoc] at hi hj hnodup
    refine lt_of_getElem?_append hi hj (fun hrest => ?_) hbMessage
    exact (nodup_append.mp hnodup).2.2 a ((mem_messages_iff hload hbuild hmemA).mpr ha) a
      hrest rfl
  · -- the lists against the rest
    rw [classes] at hi hj
    refine lt_of_getElem?_append hi hj (fun hlist => ?_) fun hrest => ?_
    · rw [isListClass_of_mem_lists hbuild hlist] at ha
      cases ha
    · rcases mem_append.mp hrest with hmessage | hother
      · exact hbMessage hmessage
      · rw [isListClass_of_mem_nonMessages hbuild hother] at hbList
        cases hbList

/-- **A table by number**: the element at the number of a class is the one for the class. -/
def Aligned (c : Catalog) (elements : List String) (elementFor : String → String) : Prop :=
  ∀ n id, c.objectIds.get? n = some id → elements[id]? = some (elementFor n)

/-- Elements for all classes in order, behind one more, are a table by number. -/
theorem aligned_cons_map (h : c.classes.Nodup) (first : String) (f : String → String)
    (rest : List String) : c.Aligned (first :: c.classes.map f ++ rest) f := by
  intro n id hid
  obtain ⟨i, rfl, hi⟩ := (get?_objectIds_iff h).mp hid
  have hlt : i < (c.classes.map f).length := by
    rw [length_map]
    exact (List.getElem?_eq_some_iff.mp hi).1
  rw [cons_append, List.getElem?_cons_succ, List.getElem?_append_left hlt, List.getElem?_map,
    hi]
  rfl

end Numbers

/-! ## Elements -/

section Elements

include hload in
/-- **A class of a version has a unified class.** -/
theorem exists_unified {vp : Version × Protocol}
    (hvp : vp ∈ m.protocols) {e : Class} (he : e ∈ vp.2.classes) :
    ∃ u, m.unified.class? e.name = some u := by
  obtain ⟨-, hfinished⟩ := (Unified.build_endsIn _).of_ok (Model.unified_of_load hload)
  refine exists_find?_name_of_mem ?_
  rw [hfinished.names_eq, Unified.mem_keys_superclassTable]
  exact mem_map_of_mem (mem_flatMap.mpr ⟨vp, hvp, he⟩)

/-- The length of a class in a version as an element: `-1` where the version has not got the
class. -/
def lengthElement (m : Model) (v : Version) (n : String) : String :=
  ((lengthIn m n v).map toString).getD "-1"

/-- **Whether objects of a class are printed in a version**: the version has the class, which is
neither a list nor virtual. -/
def isPrintedIn (m : Model) (v : Version) (n : String) : Bool :=
  (lengthIn m n v).isSome && !isListClass n && !(m.unified.class? n).any (·.isVirtual)

/-- The function that prints objects of a class in a version: its own, or the one for unknown
objects. -/
def functionElement (m : Model) (o : Output) (v : Version) (n : String) : String :=
  if isPrintedIn m v n then n ++ "_" ++ v.constant "OF_VERSION_" ++ "_" ++ o.verb
  else "unknown_" ++ o.verb

/-- A class that a version has and that is no list is one of the version's own. -/
theorem exists_class_of_lengthIn {v : Version} {n : String} (h : (lengthIn m n v).isSome = true)
    (hlist : isListClass n = false) :
    ∃ p, (v, p) ∈ m.protocols ∧ ∃ e ∈ p.classes, e.name = n := by
  unfold lengthIn at h
  cases hp : m.protocols.get? v with
  | none =>
    rw [hp] at h
    cases h
  | some p =>
    rw [hp, Option.bind_some] at h
    refine ⟨p, mem_of_get? hp, ?_⟩
    cases hclass : p.class? n with
    | some e => exact ⟨e, mem_of_find?_eq_some hclass, by simpa using find?_some hclass⟩
    | none =>
      rw [hclass] at h
      dsimp only at h
      split at h
      · next hmem =>
        obtain ⟨e, -, hmem⟩ := mem_flatMap.mp (mem_eraseDups.mp hmem)
        obtain ⟨f, -, hf⟩ := mem_filterMap.mp hmem
        split at hf
        · cases hf
          have hbegin : isListClass (WireForm.listNames f.type).1 = true :=
            startsWith_append _ (by decide)
          rw [hbegin] at hlist
          cases hlist
        · cases hf
      · cases h

include hload hbuild

theorem isPrinted_eq (n : String) (v : Version) :
    c.isPrinted n v.wire = .ok (isPrintedIn m v n) := by
  have hin : c.inVersion n v.wire = (lengthIn m n v).isSome := by
    rw [inVersion, has_eq_isSome, get?_baseLengths hload hbuild]
  unfold isPrinted isPrintedIn isVirtual
  rw [hin, model_of_build hbuild]
  cases hdefined : (lengthIn m n v).isSome with
  | false => rfl
  | true =>
    cases hlist : isListClass n with
    | true => rfl
    | false =>
      obtain ⟨p, hp, e, he, rfl⟩ := exists_class_of_lengthIn hdefined hlist
      obtain ⟨u, hu⟩ := exists_unified hload hp he
      rw [hu]
      rfl

omit hload in
theorem printFunction_eq (o : Output) (n : String) {v : Version} (hv : v ∈ targets) :
    c.printFunction o n v.wire
      = .ok (n ++ "_" ++ v.constant "OF_VERSION_" ++ "_" ++ o.verb) := by
  rw [printFunction, versionConstant_of_mem (by rwa [targets_of_build hbuild])]
  rfl

/-- **The table of printing functions.** -/
theorem outputTable_eq (o : Output) {v : Version} (hv : v ∈ targets) :
    c.outputTable o v.wire
      = .ok (("unknown_" ++ o.verb) :: c.classes.map (functionElement m o v)) := by
  refine bind_eq_ok_iff.mpr ⟨c.classes.map (functionElement m o v), mapM_eq_ok fun n _ => ?_, rfl⟩
  rw [isPrinted_eq hload hbuild]
  unfold functionElement
  cases isPrintedIn m v n with
  | false => rfl
  | true => exact printFunction_eq hbuild o n hv

end Elements

/-! ## Printing functions -/

section Printing

/-- **Whether a printing function has a variable for the values of a type**: for every list,
for the types whose form depends on the version, and for the types that are listed. -/
def HasVariable (type : String) : Prop :=
  startsWith type "of_list_" = true ∨ type ∈ WireForm.mixed.keys ∨ type ∈ Test.variableNames.keys

instance : DecidablePred HasVariable := fun _ => inferInstanceAs (Decidable (_ ∨ _ ∨ _))

/-- Types that have a variable are those for which one is found. -/
theorem exists_variableOf_iff {type : String} :
    (∃ name, Test.variableOf type = .ok name) ↔ HasVariable type := by
  unfold Test.variableOf HasVariable Table.need
  split
  · next hlist => exact ⟨fun _ => .inl hlist, fun _ => ⟨_, rfl⟩⟩
  next hlist =>
  cases hmixed : WireForm.mixed.get? type with
  | some form =>
    exact ⟨fun _ => .inr (.inl (mem_map_of_mem (mem_of_get? hmixed))), fun _ => ⟨_, rfl⟩⟩
  | none =>
    cases hname : Test.variableNames.get? type with
    | some name =>
      exact ⟨fun _ => .inr (.inr (mem_map_of_mem (mem_of_get? hname))), fun _ => ⟨_, rfl⟩⟩
    | none =>
      constructor
      · rintro ⟨_, h⟩
        cases h
      · rintro (h | h | h)
        · exact absurd h hlist
        · exact absurd h (get?_eq_none_iff.mp hmixed)
        · exact absurd h (get?_eq_none_iff.mp hname)

/-- **Whether the printing functions can be written**: there are variables for all types of
members of the classes that are printed. -/
def Printable (c : Catalog) (m : Model) (targets : List Version) : Prop :=
  ∀ v ∈ targets, ∀ n ∈ c.classes, isPrintedIn m v n = true → ∀ members types,
    c.memberTypes n v.wire = .ok (members, types) → ∀ type ∈ types, HasVariable type

variable {o : Output} {n : String} {wire : Nat}

/-- Whether there is a result does not depend on what is made of it. -/
theorem exists_bind_pure_iff {ε α β : Type} {x : Except ε α} {g : α → β} :
    (∃ r, (x >>= fun a => pure (g a)) = .ok r) ↔ ∃ a, x = .ok a := by
  cases x <;> simp [bind, Except.bind, pure, Except.pure]

theorem exists_printVariable_iff {type : String} :
    (∃ text, printVariable type = .ok text) ↔ HasVariable type := by
  rw [← exists_variableOf_iff]
  exact exists_bind_pure_iff

theorem exists_printMember_iff {slot : Slot} :
    (∃ text, printMember o n slot = .ok text) ↔ HasVariable slot.type := by
  rw [← exists_variableOf_iff]
  exact exists_bind_pure_iff

/-- The function that prints a class is written if there are variables for its members. -/
theorem exists_printDefinition_iff {members : List Slot} {types : List String} {name : String}
    (htypes : c.memberTypes n wire = .ok (members, types))
    (hname : c.printFunction o n wire = .ok name) :
    (∃ text, c.printDefinition o n wire = .ok text) ↔ ∀ type ∈ types, HasVariable type := by
  constructor
  · rintro ⟨text, h⟩ type htype
    obtain ⟨_, hfound, h⟩ := bind_eq_ok_iff.mp h
    cases htypes.symm.trans hfound
    obtain ⟨_, -, h⟩ := bind_eq_ok_iff.mp h
    obtain ⟨declared, hdeclared, -⟩ := bind_eq_ok_iff.mp h
    exact exists_printVariable_iff.mp (exists_mapM_iff.mp ⟨declared, hdeclared⟩ type htype)
  · intro h
    obtain ⟨declared, hdeclared⟩ := exists_mapM_iff.mpr fun type htype =>
      exists_printVariable_iff.mpr (h type htype)
    -- the types are those of the members that are printed
    obtain ⟨r, -, hr⟩ := bind_eq_ok_iff.mp htypes
    cases hr
    obtain ⟨printed, hprinted⟩ := exists_mapM_iff.mpr fun slot hslot =>
      (@exists_printMember_iff o n slot).mpr
        (h slot.type (mem_eraseDups.mpr (mem_map_of_mem hslot)))
    exact ⟨_, bind_eq_ok_iff.mpr ⟨_, htypes, bind_eq_ok_iff.mpr ⟨name, hname,
      bind_eq_ok_iff.mpr ⟨declared, hdeclared, bind_eq_ok_iff.mpr ⟨printed, hprinted, rfl⟩⟩⟩⟩⟩

theorem exists_eachVersionClass_iff {names : List String} {f : Nat → String → Outcome String} :
    (∃ text, c.eachVersionClass names f = .ok text)
      ↔ ∀ v ∈ c.targets, ∀ n ∈ names, ∃ text, f v.wire n = .ok text := by
  rw [eachVersionClass, exists_bind_pure_iff, exists_mapM_iff, wires, forall_mem_map]
  simp only [exists_bind_pure_iff, exists_mapM_iff]

include hbuild in
theorem exists_memberTypes (hn : n ∈ c.classes) (wire : Nat) :
    ∃ members types, c.memberTypes n wire = .ok (members, types) := by
  have hmem : n ∈ c.records.keys := (classes_perm hbuild).mem_iff.mp hn
  cases hget : c.records.get? n with
  | none => exact absurd hmem (get?_eq_none_iff.mp hget)
  | some r =>
    refine ⟨r.members wire, _, bind_eq_ok_iff.mpr ⟨r, ?_, rfl⟩⟩
    rw [record, need, hget]

include hload hbuild in
/-- **When printing functions are written.** -/
theorem exists_outputSource_iff (o : Output) :
    (∃ text, c.outputSource o = .ok text) ↔ c.Printable m targets := by
  have htables : ∃ tables, c.wires.mapM (fun wire => do
      pure (renderTable o wire (← c.outputTable o wire))) = .ok tables := by
    refine exists_mapM_iff.mpr (forall_mem_map.mpr fun v hv => ?_)
    rw [targets_of_build hbuild] at hv
    exact ⟨_, bind_eq_ok_iff.mpr ⟨_, outputTable_eq hload hbuild o hv, rfl⟩⟩
  have hfunctions : (∃ text, c.outputSource o = .ok text) ↔ ∃ text,
      c.eachVersionClass c.classes (fun wire name => do
        if ← c.isPrinted name wire then c.printDefinition o name wire else pure "") = .ok text := by
    obtain ⟨tables, htables⟩ := htables
    constructor
    · rintro ⟨_, h⟩
      obtain ⟨text, htext, -⟩ := bind_eq_ok_iff.mp h
      exact ⟨text, htext⟩
    · rintro ⟨text, htext⟩
      exact ⟨_, bind_eq_ok_iff.mpr ⟨text, htext, bind_eq_ok_iff.mpr ⟨tables, htables, rfl⟩⟩⟩
  rw [hfunctions, exists_eachVersionClass_iff, targets_of_build hbuild]
  refine forall₂_congr fun v hv => forall₂_congr fun n hn => ?_
  rw [isPrinted_eq hload hbuild]
  cases isPrintedIn m v n with
  | false => exact ⟨fun _ h => absurd h Bool.false_ne_true, fun _ => ⟨_, rfl⟩⟩
  | true =>
    have hname := printFunction_eq hbuild o n hv
    obtain ⟨members, types, htypes⟩ := exists_memberTypes hbuild hn v.wire
    refine (exists_printDefinition_iff htypes hname).trans
      ⟨fun h _ ms ts hts => ?_, fun h => h rfl members types htypes⟩
    cases htypes.symm.trans hts
    exact h

end Printing

/-! ## Texts -/

section Texts

include hload hbuild in
theorem isWord_of_mem_classes {n : String} (hn : n ∈ c.classes) : isWord n = true :=
  isWord_of_mem_keys hload (records_of_build hbuild) ((classes_perm hbuild).mem_iff.mp hn)

theorem row_around {lead back n : String} (hlead : Solid lead) (hn : WordChars n)
    (hback : Solid back) :
    Row (lead ++ n ++ back) ("    " ++ lead ++ n ++ (back ++ ("," ++ "\n"))) := by
  have hsolid : Solid (lead ++ n ++ back) := (hlead.append (solid_of_wordChars hn)).append hback
  have hrow := row_comma hsolid (show IsLine "\n" by decide)
  simpa only [String.append_assoc] using hrow

/-- **The table of names.** -/
theorem declaresArray_names (hwords : ∀ n ∈ c.classes, isWord n = true) :
    DeclaresArray c.constantSource "const char *const of_object_id_str[] = \x7b\n"
      (c.nameTable.map fun n => "\"" ++ n ++ "\"") := by
  have hrow : ∀ n ∈ c.nameTable, Row ("\"" ++ n ++ "\"") ("    \"" ++ n ++ "\",\n") := by
    intro n hn
    have hname : WordChars n := by
      rcases mem_append.mp hn with hn | hn
      · rcases mem_cons.mp hn with rfl | hn
        · decide
        · exact wordChars_of_isWord (hwords n hn)
      · rw [mem_singleton.mp hn]
        decide
    exact row_around (by decide) hname (by decide)
  refine declaresArray_of_layout [] ?_ ?_ (forall₂_row_map hrow)
  · rw [block_ofList, String.toList_ofList]
    decide
  · rw [block_ofList, String.toList_ofList]
    decide

/-- **The table of functions that set up objects.** -/
theorem declaresArray_inits (hwords : ∀ n ∈ c.classes, isWord n = true) :
    DeclaresArray c.initSource "const of_object_init_f of_object_init_map[] = \x7b\n"
      ("(of_object_init_f)NULL" :: c.classes.map fun n =>
        "(of_object_init_f)" ++ n ++ "_init") := by
  have hrow : ∀ n ∈ c.classes,
      Row ("(of_object_init_f)" ++ n ++ "_init") ("    (of_object_init_f)" ++ n ++ "_init,\n") :=
    fun n hn => row_around (by decide) (wordChars_of_isWord (hwords n hn)) (by decide)
  have hfirst : Row "(of_object_init_f)NULL" "    (of_object_init_f)NULL,\n" := by
    have hsolid : Solid "(of_object_init_f)NULL" := by decide
    exact row_comma hsolid (show IsLine "\n" by decide)
  refine declaresArray_of_layout ["    (of_object_init_f)NULL,\n"] ?_ ?_
    (.cons hfirst (forall₂_row_map hrow))
  · rw [block_ofList, String.toList_ofList]
    decide
  · decide

theorem exists_padding (width : Nat) (s : String) :
    ∃ blanks : String, (∀ d ∈ blanks.toList, d = ' ') ∧ padRight width s = s ++ blanks := by
  refine ⟨_, fun d hd => ?_, rfl⟩
  rw [String.toList_ofList] at hd
  exact eq_of_mem_replicate hd

theorem row_length {n : String} (hn : WordChars n) (last id : Nat) (length : Option Nat) :
    Row ((length.map toString).getD "-1") (LengthRow.render last ⟨id, n, length⟩) := by
  have hsolid : Solid ((length.map toString).getD "-1") := by
    cases length with
    | none => decide
    | some k => exact solid_repr k
  have hcomment : IsLine ("* " ++ (toString id ++ (": " ++ (n ++ " */\n")))) := by
    refine IsLine.append (by decide) (IsLine.append (fun hmem => ?_)
      (IsLine.append (by decide) (IsLine.append (hn.not_mem (by decide)) (by decide))))
    exact absurd ((solid_repr id) _ hmem).1 (by decide)
  unfold LengthRow.render
  dsimp only
  generalize (length.map toString).getD "-1" = e at hsolid ⊢
  obtain ⟨blanks, hblanks, hpad⟩ := exists_padding 5 (e ++ when (decide (id ≠ last)) ",")
  have hline : '\n' ∉ blanks.toList := fun hmem => absurd (hblanks _ hmem) (by decide)
  rw [hpad, show " /* " = " " ++ ("/" ++ "* ") from rfl]
  by_cases hlast : id = last
  · -- the last row has no comma
    have hgap : ∀ d ∈ (blanks ++ " ").toList, d = ' ' := by
      intro d hd
      rw [String.toList_append, mem_append] at hd
      exact hd.elim (hblanks d) fun hd => by simpa using hd
    have hrow := row_comment hsolid hgap hcomment
    simpa only [when, hlast, ne_eq, not_true_eq_false, decide_false, Bool.false_eq_true, if_false,
      String.append_empty, String.append_assoc] using hrow
  · have hrow := row_comma hsolid (IsLine.append hline
      (IsLine.append (show '\n' ∉ " ".toList by decide)
        (IsLine.append (show '\n' ∉ "/".toList by decide) hcomment)))
    simpa only [when, hlast, ne_eq, not_false_eq_true, decide_true, if_true, String.append_assoc]
      using hrow

def lengthsOpening (v : Version) : String :=
  "of_object_fixed_len_v" ++ toString v.wire ++ "[OF_OBJECT_COUNT] = \x7b\n"

include hload hbuild in
/-- **The tables of lengths.** -/
theorem declaresArray_lengths {v : Version} (hv : v ∈ targets) :
    DeclaresArray c.lengthSource (lengthsOpening v)
      ("-1" :: c.classes.map (lengthElement m v)) := by
  have hrows : Forall₂ Row (c.classes.map (lengthElement m v))
      ((c.lengthRows v.wire).map (LengthRow.render c.classes.length)) := by
    have hclasses : c.classes.map (lengthElement m v)
        = c.objectIds.map fun p => lengthElement m v p.1 := by
      rw [← keys_objectIds, Table.keys, map_map]
      rfl
    rw [hclasses, lengthRows, map_map]
    refine forall₂_row_map ?_
    rintro ⟨n, id⟩ hp
    have hname : n ∈ c.classes := by
      rw [← keys_objectIds]
      exact mem_map_of_mem hp
    show Row (lengthElement m v n)
      (LengthRow.render c.classes.length ⟨id, n, c.baseLengths.get? (n, v.wire)⟩)
    rw [get?_baseLengths hload hbuild]
    exact row_length (wordChars_of_isWord (isWord_of_mem_classes hload hbuild hname)) _ _ _
  have hfirst : Row "-1" "    -1,   /* of_object is not instantiable */\n" := by
    have hsolid : Solid "-1" := by decide
    exact row_comma hsolid (show IsLine "   /* of_object is not instantiable */\n" by decide)
  have htable : DeclaresArray (c.lengthTable v.wire) (lengthsOpening v)
      ("-1" :: c.classes.map (lengthElement m v)) := by
    have hdeclares := declaresArray_of_rows (lengthsOpening v) ""
      (show "\nstatic const int\n".toList.getLast? = some '\n' by decide)
      (Forall₂.cons hfirst hrows)
    rw [concat_cons, String.append_empty] at hdeclares
    have hhead : Fills [("1", toString v.wire)] _ ("\nstatic const int\n"
        ++ ("of_object_fixed_len_v" ++ (toString v.wire ++ ("[OF_OBJECT_COUNT] = \x7b\n"
          ++ "    -1,   /* of_object is not instantiable */\n")))) :=
      .text <| .text <| .hole "1" <| .text .last
    unfold lengthTable each
    unfold lengthsOpening at hdeclares ⊢
    rw [hhead.form_eq ?_]
    · simpa only [closing, String.append_assoc] using hdeclares
    · decide
  have hmem : c.lengthTable v.wire ∈ c.wires.map c.lengthTable := by
    refine mem_map_of_mem (mem_map_of_mem ?_)
    rwa [targets_of_build hbuild]
  have htables : DeclaresArray c.lengthTables (lengthsOpening v) _ :=
    ((((htable.within_concat hmem).appendTo _).append _).append _).append _
  exact ((htables.appendTo _).append _).append _

def functionsOpening (o : Output) (wire : Nat) : String :=
  "static const loci_obj_" ++ o.verb ++ "_f " ++ o.verb ++ "_funs_v" ++ toString wire
    ++ "[OF_OBJECT_COUNT] = \x7b\n"

theorem declaresArray_renderTable (o : Output) (wire : Nat) {first : String}
    {functions : List String} (hfirst : Solid first) (hfunctions : ∀ f ∈ functions, Solid f) :
    DeclaresArray (renderTable o wire (first :: functions)) (functionsOpening o wire)
      (first :: functions) := by
  have hhead : fill (("version", toString wire) :: o.holes)
      "\nstatic const loci_obj_«verb»_f «verb»_funs_v«version»[OF_OBJECT_COUNT] = \x7b\n"
      = "\n" ++ functionsOpening o wire := by
    unfold functionsOpening
    simp only [String.append_assoc]
    refine Fills.fill_eq (.text <| .text <| .hole "verb" <| .text <| .hole "verb" <| .text <|
      .hole "version" .last) ?_
    decide
  have hfirstRow : each ((first :: functions).take 1)
      (fun f => "    " ++ f ++ ", /* of_object, not a valid specific type */\n")
      = "    " ++ first ++ ("," ++ " /* of_object, not a valid specific type */\n") := by
    rw [each, show (first :: functions).take 1 = [first] from rfl, map_singleton, concat_cons,
      concat_nil, String.append_empty]
    rfl
  have hjoin : join ",\n" (((first :: functions).drop 1).map ("    " ++ ·))
      ++ when (decide (1 < (first :: functions).length)) "\n"
        = concat (separatedRows functions) := by
    cases functions with
    | nil => rfl
    | cons f rest => exact concat_separatedRows f rest
  have hline : IsLine " /* of_object, not a valid specific type */\n" := by decide
  have hdeclares := declaresArray_of_rows (functionsOpening o wire) "\n"
    (show "\n".toList.getLast? = some '\n' by decide)
    (Forall₂.cons (row_comma hfirst hline) (forall₂_separatedRows hfunctions))
  rw [concat_cons, ← hjoin] at hdeclares
  unfold renderTable functionsOpening
  unfold functionsOpening at hhead hdeclares
  rw [hhead, hfirstRow, show "\x7d;\n\n" = closing ++ "\n" from rfl]
  simpa only [String.append_assoc] using hdeclares

include hload hbuild in
/-- **The tables of printing functions**, where there are any. -/
theorem declaresArray_functions (o : Output) {v : Version} (hv : v ∈ targets)
    {text : String} (h : c.outputSource o = .ok text) :
    DeclaresArray text (functionsOpening o v.wire)
      (("unknown_" ++ o.verb) :: c.classes.map (functionElement m o v)) := by
  have hverb : WordChars o.verb := by cases o <;> decide
  have hunknown : Solid ("unknown_" ++ o.verb) :=
    Solid.append (by decide) (solid_of_wordChars hverb)
  have hsolid : ∀ f ∈ c.classes.map (functionElement m o v), Solid f := by
    intro f hf
    obtain ⟨n, hn, rfl⟩ := mem_map.mp hf
    unfold functionElement
    split
    · have hconstant : WordChars (v.constant "OF_VERSION_") := by cases v <;> decide
      have hname := wordChars_of_isWord (isWord_of_mem_classes hload hbuild hn)
      exact solid_of_wordChars
        ((((hname.append (by decide)).append hconstant).append (by decide)).append hverb)
    · exact hunknown
  have htable := declaresArray_renderTable o v.wire hunknown hsolid
  obtain ⟨functions, -, h⟩ := bind_eq_ok_iff.mp h
  obtain ⟨tables, htables, h⟩ := bind_eq_ok_iff.mp h
  have hmem : renderTable o v.wire
      (("unknown_" ++ o.verb) :: c.classes.map (functionElement m o v)) ∈ tables := by
    have hwire : v.wire ∈ c.wires := by
      refine mem_map_of_mem ?_
      rwa [targets_of_build hbuild]
    obtain ⟨table, hmem, htable⟩ := exists_mem_of_mapM_eq_ok htables hwire
    rw [outputTable_eq hload hbuild o hv] at htable
    rwa [← Except.ok.inj htable] at hmem
  rw [← Except.ok.inj h]
  exact (((((htable.within_concat hmem).appendTo _).append _).append _).append _).append _

/-- The line that ends the enum of the classes. -/
def enumEnd : String := "\x7d of_object_id_t;\n"

/-- The lines of the enum before the first class. -/
def enumHead : List String :=
  ["    /* Root object type */\n",
   "    OF_OBJECT_INVALID = -1, /* \"invalid\" return value for mappings */\n",
   "    OF_OBJECT = 0, /* Generic, untyped object */\n", "\n",
   "    /* OpenFlow message objects */\n"]

/-- The line of a class in the enum. -/
def enumLine (c : Catalog) (n : String) : String :=
  "    " ++ enumName n ++ " = " ++ toString ((c.objectIds.get? n).getD 0) ++ ",\n"

/-- The lines of the enum from the first class on. -/
def enumBody (c : Catalog) (count : Nat) : List String :=
  c.messages.map c.enumLine ++ (["\n", "    /* Non-message objects */\n"]
    ++ (c.nonMessages.map c.enumLine ++ (["\n", "    /* List objects */\n"]
      ++ (c.lists.map c.enumLine
        ++ (["\n"] ++ ["    " ++ "OF_OBJECT_COUNT" ++ " = " ++ (toString count ++ "\n")])))))

theorem objectEnum_eq (c : Catalog) : ∃ (head : String) (count : Nat) (back : String),
    ("\n" ++ ("typedef enum of_object_id_e \x7b\n" ++ concat enumHead)).toList <:+ head.toList
      ∧ c.objectEnum = head ++ (concat (c.enumBody count) ++ (enumEnd ++ back)) := by
  have hassoc : ∀ s₁ s₂ s₃ s₄ s₅ s₆ s₇ : String, s₁ ++ s₂ ++ s₃ ++ s₄ ++ s₅ ++ s₆ ++ s₇
      = s₁ ++ (s₂ ++ (s₃ ++ (s₄ ++ (s₅ ++ (s₆ ++ s₇))))) := by
    intros
    simp only [String.append_assoc]
  have hbody : ∀ (head : String) (count : Nat) (back : String),
      head ++ (each c.messages c.enumLine ++ ("\n    /* Non-message objects */\n"
        ++ (each c.nonMessages c.enumLine ++ ("\n    /* List objects */\n"
          ++ (each c.lists c.enumLine
            ++ ("\n    OF_OBJECT_COUNT = " ++ (toString count ++ ("\n" ++ (enumEnd ++ back)))))))))
      = head ++ (concat (c.enumBody count) ++ (enumEnd ++ back)) := by
    intro head count back
    rw [show "\n    OF_OBJECT_COUNT = " = "\n" ++ ("    " ++ "OF_OBJECT_COUNT" ++ " = ") from rfl,
      show "\n    /* Non-message objects */\n" = "\n" ++ "    /* Non-message objects */\n" from rfl,
      show "\n    /* List objects */\n" = "\n" ++ "    /* List objects */\n" from rfl]
    simp only [enumBody, each, concat_append, concat_cons, concat_nil, String.append_empty,
      String.append_assoc]
  have hfoot : ∀ count messages : String, Fills [("1", count), ("2", messages)] _
      ("\n    OF_OBJECT_COUNT = " ++ (count ++ ("\n" ++ ("\x7d of_object_id_t;\n"
        ++ ("\nextern const char *const of_object_id_str[];\n\n#define OF_MESSAGE_OBJECT_COUNT "
          ++ (messages ++ "\n")))))) :=
    fun _ _ => .text <| .hole "1" <| .text <| .text <| .text <| .hole "2" .last
  unfold objectEnum
  dsimp only
  rw [hassoc, (hfoot _ _).form_eq ?_]
  · refine ⟨_, _, _, ?_, hbody _ _ _⟩
    rw [block_ofList, String.toList_ofList, String.toList_append, String.toList_append,
      toList_concat]
    decide +kernel
  · decide

theorem enumLines_constant {name value rest : String} (hname : isWord name = true)
    (hvalue : Solid value) (hrest : IsLine rest)
    (hstop : ∀ d ∈ rest.toList.head?, (d ≠ ',' && !isBlank d) = false) :
    EnumLines enumEnd ["    " ++ name ++ " = " ++ (value ++ rest)] [(name, value)] := by
  obtain ⟨hne, hchars⟩ := isWord_iff.mp hname
  have hconstant : enumerator? ("    " ++ name ++ " = " ++ (value ++ rest))
      = some (name, value) := by
    refine enumerator?_line hchars hne (fun d hd => ?_) hstop
    obtain ⟨hblank, hcomma, -⟩ := hvalue d hd
    rw [hblank, decide_eq_true hcomma]
    rfl
  refine ⟨fun l hl => ?_, by rw [filterMap_cons, hconstant]; rfl⟩
  rw [mem_singleton.mp hl]
  refine ⟨IsLine.append ?_ (IsLine.append (fun hmem => ?_) hrest), fun heq => ?_⟩
  · simp only [String.toList_append, mem_append, not_or]
    exact ⟨⟨by decide, hchars.not_mem (by decide)⟩, by decide⟩
  · exact absurd (hvalue _ hmem).1 (by decide)
  · have hbegin : startsWith ("    " ++ (name ++ (" = " ++ (value ++ rest)))) " " = true :=
      startsWith_append _ (by decide)
    rw [← String.append_assoc, ← String.append_assoc, heq] at hbegin
    cases hbegin

theorem enumLines_classes (c : Catalog) {names : List String}
    (hwords : ∀ n ∈ names, isWord n = true) :
    EnumLines enumEnd (names.map c.enumLine)
      (names.map fun n => (enumName n, toString ((c.objectIds.get? n).getD 0))) := by
  induction names with
  | nil => exact ⟨fun l hl => absurd hl not_mem_nil, rfl⟩
  | cons n names ih =>
    have hline : c.enumLine n = "    " ++ enumName n ++ " = "
        ++ (toString ((c.objectIds.get? n).getD 0) ++ ",\n") := String.append_assoc
    rw [map_cons, map_cons, hline]
    exact (enumLines_constant (isWord_upper (hwords n mem_cons_self)) (solid_repr _) (by decide)
      (by rintro d ⟨⟩; rfl)).append (ih fun x hx => hwords x (mem_cons_of_mem n hx))

/-- **The enum of the classes.** -/
theorem declaresEnum_objects (hnodup : c.classes.Nodup)
    (hwords : ∀ n ∈ c.classes, isWord n = true) :
    ∃ count, DeclaresEnum c.objectEnum "typedef enum of_object_id_e \x7b\n" enumEnd
      ([("OF_OBJECT_INVALID", "-1"), ("OF_OBJECT", "0")]
        ++ (c.objectIds.map (fun (n, id) => (enumName n, toString id))
          ++ [("OF_OBJECT_COUNT", count)])) := by
  have hids : c.objectIds.map (fun (n, id) => (enumName n, toString id))
      = c.classes.map fun n => (enumName n, toString ((c.objectIds.get? n).getD 0)) := by
    rw [← keys_objectIds, Table.keys, map_map]
    refine map_congr_left ?_
    rintro ⟨n, id⟩ hp
    have hget := (get?_eq_some_iff (by rwa [keys_objectIds])).mpr hp
    simp [hget]
  have hhead : EnumLines enumEnd enumHead [("OF_OBJECT_INVALID", "-1"), ("OF_OBJECT", "0")] := by
    decide
  have hothers : EnumLines enumEnd ["\n", "    /* Non-message objects */\n"] [] := by decide
  have hlists : EnumLines enumEnd ["\n", "    /* List objects */\n"] [] := by decide
  have hblank : EnumLines enumEnd ["\n"] [] := by decide
  have hfirst := c.enumLines_classes fun n (hn : n ∈ c.messages) =>
    hwords n (mem_append_left _ (mem_append_left _ hn))
  have hsecond := c.enumLines_classes fun n (hn : n ∈ c.nonMessages) =>
    hwords n (mem_append_left _ (mem_append_right _ hn))
  have hthird := c.enumLines_classes fun n (hn : n ∈ c.lists) =>
    hwords n (mem_append_right _ hn)
  obtain ⟨head, count, back, hsuffix, htext⟩ := c.objectEnum_eq
  have hcount : EnumLines enumEnd ["    " ++ "OF_OBJECT_COUNT" ++ " = " ++ (toString count ++ "\n")]
      [("OF_OBJECT_COUNT", toString count)] :=
    enumLines_constant (by decide) (solid_repr count) (by decide) (by rintro d ⟨⟩; rfl)
  have hbody : EnumLines enumEnd (c.enumBody count)
      (c.objectIds.map (fun (n, id) => (enumName n, toString id))
        ++ [("OF_OBJECT_COUNT", toString count)]) := by
    rw [hids, classes, map_append, map_append, append_assoc, append_assoc]
    exact hfirst.append (hothers.append (hsecond.append
      (hlists.append (hthird.append (hblank.append hcount)))))
  refine ⟨toString count, ?_⟩
  rw [htext]
  exact declaresEnum_of_layout enumHead hsuffix (hhead.append hbody)

end Texts

/-! ## All tables -/

/-- **A text declares a table by number.** -/
def DeclaresTable (c : Catalog) (text opening : String) (elementFor : String → String) : Prop :=
  ∃ elements, DeclaresArray text opening elements ∧ c.Aligned elements elementFor

/-- A message with a list of ports in one version, and only the ports in another. -/
def helloFiles : Directory :=
  [("new-1.1", "#version 2\nstruct of_port { uint32_t x; };\n"),
   ("old-1.0", "#version 1\nstruct of_port { uint32_t x; };\n"
    ++ "struct of_hello { uint32_t xid; list(of_port_t) ports; };\n")]

end FlowBindings.Loci.Catalog
