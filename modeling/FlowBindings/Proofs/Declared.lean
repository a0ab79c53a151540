import FlowBindings.Proofs.Basic
import FlowBindings.Protocol.Build

/-!
# What sources declare

`Protocol.declared` files the classes and enums of all sources under their names
and refuses a name it has filed before. Read as one statement, it succeeds
exactly when no class name and no enum name occurs twice, and then the tables
hold every declaration, in order, with the file it stands in
(`declared_eq_ok_iff`). Nothing else about filing matters to the walk: it only
asks the tables which class has a name (`get?_classRows`).
-/

namespace FlowBindings

open List Table

namespace Protocol

/-! ## Filing -/

section Filing

variable {α : Type} (name : α → String) (file : String)

/-- The rows a source's items are filed in. -/
def rows (items : List α) : Table String (α × String) :=
  items.map fun x => (name x, x, file)

theorem keys_rows (items : List α) : (rows name file items).keys = items.map name := by
  unfold rows Table.keys
  rw [map_map]
  rfl

variable {name file} {refuse : α → String → Error}

/-- **Filing succeeds exactly when every name is new**, and then adds one row for
each item. -/
theorem fileItems_eq_ok_iff {known filed : Table String (α × String)} {items : List α}
    (hknown : known.keys.Nodup) :
    fileItems name refuse file known items = .ok filed
      ↔ (known.keys ++ items.map name).Nodup ∧ filed = known ++ rows name file items := by
  induction items generalizing known with
  | nil =>
    rw [map_nil, append_nil, rows, map_nil, append_nil]
    exact ⟨fun h => ⟨hknown, by cases h; rfl⟩, fun h => by rw [h.2]; rfl⟩
  | cons x items ih =>
    unfold fileItems
    rw [foldlM_cons]
    by_cases hx : name x ∈ known.keys
    · -- the name is filed already, so both sides are refused
      obtain ⟨⟨y, previous⟩, hy⟩ := Option.ne_none_iff_exists'.mp
        (fun hn => get?_eq_none_iff.mp hn hx)
      rw [hy]
      refine ⟨fun h => (nomatch h), fun h => ?_⟩
      exact absurd rfl ((nodup_append.mp h.1).2.2 _ hx _ mem_cons_self)
    · rw [get?_eq_none_iff.mpr hx]
      show fileItems name refuse file (known.set (name x) (x, file)) items = .ok filed ↔ _
      have hkeys : (known.set (name x) (x, file)).keys = known.keys ++ [name x] := by
        rw [keys_set, if_neg hx]
      rw [ih (nodup_keys_set hknown _ _), hkeys, set_eq_append hx, append_assoc, append_assoc]
      rfl

end Filing

/-! ## All declarations -/

/-- The classes sources declare, in order. -/
def classesOf (sources : List Source) : List Source.Class := sources.flatMap (·.classes)

/-- The enums sources declare, in order. -/
def enumsOf (sources : List Source) : List Source.Enum := sources.flatMap (·.enums)

/-- The classes sources declare, filed with the file each stands in. -/
def classRows (sources : List Source) : Declared :=
  sources.flatMap fun s => rows (·.name) s.file s.classes

/-- The enums sources declare, filed with the file each stands in. -/
def enumRows (sources : List Source) : Table String (Source.Enum × String) :=
  sources.flatMap fun s => rows (·.name) s.file s.enums

theorem keys_classRows (sources : List Source) :
    (classRows sources).keys = (classesOf sources).map (·.name) := by
  unfold classRows classesOf Table.keys
  rw [map_flatMap, map_flatMap]
  exact flatMap_congr fun s _ => keys_rows _ s.file s.classes

variable {sources : List Source} {n : String}

theorem has_classRows_iff :
    (classRows sources).has n = true ↔ n ∈ (classesOf sources).map (·.name) := by
  rw [← keys_classRows, has_eq_isSome, Option.isSome_iff_ne_none, ne_eq,
    get?_eq_none_iff, not_not]

theorem values_enumRows (sources : List Source) :
    (enumRows sources).values.map Prod.fst = enumsOf sources := by
  unfold enumRows enumsOf values rows
  rw [map_map, map_flatMap]
  refine flatMap_congr fun s _ => ?_
  rw [map_map]
  exact map_id _

theorem get?_classRows (sources : List Source) (n : String) :
    ((classRows sources).get? n).map Prod.fst
      = (classesOf sources).find? (fun c => c.name = n) := by
  have hrow : ∀ (file : String) (cs : List Source.Class),
      ((rows (·.name) file cs).find? (fun p => p.1 = n)).map (fun p => p.2.1)
        = cs.find? (fun c => c.name = n) := by
    intro file cs
    rw [rows, find?_map, Option.map_map]
    exact congrFun Option.map_id _
  unfold get?
  rw [Option.map_map]
  induction sources with
  | nil => rfl
  | cons s sources ih =>
    unfold classRows classesOf at ih ⊢
    rw [flatMap_cons, flatMap_cons, find?_append, find?_append,
      ← hrow s.file s.classes, ← ih]
    cases (rows (·.name) s.file s.classes).find? (fun p => p.1 = n) <;> rfl

/-- **Declaring succeeds exactly when no name is declared twice**, and then files
every class and every enum. -/
theorem declared_eq_ok_iff {decls : Declared} {enumDecls : Table String (Source.Enum × String)} :
    declared sources = .ok (decls, enumDecls)
      ↔ ((classesOf sources).map (·.name)).Nodup ∧ ((enumsOf sources).map (·.name)).Nodup
        ∧ decls = classRows sources ∧ enumDecls = enumRows sources := by
  -- generalized to a walk that starts with some rows filed already
  have hfrom : ∀ (known : Declared) (known' : Table String (Source.Enum × String)),
      known.keys.Nodup → known'.keys.Nodup →
      (sources.foldlM (fun filed s => do
          let classes ← declareClasses filed.1 s
          let enums ← declareEnums filed.2 s
          pure (classes, enums)) (known, known') = Except.ok (decls, enumDecls)
        ↔ (known.keys ++ (classesOf sources).map (·.name)).Nodup
          ∧ (known'.keys ++ (enumsOf sources).map (·.name)).Nodup
          ∧ decls = known ++ classRows sources ∧ enumDecls = known' ++ enumRows sources) := by
    induction sources with
    | nil =>
      intro known known' hk hk'
      simp only [classesOf, enumsOf, classRows, enumRows, flatMap_nil, map_nil,
        append_nil]
      exact ⟨fun h => by cases h; exact ⟨hk, hk', rfl, rfl⟩, fun h => by rw [h.2.2.1, h.2.2.2]; rfl⟩
    | cons s sources ih =>
      intro known known' hk hk'
      rw [foldlM_cons, bind_eq_ok_iff]
      simp only [bind_eq_ok_iff]
      simp only [classesOf, enumsOf, classRows, enumRows, flatMap_cons, map_append,
        ← append_assoc] at ih ⊢
      have hkeys : ∀ {α : Type} (t : Table String (α × String)) (name : α → String)
          (items : List α), (t ++ rows name s.file items).keys = t.keys ++ items.map name := by
        intro α t name items
        rw [← keys_rows name s.file items]
        exact map_append
      constructor
      · rintro ⟨⟨cs, es⟩, ⟨cs', hcs, es', hes, hpure⟩, hrest⟩
        obtain ⟨hcs', rfl⟩ := (fileItems_eq_ok_iff hk).mp hcs
        obtain ⟨hes', rfl⟩ := (fileItems_eq_ok_iff hk').mp hes
        cases hpure
        rw [ih _ _ (by rw [hkeys]; exact hcs') (by rw [hkeys]; exact hes'), hkeys, hkeys] at hrest
        exact hrest
      · rintro ⟨hcs, hes, hdecls, henums⟩
        have hcs' := hcs.of_append_left
        have hes' := hes.of_append_left
        refine ⟨(known ++ rows _ s.file s.classes, known' ++ rows _ s.file s.enums),
          ⟨_, (fileItems_eq_ok_iff hk).mpr ⟨hcs', rfl⟩,
            _, (fileItems_eq_ok_iff hk').mpr ⟨hes', rfl⟩, rfl⟩, ?_⟩
        rw [ih _ _ (by rw [hkeys]; exact hcs') (by rw [hkeys]; exact hes'), hkeys, hkeys]
        exact ⟨hcs, hes, hdecls, henums⟩
  exact hfrom [] [] nodup_nil nodup_nil

theorem mem_classesOf_of_get? {file : String} {c : Source.Class}
    (h : (classRows sources).get? n = some (c, file)) : c ∈ classesOf sources ∧ c.name = n := by
  have hfind := get?_classRows sources n
  rw [h, Option.map_some] at hfind
  exact ⟨mem_of_find?_eq_some hfind.symm, by simpa using find?_some hfind.symm⟩

theorem exists_get?_of_mem_classesOf
    (hn : ((classesOf sources).map (·.name)).Nodup) {c : Source.Class}
    (hc : c ∈ classesOf sources) : ∃ file, (classRows sources).get? c.name = some (c, file) := by
  have hfind := get?_classRows sources c.name
  rw [(find?_name_eq_some_iff hn).mpr ⟨hc, rfl⟩, Option.map_eq_some_iff] at hfind
  obtain ⟨⟨d, file⟩, hget, rfl⟩ := hfind
  exact ⟨file, hget⟩

/-! ## The walk over all declarations -/

/-- The enums of the protocol sources make. -/
def protocolEnums (sources : List Source) : List Enum := (enumsOf sources).map enumOfSource

/-- The declared class names in the order of the walk. -/
def sortedNames (sources : List Source) : List String :=
  ((classesOf sources).map (·.name)).mergeSort fun a b => a ≤ b

theorem mem_sortedNames :
    n ∈ sortedNames sources ↔ ∃ c ∈ classesOf sources, c.name = n := by
  unfold sortedNames
  rw [mem_mergeSort, mem_map]

theorem sortedNames_of_pairwise
    (h : ((classesOf sources).map (·.name)).Pairwise fun a b => decide (a ≤ b) = true) :
    sortedNames sources = (classesOf sources).map (·.name) :=
  mergeSort_of_pairwise h

/-- **Building, once nothing is declared twice, is the walk** over the sorted
names. -/
theorem build_eq_walk (v : Version) (hclasses : ((classesOf sources).map (·.name)).Nodup)
    (henums : ((enumsOf sources).map (·.name)).Nodup) :
    build v sources
      = ((sortedNames sources).foldlM
          (visitDeclared v (classRows sources) (protocolEnums sources)) []).map
        fun classes => { version := v, classes := classes, enums := protocolEnums sources } := by
  have henum : ((enumRows sources).values.map fun row => enumOfSource row.1)
      = protocolEnums sources := by
    unfold protocolEnums
    rw [← values_enumRows, map_map]
    rfl
  unfold build
  rw [declared_eq_ok_iff.mpr ⟨hclasses, henums, rfl, rfl⟩]
  show (do
    let classes ← ((classRows sources).keys.mergeSort fun a b => a ≤ b).foldlM
      (visitDeclared v (classRows sources)
        ((enumRows sources).values.map fun row => enumOfSource row.1)) []
    pure _ : Except Error Protocol) = _
  rw [henum, keys_classRows]
  rfl

/-- **A protocol is the end of a successful walk** over sources that declare
nothing twice. -/
theorem build_eq_ok_iff {v : Version} {p : Protocol} :
    build v sources = .ok p
      ↔ ((classesOf sources).map (·.name)).Nodup ∧ ((enumsOf sources).map (·.name)).Nodup
        ∧ (sortedNames sources).foldlM
            (visitDeclared v (classRows sources) (protocolEnums sources)) [] = .ok p.classes
        ∧ p.version = v ∧ p.enums = protocolEnums sources := by
  constructor
  · intro h
    obtain ⟨⟨decls, enumDecls⟩, hdecl, -⟩ := bind_eq_ok_iff.mp h
    obtain ⟨hclasses, henums, -, -⟩ := declared_eq_ok_iff.mp hdecl
    rw [build_eq_walk v hclasses henums] at h
    obtain ⟨classes, hwalk, h⟩ := bind_eq_ok_iff.mp h
    cases h
    exact ⟨hclasses, henums, hwalk, rfl, rfl⟩
  · rintro ⟨hclasses, henums, hwalk, rfl, hp⟩
    rw [build_eq_walk _ hclasses henums, hwalk, ← hp]
    rfl

theorem nodup_enums_of_build {v : Version} {p : Protocol}
    (h : build v sources = .ok p) : (p.enums.map (·.name)).Nodup := by
  obtain ⟨-, henums, -, -, hp⟩ := build_eq_ok_iff.mp h
  rw [hp, protocolEnums, map_map]
  exact henums

end Protocol

end FlowBindings
