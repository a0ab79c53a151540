import FlowBindings.Proofs.CatalogParts

/-!
# The registry of identifiers

The constants of all enums are registered one after another, version by version. Which
identifier a constant comes to is a matter of its name alone, so several constants may come to
one, in different versions or in one version.

`Identifiers.Registers` says what the registry then has. Under each name there is one identifier,
listed in one group. It has the value of the last constant of each version, and as its common
value that of the first constant of all. Each registration keeps this (`Registers.add`).
-/

namespace FlowBindings.Loci

open List Option Table

/-- A constant where it occurs. -/
structure Occurrence where
  version : Version
  /-- The enum. -/
  group : String
  /-- The constant. -/
  entry : Entry
  deriving DecidableEq, Repr

/-- The identifier to which a constant comes. -/
def Occurrence.identifier (o : Occurrence) : String := Identifier.ofConstant o.entry.name

/-- The constants of the versions of a table, in order. -/
def occurrencesIn (protocols : Table Version Protocol) : List Occurrence :=
  protocols.flatMap fun (v, p) => p.enums.flatMap fun e => e.entries.map fun x => ⟨v, e.name, x⟩

/-- The value of the last constant of a version that comes to an identifier. -/
def lastValue (seen : List Occurrence) (n : String) (wire : Nat) : Option Nat :=
  (seen.filter fun o => o.identifier = n && o.version.wire = wire).getLast?.map (·.entry.value)

/-- The value of the first constant that comes to an identifier. -/
def firstValue (seen : List Occurrence) (n : String) : Option Nat :=
  (seen.find? fun o => o.identifier = n).map (·.entry.value)

section Values

variable {seen : List Occurrence} {n : String} {wire : Nat}

theorem lastValue_append (seen : List Occurrence) (o : Occurrence) (n : String) (wire : Nat) :
    lastValue (seen ++ [o]) n wire
      = if o.identifier = n ∧ o.version.wire = wire then some o.entry.value
        else lastValue seen n wire := by
  unfold lastValue
  rw [filter_append]
  split
  · next h => simp [h.1, h.2]
  · next h =>
    rw [filter_cons_of_neg (by simpa using h), filter_nil, append_nil]

theorem firstValue_append (seen : List Occurrence) (o : Occurrence) (n : String) :
    firstValue (seen ++ [o]) n
      = (firstValue seen n).or (if o.identifier = n then some o.entry.value else none) := by
  unfold firstValue
  rw [find?_append, map_or]
  congr 1
  split
  · next h => simp [h]
  · next h => simp [h]

theorem isSome_lastValue_iff :
    (lastValue seen n wire).isSome = true
      ↔ ∃ o ∈ seen, o.version.wire = wire ∧ o.identifier = n := by
  unfold lastValue
  rw [isSome_map, getLast?_isSome, Ne, filter_eq_nil_iff]
  simp [and_comm]

theorem exists_of_lastValue {k : Nat} (h : lastValue seen n wire = some k) :
    ∃ o ∈ seen, o.identifier = n ∧ o.version.wire = wire ∧ o.entry.value = k := by
  obtain ⟨o, ho, rfl⟩ := map_eq_some_iff.mp h
  have hmem := mem_of_getLast? ho
  rw [mem_filter, Bool.and_eq_true, decide_eq_true_eq, decide_eq_true_eq] at hmem
  exact ⟨o, hmem.1, hmem.2.1, hmem.2.2, rfl⟩

theorem exists_of_firstValue {k : Nat} (h : firstValue seen n = some k) :
    ∃ o ∈ seen, o.identifier = n ∧ o.entry.value = k := by
  obtain ⟨o, ho, rfl⟩ := map_eq_some_iff.mp h
  exact ⟨o, mem_of_find?_eq_some ho, by simpa using find?_some ho, rfl⟩

end Values

namespace Identifiers

/-- Register a constant. -/
def register (ids : Identifiers) (o : Occurrence) : Identifiers :=
  ids.add o.identifier o.entry.name o.group o.entry.value o.version.wire

/-- The identifiers of a table of versions are those of its constants in order. -/
theorem foldl_addEnums (protocols : Table Version Protocol) (ids : Identifiers) :
    protocols.foldl (fun ids (v, p) => Catalog.addEnums ids v p) ids
      = (occurrencesIn protocols).foldl register ids := by
  unfold occurrencesIn
  rw [foldl_flatMap]
  congr 1
  funext ids (v, p)
  rw [foldl_flatMap]
  show p.enums.foldl _ ids = p.enums.foldl _ ids
  congr 1
  funext ids e
  rw [foldl_map]
  rfl

end Identifiers

/-! ## One identifier -/

/-- **What an identifier tells of the constants that come to it.** -/
structure Identifier.Tells (i : Identifier) (seen : List Occurrence) (n : String) : Prop where
  /-- It has at most one value per version. -/
  nodup : i.values.keys.Nodup
  /-- It has the value of the last constant of a version. -/
  value_eq : ∀ wire, i.values.get? wire = (lastValue seen n wire).map Int.ofNat
  /-- Its common value is that of the first constant. -/
  common_eq : (firstValue seen n).map Int.ofNat = some i.common

namespace Identifier

variable {i j : Identifier} {seen : List Occurrence} {o : Occurrence}

/-- A constant that comes to another identifier changes nothing. -/
theorem Tells.append_other {n : String} (h : i.Tells seen n) (hn : o.identifier ≠ n) :
    i.Tells (seen ++ [o]) n where
  nodup := h.nodup
  value_eq := fun wire => by rw [lastValue_append, if_neg fun heq => hn heq.1, h.value_eq]
  common_eq := by rw [firstValue_append, if_neg hn, or_none, h.common_eq]

/-- One constant more sets the value of its version. -/
theorem Tells.append (h : i.Tells seen o.identifier)
    (hvalues : j.values = i.values.set o.version.wire o.entry.value)
    (hcommon : j.common = i.common) :
    j.Tells (seen ++ [o]) o.identifier where
  nodup := hvalues ▸ nodup_keys_set h.nodup _ _
  value_eq := by
    intro wire
    rw [hvalues, lastValue_append]
    by_cases hwire : o.version.wire = wire
    · subst hwire
      rw [get?_set_self, if_pos ⟨rfl, rfl⟩]
      rfl
    · rw [get?_set_of_ne _ _ (Ne.symm hwire), if_neg fun heq => hwire heq.2, h.value_eq]
  common_eq := by
    obtain ⟨k, hk, hcast⟩ := map_eq_some_iff.mp h.common_eq
    rw [firstValue_append, hk, some_or, map_some, hcast, hcommon]

theorem tells_first (hnew : ∀ o' ∈ seen, o'.identifier ≠ o.identifier)
    (hvalues : j.values = [(o.version.wire, (o.entry.value : Int))])
    (hcommon : j.common = o.entry.value) : j.Tells (seen ++ [o]) o.identifier where
  nodup := by simp [hvalues, Table.keys]
  value_eq := by
    intro wire
    have hnone : lastValue seen o.identifier wire = none := by
      rw [← not_isSome_iff_eq_none, isSome_lastValue_iff]
      rintro ⟨o', ho', -, hname⟩
      exact hnew o' ho' hname
    rw [hvalues, lastValue_append, hnone, get?_cons]
    simp only [true_and]
    split
    · rfl
    · rfl
  common_eq := by
    have hnone : firstValue seen o.identifier = none := by
      refine eq_none_iff_forall_not_mem.mpr fun k hk => ?_
      obtain ⟨o', ho', hname, -⟩ := exists_of_firstValue hk
      exact hnew o' ho' hname
    rw [firstValue_append, hnone, if_pos rfl, hcommon]
    rfl

end Identifier

/-! ## All identifiers -/

namespace Identifiers

/-- **What a registry has of the constants registered.** -/
structure Registers (ids : Identifiers) (seen : List Occurrence) : Prop where
  /-- No identifier is there twice. -/
  nodup : ids.byName.keys.Nodup
  /-- There are the identifiers to which the constants come. -/
  mem_keys : ∀ n, n ∈ ids.byName.keys ↔ ∃ o ∈ seen, o.identifier = n
  /-- Each identifier is listed in one group, once. -/
  groups_perm : (ids.groups.flatMap (·.2)).Perm ids.byName.keys
  /-- Each identifier tells of its constants. -/
  tells : ∀ n i, ids.byName.get? n = some i → i.Tells seen n

variable {ids : Identifiers} {seen : List Occurrence}

theorem registers_empty : Registers .empty [] where
  nodup := nodup_nil
  mem_keys := by simp [empty, Table.keys]
  groups_perm := .nil
  tells := nofun

theorem flatMap_update_perm (groups : Table String (List String)) (g n : String) :
    ((groups.update g [] (· ++ [n])).flatMap (·.2)).Perm (groups.flatMap (·.2) ++ [n]) := by
  unfold update
  induction groups with
  | nil => exact .refl _
  | cons p rest ih =>
    rw [get?_cons]
    unfold Table.set
    split
    · next hp =>
      rw [flatMap_cons, flatMap_cons]
      simp only [getD_some, append_assoc]
      exact Perm.append_left _ perm_append_comm
    · rw [flatMap_cons, flatMap_cons, append_assoc]
      exact Perm.append_left _ ih

/-- An identifier that tells of one constant more, in the place of its name. -/
theorem Registers.set (h : ids.Registers seen) {o : Occurrence} {new : Identifier}
    (hnew : new.Tells (seen ++ [o]) o.identifier) {groups : Table String (List String)}
    (hgroups : (groups.flatMap (·.2)).Perm (ids.byName.set o.identifier new).keys) :
    Registers ⟨ids.byName.set o.identifier new, groups⟩ (seen ++ [o]) := by
  refine ⟨nodup_keys_set h.nodup _ _, fun n => ?_, hgroups, fun n j hj => ?_⟩
  · rw [mem_keys_set, h.mem_keys n, or_comm]
    simp only [mem_append, mem_singleton, or_and_right, exists_or, exists_eq_left]
    exact or_congr_right eq_comm
  · by_cases hn : n = o.identifier
    · subst hn
      rw [get?_set_self, Option.some.injEq] at hj
      rwa [← hj]
    · rw [get?_set_of_ne _ _ hn] at hj
      exact (h.tells n j hj).append_other (Ne.symm hn)

/-- **Registering one constant more.** -/
theorem Registers.add (h : ids.Registers seen) (o : Occurrence) :
    (ids.register o).Registers (seen ++ [o]) := by
  unfold register Identifiers.add
  cases hget : ids.byName.get? o.identifier with
  | some i =>
    refine h.set ((h.tells _ i hget).append rfl ?_) ?_
    · dsimp only
      split <;> rfl
    · have hold : o.identifier ∈ ids.byName.keys := mem_map_of_mem (mem_of_get? hget)
      rw [keys_set, if_pos hold]
      exact h.groups_perm
  | none =>
    have hnew := get?_eq_none_iff.mp hget
    dsimp only
    rw [← set_eq_append hnew]
    refine h.set (Identifier.tells_first (fun o' ho' hname => ?_) rfl rfl) ?_
    · exact hnew ((h.mem_keys _).mpr ⟨o', ho', hname⟩)
    · rw [keys_set, if_neg hnew]
      exact (flatMap_update_perm _ _ _).trans (h.groups_perm.append_right _)

/-- **The registry of a list of constants.** -/
theorem registers_foldl (all : List Occurrence) : (all.foldl register .empty).Registers all := by
  induction all using reverseRecOn with
  | nil => exact registers_empty
  | append_singleton all o ih =>
    rw [foldl_append]
    exact ih.add o

end Identifiers

end FlowBindings.Loci
