import FlowBindings.Proofs.CycleDetection

/-!
# Types that can be resolved

A type is read twice, and not in the same way. What must be laid out before a class is read
off its types as they are written: `T_t` and `T` ask for the class `T`. What a field takes is
read off what its type comes down to, the array notation taken off and a type whose form
depends on the version replaced by its form. A class that only the second reading finds is
known if the walk happened to come to it before, and otherwise the type is reported as unknown,
although it could be resolved (`array_of_class_unknown`).

Where the class leads to what its types come down to (`Resolvable`), nothing is reported
(`build_resolvesTypes`). A class that the walk lays out stands behind all it leads to. A class
that identifies another takes over the members of the other, and that one was laid out before
it, unless its name was taken (`displaced_type_unknown`); so the statement asks for identifying
names that keep apart.
-/

namespace FlowBindings.Protocol

/-- **A type that a class can resolve**: a list, bytes without a length, or a type that comes
down to a base that is known without any class, or to `T_t` for a declared class `T` that the
class leads to. -/
def Resolvable (v : Version) (sources : List Source) (owner type : String) : Prop :=
  WireType.isList type = true ∨ type = "octets" ∨ ∀ r ∈ WireType.resolve? v type,
    (Context.baseExtent? ⟨v, [], protocolEnums sources⟩ r.2).isSome = true
      ∨ ∃ c ∈ classesOf sources, r.2 = c.name ++ "_t" ∧ LeadsTo sources owner c.name

instance (v : Version) (sources : List Source) (owner type : String) :
    Decidable (Resolvable v sources owner type) :=
  inferInstanceAs (Decidable (_ ∨ _))

/-- A base about which nothing is known is not built in, and names no class that is known. -/
theorem baseExtent?_eq_none {v : Version} {known : List Class} {enums : List Enum} {base : String}
    (h : Context.baseExtent? ⟨v, known, enums⟩ base = none) :
    Text.dropLast 2 base ∉ names known ∧ Context.baseExtent? ⟨v, [], enums⟩ base = none := by
  unfold Context.baseExtent? at h
  dsimp only at h
  split at h
  · cases h
  · rename_i hfind
    refine ⟨fun hmem => ?_, h⟩
    obtain ⟨c, hc⟩ := exists_find?_name_of_mem hmem
    rw [hc] at hfind
    cases hfind

section Unknown

variable {v : Version} {sources : List Source}

/-- A class that stands behind what it needs resolves its types. -/
theorem not_resolvable_of_unmeasured (hnodup : ((classesOf sources).map (·.name)).Nodup)
    {known : List Class} {c : Source.Class} {file : String}
    (hget : (classRows sources).get? c.name = some (c, file))
    (hready : ∀ n ∈ prerequisites (classRows sources) c, n ∈ names known)
    {type inClass inField name : String}
    (h : Context.Unmeasured ⟨v, known, protocolEnums sources⟩ type
      (.unknownType inClass inField name)) : ¬ Resolvable v sources c.name type := by
  obtain ⟨hlist, hoctets, count, base, hresolve, hbase⟩ := h.unknown _ _ _ rfl
  obtain ⟨hunknown, hbuiltIn⟩ := baseExtent?_eq_none hbase
  rintro (hlist' | hoctets' | hbases)
  · rw [hlist] at hlist'
    cases hlist'
  · exact hoctets hoctets'
  · rcases hbases (count, base) hresolve with hsome | ⟨d, -, rfl, hleads⟩
    · rw [hbuiltIn] at hsome
      cases hsome
    · obtain ⟨c', file', hget', hneeded⟩ := hleads.needs hnodup
      rw [hget] at hget'
      cases hget'
      rw [dropLast_append_t] at hunknown
      exact hunknown (hready d.name hneeded)

/-- **An unknown type is one that its class cannot resolve.** -/
theorem exists_not_resolvable (hapart : v.wire < 4 ∨ IdsApart (classRows sources))
    {inClass inField name : String}
    (h : build v sources = .error (.unknownType inClass inField name)) :
    ∃ c ∈ classesOf sources, ∃ m ∈ c.members, ∃ type ∈ m.type?,
      ¬ Resolvable v sources c.name type := by
  obtain ⟨hnodup, hfails⟩ := fails_of_build h rfl
  cases hfails with
  | @layout done taken c _ built declared ready error =>
    obtain ⟨file, hget⟩ := declared
    obtain ⟨field, type, role, hmem, hbad⟩ := exists_unmeasured_of_ofSource error
    exact ⟨c, (mem_classesOf_of_get? hget).1, _, hmem, type, rfl,
      not_resolvable_of_unmeasured hnodup hget ready hbad⟩
  | @idLayout done ctx taken root e d _ start way declared known error =>
    -- the class that is identified was laid out before, behind what it needs
    have hapart := hapart.resolve_left (Nat.not_lt.mpr start.version)
    obtain ⟨file, hget⟩ := declared
    obtain ⟨own, u, hpre, hstep⟩ := start.built.own_of_apart hapart
      (name_of_get?_classRows sources) start.mem start.isRoot start.below way hget
    have hready : ∀ n ∈ prerequisites (classRows sources) d, n ∈ names ctx := fun n hn =>
      names_subset_of_isPrefix (((List.prefix_append _ _).trans hpre).trans known)
        (hstep.ready n hn)
    obtain ⟨field, type, role, hmem, hbad⟩ := exists_unmeasured_of_ofSource error
    exact ⟨d, (mem_classesOf_of_get? hget).1, _, (List.mem_filter.mp hmem).1, type, rfl,
      not_resolvable_of_unmeasured hnodup hget hready hbad⟩

end Unknown

/-- **Every type that can be resolved is resolved.** If each class can resolve the types of its
members, no type is reported as unknown: before version 1.3 in any case, and from then on where
identifying names keep apart. -/
theorem build_resolvesTypes {v : Version} {sources : List Source}
    (hapart : v.wire < 4 ∨ IdsApart (classRows sources))
    (htypes : ∀ c ∈ classesOf sources, ∀ m ∈ c.members, ∀ type ∈ m.type?,
      Resolvable v sources c.name type) (inClass inField name : String) :
    build v sources ≠ .error (.unknownType inClass inField name) := by
  intro h
  obtain ⟨c, hc, m, hm, type, htype, hbad⟩ := exists_not_resolvable hapart h
  exact hbad (htypes c hc m hm type htype)

/-- An action that holds a port and two more. -/
def portsSource : Source where
  file := "standard-1.3"
  versions := [.v13]
  classes :=
    [⟨"of_action", none, [.field "type" "uint16_t" .discriminator], true, []⟩,
     ⟨"of_action_output", some "of_action", [.field "type" "uint16_t" (.fixed 0),
      .field "first" "of_port_t" .data, .field "others" "of_port_t[2]" .data], false, []⟩,
     ⟨"of_port", none, [.field "number" "of_port_no_t" .data,
      .field "address" "of_mac_addr_t" .data], false, []⟩]
  enums := []

/-- Two ports in a row are no unknown type. -/
theorem build_resolvesTypes_ports :
    (∃ c ∈ classesOf [portsSource], .field "others" "of_port_t[2]" .data ∈ c.members)
      ∧ ∀ inClass inField name,
        build .v13 [portsSource] ≠ .error (.unknownType inClass inField name) := by
  refine ⟨by decide, build_resolvesTypes (.inr (idsApart_of_clear ?_)) (by decide +kernel)⟩
  intro n hn
  have hclear : ∀ n ∈ (classesOf [portsSource]).map (·.name), ∀ root ∈ idRoots,
      Text.startsWith n (root ++ "_id") = false := by decide
  exact hclear n (has_classRows_iff.mp hn)

/-- Structs as in `tangledSource`, the one that loses its name to an identifying class holding a
struct from the end of the alphabet. -/
def strayedSource : Source where
  file := "standard-1.3"
  versions := [.v13]
  classes := tangledSource.classes.take 4 ++
    [⟨"of_action_id_a", none, [.field "k" "z_t" (.fixed 7)], false, []⟩,
     ⟨"z", none, [.field "v" "uint8_t" .data], false, []⟩]
  enums := []

/-- **A displaced declaration is not looked at**, so a type it names is unknown when its members
are taken over, although the class can resolve it. -/
theorem displaced_type_unknown :
    (∀ c ∈ classesOf [strayedSource], ∀ m ∈ c.members, ∀ type ∈ m.type?,
        Resolvable .v13 [strayedSource] c.name type)
      ∧ build .v13 [strayedSource] = .error (.unknownType "of_action_id_id_a" "k" "z_t") := by
  refine ⟨by decide +kernel, ?_⟩
  rw [build_eq_walk .v13 (by decide) (by decide), sortedNames_of_pairwise (by decide)]
  decide +kernel

/-! ## A class that only the second reading finds -/

/-- **One declared class depends on another** when it extends it, or when the type of one of its
fields comes down to `T_t` or `T` for the other's name `T`. -/
def DependsOn (v : Version) (sources : List Source) (a b : String) : Prop :=
  b ∈ (classesOf sources).map (·.name) ∧ ∃ c ∈ classesOf sources, c.name = a
    ∧ (c.superclass = some b
      ∨ ∃ m ∈ c.members, ∃ type ∈ m.type?, ∃ r ∈ WireType.resolve? v type,
        r.2 = b ++ "_t" ∨ r.2 = b)

instance (v : Version) (sources : List Source) (a b : String) :
    Decidable (DependsOn v sources a b) :=
  inferInstanceAs (Decidable (_ ∧ _))

/-- Two of a struct that comes later in the alphabet. -/
def arraySource : Source where
  file := "standard-1.0"
  versions := [.v10]
  classes :=
    [⟨"a", none, [.field "x" "b_t[2]" .data], false, []⟩,
     ⟨"b", none, [.field "v" "uint8_t" .data], false, []⟩]
  enums := []

/-- **An array of a struct is unknown** if nothing else makes the walk lay the struct out first,
although nothing depends on itself and every type comes down to a built-in type or to a
declared class. -/
theorem array_of_class_unknown :
    Acyclic (DependsOn .v10 [arraySource])
      ∧ (∀ c ∈ classesOf [arraySource], ∀ m ∈ c.members, ∀ type ∈ m.type?,
          ∃ r ∈ WireType.resolve? .v10 type,
            (Context.baseExtent? ⟨.v10, [], protocolEnums [arraySource]⟩ r.2).isSome = true
              ∨ ∃ d ∈ classesOf [arraySource], r.2 = d.name ++ "_t")
      ∧ build .v10 [arraySource] = .error (.unknownType "a" "x" "b_t") := by
  refine ⟨fun n hcircle => ?_, by decide +kernel, ?_⟩
  · -- the one dependency is that of a on b
    have hedges : ∀ a ∈ (classesOf [arraySource]).map (·.name),
        ∀ b ∈ (classesOf [arraySource]).map (·.name),
          DependsOn .v10 [arraySource] a b → a = "a" ∧ b = "b" := by decide +kernel
    have hedge : ∀ {a b}, DependsOn .v10 [arraySource] a b → a = "a" ∧ b = "b" := by
      rintro a b ⟨hb, c, hc, rfl, hcause⟩
      exact hedges c.name (List.mem_map_of_mem hc) b hb ⟨hb, c, hc, rfl, hcause⟩
    obtain ⟨m, hfirst, -⟩ := Relation.TransGen.head'_iff.mp hcircle
    obtain ⟨m', -, hlast⟩ := Relation.TransGen.tail'_iff.mp hcircle
    exact absurd ((hedge hfirst).1.symm.trans (hedge hlast).2) (by decide)
  · rw [build_eq_walk .v10 (by decide) (by decide), sortedNames_of_pairwise (by decide)]
    decide +kernel

end FlowBindings.Protocol
