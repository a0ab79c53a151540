import FlowBindings.Proofs.Layout

/-!
# What a type takes

`Context.typeExtent` measures a type against what is known when its class is laid out. It
takes the array notation off, replaces a type whose form depends on the version by its form,
and is left with a base (`WireType.resolve?`). Up to here only the version matters. A class
that is known under the base's name without its last two letters then gives the length, and
only if there is none does the table of built-in types (`Context.baseExtent?`).

So there is one question that measuring asks the classes known so far: which class has this
one name (`extent?_congr`). A type that names no class is measured by the table, whatever is
known, and a class that is known keeps its length, whatever is added.
-/

namespace FlowBindings

open Text Option WireType

/-- So many times an extent. -/
def Extent.times (count : Int) (e : Extent) : Extent :=
  { e with baseLength := (count * e.baseLength).toNat }

/-- What an object of a class takes inside another: its length, rounded up to eight bytes when
its own length field leaves the alignment out. -/
def Class.inner (c : Class) : Extent :=
  ⟨if c.hasExternalAlignment then Context.roundUp8 c.baseLength else c.baseLength,
    c.isFixedLength⟩

namespace WireType

/-- **What a type comes down to in a version**: how often its base occurs, and the base. There
is no answer for an array whose count is no number, and for a type the version has no form
of. -/
def resolve? (v : Version) (type : String) : Option (Int × String) :=
  match countAndBase type with
  | .error _ => none
  | .ok (count, written) =>
    match mixedForm? written v with
    | none => some (count, written)
    | some form => form.map fun base => (count, base)

/-- The class whose length a type asks for: the base without its last two letters. -/
def asksFor? (v : Version) (type : String) : Option String :=
  (resolve? v type).map fun r => dropLast 2 r.2

end WireType

/-- Whether an error is about a member that has no length. -/
def Protocol.Error.isLayout : Protocol.Error → Bool
  | recursiveStruct _ _ => true
  | unknownType _ _ _ => true
  | badCount _ => true
  | noForm _ => true
  | _ => false

namespace Context

variable (ctx : Context)

/-- What a base takes: what the class it names takes, and without one what the built-in type
takes. -/
def baseExtent? (base : String) : Option Extent :=
  match ctx.classes.find? (·.name = dropLast 2 base) with
  | some c => some c.inner
  | none => baseExtents.get? (ctx.tableName base)

/-- **What a type takes.** -/
def extent? (type : String) : Option Extent :=
  if isList type then some ⟨0, false⟩
  else if startsWith type "struct" then none
  else if type = "octets" then some ⟨0, false⟩
  else (resolve? ctx.version type).bind fun r => (ctx.baseExtent? r.2).map (·.times r.1)

variable {ctx} {className field type : String}

/-- The base a type comes down to. -/
theorem resolve?_eq_some_iff {v : Version} {count : Int} {base : String} :
    resolve? v type = some (count, base) ↔ ∃ written,
      countAndBase type = .ok (count, written)
        ∧ (mixedForm? written v = none ∧ base = written
          ∨ mixedForm? written v = some (some base)) := by
  unfold resolve?
  cases hcount : countAndBase type with
  | error e => simp
  | ok row =>
    obtain ⟨n, written⟩ := row
    cases hform : mixedForm? written v with
    | none =>
      simp only [hform, Option.some.injEq, Prod.mk.injEq, Except.ok.injEq]
      constructor
      · rintro ⟨rfl, rfl⟩
        exact ⟨written, ⟨rfl, rfl⟩, .inl ⟨hform, rfl⟩⟩
      · rintro ⟨_, ⟨rfl, rfl⟩, ⟨-, rfl⟩ | hsome⟩
        · exact ⟨rfl, rfl⟩
        · rw [hform] at hsome
          cases hsome
    | some form =>
      simp only [hform, map_eq_some_iff, Prod.mk.injEq, Except.ok.injEq]
      constructor
      · rintro ⟨_, rfl, rfl, rfl⟩
        exact ⟨written, ⟨rfl, rfl⟩, .inr hform⟩
      · rintro ⟨_, ⟨rfl, rfl⟩, ⟨hnone, -⟩ | hsome⟩
        · rw [hform] at hnone
          cases hnone
        · rw [hform] at hsome
          exact ⟨base, Option.some.inj hsome, rfl, rfl⟩

/-- A type that comes down to a base is measured by it. -/
theorem typeExtent_of_resolve {count : Int} {base : String}
    (h : resolve? ctx.version type = some (count, base)) :
    ctx.typeExtent className field type
      = match ctx.baseExtent? base with
        | some e => .ok (e.times count)
        | none => .error (.unknownType className field (ctx.tableName base)) := by
  obtain ⟨written, hcount, hform⟩ := resolve?_eq_some_iff.mp h
  have hread : ctx.typeExtent className field type
      = match ctx.classes.find? (·.name = dropLast 2 base) with
        | some c => .ok (c.inner.times count)
        | none => match baseExtents.get? (ctx.tableName base) with
          | some e => .ok (e.times count)
          | none => .error (.unknownType className field (ctx.tableName base)) := by
    unfold Context.typeExtent
    rw [hcount]
    rcases hform with ⟨hform, rfl⟩ | hform
    · simp only [pure_bind, hform]
      rfl
    · simp only [pure_bind, hform]
      rfl
  rw [hread, baseExtent?]
  cases ctx.classes.find? (·.name = dropLast 2 base) <;> rfl

/-- A type that comes down to nothing is refused for its count or for its form. -/
theorem typeExtent_of_unresolved (className field : String)
    (h : resolve? ctx.version type = none) :
    ∃ text, ctx.typeExtent className field type = .error (.badCount text)
      ∨ ctx.typeExtent className field type = .error (.noForm text) := by
  unfold resolve? at h
  cases hcount : countAndBase type with
  | error e =>
    refine ⟨e.text, .inl ?_⟩
    unfold Context.typeExtent
    rw [hcount]
    rfl
  | ok row =>
    obtain ⟨n, written⟩ := row
    rw [hcount] at h
    refine ⟨written, .inr ?_⟩
    unfold Context.typeExtent
    rw [hcount]
    cases hform : mixedForm? written ctx.version with
    | none =>
      simp [hform] at h
    | some form =>
      cases form with
      | none => simp only [pure_bind, hform]; rfl
      | some base => simp [hform] at h

/-! ## Members -/

/-- **Why a type is not measured**: its error is about a length, and a type nothing is known
about comes down to a base that names no class known so far and no built-in type. -/
structure Unmeasured (ctx : Context) (type : String) (e : Protocol.Error) : Prop where
  /-- The type takes nothing. -/
  extent : ctx.extent? type = none
  /-- The error is about a length. -/
  isLayout : e.isLayout = true
  /-- Where nothing is known about the type, nothing is known about its base. -/
  unknown : ∀ inClass inField name, e = .unknownType inClass inField name →
    isList type = false ∧ type ≠ "octets" ∧ ∃ count base,
      resolve? ctx.version type = some (count, base) ∧ ctx.baseExtent? base = none

/-- **A field takes what its type takes**, whatever it is called and whatever it is for. -/
theorem memberExtent_endsIn (role : Source.Role) :
    EndsIn (fun e => ctx.extent? type = some e) (ctx.Unmeasured type)
      (ctx.memberExtent className (.field field type role)) := by
  rw [Context.memberExtent]
  by_cases hlist : isList type = true
  · rw [if_pos hlist]
    exact if_pos hlist
  by_cases hstruct : startsWith type "struct" = true
  · rw [if_neg hlist, if_pos hstruct]
    refine ⟨?_, rfl, fun _ _ _ heq => ?_⟩
    · rw [extent?, if_neg hlist, if_pos hstruct]
    · cases heq
  by_cases hoctets : type = "octets"
  · rw [if_neg hlist, if_neg hstruct, if_pos hoctets]
    show ctx.extent? type = _
    rw [extent?, if_neg hlist, if_neg hstruct, if_pos hoctets]
  rw [if_neg hlist, if_neg hstruct, if_neg hoctets]
  have hextent : ctx.extent? type = (resolve? ctx.version type).bind fun r =>
      (ctx.baseExtent? r.2).map (·.times r.1) := by
    rw [extent?, if_neg hlist, if_neg hstruct, if_neg hoctets]
  cases hres : resolve? ctx.version type with
  | none =>
    rw [hres] at hextent
    obtain ⟨text, h | h⟩ := typeExtent_of_unresolved className field hres
    · rw [h]
      exact ⟨hextent, rfl, fun _ _ _ heq => by cases heq⟩
    · rw [h]
      exact ⟨hextent, rfl, fun _ _ _ heq => by cases heq⟩
  | some row =>
    obtain ⟨count, base⟩ := row
    rw [hres, bind_some] at hextent
    rw [typeExtent_of_resolve hres]
    cases hbase : ctx.baseExtent? base with
    | none =>
      rw [hbase] at hextent
      exact ⟨hextent, rfl, fun _ _ _ _ => ⟨by simpa using hlist, hoctets, count, base, hres, hbase⟩⟩
    | some e =>
      rw [hbase] at hextent
      exact hextent

/-- **Measuring asks for one class.** Lists of classes that know the same class under that name
measure a type alike. -/
theorem extent?_congr {v : Version} {classes classes' : List Class} {enums : List Enum}
    (h : ∀ n, asksFor? v type = some n →
      classes.find? (·.name = n) = classes'.find? (·.name = n)) :
    extent? ⟨v, classes, enums⟩ type = extent? ⟨v, classes', enums⟩ type := by
  unfold extent?
  dsimp only
  cases hres : resolve? v type with
  | none => rfl
  | some row =>
    have hask : asksFor? v type = some (dropLast 2 row.2) := by
      rw [asksFor?, hres, map_some]
    rw [bind_some, bind_some, baseExtent?, baseExtent?, h _ hask]
    rfl

end Context

theorem extent?_of_mem_fields {ctx : Context} {ancestors : List Ancestor} {c : Source.Class}
    {laid : Class} (h : Class.ofSource ctx ancestors c = .ok laid) {f : Field}
    (hf : f ∈ laid.fields) : ctx.extent? f.type = some ⟨f.baseLength, f.isFixedLength⟩ := by
  obtain ⟨role, e, -, hextent, hlength, hfixed⟩ := extent_of_mem_fields h hf
  rw [hlength, hfixed]
  exact (Context.memberExtent_endsIn role).of_ok hextent

end FlowBindings
