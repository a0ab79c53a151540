import FlowBindings.Model
import FlowBindings.Proofs.Basic
import FlowBindings.Proofs.Grammar.Accepted

/-!
# Which errors a file's name is put to

A file that cannot be read should be reported by one line that names it, and the program
should end with status 1 (`Model.Contained`). Two errors are not reported so, since words
and digits are read before anyone asks what they stand for: a run of digits that begins
like an octal numeral and goes on with an eight or a nine (`Misread`), and a version that
is no number. `Model.readSource_contained_iff` says that there are no others, and when
each of them comes up.

Declarations are looked at one by one, and whether one of them is acceptable does not depend
on those before it (`Source.Acceptable`), so the first that is not decides what is complained
about.
-/

namespace FlowBindings

open List

/-! ## Digits are not made up -/

namespace Declaration

/-- **A numeral that ends reading stands in the text and is misread.** -/
theorem misread_of_parse {text digits : String} (h : parse text = .error (.badInteger digits)) :
    Misread digits.toList ∧ digits.toList <:+: text.toList := by
  unfold parse parseChars at h
  split at h
  · split at h <;> cases h
  · cases h
  · cases h
  · next hstop =>
    cases h
    have hsound := sound_declaration.many (expandTabs 0 (Text.bytes text))
    rw [hstop] at hsound
    refine ⟨hsound.1, (recoded_expandTabs text).isInfix hsound.2 fun c hc => ?_⟩
    have hdigit := hsound.1.2.1 c hc
    refine ⟨toNat_lt_of_isWordChar (isWordChar_of_isDigit hdigit), ?_, ?_⟩ <;>
      exact fun heq => absurd (heq ▸ hdigit) (by decide)

end Declaration

/-! ## Declarations that are acceptable -/

namespace Source

/-- Whether a line declares a discriminator. -/
def declaresDiscriminator : Declaration.Member → Bool
  | .discriminator _ _ => true
  | _ => false

/-- A word that a version can be told from: `any`, or an integer. -/
def IsVersionWord (word : String) : Prop :=
  word = "any" ∨ ∃ n, Text.readInt? 10 word = some n

/-- **A declaration that can be taken into a source**: a struct has at most one
discriminator and no line of an unknown kind, and a version is `any` or the wire number
of one. -/
def Acceptable : Declaration → Prop
  | .struct _ _ _ lines => (∀ keyword, .unknown keyword ∉ lines)
      ∧ (lines.filter declaresDiscriminator).length ≤ 1
  | .metadata key word => key = "version" → word = "any"
      ∨ ∃ v : Version, Text.readInt? 10 word = some (v.wire : Int)
  | .enum _ _ _ => True
  | .unknown => True

/-- The lines of a struct become members unless one is of an unknown kind. -/
theorem lines_endsIn (lines : List Declaration.Member) :
    EndsIn (fun members => (∀ keyword, .unknown keyword ∉ lines)
        ∧ (members.filter Member.isDiscriminator).length
          = (lines.filter declaresDiscriminator).length)
      (fun e => ∃ keyword, .unknown keyword ∈ lines ∧ e = .unknownMember keyword)
      (lines.mapM Member.ofDeclaration) := by
  refine (endsIn_mapM (R := fun line m => (∀ keyword, line ≠ .unknown keyword)
    ∧ m.isDiscriminator = declaresDiscriminator line) fun line hline => ?_).imp ?_ fun _ he => he
  · cases line with
    | unknown keyword => exact ⟨keyword, hline, rfl⟩
    | data type name =>
      refine ⟨nofun, ?_⟩
      unfold roleOfName
      split
      · rfl
      · split <;> rfl
    | pad => exact ⟨nofun, rfl⟩
    | fixed => exact ⟨nofun, rfl⟩
    | discriminator => exact ⟨nofun, rfl⟩
    | fieldLength => exact ⟨nofun, rfl⟩
  · intro members hall
    induction hall with
    | nil => exact ⟨fun _ => not_mem_nil, rfl⟩
    | cons hline _ ih =>
      refine ⟨fun keyword hmem => ?_, ?_⟩
      · rcases mem_cons.mp hmem with heq | hmem
        · exact hline.1 keyword heq.symm
        · exact ih.1 keyword hmem
      · rw [filter_cons, filter_cons, hline.2]
        split
        · rw [length_cons, length_cons, ih.2]
        · exact ih.2

/-- **A struct makes a class if and only if it is acceptable.** -/
theorem class_endsIn (name : String) (ps : List Declaration.Param) (up : Option String)
    (lines : List Declaration.Member) :
    EndsIn (fun _ => Acceptable (.struct name ps up lines))
      (fun e => ¬ Acceptable (.struct name ps up lines) ∧ ∀ word, e ≠ .badVersion word)
      (Class.ofDeclaration name ps up lines) := by
  have hlines := lines_endsIn lines
  unfold Class.ofDeclaration
  cases hmembers : lines.mapM Member.ofDeclaration with
  | error e =>
    obtain ⟨keyword, hmem, rfl⟩ := hlines.of_error hmembers
    exact ⟨fun h => h.1 keyword hmem, nofun⟩
  | ok members =>
    obtain ⟨hknown, hcount⟩ := hlines.of_ok hmembers
    show EndsIn _ _ (if (members.filter Member.isDiscriminator).length > 1 then _ else _)
    split
    · next hmany => exact ⟨fun h => absurd h.2 (by omega), nofun⟩
    · next hfew => exact ⟨hknown, by omega⟩

theorem wire_of_ofWire? {n : Nat} {v : Version} (h : Version.ofWire? n = some v) : v.wire = n := by
  unfold Version.ofWire? at h
  split at h <;> cases h <;> rfl

/-- The versions of a word: a word that is no integer is told apart from an integer that
is no version. -/
theorem versionsOfWord_endsIn (word : String) :
    EndsIn (fun _ => Acceptable (.metadata "version" word))
      (fun e => ¬ Acceptable (.metadata "version" word)
        ∧ ∀ w, e = .badVersion w ↔ w = word ∧ ¬ IsVersionWord word)
      (versionsOfWord word) := by
  unfold versionsOfWord
  split
  · next hany => exact fun _ => Or.inl hany
  · next hany =>
    have hnumber : ∀ {n : Int}, Text.readInt? 10 word = some n → (∀ v : Version, n ≠ v.wire) →
        EndsIn (fun _ => Acceptable (.metadata "version" word))
          (fun e => ¬ Acceptable (.metadata "version" word)
            ∧ ∀ w, e = .badVersion w ↔ w = word ∧ ¬ IsVersionWord word)
          (.error (.unknownVersion (Text.quoted word)) : Except Error (List Version)) := by
      intro n hn hwire
      refine ⟨fun h => ?_, fun w => ⟨nofun, fun h => absurd (Or.inr ⟨n, hn⟩) h.2⟩⟩
      obtain hw | ⟨v, hv⟩ := h rfl
      · exact hany hw
      · rw [hn, Option.some.injEq] at hv
        exact hwire v hv
    split
    · next hnone =>
      have hword : ¬ IsVersionWord word := by
        rintro (hw | ⟨n, hn⟩)
        · exact hany hw
        · rw [hnone] at hn
          cases hn
      refine ⟨fun h => hword ((h rfl).imp_right fun ⟨v, hv⟩ => ⟨_, hv⟩), fun w => ?_⟩
      rw [Error.badVersion.injEq, eq_comm]
      exact ⟨fun h => ⟨h, hword⟩, fun h => h.1⟩
    · next n hn =>
      split
      · next v hv =>
        exact fun _ => Or.inr ⟨v, by rw [wire_of_ofWire? hv]; exact hn⟩
      · next hnone =>
        refine hnumber hn fun v hv => ?_
        rw [Int.ofNat_inj.mp hv, Version.ofWire?_wire] at hnone
        cases hnone
    · next n hn => exact hnumber hn fun v => nofun

/-- **A declaration is added if and only if it is acceptable**, whatever was added before. -/
theorem add_endsIn (s : Source) (d : Declaration) :
    EndsIn (fun _ => Acceptable d)
      (fun e => ¬ Acceptable d
        ∧ ∀ word, e = .badVersion word ↔ d = .metadata "version" word ∧ ¬ IsVersionWord word)
      (s.add d) := by
  cases d with
  | struct name ps up lines =>
    refine ((class_endsIn name ps up lines).imp (fun _ h => h) fun e he => ?_).bind fun _ h => h
    exact ⟨he.1, fun word => ⟨fun h => absurd h (he.2 word), fun h => absurd h.1 nofun⟩⟩
  | enum => exact trivial
  | metadata key value =>
    show EndsIn _ _ (if key = "version" then _ else _)
    split
    · next hkey =>
      subst hkey
      refine ((versionsOfWord_endsIn value).imp (fun _ h => h) fun e he => ?_).bind fun _ h => h
      refine ⟨he.1, fun word => (he.2 word).trans ?_⟩
      rw [Declaration.metadata.injEq]
      constructor
      · rintro ⟨rfl, hword⟩
        exact ⟨⟨rfl, rfl⟩, hword⟩
      · rintro ⟨⟨-, rfl⟩, hword⟩
        exact ⟨rfl, hword⟩
    · next hkey => exact fun h => absurd h hkey
  | unknown => exact trivial

/-- Declarations are added one after another if and only if all are acceptable. -/
theorem exists_foldlM_add_iff {ds : List Declaration} {s : Source} :
    (∃ s', ds.foldlM Source.add s = .ok s') ↔ ∀ d ∈ ds, Acceptable d := by
  induction ds generalizing s with
  | nil => exact ⟨fun _ d hd => absurd hd not_mem_nil, fun _ => ⟨s, rfl⟩⟩
  | cons d ds ih =>
    have hadd := add_endsIn s d
    rw [foldlM_cons, forall_mem_cons]
    cases hstep : s.add d with
    | error e =>
      refine ⟨fun ⟨s', h⟩ => ?_, fun h => absurd h.1 (hadd.of_error hstep).1⟩
      cases h
    | ok s' => exact ih.trans ⟨fun h => ⟨hadd.of_ok hstep, h⟩, fun h => h.2⟩

/-- **When a version is complained about that is no number**: it is the first thing in the
file that is not acceptable. -/
theorem ofDeclarations_badVersion_iff {file word : String} {ds : List Declaration} :
    ofDeclarations file ds = .error (.badVersion word) ↔
      ∃ before after, ds = before ++ .metadata "version" word :: after
        ∧ (∀ d ∈ before, Acceptable d) ∧ ¬ IsVersionWord word := by
  unfold ofDeclarations
  constructor
  · intro h
    rcases error_of_bind h with hfold | ⟨s, -, h⟩
    · obtain ⟨before, d, after, mid, rfl, hbefore, hd⟩ := foldlM_eq_error_iff.mp hfold
      obtain ⟨rfl, hword⟩ := (((add_endsIn mid d).of_error hd).2 word).mp rfl
      exact ⟨before, after, rfl, exists_foldlM_add_iff.mp ⟨mid, hbefore⟩, hword⟩
    · change (if s.versions.isEmpty = true then _ else _) = _ at h
      split at h <;> cases h
  · rintro ⟨before, after, rfl, hbefore, hword⟩
    obtain ⟨mid, hmid⟩ := exists_foldlM_add_iff (s := ⟨file, [], [], []⟩).mpr hbefore
    have hlast := add_endsIn mid (.metadata "version" word)
    cases hd : mid.add (.metadata "version" word) with
    | ok s =>
      have hacceptable : Acceptable _ := hlast.of_ok hd
      exact absurd ((hacceptable rfl).imp_right fun ⟨v, hv⟩ => ⟨_, hv⟩) hword
    | error e =>
      obtain rfl := ((hlast.of_error hd).2 word).mpr ⟨rfl, hword⟩
      rw [foldlM_eq_error_iff.mpr ⟨before, _, after, mid, rfl, hmid, hd⟩]
      rfl

end Source

/-! ## Files -/

namespace Model

/-- **What reading a file should end in**: a source, or one line that names the file and
tells why there is none, and status 1. -/
inductive Contained (name : String) : Outcome Source → Prop
  /-- The file is read. -/
  | read (s : Source) : Contained name (.ok s)
  /-- The text is no sequence of declarations. -/
  | misparsed (why : String) :
    Contained name (.error (.exit 1 ["Parse error in " ++ name ++ ": " ++ why] ""))
  /-- The declarations make no source. -/
  | rejected (why : String) :
    Contained name (.error (.exit 1 ["Error in " ++ name ++ ": " ++ why] ""))

/-- **Which errors are not put to the file.** Reading a file ends as it should, except
where reading its text ends at a numeral, and where the first declaration that is not
acceptable is a version that is no number. Any numeral at which reading ends stands in the
text, is written in decimal digits, begins with a zero and has an eight or a nine. -/
theorem readSource_contained_iff (name text : String) :
    (Contained name (readSource name text) ↔
      (∀ digits, Declaration.parse text ≠ .error (.badInteger digits))
        ∧ ∀ before word after,
          Declaration.parse text = .ok (before ++ .metadata "version" word :: after) →
          (∀ d ∈ before, Source.Acceptable d) → Source.IsVersionWord word)
      ∧ ∀ digits, Declaration.parse text = .error (.badInteger digits) →
        Misread digits.toList ∧ digits.toList <:+: text.toList := by
  refine ⟨?_, fun digits h => Declaration.misread_of_parse h⟩
  unfold readSource
  cases hparse : Declaration.parse text with
  | error e =>
    cases e with
    | badInteger digits =>
      exact ⟨nofun, fun h => absurd rfl (h.1 digits)⟩
    | missing => exact ⟨fun _ => ⟨nofun, nofun⟩, fun _ => .misparsed _⟩
    | trailing => exact ⟨fun _ => ⟨nofun, nofun⟩, fun _ => .misparsed _⟩
  | ok ds =>
    have hversion := @Source.ofDeclarations_badVersion_iff name
    dsimp only
    split
    · next s hs =>
      refine ⟨fun _ => ⟨nofun, fun before word after heq hbefore => ?_⟩, fun _ => .read s⟩
      by_contra hword
      have hbad := hversion.mpr ⟨before, after, Except.ok.inj heq, hbefore, hword⟩
      rw [hs] at hbad
      cases hbad
    · next word hbad =>
      obtain ⟨before, after, rfl, hbefore, hword⟩ := hversion.mp hbad
      exact ⟨nofun, fun h => absurd (h.2 before word after rfl hbefore) hword⟩
    · next e hne he =>
      refine ⟨fun _ => ⟨nofun, fun before word after heq hbefore => ?_⟩, fun _ => .rejected _⟩
      by_contra hword
      have hbad := hversion.mpr ⟨before, after, Except.ok.inj heq, hbefore, hword⟩
      rw [he, Except.error.injEq] at hbad
      exact hne word hbad

/-- Two files whose errors are not put to them: a version that is no number, and a constant
that is written with a zero in front. -/
theorem readSource_not_contained :
    ¬ Contained "flows" (readSource "flows" "#version latest\n")
      ∧ ¬ Contained "flows" (readSource "flows" "#version 1\nenum port { NINE = 09 };\n") := by
  have hversion : readSource "flows" "#version latest\n"
      = .error (.source (.badVersion "latest")) := by
    decide +kernel
  have hnumeral : readSource "flows" "#version 1\nenum port { NINE = 09 };\n"
      = .error (.declaration (.badInteger "09")) := by
    decide +kernel
  rw [hversion, hnumeral]
  exact ⟨nofun, nofun⟩

end Model

end FlowBindings
