import FlowBindings.Proofs.Grammar.Accepted
import FlowBindings.Proofs.Grammar.Rules

/-!
# Writing and reading back

The grammar reads every written form of well-formed declarations as these
declarations, and reads nothing else than well-formed declarations out of any
text. Since every well-formed declaration has a written form, well-formedness is
exactly what can be read.
-/

namespace FlowBindings.Declaration

open List

/-! ## Every well-formed declaration can be written -/

section Spellings

variable {α : Type} {spells : α → List Token → Prop}

theorem exists_each {as : List α} (h : ∀ a ∈ as, ∃ ts, spells a ts) : ∃ ts, Each spells as ts := by
  induction as with
  | nil => exact ⟨[], .nil⟩
  | cons a as ih =>
    obtain ⟨ts, hts⟩ := h a mem_cons_self
    obtain ⟨us, hus⟩ := ih fun b hb => h b (mem_cons_of_mem a hb)
    exact ⟨ts ++ us, .cons hts hus⟩

theorem exists_commas {a : α} {as : List α} (h : ∀ b ∈ a :: as, ∃ ts, spells b ts) :
    ∃ ts, Commas spells (a :: as) ts := by
  induction as generalizing a with
  | nil =>
    obtain ⟨ts, hts⟩ := h a mem_cons_self
    exact ⟨ts, .last hts⟩
  | cons b as ih =>
    obtain ⟨ts, hts⟩ := h a mem_cons_self
    obtain ⟨us, hus⟩ := ih fun c hc => h c (mem_cons_of_mem a hc)
    exact ⟨ts ++ .mark .comma :: us, .cons hts hus⟩

theorem TypeRef.WellFormed.exists_spelled {type : TypeRef} (h : type.WellFormed) :
    ∃ ts, type.Spelled ts := by
  cases type with
  | scalar name => exact ⟨_, .scalar ⟨name, h.1⟩⟩
  | enum name => exact ⟨_, .enum ⟨name, h⟩⟩
  | array element count => exact ⟨_, .array ⟨element, h.1⟩ ⟨count, h.2.1⟩⟩
  | list element => exact ⟨_, .list ⟨element, h⟩⟩

theorem Member.WellFormed.exists_spelled {m : Member} (h : m.WellFormed) :
    ∃ ts, LineSpelled m ts := by
  cases m with
  | pad n => exact ⟨_, .line (.pad (.decimal n))⟩
  | fixed type name n =>
    obtain ⟨ts, hts⟩ := h.1.exists_spelled
    exact ⟨_, .line (.fixed hts ⟨name, h.2⟩ (.decimal n))⟩
  | discriminator type name =>
    obtain ⟨ts, hts⟩ := h.1.exists_spelled
    exact ⟨_, .line (.discriminator hts ⟨name, h.2⟩)⟩
  | fieldLength type name field =>
    obtain ⟨ts, hts⟩ := h.1.exists_spelled
    exact ⟨_, .line (.fieldLength hts ⟨name, h.2.1⟩ ⟨field, h.2.2⟩)⟩
  | data type name =>
    obtain ⟨ts, hts⟩ := h.1.exists_spelled
    exact ⟨_, .line (.data hts ⟨name, h.2⟩)⟩
  | unknown keyword => exact h.elim

theorem ParamsWellFormed.exists_spelled {names : List String}
    (hnames : ∀ n ∈ names, Text.isWord n = true) {ps : List Param}
    (h : ParamsWellFormed names ps) : ∃ ts, ParamsSpelled ps ts := by
  cases ps with
  | nil => exact ⟨[], .none⟩
  | cons p ps =>
    have hall : ∀ q ∈ p :: ps, ∃ ts, ParamSpelled q ts := fun q hq =>
      ⟨_, .param ⟨q.1, hnames q.1 (h q hq).1⟩ ⟨q.2, (h q hq).2⟩⟩
    obtain ⟨ts, hts⟩ := exists_commas hall
    exact ⟨_, .some hts⟩

theorem Entry.WellFormed.exists_spelled {e : Entry} (h : e.WellFormed) : ∃ ts, e.Spelled ts := by
  obtain ⟨ts, hts⟩ := h.2.exists_spelled (by decide)
  exact ⟨_, .entry ⟨e.name, h.1⟩ hts (.decimal e.value)⟩

theorem WellFormed.exists_spelled {d : Declaration} (h : d.WellFormed) : ∃ ts, Spelled d ts := by
  cases d with
  | struct name ps up members =>
    obtain ⟨hname, hps, hup, hmembers⟩ := h
    obtain ⟨params, hparams⟩ := hps.exists_spelled (by decide)
    obtain ⟨parent, hparent⟩ : ∃ ts, ParentSpelled up ts := by
      cases up with
      | none => exact ⟨[], .none⟩
      | some w => exact ⟨_, .some ⟨w, hup w rfl⟩⟩
    obtain ⟨body, hbody⟩ := exists_each fun m hm => (hmembers m hm).exists_spelled
    exact ⟨_, .struct ⟨name, hname⟩ hparams hparent hbody⟩
  | enum name ps entries =>
    obtain ⟨hname, hps, hentries⟩ := h
    obtain ⟨params, hparams⟩ := hps.exists_spelled (by decide)
    obtain ⟨body, hbody⟩ : ∃ ts, EntriesSpelled entries ts := by
      cases entries with
      | nil => exact ⟨[], .none⟩
      | cons e entries =>
        obtain ⟨ts, hts⟩ := exists_commas fun e he => (hentries e he).exists_spelled
        exact ⟨ts, .some hts⟩
    exact ⟨_, .enum ⟨name, hname⟩ hparams hbody⟩
  | metadata key value =>
    obtain ⟨rfl, hvalue⟩ := h
    exact ⟨_, .version ⟨value, hvalue⟩⟩
  | unknown => exact h.elim

/-- The text of tokens with the gap before each, and of a gap behind them. -/
def spaced : List (String × Token) → String → List Char
  | [], last => last.toList
  | (gap, t) :: pieces, last => gap.toList ++ t.text ++ spaced pieces last

/-- Whether no two words grow together in such a text. -/
def fits : List (String × Token) → String → Bool
  | [], _ => true
  | (_, t) :: pieces, last =>
    (!t.isOpen || !(spaced pieces last).head?.any isWordChar) && fits pieces last

theorem written_spaced {pieces : List (String × Token)} {last : String}
    (hgaps : ∀ p ∈ pieces, Gap p.1.toList) (hlast : Gap last.toList)
    (hfits : fits pieces last = true) :
    Written (pieces.map Prod.snd) (spaced pieces last) := by
  induction pieces with
  | nil => exact .done hlast
  | cons p pieces ih =>
    rw [fits, Bool.and_eq_true, Bool.or_eq_true, Bool.not_eq_true', Bool.not_eq_true',
      Option.any_eq_false] at hfits
    refine .token (hgaps p mem_cons_self)
      (ih (fun q hq => hgaps q (mem_cons_of_mem p hq)) hfits.2) fun hopen => ?_
    exact hfits.1.resolve_left (by rw [hopen]; exact Bool.noConfusion)

/-- Any tokens can be written, with a blank before each. -/
theorem exists_written (ts : List Token) : ∃ text : String, Written ts text.toList := by
  have hspace : Gap " ".toList := by
    rw [show " ".toList = [' '] by decide]
    exact .blank rfl .nil
  have hfits : fits (ts.map fun t => (" ", t)) "" = true := by
    induction ts with
    | nil => rfl
    | cons t ts ih =>
      have hblank : (spaced (ts.map fun t => (" ", t)) "").head?.any isWordChar = false := by
        cases ts with
        | nil => decide
        | cons u us => rfl
      rw [map_cons, fits, hblank, ih]
      exact Bool.and_eq_true_iff.mpr ⟨Bool.or_true _, rfl⟩
  refine ⟨String.ofList (spaced (ts.map fun t => (" ", t)) ""), ?_⟩
  have hsnd : (ts.map fun t => (" ", t)).map Prod.snd = ts := by
    rw [map_map, show (Prod.snd ∘ fun t : Token => (" ", t)) = id from rfl, map_id]
  rw [String.toList_ofList]
  conv => enter [1]; rw [← hsnd]
  refine written_spaced (fun p hp => ?_) .nil hfits
  obtain ⟨t, -, rfl⟩ := mem_map.mp hp
  exact hspace

end Spellings

/-! ## The round trip -/

/-- **The grammar reads back what is written.** Every text of well-formed
declarations, however it is spelled and spaced, is read as exactly these
declarations; and the declarations that some text is read as are exactly the
well-formed ones. -/
theorem parse_roundTrip :
    (∀ (ds : List Declaration) (ts : List Token) (text : String), (∀ d ∈ ds, d.WellFormed) →
      Each Spelled ds ts → Written ts text.toList → parse text = .ok ds)
    ∧ ∀ ds : List Declaration, (∃ text, parse text = .ok ds) ↔ ∀ d ∈ ds, d.WellFormed := by
  refine ⟨fun ds ts text hwell hspelled hwritten => parse_of_written hwell hspelled hwritten,
    fun ds => ⟨?_, fun hwell => ?_⟩⟩
  · rintro ⟨text, h⟩
    exact wellFormed_of_parse h
  · obtain ⟨ts, hts⟩ := exists_each fun d hd => (hwell d hd).exists_spelled
    obtain ⟨text, htext⟩ := exists_written ts
    exact ⟨text, parse_of_written hwell hts htext⟩

/-- A version and a struct, with a tab, both kinds of comment, a comma behind the last
parameter, an array right before a name, and a number in hexadecimal. -/
def structPieces : List (String × Token) :=
  [("", .mark .hash), ("", .word .version), ("\t", .word ⟨"4", rfl⟩),
   (" // wire\n", .word .struct), (" ", .word ⟨"a", rfl⟩),
   ("", .mark .leftParen), ("", .word ⟨"align", rfl⟩), ("", .mark .equals),
   ("", .word ⟨"8", rfl⟩), ("", .mark .comma), ("", .mark .rightParen),
   ("", .mark .leftBrace), ("", .array ⟨"uint8_t", rfl⟩ ⟨"4", rfl⟩), ("", .word ⟨"x", rfl⟩),
   ("", .mark .doubleEquals), ("", .number (.hex (1, false) [(15, true)])),
   ("", .mark .semicolon), ("/* end */", .mark .rightBrace), ("", .mark .semicolon)]

theorem written_structPieces : Written (structPieces.map Prod.snd) (spaced structPieces "") := by
  have hline : Gap " // wire\n".toList :=
    .blank rfl (@Gap.line " wire".toList [] (by decide) (by decide) .nil)
  have hblock : Gap "/* end */".toList := @Gap.block " end ".toList [] (by decide) .nil
  refine written_spaced ?_ .nil (by decide)
  simp only [structPieces, forall_mem_cons]
  exact ⟨.nil, .nil, .blank rfl .nil, hline, .blank rfl .nil, .nil, .nil, .nil, .nil, .nil, .nil,
    .nil, .nil, .nil, .nil, .nil, .nil, hblock, .nil, fun _ h => (nomatch h)⟩

/-- A tab, both kinds of comment, a comma at the end and hexadecimal digits. -/
theorem parse_roundTrip_struct :
    parse "#version\t4 // wire\nstruct a(align=8,)\x7buint8_t[4]x==0x1F;/* end */\x7d;"
      = .ok [.metadata "version" "4",
          .struct "a" [("align", "8")] none [.fixed (.array "uint8_t" "4") "x" 31]] := by
  have hspelled : Each Spelled
      [.metadata "version" "4",
        .struct "a" [("align", "8")] none [.fixed (.array "uint8_t" "4") "x" 31]] _ :=
    .cons (.version ⟨"4", rfl⟩) (.cons
      (.struct ⟨"a", rfl⟩ (.some (.trailing (.param ⟨"align", rfl⟩ ⟨"8", rfl⟩))) .none
        (.cons (.line (.fixed (.array ⟨"uint8_t", rfl⟩ ⟨"4", rfl⟩) ⟨"x", rfl⟩
          (.hex (1, false) [(15, true)]))) .nil)) .nil)
  have htext : "#version\t4 // wire\nstruct a(align=8,)\x7buint8_t[4]x==0x1F;/* end */\x7d;".toList
      = spaced structPieces "" := by decide
  refine parse_roundTrip.1 _ (structPieces.map Prod.snd) _ (by decide) hspelled ?_
  rw [htext]
  exact written_structPieces

end FlowBindings.Declaration
