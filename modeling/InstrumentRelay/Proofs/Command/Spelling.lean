import InstrumentRelay.Proofs.Packet.LogLine
import InstrumentRelay.Proofs.Stream.LineLimit

/-!
# Writing words down

Any words can be put on a command line, also empty ones and ones with blanks, quotes or line feeds
in them: each is written between quotes, and between two of them there is a gap. How a byte is
written is a choice (`Glyph`): as it stands, unless it is the quote or the backslash, or as any
escape that stands for it. A `WrittenLine` is a line with all these choices made. Whatever they are,
the line is in the language of command lines, and its words are those that were meant
(`WrittenLine.line_text`).

If the choices keep line feeds out of the line (`WrittenLine.OnOneLine`), it can be sent: it ends
with a quote, so no carriage return is taken off, and a reader of lines gives it back as it is.
-/

namespace InstrumentRelay

namespace Words

/-- The words of a line of the language are read. -/
theorem Line.ofLine_eq {line : Bytes} {words : List Bytes} (h : Line line words) :
    ofLine line = .ok words := by
  have hend : Parted [] := fun _ hb ↦ absurd hb (Option.not_mem_none _)
  have hall := from?_append h (.inr hend) 0 []
  rw [List.append_nil] at hall
  rw [ofLine, hall, from?, List.append_nil, List.reverse_reverse]

/-! ## Glyphs -/

/-- A byte between quotes, with the way in which it is written. -/
inductive Glyph where
  /-- It stands for itself. -/
  | plain (b : UInt8) (hquote : b ≠ quoteMark) (hbackslash : b ≠ backslash)
  /-- It is written as this escape. -/
  | escaped (code : Bytes) (b : UInt8) (hcode : Escape code b)

namespace Glyph

/-- What is written. -/
def text : Glyph → Bytes
  | plain b _ _ => [b]
  | escaped code _ _ => backslash :: code

/-- What is meant. -/
def byte : Glyph → UInt8
  | plain b _ _ => b
  | escaped _ b _ => b

/-- A line feed is not written as it stands. -/
def EscapesFeed : Glyph → Prop
  | plain b _ _ => b ≠ 0x0a
  | escaped .. => True

theorem quoted (word : List Glyph) : Quoted (word.flatMap text) (word.map byte) := by
  induction word with
  | nil => exact .nil
  | cons glyph word ih =>
    cases glyph with
    | plain b hquote hbackslash => exact .plain hquote hbackslash ih
    | escaped code b hcode => exact .escape hcode ih

/-- Every byte has an escape: two digits. -/
theorem exists_escaped (b : UInt8) : ∃ glyph : Glyph, glyph.byte = b ∧ glyph.EscapesFeed := by
  have hb : b.toNat = 16 * (b.toNat / 16 % 16) + b.toNat % 16 := by
    have := b.toNat_lt
    omega
  have hcode := Escape.hex (hexDigit_spec (b.toNat / 16)) (hexDigit_spec b.toNat) hb
  exact ⟨.escaped _ b hcode, rfl, trivial⟩

theorem exists_word (word : Bytes) :
    ∃ glyphs : List Glyph, glyphs.map byte = word ∧ ∀ glyph ∈ glyphs, glyph.EscapesFeed := by
  induction word with
  | nil => exact ⟨[], rfl, List.forall_mem_nil _⟩
  | cons b word ih =>
    obtain ⟨glyph, rfl, hglyph⟩ := exists_escaped b
    obtain ⟨glyphs, rfl, hglyphs⟩ := ih
    exact ⟨glyph :: glyphs, rfl, List.forall_mem_cons.2 ⟨hglyph, hglyphs⟩⟩

end Glyph

theorem HexDigit.ne_feed {d : UInt8} {n : Nat} (h : HexDigit d n) : d ≠ 0x0a := by
  rintro rfl
  have hfeed : (0x0a : UInt8).toNat = 10 := rfl
  cases h <;> omega

/-- No escape makes use of a line feed. -/
theorem Escape.feed_notMem {code : Bytes} {b : UInt8} (h : Escape code b) : 0x0a ∉ code := by
  cases h with
  | hex hhigh hlow hb =>
    simp only [List.mem_cons, List.not_mem_nil, or_false, not_or]
    exact ⟨by decide, hhigh.ne_feed.symm, hlow.ne_feed.symm⟩
  | _ => decide

theorem Glyph.feed_notMem_text {glyph : Glyph} (h : glyph.EscapesFeed) : 0x0a ∉ glyph.text := by
  cases glyph with
  | plain b hquote hbackslash =>
    rw [text, List.mem_singleton]
    exact Ne.symm h
  | escaped code b hcode =>
    rw [text, List.mem_cons, not_or]
    exact ⟨by decide, hcode.feed_notMem⟩

/-! ## Lines -/

/-- What stands between two words. -/
structure Gap where
  /-- The blanks. -/
  blanks : Bytes
  /-- There is at least one. -/
  ne_nil : blanks ≠ []
  /-- All of them are blanks. -/
  isBlank : ∀ b ∈ blanks, Bytes.isBlank b = true

/-- A line of words in quotes, with the way in which it is written. -/
structure WrittenLine where
  /-- The first word. -/
  first : List Glyph
  /-- The other words, each behind a gap. -/
  others : List (Gap × List Glyph)

/-- A word between its quotes. -/
def quotedText (word : List Glyph) : Bytes := quoteMark :: (word.flatMap Glyph.text ++ [quoteMark])

namespace WrittenLine

variable (l : WrittenLine)

/-- What is written. -/
def text : Bytes :=
  quotedText l.first ++ l.others.flatMap fun (gap, word) ↦ gap.blanks ++ quotedText word

/-- What is meant. -/
def words : List Bytes := (l.first :: l.others.map Prod.snd).map (·.map Glyph.byte)

/-- There is no line feed in the line: those that are meant are written as escapes, and no gap has
one. -/
structure OnOneLine : Prop where
  /-- Between quotes there is none. -/
  words : ∀ word ∈ l.first :: l.others.map Prod.snd, ∀ glyph ∈ word, glyph.EscapesFeed
  /-- Between words there is none. -/
  gaps : ∀ gap ∈ l.others.map Prod.fst, 0x0a ∉ gap.blanks

/-- **A written line is a line of the words that are meant.** -/
theorem line_text : Line l.text l.words := by
  have hothers (others : List (Gap × List Glyph)) :
      let rest := others.flatMap fun (gap, word) ↦ gap.blanks ++ quotedText word
      Parted rest ∧ Line rest ((others.map Prod.snd).map (·.map Glyph.byte)) := by
    induction others with
    | nil => exact ⟨fun _ hb ↦ absurd hb (Option.not_mem_none _), .nil⟩
    | cons other others ih =>
      obtain ⟨gap, word⟩ := other
      obtain ⟨hparted, hline⟩ := ih
      rw [List.flatMap_cons, List.append_assoc]
      refine ⟨fun b hb ↦ gap.isBlank b ?_,
        .word gap.isBlank (.quoted (Glyph.quoted word)) hparted hline⟩
      rw [List.head?_append_of_ne_nil _ gap.ne_nil] at hb
      exact List.mem_of_head? hb
  obtain ⟨hparted, hline⟩ := hothers l.others
  exact hline.append_word (.quoted (Glyph.quoted l.first)) hparted

/-- All words can be written, on one line. -/
theorem exists_writtenLine {words : List Bytes} (h : words ≠ []) :
    ∃ l : WrittenLine, l.words = words ∧ l.OnOneLine := by
  obtain ⟨first, rest, rfl⟩ := List.exists_cons_of_ne_nil h
  have hrest : ∃ others : List (Gap × List Glyph),
      (others.map Prod.snd).map (·.map Glyph.byte) = rest ∧
        (∀ word ∈ others.map Prod.snd, ∀ glyph ∈ word, glyph.EscapesFeed) ∧
        ∀ gap ∈ others.map Prod.fst, 0x0a ∉ gap.blanks := by
    induction rest with
    | nil => exact ⟨[], rfl, List.forall_mem_nil _, List.forall_mem_nil _⟩
    | cons word rest ih =>
      obtain ⟨others, rfl, hwords, hgaps⟩ := ih (List.cons_ne_nil _ _)
      obtain ⟨glyphs, rfl, hglyphs⟩ := Glyph.exists_word word
      let space : Gap := ⟨[0x20], List.cons_ne_nil _ _, List.forall_mem_singleton.2 rfl⟩
      have hspace : 0x0a ∉ space.blanks := by decide
      exact ⟨(space, glyphs) :: others, rfl, List.forall_mem_cons.2 ⟨hglyphs, hwords⟩,
        List.forall_mem_cons.2 ⟨hspace, hgaps⟩⟩
  obtain ⟨others, rfl, hwords, hgaps⟩ := hrest
  obtain ⟨glyphs, rfl, hglyphs⟩ := Glyph.exists_word first
  exact ⟨⟨glyphs, others⟩, rfl, List.forall_mem_cons.2 ⟨hglyphs, hwords⟩, hgaps⟩

variable {l}

theorem feed_notMem_text (h : l.OnOneLine) : 0x0a ∉ l.text := by
  have hquoted {word : List Glyph} (hword : ∀ glyph ∈ word, glyph.EscapesFeed) :
      0x0a ∉ quotedText word := by
    simp only [quotedText, List.mem_cons, List.mem_append, List.mem_flatMap, List.not_mem_nil,
      or_false, not_or, not_exists, not_and]
    exact ⟨by decide, fun glyph hglyph ↦ Glyph.feed_notMem_text (hword glyph hglyph), by decide⟩
  simp only [text, List.mem_append, List.mem_flatMap, not_or, not_exists, not_and]
  refine ⟨hquoted (h.words _ List.mem_cons_self), fun other hother ↦ ⟨?_, ?_⟩⟩
  · exact h.gaps _ (List.mem_map_of_mem hother)
  · exact hquoted (h.words _ (List.mem_cons_of_mem _ (List.mem_map_of_mem hother)))

/-- A written line ends with a quote, so there is no carriage return to be taken off. -/
theorem withoutReturn_text (l : WrittenLine) : withoutReturn l.text = l.text := by
  have hquoted (front : Bytes) (word : List Glyph) :
      (front ++ quotedText word).getLast? = some quoteMark := by
    rw [quotedText, ← List.cons_append, ← List.append_assoc, List.getLast?_concat]
  have hlast : l.text.getLast? = some quoteMark := by
    rw [text]
    rcases List.eq_nil_or_concat l.others with hnil | ⟨others, other, hothers⟩
    · rw [hnil, List.flatMap_nil, List.append_nil]
      exact hquoted [] l.first
    · rw [hothers, List.concat_eq_append, List.flatMap_append, List.flatMap_singleton,
        ← List.append_assoc, ← List.append_assoc]
      exact hquoted _ other.2
  rw [withoutReturn, hlast, if_neg (by decide)]

/-- **Any words can be written down**, on one line, and however they are written the line is read
as these words. If it is on one line and no longer than a line may be, it also arrives like this:
with a line feed behind it, and however that is cut, it is the one line that comes out of a reader
of lines, which is left with nothing. Whether the reader looks at every byte once or again and again
makes no difference. -/
theorem written_words_read :
    (∀ words : List Bytes, words ≠ [] → ∃ l : WrittenLine, l.words = words ∧ l.OnOneLine) ∧
      (∀ l : WrittenLine, ofLine l.text = .ok l.words) ∧
      ∀ l : WrittenLine, l.OnOneLine → l.text.length ≤ LineReader.empty.limit →
        ∀ cuts : List Bytes, cuts.flatten = l.text ++ [LineReader.empty.delimiter] →
          (LineScanner.ofReader .empty).readAll cuts = ([l.text], .ok (.ofReader .empty)) ∧
            (LineReader.empty.readAll cuts).outcome = ([l.text], .ok .empty) := by
  refine ⟨fun words ↦ exists_writtenLine, fun l ↦ l.line_text.ofLine_eq,
    fun l hline hlength cuts hcuts ↦ ?_⟩
  have hfeed := feed_notMem_text hline
  have hended : ended 0x0a cuts.flatten = [l.text] := by
    rw [hcuts]
    exact (ended_append hfeed []).trans (by rw [ended_of_notMem List.not_mem_nil])
  have hunended : unended 0x0a cuts.flatten = unended 0x0a [] := by
    rw [hcuts]
    exact unended_append hfeed []
  have hscanner : (LineScanner.ofReader .empty).readAll cuts
      = ([l.text], .ok (.ofReader .empty)) := by
    have hfits : ∀ piece ∈ ended 0x0a cuts.flatten, piece.length ≤ LineReader.empty.limit := by
      rw [hended]
      exact List.forall_mem_singleton.2 hlength
    have hread := LineScanner.readAll_eq_of_fits hfits
    rw [hended, LineScanner.waiting_congr _ hunended, hunended,
      unended_of_notMem List.not_mem_nil] at hread
    rw [List.map_singleton, l.withoutReturn_text] at hread
    exact hread
  refine ⟨hscanner, ?_⟩
  have hreader := (LineScanner.ofReader .empty).readAll_toLineReader cuts
  rw [hscanner] at hreader
  exact hreader

/-- A word with a line feed in it and an empty one, with a carriage return among the blanks between
them, arrive in two reads that are parted in the middle of the escape. -/
theorem written_words_read_in_pieces :
    let feed : Glyph := .escaped [0x78, 0x30, 0x41] 0x0a
      (.hex (.decimal (n := 0) (by decide) rfl) (.upper (n := 0) (by decide) rfl) rfl)
    let gap : Gap := ⟨[0x20, 0x0d], by decide,
      List.forall_mem_cons.2 ⟨rfl, List.forall_mem_singleton.2 rfl⟩⟩
    let l : WrittenLine := ⟨[.plain 0x61 (by decide) (by decide), feed], [(gap, [])]⟩
    let cuts := [Bytes.ofText "\"a\\x0", Bytes.ofText "A\" \r\"\"\n"]
    l.words = [[0x61, 0x0a], []] ∧ l.OnOneLine ∧ l.text.length ≤ LineReader.empty.limit ∧
      cuts.flatten = l.text ++ [LineReader.empty.delimiter] ∧
      (LineScanner.ofReader .empty).readAll cuts = ([l.text], .ok (.ofReader .empty)) ∧
      (LineReader.empty.readAll cuts).outcome = ([l.text], .ok .empty) ∧
      ofLine l.text = .ok [[0x61, 0x0a], []] ∧
      ([[]] : List Bytes) ≠ [] ∧ ∃ l' : WrittenLine, l'.words = [[]] ∧ l'.OnOneLine := by
  intro feed gap l cuts
  obtain ⟨hwritten, hread, harrives⟩ := written_words_read
  have hplain : (0x61 : UInt8) ≠ 0x0a := by decide
  have hline : l.OnOneLine := by
    constructor
    · simp only [l, List.map_cons, List.map_nil, List.forall_mem_cons]
      exact ⟨⟨hplain, trivial, List.forall_mem_nil _⟩, List.forall_mem_nil _,
        List.forall_mem_nil _⟩
    · simp only [l, List.map_cons, List.map_nil, List.forall_mem_singleton]
      decide
  have hlength : l.text.length ≤ LineReader.empty.limit := by decide
  have hcuts : cuts.flatten = l.text ++ [LineReader.empty.delimiter] := by decide
  obtain ⟨hscanner, hreader⟩ := harrives l hline hlength cuts hcuts
  exact ⟨rfl, hline, hlength, hcuts, hscanner, hreader, hread l, by decide,
    hwritten [[]] (by decide)⟩

end WrittenLine

end Words

end InstrumentRelay
