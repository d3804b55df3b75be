import InstrumentRelay.Proofs.Stream.LineReader
import InstrumentRelay.Stream.LineScanner

/-!
# A stream, cut at its delimiters

The lines of a stream are its pieces between delimiters, and what comes behind the last delimiter
unless that is nothing (`linesOf`). A reader of lines gives exactly these, however the stream
arrives and whenever it is asked for a line, as long as no piece is too long
(`LineScanner.lines_exact`).

At any time, the lines that a reader has given and the lines of what it holds, with everything that
is still to come behind it, are the lines of the stream. Each line it gives is the first of those,
and what it does not give is not complete: the first piece goes at least as far as the buffer. So
the buffer is never longer than some piece when no line is found, and the reader does not give up
(`Fits.length_le`). Whether it looks at a byte once or again and again makes no difference to any of
this (`LineScanner.exists_perform`).
-/

namespace InstrumentRelay

/-! ## The lines of a stream -/

/-- The lines of a whole stream. -/
def linesOf (delimiter : UInt8) (stream : Bytes) : List Bytes :=
  let pieces := stream.splitOn delimiter
  (pieces.dropLast ++ pieces.getLast?.toList.filter (· ≠ [])).map withoutReturn

/-- No piece of the stream is longer than the limit. -/
def Fits (delimiter : UInt8) (limit : Nat) (stream : Bytes) : Prop :=
  ∀ piece ∈ stream.splitOn delimiter, piece.length ≤ limit

section

variable {delimiter : UInt8} {limit : Nat} {line rest tail : Bytes}

theorem linesOf_append (h : delimiter ∉ line) (rest : Bytes) :
    linesOf delimiter (line ++ delimiter :: rest)
      = withoutReturn line :: linesOf delimiter rest := by
  have hne := List.splitOn_ne_nil delimiter rest
  rw [linesOf, List.splitOn_append_cons_self_of_not_mem h, List.dropLast_cons_of_ne_nil hne,
    List.getLast?_cons, linesOf, List.getLast?_eq_some_getLast hne]
  rfl

theorem linesOf_of_notMem (h : delimiter ∉ tail) :
    linesOf delimiter tail = if tail = [] then [] else [withoutReturn tail] := by
  rw [linesOf, List.splitOn_eq_singleton h]
  by_cases htail : tail = [] <;> simp [htail]

theorem fits_append_iff (h : delimiter ∉ line) :
    Fits delimiter limit (line ++ delimiter :: rest)
      ↔ line.length ≤ limit ∧ Fits delimiter limit rest := by
  rw [Fits, List.splitOn_append_cons_self_of_not_mem h, List.forall_mem_cons, Fits]

/-- What holds no delimiter is the beginning of a piece. -/
theorem Fits.length_le {more : Bytes} (h : Fits delimiter limit (tail ++ more))
    (htail : delimiter ∉ tail) : tail.length ≤ limit := by
  by_cases hmore : delimiter ∈ more
  · obtain ⟨line, rest, rfl, hline⟩ := List.eq_append_cons_of_mem hmore
    have hnone : delimiter ∉ tail ++ line := by
      rw [List.mem_append, not_or]
      exact ⟨htail, hline⟩
    rw [← List.append_assoc, fits_append_iff hnone, List.length_append] at h
    omega
  · have hnone : delimiter ∉ tail ++ more := by
      rw [List.mem_append, not_or]
      exact ⟨htail, hmore⟩
    rw [Fits, List.splitOn_eq_singleton hnone, List.forall_mem_singleton, List.length_append] at h
    omega

end

/-! ## What is done with a reader -/

/-- What is done with a reader. -/
inductive ReaderCall where
  /-- Bytes arrive. -/
  | feed (bytes : Bytes)
  /-- A line is asked for. -/
  | next
  deriving DecidableEq

namespace ReaderCall

/-- Everything that arrives. -/
def stream (calls : List ReaderCall) : Bytes :=
  calls.flatMap fun
    | feed bytes => bytes
    | next => []

theorem stream_feed (bytes : Bytes) (rest : List ReaderCall) :
    stream (.feed bytes :: rest) = bytes ++ stream rest := rfl

theorem stream_next (rest : List ReaderCall) : stream (.next :: rest) = stream rest := rfl

section

variable {ρ ρ' : Type} {feed : ρ → Bytes → ρ}
  {next : ρ → Except LineTooLong (Option Bytes × ρ)}

/-- What comes of several calls, up to the first that fails: the lines, and the reader after them.
How a reader is fed and asked is left open. -/
def perform (feed : ρ → Bytes → ρ) (next : ρ → Except LineTooLong (Option Bytes × ρ)) (r : ρ) :
    List ReaderCall → Except LineTooLong (List Bytes × ρ)
  | [] => .ok ([], r)
  | .feed bytes :: rest => perform feed next (feed r bytes) rest
  | .next :: rest =>
    match next r with
    | .error e => .error e
    | .ok (line, r) => (perform feed next r rest).map fun x ↦ (line.toList ++ x.1, x.2)

theorem perform_next {r r' last : ρ} {line : Option Bytes} {lines : List Bytes}
    {rest : List ReaderCall} (h : next r = .ok (line, r'))
    (hrest : perform feed next r' rest = .ok (lines, last)) :
    perform feed next r (.next :: rest) = .ok (line.toList ++ lines, last) := by
  rw [perform, h]
  simp only [hrest, Except.map]

/-- Two readers that are fed alike and answer alike give the same lines. -/
theorem perform_map {feed' : ρ' → Bytes → ρ'} {next' : ρ' → Except LineTooLong (Option Bytes × ρ')}
    (f : ρ → ρ') (hfeed : ∀ r bytes, feed' (f r) bytes = f (feed r bytes))
    (hnext : ∀ r, next' (f r) = (next r).map fun x ↦ (x.1, f x.2)) (r : ρ)
    (calls : List ReaderCall) :
    perform feed' next' (f r) calls = (perform feed next r calls).map fun x ↦ (x.1, f x.2) := by
  induction calls generalizing r with
  | nil => rfl
  | cons call rest ih =>
    cases call with
    | feed bytes => rw [perform, perform, hfeed, ih]
    | next =>
      rw [perform, perform, hnext]
      rcases next r with e | ⟨line, r'⟩
      · rfl
      · dsimp only [Except.map]
        rw [ih]
        cases perform feed next r' rest <;> rfl

end

end ReaderCall

namespace LineReader

/-- What comes of several calls, up to the first that fails. -/
def perform (r : LineReader) (calls : List ReaderCall) :
    Except LineTooLong (List Bytes × LineReader) := ReaderCall.perform feed next r calls

variable {r : LineReader}

/-- Whatever is done with the reader, the lines that it gives and the lines of what it holds then
are those of what it held and all that has arrived. -/
theorem perform_exact (calls : List ReaderCall)
    (h : Fits r.delimiter r.limit (r.buffer ++ ReaderCall.stream calls)) :
    ∃ lines left, r.perform calls = .ok (lines, { r with buffer := left }) ∧
      Fits r.delimiter r.limit left ∧
      lines ++ linesOf r.delimiter left
        = linesOf r.delimiter (r.buffer ++ ReaderCall.stream calls) := by
  induction calls generalizing r with
  | nil =>
    rw [ReaderCall.stream, List.flatMap_nil, List.append_nil] at h ⊢
    exact ⟨[], r.buffer, rfl, h, rfl⟩
  | cons call rest ih =>
    cases call with
    | feed bytes =>
      rw [ReaderCall.stream_feed, ← List.append_assoc] at h ⊢
      exact ih (r := r.feed bytes) h
    | next =>
      rw [ReaderCall.stream_next] at h ⊢
      by_cases hmem : r.delimiter ∈ r.buffer
      · -- A line is complete.
        obtain ⟨line, buffer, hbuffer, hline⟩ := List.eq_append_cons_of_mem hmem
        have hwhole : r.buffer ++ ReaderCall.stream rest
            = line ++ r.delimiter :: (buffer ++ ReaderCall.stream rest) := by
          rw [hbuffer, List.append_assoc, List.cons_append]
        rw [hwhole, fits_append_iff hline] at h
        obtain ⟨lines, left, hrest, hfits, hlines⟩ := ih (r := { r with buffer := buffer }) h.2
        refine ⟨withoutReturn line :: lines, left,
          ReaderCall.perform_next (next_of_eq_append hbuffer hline) hrest, hfits, ?_⟩
        rw [hwhole, linesOf_append hline, List.cons_append, hlines]
      · -- There is none, and the buffer is no longer than the piece it begins.
        obtain ⟨lines, left, hrest, hfits, hlines⟩ := ih h
        have hnone : r.next = .ok (none, r) := by
          rw [next_of_notMem hmem, if_neg (Nat.not_lt.2 (h.length_le hmem))]
        exact ⟨lines, left, ReaderCall.perform_next hnone hrest, hfits, hlines⟩

theorem drainEnd_of_finish_eq_none {r' : LineReader} (h : r.finish = .ok (none, r')) :
    r.drainEnd = ⟨[], r', none⟩ := by
  rw [drainEnd]
  split
  all_goals
    rename_i hfinish
    rw [h] at hfinish
    cases hfinish
  rfl

theorem drainEnd_of_finish_eq_error {e : LineTooLong} (h : r.finish = .error e) :
    r.drainEnd = ⟨[], r, some e⟩ := by
  rw [drainEnd]
  split
  all_goals
    rename_i hfinish
    rw [h] at hfinish
    cases hfinish
  rfl

/-- At the end, the reader gives the first line of what it holds, if it holds anything. -/
theorem finish_exact (h : Fits r.delimiter r.limit r.buffer) :
    (r.buffer = [] ∧ r.finish = .ok (none, r)) ∨
      ∃ line left, r.finish = .ok (some line, { r with buffer := left }) ∧
        linesOf r.delimiter r.buffer = line :: linesOf r.delimiter left ∧
        Fits r.delimiter r.limit left := by
  by_cases hmem : r.delimiter ∈ r.buffer
  · obtain ⟨line, left, hbuffer, hline⟩ := List.eq_append_cons_of_mem hmem
    rw [hbuffer, fits_append_iff hline] at h
    refine .inr ⟨withoutReturn line, left, finish_of_next (next_of_eq_append hbuffer hline), ?_, h.2⟩
    rw [hbuffer, linesOf_append hline]
  · have hnext : r.next = .ok (none, r) := by
      rw [← List.append_nil r.buffer] at h
      rw [next_of_notMem hmem, if_neg (Nat.not_lt.2 (h.length_le hmem))]
    by_cases hempty : r.buffer = []
    · refine .inl ⟨hempty, ?_⟩
      rw [finish, hnext]
      simp [hempty]
    · refine .inr ⟨withoutReturn r.buffer, [], ?_, ?_, ?_⟩
      · rw [finish, hnext]
        simp [hempty]
      · rw [linesOf_of_notMem hmem, if_neg hempty, linesOf_of_notMem List.not_mem_nil, if_pos rfl]
      · simp [Fits]

/-- At the end, the reader gives the lines of what it holds. -/
theorem drainEnd_exact (h : Fits r.delimiter r.limit r.buffer) :
    r.drainEnd = ⟨linesOf r.delimiter r.buffer, { r with buffer := [] }, none⟩ := by
  fun_induction drainEnd r with
  | case1 r e hfinish =>
    rcases finish_exact h with ⟨-, hnone⟩ | ⟨line, left, hsome, -⟩
    · cases hfinish.symm.trans hnone
    · cases hfinish.symm.trans hsome
  | case2 r r' hfinish =>
    rcases finish_exact h with ⟨hempty, hnone⟩ | ⟨line, left, hsome, -⟩
    · cases hfinish.symm.trans hnone
      rw [hempty, linesOf_of_notMem List.not_mem_nil, if_pos rfl, ← hempty]
    · cases hfinish.symm.trans hsome
  | case3 r line r' hfinish hlt ih =>
    rcases finish_exact h with ⟨-, hnone⟩ | ⟨line', left, hsome, hlines, hfits⟩
    · cases hfinish.symm.trans hnone
    · cases hfinish.symm.trans hsome
      rw [ih hfits, hlines]
      rfl

end LineReader

namespace LineScanner

/-- What comes of several calls, up to the first that fails. -/
def perform (s : LineScanner) (calls : List ReaderCall) :
    Except LineTooLong (List Bytes × LineScanner) := ReaderCall.perform feed next s calls

/-- That it does not look at a byte twice makes no difference. -/
theorem exists_perform {s : LineScanner} {calls : List ReaderCall} {lines : List Bytes}
    {r : LineReader} (h : s.toLineReader.perform calls = .ok (lines, r)) :
    ∃ s', s.perform calls = .ok (lines, s') ∧ s'.toLineReader = r := by
  have hsame : s.toLineReader.perform calls
      = (s.perform calls).map fun x ↦ (x.1, x.2.toLineReader) :=
    ReaderCall.perform_map toLineReader (fun _ _ ↦ rfl) next_toLineReader s calls
  rw [h] at hsame
  rcases hs : s.perform calls with e | ⟨lines', s'⟩ <;> rw [hs] at hsame
  · cases hsame
  · obtain ⟨rfl, rfl⟩ := Prod.mk.inj (Except.ok.inj hsame)
    exact ⟨s', rfl, rfl⟩

/-- Nor does it at the end of the stream. -/
theorem exists_drainEnd {s : LineScanner} {lines : List Bytes} {r : LineReader}
    (h : s.toLineReader.drainEnd = ⟨lines, r, none⟩) :
    ∃ s', s.drainEnd = .ok (lines, s') ∧ s'.toLineReader = r := by
  fun_induction drainEnd s generalizing lines with
  | case1 s e hfinish =>
    have hreader := s.finish_toLineReader
    rw [hfinish] at hreader
    cases h.symm.trans (LineReader.drainEnd_of_finish_eq_error hreader)
  | case2 s s' hfinish =>
    have hreader := s.finish_toLineReader
    rw [hfinish] at hreader
    cases h.symm.trans (LineReader.drainEnd_of_finish_eq_none hreader)
    exact ⟨s', rfl, rfl⟩
  | case3 s line s' hfinish hlt ih =>
    have hreader := s.finish_toLineReader
    rw [hfinish] at hreader
    rw [LineReader.drainEnd_of_finish hreader] at h
    rcases hrest : s'.toLineReader.drainEnd with ⟨others, r', fault⟩
    simp only [hrest] at h
    cases h
    obtain ⟨last, hlast, hsame⟩ := ih hrest
    rw [hlast]
    exact ⟨last, rfl, hsame⟩

/-- **A stream is cut at its delimiters.** However it arrives and whenever a line is asked for, and
then at its end until there is none, the lines that come out are the pieces between delimiters and
what is behind the last one unless that is nothing, each without one carriage return at its end, as
long as no piece is too long. Nothing fails, and nothing is left. A reader that looks for the
delimiter in all it holds gives the same. -/
theorem lines_exact {delimiter : UInt8} {limit : Nat} {calls : List ReaderCall}
    (h : ∀ piece ∈ (ReaderCall.stream calls).splitOn delimiter, piece.length ≤ limit) :
    ∃ early s late last,
      (start delimiter limit).perform calls = .ok (early, s) ∧ s.drainEnd = .ok (late, last) ∧
      early ++ late = linesOf delimiter (ReaderCall.stream calls) ∧ last.buffer = [] ∧
      (⟨[], delimiter, limit⟩ : LineReader).perform calls = .ok (early, s.toLineReader) ∧
      s.toLineReader.drainEnd = ⟨late, last.toLineReader, none⟩ := by
  obtain ⟨early, left, hperform, hfits, hlines⟩ :=
    LineReader.perform_exact (r := ⟨[], delimiter, limit⟩) calls h
  obtain ⟨s, hs, hreader⟩ := exists_perform (s := start delimiter limit) hperform
  have hdrain : s.toLineReader.drainEnd
      = ⟨linesOf delimiter left, ⟨[], delimiter, limit⟩, none⟩ := by
    rw [hreader]
    exact LineReader.drainEnd_exact hfits
  obtain ⟨last, hlast, hempty⟩ := exists_drainEnd hdrain
  refine ⟨early, s, linesOf delimiter left, last, hs, hlast, hlines, ?_, ?_, ?_⟩
  · rw [hempty]
  · rw [hperform, hreader]
  · rw [hdrain, hempty]

/-- Two carriage returns come in two reads, and an empty line and a last one without a delimiter
are asked for only at the end. -/
theorem lines_of_late_calls :
    let calls : List ReaderCall := [.next, .feed [0x6F, 0x6B, 0x0D], .next, .feed [0x0D], .feed [],
      .next, .feed [0x0A, 0x0A, 0x78, 0x0D], .next]
    (∀ piece ∈ (ReaderCall.stream calls).splitOn 0x0A, piece.length ≤ 4) ∧
      ∃ early s late last, (start 0x0A 4).perform calls = .ok (early, s) ∧
        s.drainEnd = .ok (late, last) ∧ early ++ late = [[0x6F, 0x6B, 0x0D], [], [0x78]] ∧
        last.buffer = [] := by
  intro calls
  have hshort : ∀ piece ∈ (ReaderCall.stream calls).splitOn 0x0A, piece.length ≤ 4 := by decide
  have hlines : linesOf 0x0A (ReaderCall.stream calls) = [[0x6F, 0x6B, 0x0D], [], [0x78]] := by
    decide
  obtain ⟨early, s, late, last, hcalls, hend, hboth, hempty, -⟩ := lines_exact hshort
  exact ⟨hshort, early, s, late, last, hcalls, hend, hboth.trans hlines, hempty⟩

end LineScanner

end InstrumentRelay
