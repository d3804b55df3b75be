import InstrumentRelay.Stream.LineReader

/-!
# Looking at every byte once

A reader that looks for the delimiter in all it holds, each time more has arrived, looks at the
first bytes of a long line again and again. A scanner remembers how far it has looked. That there is
no delimiter up to there is part of what a scanner is, so whoever takes bytes out of the buffer or
puts bytes into it has to say why that is still so.

Where the search begins makes no difference to what comes of it: `next_toLineReader` and
`finish_toLineReader` say that a scanner does what the reader does that has looked at nothing.
-/

namespace InstrumentRelay

/-- A reader that remembers how far it has looked for the delimiter. -/
structure LineScanner extends LineReader where
  /-- How many bytes of the buffer have been looked at. -/
  cursor : Nat
  /-- They are in the buffer. -/
  cursor_le : cursor ≤ buffer.length
  /-- None of them ends a line. -/
  delimiter_notMem : delimiter ∉ buffer.take cursor
  deriving DecidableEq, Repr

namespace LineScanner

/-- A reader that has looked at nothing. -/
def ofReader (r : LineReader) : LineScanner := ⟨r, 0, Nat.zero_le _, List.not_mem_nil⟩

/-- Nothing has arrived yet. -/
def start (delimiter : UInt8) (limit : Nat) : LineScanner := ofReader ⟨[], delimiter, limit⟩

/-- Bytes arrive. -/
def feed (s : LineScanner) (bytes : Bytes) : LineScanner where
  toLineReader := s.toLineReader.feed bytes
  cursor := s.cursor
  cursor_le := by
    rw [LineReader.feed, List.length_append]
    exact Nat.le_add_right_of_le s.cursor_le
  delimiter_notMem := by
    rw [LineReader.feed, List.take_append_of_le_length s.cursor_le]
    exact s.delimiter_notMem

/-- The bytes that have not been looked at. -/
def unseen (s : LineScanner) : Bytes := s.buffer.drop s.cursor

theorem take_append_unseen (s : LineScanner) :
    s.buffer.take s.cursor ++ s.unseen = s.buffer := List.take_append_drop ..

theorem delimiter_mem_iff (s : LineScanner) : s.delimiter ∈ s.buffer ↔ s.delimiter ∈ s.unseen := by
  conv => lhs; rw [← s.take_append_unseen]
  rw [List.mem_append, or_iff_right s.delimiter_notMem]

/-- Everything has been looked at, and there is no delimiter. -/
def seen (s : LineScanner) (h : s.delimiter ∉ s.unseen) : LineScanner where
  toLineReader := s.toLineReader
  cursor := s.buffer.length
  cursor_le := Nat.le_refl _
  delimiter_notMem := by
    rw [List.take_length, s.delimiter_mem_iff]
    exact h

/-- The next line, if it is complete, and the scanner after it. The search goes on where the last
one ended. -/
def next (s : LineScanner) : Except LineTooLong (Option Bytes × LineScanner) :=
  match h : s.unseen.idxOf? s.delimiter with
  | some position =>
    let stop := s.cursor + position
    .ok (some (withoutReturn (s.buffer.take stop)),
      ofReader { s.toLineReader with buffer := s.buffer.drop (stop + 1) })
  | none =>
    if s.limit < s.buffer.length then .error ⟨s.limit⟩
    else .ok (none, s.seen (List.idxOf?_eq_none_iff.1 h))

/-- The next line at the end of the stream, where a line needs no delimiter. -/
def finish (s : LineScanner) : Except LineTooLong (Option Bytes × LineScanner) :=
  match s.next with
  | .error e => .error e
  | .ok (some line, s) => .ok (some line, s)
  | .ok (none, s) =>
    if s.buffer.isEmpty then .ok (none, s)
    else .ok (some (withoutReturn s.buffer), ofReader { s.toLineReader with buffer := [] })

/-! ## Where the search begins makes no difference -/

theorem next_toLineReader (s : LineScanner) :
    s.toLineReader.next = s.next.map fun x ↦ (x.1, x.2.toLineReader) := by
  unfold next
  split
  case h_1 position hfound =>
    obtain ⟨hlt, hat, hfirst⟩ := List.idxOf?_eq_some_iff.1 hfound
    have hunseen : s.delimiter ∉ s.unseen.take position := by
      intro hmem
      obtain ⟨j, hj, hjat⟩ := List.mem_take_iff_getElem.1 hmem
      exact hfirst j (by omega) hjat
    -- The line ends where the search has stopped, counted from the start of the buffer.
    have htake : s.buffer.take (s.cursor + position)
        = s.buffer.take s.cursor ++ s.unseen.take position := List.take_add
    have hdrop : s.buffer.drop (s.cursor + position)
        = s.delimiter :: s.buffer.drop (s.cursor + position + 1) := by
      rw [← List.drop_drop, ← unseen, List.drop_eq_getElem_cons hlt, hat, unseen, List.drop_drop,
        Nat.add_assoc]
    refine LineReader.next_of_eq_append ?_ ?_
    · rw [← hdrop, List.take_append_drop]
    · rw [htake, List.mem_append, not_or]
      exact ⟨s.delimiter_notMem, hunseen⟩
  case h_2 hnone =>
    have habsent : s.delimiter ∉ s.buffer := by
      rw [s.delimiter_mem_iff]
      exact List.idxOf?_eq_none_iff.1 hnone
    rw [LineReader.next_of_notMem habsent]
    split <;> rfl

theorem finish_toLineReader (s : LineScanner) :
    s.toLineReader.finish = s.finish.map fun x ↦ (x.1, x.2.toLineReader) := by
  rw [LineReader.finish, finish, next_toLineReader]
  rcases s.next with e | ⟨_ | line, s'⟩
  · rfl
  · dsimp only [Except.map]
    split <;> rfl
  · rfl

/-! ## Whole streams -/

theorem length_of_next {s s' : LineScanner} {line : Bytes} (h : s.next = .ok (some line, s')) :
    s'.buffer.length < s.buffer.length := by
  have hreader : s.toLineReader.next = .ok (some line, s'.toLineReader) := by
    rw [next_toLineReader, h]
    rfl
  exact LineReader.length_of_next hreader

/-- Every line that is complete, and the scanner after them. -/
def drain (s : LineScanner) : List Bytes × Except LineTooLong LineScanner :=
  match h : s.next with
  | .error e => ([], .error e)
  | .ok (none, s') => ([], .ok s')
  | .ok (some line, s') =>
    have : s'.buffer.length < s.buffer.length := length_of_next h
    (line :: (drain s').1, (drain s').2)
termination_by s.buffer.length

/-- Every line of a stream that comes in these reads, up to the first that is too long, and the
scanner after them. -/
def readAll (s : LineScanner) : List Bytes → List Bytes × Except LineTooLong LineScanner
  | [] => ([], .ok s)
  | bytes :: rest =>
    let first := (s.feed bytes).drain
    match first.2 with
    | .error e => (first.1, .error e)
    | .ok s' => (first.1 ++ (s'.readAll rest).1, (s'.readAll rest).2)

theorem length_of_finish {s s' : LineScanner} {line : Bytes} (h : s.finish = .ok (some line, s')) :
    s'.buffer.length < s.buffer.length := by
  have hreader : s.toLineReader.finish = .ok (some line, s'.toLineReader) := by
    rw [finish_toLineReader, h]
    rfl
  exact LineReader.length_of_finish hreader

/-- Every line that is left at the end of the stream. -/
def drainEnd (s : LineScanner) : Except LineTooLong (List Bytes × LineScanner) :=
  match h : s.finish with
  | .error e => .error e
  | .ok (none, s') => .ok ([], s')
  | .ok (some line, s') =>
    have : s'.buffer.length < s.buffer.length := length_of_finish h
    (drainEnd s').map fun x ↦ (line :: x.1, x.2)
termination_by s.buffer.length

end LineScanner

end InstrumentRelay
