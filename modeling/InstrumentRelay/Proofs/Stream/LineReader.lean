import InstrumentRelay.Stream.LineReader

/-!
# Lines and where they end

A line that is complete stays the next line, whatever arrives behind it (`next_feed`). So the lines
of a stream can be taken one by one while it is still coming in, and they are the lines that the
stream has as a whole (`drainEnd_of_finish`).
-/

namespace InstrumentRelay

namespace LineReader

theorem feed_nil (r : LineReader) : r.feed [] = r := by
  rw [feed, List.append_nil]

theorem feed_append (r : LineReader) (first second : Bytes) :
    r.feed (first ++ second) = (r.feed first).feed second := by
  rw [feed, feed, feed, List.append_assoc]

/-- A line that is complete is not changed by what comes after it. -/
theorem next_feed {r r' : LineReader} {line : Bytes} (h : r.next = .ok (some line, r'))
    (bytes : Bytes) : (r.feed bytes).next = .ok (some line, r'.feed bytes) := by
  unfold next at h
  split at h
  case h_2 => split at h <;> simp at h
  case h_1 delimiter rest hdrop =>
    have htake : (r.buffer.takeWhile (· != r.delimiter)).length ≠ r.buffer.length := by
      intro hlength
      have hall := congrArg List.length (r.buffer.takeWhile_append_dropWhile (p := (· != r.delimiter)))
      rw [List.length_append, hlength, hdrop, List.length_cons] at hall
      omega
    simp only [Except.ok.injEq, Prod.mk.injEq, Option.some.injEq] at h
    obtain ⟨rfl, rfl⟩ := h
    rw [next, feed, List.dropWhile_append, List.takeWhile_append, hdrop, if_neg htake]
    rfl

theorem finish_of_next {r r' : LineReader} {line : Bytes} (h : r.next = .ok (some line, r')) :
    r.finish = .ok (some line, r') := by
  rw [finish, h]

/-- The lines of a stream are its first line and those of the rest. -/
theorem drainEnd_of_finish {r r' : LineReader} {line : Bytes} (h : r.finish = .ok (some line, r')) :
    r.drainEnd = .cons line r'.drainEnd := by
  rw [drainEnd]
  split
  case h_1 hother => cases h.symm.trans hother
  case h_2 hother => cases h.symm.trans hother
  case h_3 hother =>
    cases h.symm.trans hother
    rfl

theorem lines_foldr_cons (lines : List Bytes) (d : Drained) :
    (lines.foldr Drained.cons d).lines = lines ++ d.lines := by
  induction lines with
  | nil => rfl
  | cons line rest ih =>
    rw [List.foldr_cons, Drained.cons, ih]
    rfl

end LineReader

end InstrumentRelay
