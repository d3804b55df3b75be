import InstrumentRelay.Bytes

/-!
# Reading lines from a stream

A stream is cut at a delimiter. The delimiter does not belong to the line, and neither does one
carriage return before it. A line that has not ended yet is waited for, but not for ever: once more
than `limit` bytes have arrived without a delimiter, the stream is given up. At the end of the
stream a last line needs no delimiter.
-/

namespace InstrumentRelay

/-- More bytes than a line may have have arrived, and no delimiter among them. -/
structure LineTooLong where
  /-- How many bytes a line may have. -/
  limit : Nat
  deriving DecidableEq, Repr

/-- The error in words. -/
def LineTooLong.message (e : LineTooLong) : String :=
  "line longer than " ++ toString e.limit ++ " bytes"

/-- The state of reading lines. -/
structure LineReader where
  /-- What has arrived and not been used yet. -/
  buffer : Bytes
  /-- The byte that ends a line. -/
  delimiter : UInt8
  /-- How many bytes are waited for at most. -/
  limit : Nat
  deriving DecidableEq, Repr

/-- The line without one carriage return at its end. -/
def withoutReturn (line : Bytes) : Bytes :=
  if line.getLast? = some 0x0d then line.dropLast else line

namespace LineReader

/-- Nothing has arrived yet. Lines end with a line feed and may have 64 KiB. -/
def empty : LineReader := ⟨[], 0x0a, 65536⟩

/-- Bytes arrive. -/
def feed (r : LineReader) (bytes : Bytes) : LineReader := { r with buffer := r.buffer ++ bytes }

/-- The next line, if it is complete, and the reader after it. -/
def next (r : LineReader) : Except LineTooLong (Option Bytes × LineReader) :=
  match r.buffer.dropWhile (· != r.delimiter) with
  | _ :: rest =>
    let line := r.buffer.takeWhile (· != r.delimiter)
    .ok (some (withoutReturn line), { r with buffer := rest })
  | [] => if r.limit < r.buffer.length then .error ⟨r.limit⟩ else .ok (none, r)

theorem forall_bne_of_notMem {delimiter : UInt8} {bytes : Bytes} (h : delimiter ∉ bytes) :
    ∀ b ∈ bytes, (b != delimiter) = true := by
  intro b hb
  rw [bne_iff_ne]
  rintro rfl
  exact h hb

theorem next_of_eq_append {r : LineReader} {line rest : Bytes}
    (h : r.buffer = line ++ r.delimiter :: rest) (hline : r.delimiter ∉ line) :
    r.next = .ok (some (withoutReturn line), { r with buffer := rest }) := by
  have hbefore := forall_bne_of_notMem hline
  rw [next, h, List.dropWhile_append_of_pos hbefore, List.takeWhile_append_of_pos hbefore,
    List.dropWhile_cons_of_neg (by simp), List.takeWhile_cons_of_neg (by simp), List.append_nil]

theorem next_of_notMem {r : LineReader} (h : r.delimiter ∉ r.buffer) :
    r.next = if r.limit < r.buffer.length then .error ⟨r.limit⟩ else .ok (none, r) := by
  have hall : r.buffer.dropWhile (· != r.delimiter) = [] := by
    rw [← List.append_nil r.buffer, List.dropWhile_append_of_pos (forall_bne_of_notMem h),
      List.dropWhile_nil]
  rw [next, hall]

/-- The next line at the end of the stream, where a line needs no delimiter. -/
def finish (r : LineReader) : Except LineTooLong (Option Bytes × LineReader) :=
  match r.next with
  | .error e => .error e
  | .ok (some line, r) => .ok (some line, r)
  | .ok (none, r) =>
    if r.buffer.isEmpty then .ok (none, r)
    else .ok (some (withoutReturn r.buffer), { r with buffer := [] })

/-! ## Whole streams -/

theorem length_of_next {r r' : LineReader} {line : Bytes} (h : r.next = .ok (some line, r')) :
    r'.buffer.length < r.buffer.length := by
  have hle := (List.dropWhile_sublist (· != r.delimiter) : List.Sublist _ r.buffer).length_le
  unfold next at h
  split at h
  · rename_i c rest hrest
    simp only [Except.ok.injEq, Prod.mk.injEq] at h
    rw [hrest] at hle
    rw [← h.2]
    exact hle
  · split at h <;> simp at h

theorem length_of_finish {r r' : LineReader} {line : Bytes}
    (h : r.finish = .ok (some line, r')) : r'.buffer.length < r.buffer.length := by
  unfold finish at h
  split at h
  · simp at h
  · rename_i hnext
    simp only [Except.ok.injEq, Prod.mk.injEq, Option.some.injEq] at h
    obtain ⟨rfl, rfl⟩ := h
    exact length_of_next hnext
  · rename_i s hnext
    have hs : s = r := by
      unfold next at hnext
      split at hnext
      · simp at hnext
      · split at hnext <;> simp_all
    subst hs
    split at h
    · simp at h
    · rename_i hne
      simp only [Except.ok.injEq, Prod.mk.injEq] at h
      rw [← h.2]
      cases hb : s.buffer with
      | nil => simp [hb] at hne
      | cons b rest => simp

/-- What comes of reading lines until there is none. -/
structure Drained where
  /-- The lines. -/
  lines : List Bytes
  /-- The reader after them. -/
  reader : LineReader
  /-- Why the stream was given up, if it was. -/
  fault : Option LineTooLong := none
  deriving DecidableEq, Repr

/-- One more line in front. -/
def Drained.cons (line : Bytes) (d : Drained) : Drained := { d with lines := line :: d.lines }

/-- Every line that is complete. -/
def drain (r : LineReader) : Drained :=
  match h : r.next with
  | .error e => { lines := [], reader := r, fault := some e }
  | .ok (none, r') => { lines := [], reader := r' }
  | .ok (some line, r') =>
    have : r'.buffer.length < r.buffer.length := length_of_next h
    .cons line (drain r')
termination_by r.buffer.length

/-- Every line that is left at the end of the stream. -/
def drainEnd (r : LineReader) : Drained :=
  match h : r.finish with
  | .error e => { lines := [], reader := r, fault := some e }
  | .ok (none, r') => { lines := [], reader := r' }
  | .ok (some line, r') =>
    have : r'.buffer.length < r.buffer.length := length_of_finish h
    .cons line (drainEnd r')
termination_by r.buffer.length

/-- Every line of a stream that comes in these reads, up to the first that is too long. -/
def readAll (r : LineReader) : List Bytes → Drained
  | [] => { lines := [], reader := r }
  | bytes :: rest =>
    let first := (r.feed bytes).drain
    match first.fault with
    | some _ => first
    | none =>
      let others := first.reader.readAll rest
      { others with lines := first.lines ++ others.lines }

end LineReader

end InstrumentRelay
