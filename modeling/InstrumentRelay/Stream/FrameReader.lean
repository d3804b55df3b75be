import InstrumentRelay.Packet.Frame

/-!
# Reading framed packets from a stream

A reader holds the bytes that have arrived and not been used yet. Bad bytes never end the stream:
whatever is wrong with the front of the buffer, the reader drops bytes up to the next possible sync
mark, counts them, and tries again. A frame that is incomplete is waited for.
-/

namespace InstrumentRelay

/-- The state of reading framed packets. -/
structure FrameReader where
  /-- What has arrived and not been used yet. -/
  buffer : Bytes
  /-- How many bytes have been dropped in search of a sync mark. -/
  dropped : Nat
  deriving DecidableEq, Repr

namespace FrameReader

/-- Nothing has arrived yet. -/
def empty : FrameReader := ⟨[], 0⟩

/-- Bytes arrive. -/
def feed (r : FrameReader) (bytes : Bytes) : FrameReader := { r with buffer := r.buffer ++ bytes }

/-- The next packet, if one is complete, and the reader after it. -/
def next (r : FrameReader) : Option Packet × FrameReader :=
  match h : Packet.take r.buffer with
  | (.ok found, rest) => (found, { r with buffer := rest })
  | (.error _, rest) =>
    let found := Packet.resync rest
    have : found.2.length < r.buffer.length := Packet.length_resync_of_take h
    next ⟨found.2, r.dropped + found.1⟩
termination_by r.buffer.length

/-- The next packet at the end of the stream. Once there is none, what is left is discarded; it does
not count as dropped. -/
def finish (r : FrameReader) : Option Packet × FrameReader :=
  match r.next with
  | (some p, r) => (some p, r)
  | (none, r) => (none, { r with buffer := [] })

/-! ## Whole streams -/

theorem length_of_next {r r' : FrameReader} {p : Packet} (h : r.next = (some p, r')) :
    r'.buffer.length < r.buffer.length := by
  fun_induction next r with
  | case1 r found rest htake =>
    simp only [Prod.mk.injEq] at h
    obtain ⟨rfl, rfl⟩ := h
    exact Packet.length_of_read? (Packet.take_eq_ok_some_iff.1 htake)
  | case2 r e rest htake found hlt ih => exact Nat.lt_trans (ih h) hlt

theorem length_of_finish {r r' : FrameReader} {p : Packet} (h : r.finish = (some p, r')) :
    r'.buffer.length < r.buffer.length := by
  unfold finish at h
  split at h
  · rename_i q s hnext
    simp only [Prod.mk.injEq, Option.some.injEq] at h
    obtain ⟨rfl, rfl⟩ := h
    exact length_of_next hnext
  · simp at h

/-- Every packet that is complete, and the reader after them. -/
def drain (r : FrameReader) : List Packet × FrameReader :=
  match h : r.next with
  | (none, r') => ([], r')
  | (some p, r') =>
    have : r'.buffer.length < r.buffer.length := length_of_next h
    (p :: (drain r').1, (drain r').2)
termination_by r.buffer.length

/-- Every packet that is left at the end of the stream. -/
def drainEnd (r : FrameReader) : List Packet × FrameReader :=
  match h : r.finish with
  | (none, r') => ([], r')
  | (some p, r') =>
    have : r'.buffer.length < r.buffer.length := length_of_finish h
    (p :: (drainEnd r').1, (drainEnd r').2)
termination_by r.buffer.length

/-- Every packet of a stream that comes in these reads. -/
def readAll (r : FrameReader) : List Bytes → List Packet × FrameReader
  | [] => ([], r)
  | bytes :: rest =>
    let first := (r.feed bytes).drain
    let others := first.2.readAll rest
    (first.1 ++ others.1, others.2)

end FrameReader

end InstrumentRelay
