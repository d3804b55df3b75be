import InstrumentRelay.Proofs.Packet.Frame
import InstrumentRelay.Stream.FrameReader

/-!
# How a stream is cut does not matter

A reader decides on partial data: it drops a byte as soon as nothing that may follow can make it
part of a frame, and it keeps what may still become one. No decision made early is ever wrong: two
ways of cutting a stream into reads give the same packets, the same bytes left over, and the same
number of bytes dropped.

## Dropping one byte at a time

The search for the next sync mark jumps, and where it lands depends on how much of the stream has
arrived: at the end of the buffer a partial mark is kept, and with more bytes behind it that same
mark may turn out to be none. So two cuts do not make the same jumps. What they do have in common is
shown by taking the jumps apart: a bad buffer may be shortened by a single byte without any effect
on what comes next (`next_of_read?_eq_error`), because every position that the search passes over is
bad itself. With that, the effect of later bytes (`next_feed`) is one induction on the buffer.
-/

namespace InstrumentRelay

namespace FrameReader

/-! ## One byte at a time -/

theorem next_of_take_eq_ok {r : FrameReader} {found : Option Packet} {rest : Bytes}
    (h : Packet.take r.buffer = (.ok found, rest)) : r.next = (found, ⟨rest, r.dropped⟩) := by
  rw [next]
  split
  all_goals
    rename_i htake
    rw [h] at htake
    cases htake
  rfl

theorem next_of_take_eq_error {r : FrameReader} {e : FrameError} {rest : Bytes}
    (h : Packet.take r.buffer = (.error e, rest)) :
    r.next = next ⟨(Packet.resync rest).2, r.dropped + (Packet.resync rest).1⟩ := by
  rw [next]
  split
  all_goals
    rename_i htake
    rw [h] at htake
    cases htake
  rfl

theorem next_of_read?_eq_some {buffer rest : Bytes} {p : Packet} (dropped : Nat)
    (h : Packet.read? buffer = .ok (some (p, rest))) :
    next ⟨buffer, dropped⟩ = (some p, ⟨rest, dropped⟩) :=
  next_of_take_eq_ok (Packet.take_eq_ok_some_iff.2 h)

theorem next_of_read?_eq_none {buffer : Bytes} (dropped : Nat)
    (h : Packet.read? buffer = .ok none) :
    next ⟨buffer, dropped⟩ = (none, ⟨buffer, dropped⟩) :=
  next_of_take_eq_ok (Packet.take_eq_ok_none_iff.2 ⟨h, rfl⟩)

theorem next_eq_next_resync {buffer : Bytes} {e : FrameError} (dropped : Nat)
    (h : Packet.read? buffer = .error e) :
    next ⟨buffer, dropped⟩
      = next ⟨(Packet.resync buffer).2, dropped + (Packet.resync buffer).1⟩ :=
  next_of_take_eq_error (Packet.take_eq_error_iff.2 ⟨h, rfl⟩)

/-- Every position that the search passes over is bad, so the reader gets past it on its own. -/
theorem next_skipToSync (skipped dropped : Nat) (buffer : Bytes) :
    next ⟨(Packet.skipToSync skipped buffer).2, dropped + (Packet.skipToSync skipped buffer).1⟩
      = next ⟨buffer, dropped + skipped⟩ := by
  induction buffer generalizing skipped dropped with
  | nil => rfl
  | cons b rest ih =>
    rw [Packet.skipToSync]
    split
    case isTrue => rfl
    case isFalse hsync =>
      rw [ih, next_eq_next_resync (dropped + skipped) (Packet.read?_eq_noSync hsync),
        Packet.resync, ih, Nat.add_assoc]

/-- **A bad buffer may be shortened by a single byte.** -/
theorem next_of_read?_eq_error {b : UInt8} {rest : Bytes} {e : FrameError} (dropped : Nat)
    (h : Packet.read? (b :: rest) = .error e) :
    next ⟨b :: rest, dropped⟩ = next ⟨rest, dropped + 1⟩ := by
  rw [next_eq_next_resync dropped h, Packet.resync, next_skipToSync]

/-! ## Bytes that arrive later -/

@[simp] theorem feed_nil (r : FrameReader) : r.feed [] = r := by
  simp [feed]

theorem feed_append (r : FrameReader) (bytes more : Bytes) :
    r.feed (bytes ++ more) = (r.feed bytes).feed more := by
  simp [feed]

/-- A packet that is found stays found with more bytes behind it, and where nothing is found the
search may go on from where it stopped. -/
theorem next_feed (buffer : Bytes) (dropped : Nat) (more : Bytes) :
    (∀ p r, next ⟨buffer, dropped⟩ = (some p, r) →
        next ⟨buffer ++ more, dropped⟩ = (some p, r.feed more)) ∧
      (∀ r, next ⟨buffer, dropped⟩ = (none, r) →
        next ⟨buffer ++ more, dropped⟩ = (r.feed more).next) := by
  induction buffer generalizing dropped with
  | nil =>
    have hnil := next_of_read?_eq_none dropped Packet.read?_nil
    rw [hnil]
    refine ⟨fun p r h ↦ by simp at h, fun r h ↦ ?_⟩
    rw [← (Prod.mk.inj h).2]
    rfl
  | cons b rest ih =>
    rcases hread : Packet.read? (b :: rest) with e | _ | ⟨q, after⟩
    · -- Both searches lose the same byte.
      have hmore := Packet.read?_append_of_error more hread
      rw [List.cons_append] at hmore ⊢
      rw [next_of_read?_eq_error dropped hread, next_of_read?_eq_error dropped hmore]
      exact ih (dropped + 1)
    · rw [next_of_read?_eq_none dropped hread]
      refine ⟨fun p r h ↦ by simp at h, fun r h ↦ ?_⟩
      rw [← (Prod.mk.inj h).2]
      rfl
    · rw [next_of_read?_eq_some dropped hread,
        next_of_read?_eq_some dropped (Packet.read?_append_of_some more hread)]
      refine ⟨fun p r h ↦ ?_, fun r h ↦ by simp at h⟩
      rw [← (Prod.mk.inj h).1, ← (Prod.mk.inj h).2]
      rfl

theorem next_feed_of_some {r r' : FrameReader} {p : Packet} (h : r.next = (some p, r'))
    (more : Bytes) : (r.feed more).next = (some p, r'.feed more) :=
  (next_feed r.buffer r.dropped more).1 p r' h

theorem next_feed_of_none {r r' : FrameReader} (h : r.next = (none, r')) (more : Bytes) :
    (r.feed more).next = (r'.feed more).next :=
  (next_feed r.buffer r.dropped more).2 r' h

/-- Where nothing is found there is nothing to be found. -/
theorem next_of_next_eq_none {r r' : FrameReader} (h : r.next = (none, r')) :
    r'.next = (none, r') := by
  have hmore := next_feed_of_none h []
  rw [feed_nil, feed_nil, h] at hmore
  exact hmore.symm

/-! ## Draining -/

theorem drain_of_next_eq_none {r r' : FrameReader} (h : r.next = (none, r')) :
    r.drain = ([], r') := by
  rw [drain]
  split
  all_goals
    rename_i hnext
    rw [h] at hnext
    cases hnext
  rfl

theorem drain_of_next_eq_some {r r' : FrameReader} {p : Packet} (h : r.next = (some p, r')) :
    r.drain = (p :: r'.drain.1, r'.drain.2) := by
  rw [drain]
  split
  all_goals
    rename_i hnext
    rw [h] at hnext
    cases hnext
  rfl

theorem drain_congr {r s : FrameReader} (h : r.next = s.next) : r.drain = s.drain := by
  rcases hs : s.next with ⟨_ | p, s'⟩
  · rw [drain_of_next_eq_none hs, drain_of_next_eq_none (h.trans hs)]
  · rw [drain_of_next_eq_some hs, drain_of_next_eq_some (h.trans hs)]

/-- A reader is settled if nothing can be found in what it holds. -/
def Settled (r : FrameReader) : Prop := r.next = (none, r)

theorem settled_empty : empty.Settled := next_of_read?_eq_none 0 Packet.read?_nil

theorem settled_drain (r : FrameReader) : r.drain.2.Settled := by
  fun_induction drain r with
  | case1 r r' h => exact next_of_next_eq_none h
  | case2 r p r' h hlt ih => exact ih

theorem drain_of_settled {r : FrameReader} (h : r.Settled) : r.drain = ([], r) :=
  drain_of_next_eq_none h

/-- **Draining early changes nothing.** What is found with more bytes is what is found without them,
and then what is found in the bytes that were left and the new ones. -/
theorem drain_feed (r : FrameReader) (more : Bytes) :
    (r.feed more).drain
      = (r.drain.1 ++ (r.drain.2.feed more).drain.1, (r.drain.2.feed more).drain.2) := by
  fun_induction drain r with
  | case1 r r' h => exact drain_congr (next_feed_of_none h more)
  | case2 r p r' h hlt ih =>
    rw [drain_of_next_eq_some (next_feed_of_some h more), ih]
    rfl

/-! ## Cuts -/

theorem settled_readAll {r : FrameReader} (h : r.Settled) (cuts : List Bytes) :
    (r.readAll cuts).2.Settled := by
  induction cuts generalizing r with
  | nil => exact h
  | cons bytes rest ih => exact ih (settled_drain (r.feed bytes))

/-- Reading a stream in pieces is draining it as a whole. -/
theorem readAll_eq_drain {r : FrameReader} (h : r.Settled) (cuts : List Bytes) :
    r.readAll cuts = (r.feed cuts.flatten).drain := by
  induction cuts generalizing r with
  | nil =>
    rw [List.flatten_nil, feed_nil, drain_of_settled h]
    rfl
  | cons bytes rest ih =>
    rw [readAll, ih (settled_drain (r.feed bytes)), List.flatten_cons, feed_append,
      drain_feed (r.feed bytes)]

/-- **How a stream is cut does not matter**, at whatever point of an earlier stream it begins. The
packets, the bytes left over and the number of bytes dropped are the same for any two cuts. -/
theorem readAll_eq_of_flatten_eq (before : List Bytes) {cuts cuts' : List Bytes}
    (h : cuts.flatten = cuts'.flatten) :
    (empty.readAll before).2.readAll cuts = (empty.readAll before).2.readAll cuts' := by
  have hsettled := settled_readAll settled_empty before
  rw [readAll_eq_drain hsettled, readAll_eq_drain hsettled, h]

/-- A sign of life cut in its sync mark and in its header, after a byte of noise. -/
theorem readAll_heartbeat_in_pieces :
    [[0x9D], [], [0x7A, 0x09, 0x00], [0x10, 0x01, 0xD3] ++ List.replicate 8 0].flatten
        = [[0x9D, 0x7A, 0x09, 0x00, 0x10, 0x01, 0xD3] ++ List.replicate 8 0].flatten ∧
      (empty.readAll [[0x00, 0xA3]]).2.readAll
          [[0x9D], [], [0x7A, 0x09, 0x00], [0x10, 0x01, 0xD3] ++ List.replicate 8 0]
        = (empty.readAll [[0x00, 0xA3]]).2.readAll
          [[0x9D, 0x7A, 0x09, 0x00, 0x10, 0x01, 0xD3] ++ List.replicate 8 0] :=
  ⟨rfl, readAll_eq_of_flatten_eq [[0x00, 0xA3]] rfl⟩

end FrameReader

end InstrumentRelay
