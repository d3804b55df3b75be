import InstrumentRelay.Proofs.Stream.Recovery

/-!
# The end of a stream

When a stream ends, a reader asks once more for packets and then throws away what it still holds.
What it holds is a frame that has begun and not ended, or what looked like one: a header that
announces more bytes than there are. A header that was damaged may announce anything, and then whole
frames can stand behind it in the buffer. They are thrown away with it, since nothing looks for the
next sync mark any more.

So the end of a stream costs exactly the frames that begin in those last bytes. Everything in front
of them has been judged before, and the account of it (`FrameReader.Account`) is closed.
-/

namespace InstrumentRelay

namespace FrameReader

/-- Every packet of a stream that comes in these reads and then ends. -/
def readToEnd (cuts : List Bytes) : List Packet × FrameReader :=
  let read := empty.readAll cuts
  (read.1 ++ read.2.drainEnd.1, read.2.drainEnd.2)

/-- What is still held when a stream ends that comes in these reads. -/
def lastBytes (cuts : List Bytes) : Bytes := (empty.readAll cuts).2.buffer

/-- No frame that stands in the stream is lost: it is read, or it begins inside of one that is. -/
def LosesNone (cuts : List Bytes) : Prop :=
  ∀ (position : Nat) (p : Packet), p.frame <+: cuts.flatten.drop position →
    (position, p) ∈ empty.locateAll 0 cuts ∨
      ∃ x ∈ empty.locateAll 0 cuts, x.1 < position ∧ position < x.1 + x.2.frameSize

/-! ## What is thrown away -/

theorem drainEnd_of_settled {r : FrameReader} (h : r.Settled) :
    r.drainEnd = ([], { r with buffer := [] }) := by
  have hfinish : r.finish = (none, { r with buffer := [] }) := by
    rw [finish, show r.next = (none, r) from h]
  rw [drainEnd]
  split
  all_goals
    rename_i hend
    rw [hfinish] at hend
    cases hend
  rfl

theorem readToEnd_eq (cuts : List Bytes) :
    readToEnd cuts = ((empty.readAll cuts).1, ⟨[], (empty.readAll cuts).2.dropped⟩) := by
  rw [readToEnd, drainEnd_of_settled (settled_readAll settled_empty cuts), List.append_nil]

namespace Account

variable {used : Bytes} {found : List (Nat × Packet)} {r : FrameReader}

/-- No frame that was read reaches into the buffer. -/
theorem not_read_of_le (h : Account used found r) {position : Nat} (hle : used.length ≤ position) :
    ¬∃ x ∈ found, x.1 ≤ position ∧ position < x.1 + x.2.frameSize := by
  rintro ⟨x, hx, -, hlt⟩
  have hend := h.end_le hx
  omega

/-- Where the stream ends here, no frame is lost exactly if none begins in the buffer. -/
theorem losesNone_iff (h : Account used found r) :
    (∀ (position : Nat) (p : Packet), p.frame <+: (used ++ r.buffer).drop position →
        (position, p) ∈ found ∨ ∃ x ∈ found, x.1 < position ∧ position < x.1 + x.2.frameSize) ↔
      ∀ (k : Nat) (p : Packet), ¬p.frame <+: r.buffer.drop k := by
  constructor
  · intro hnone k p hp
    have hdrop : (used ++ r.buffer).drop (used.length + k) = r.buffer.drop k := by
      rw [List.drop_append, List.drop_of_length_le (Nat.le_add_right _ _), List.nil_append,
        Nat.add_sub_cancel_left]
    rw [← hdrop] at hp
    refine h.not_read_of_le (Nat.le_add_right used.length k) ?_
    rcases hnone _ p hp with hfound | ⟨x, hx, hbefore, hlt⟩
    · refine ⟨_, hfound, Nat.le_refl _, ?_⟩
      rw [Packet.frameSize, Packet.headerSize]
      omega
    · exact ⟨x, hx, Nat.le_of_lt hbefore, hlt⟩
  · intro hbuffer position p hp
    by_cases hused : position < used.length
    · exact h.mem_or_inside hp hused
    · rw [List.drop_append, List.drop_of_length_le (by omega), List.nil_append] at hp
      exact absurd hp (hbuffer _ p)

end Account

/-! ## What is lost -/

/-- **The end of a stream costs the frames that begin in its last bytes**, and no others. The last
bytes are what the reader waits with: the beginning of something that is not complete. They are
thrown away. A frame in front of them is read, or begins inside of one that is; none that begins in
them is. So no frame is lost exactly if none begins in the last bytes. -/
theorem readToEnd_exact (cuts : List Bytes) :
    lastBytes cuts <:+ cuts.flatten ∧ Packet.read? (lastBytes cuts) = .ok none ∧
    (readToEnd cuts).1 = (empty.locateAll 0 cuts).map Prod.snd ∧ (readToEnd cuts).2.buffer = [] ∧
    (∀ (position : Nat) (p : Packet), p.frame <+: cuts.flatten.drop position →
      position + (lastBytes cuts).length < cuts.flatten.length →
        (position, p) ∈ empty.locateAll 0 cuts ∨
          ∃ x ∈ empty.locateAll 0 cuts, x.1 < position ∧ position < x.1 + x.2.frameSize) ∧
    (∀ position, cuts.flatten.length ≤ position + (lastBytes cuts).length →
      ¬∃ x ∈ empty.locateAll 0 cuts, x.1 ≤ position ∧ position < x.1 + x.2.frameSize) ∧
    (LosesNone cuts ↔ ∀ (k : Nat) (p : Packet), ¬p.frame <+: (lastBytes cuts).drop k) := by
  obtain ⟨used, hstream, h⟩ := account_empty.readAll cuts
  change used ++ lastBytes cuts = cuts.flatten at hstream
  change Account used (empty.locateAll 0 cuts) _ at h
  have hsettled := settled_readAll settled_empty cuts
  have hlength : used.length + (lastBytes cuts).length = cuts.flatten.length := by
    rw [← hstream, List.length_append]
  refine ⟨⟨used, hstream⟩, hsettled.read?_eq_none, ?_, ?_, ?_, ?_, ?_⟩
  · rw [readToEnd_eq, map_snd_locateAll]
  · rw [readToEnd_eq]
  · intro position p hp hbefore
    rw [← hstream] at hp
    exact h.mem_or_inside hp (by omega)
  · intro position hbehind
    exact h.not_read_of_le (by omega)
  · rw [lastBytes, ← h.losesNone_iff, ← lastBytes, hstream, LosesNone]

/-- A stream that ends inside of a sync mark, after noise and a sign of life, loses none. -/
theorem losesNone_of_end_in_mark :
    ∃ p : Packet, p.kind = .heartbeat ∧ LosesNone [[0x00, 0xA3], p.frame ++ [0xA3, 0x9D]] := by
  refine ⟨⟨.heartbeat, ⟨0⟩, Bytes.ofText "HB", by decide⟩, rfl, ?_⟩
  generalize (⟨.heartbeat, ⟨0⟩, Bytes.ofText "HB", by decide⟩ : Packet) = p
  refine (readToEnd_exact _).2.2.2.2.2.2.2 ?_
  intro k q hq
  have hnoise : ∀ x ∈ [(([0x00, 0xA3] : Bytes), p)], Packet.Quiet x.1 := by
    intro x hx
    obtain rfl := List.mem_singleton.mp hx
    exact (by decide : Packet.Quiet [0x00, 0xA3])
  obtain ⟨left, dropped, hdrain, hleft, -⟩ :=
    drain_noisy hnoise (by decide : Packet.Quiet [0xA3, 0x9D]) 0
  have hlast : lastBytes [[0x00, 0xA3], p.frame ++ [0xA3, 0x9D]] = left := by
    rw [lastBytes, readAll_eq_drain settled_empty]
    have hstream : empty.feed [[0x00, 0xA3], p.frame ++ [0xA3, 0x9D]].flatten
        = ⟨noisy [([0x00, 0xA3], p)] [0xA3, 0x9D], 0⟩ := by
      simp [empty, feed, noisy]
    rw [hstream, hdrain]
  -- What is left is too short for a header.
  have hshort := hleft.ends.length_le
  have hframe := hq.length_le
  rw [hlast, List.length_drop, Packet.length_frame, Packet.frameSize, Packet.headerSize] at hframe
  simp only [List.length_cons, List.length_nil] at hshort
  omega

/-- A header that announces the longest frame, and a whole sign of life behind it. -/
def heartbeatBehindHeader : Bytes :=
  [0xA3, 0x9D, 0x7A, 0x01, 0xFF, 0xFF, 0x00, 0x00] ++ List.replicate 8 0x00
    ++ ([0xA3, 0x9D, 0x7A, 0x09, 0x00, 0x12, 0x02, 0x5F] ++ List.replicate 8 0x00 ++ [0x48, 0x42])

/-- Where the stream ends behind the sign of life, that is lost. -/
theorem loses_heartbeat_behind_header : ¬LosesNone [heartbeatBehindHeader] := by
  intro hnone
  have hwaits : Packet.read? heartbeatBehindHeader = .ok none := by cbv
  have hnothing : empty.locateAll 0 [heartbeatBehindHeader] = [] := by
    have hnext : (empty.feed heartbeatBehindHeader).next
        = (none, empty.feed heartbeatBehindHeader) := next_of_read?_eq_none 0 hwaits
    rw [locateAll, locateAll, locate_of_next_eq_none _ hnext, List.append_nil]
  have hframe : (⟨.heartbeat, ⟨0⟩, [0x48, 0x42], by decide⟩ : Packet).frame
      <+: [heartbeatBehindHeader].flatten.drop 16 := by decide
  rcases hnone 16 _ hframe with hfound | ⟨x, hx, -⟩
  · rw [hnothing] at hfound
    exact List.not_mem_nil hfound
  · rw [hnothing] at hx
    exact List.not_mem_nil hx

end FrameReader

end InstrumentRelay
