import Mathlib.Algebra.GroupWithZero.Nat
import InstrumentRelay.Proofs.Stream.FrameReader

/-!
# Frames in noise

A line that carries frames may carry noise between them. As long as no stretch of noise contains a
sync mark, every frame is read, whatever its payload looks like, every byte of noise is dropped, and
at the end only what may still become a sync mark is kept.

## Noise and the frame behind it

The one thing to be feared is a mark that begins in the noise and ends in the frame behind it. The
three bytes of the mark are different from each other, so no end of it is a beginning of it, and a
mark that overlaps the next one cannot exist (`not_mayBegin_of_quiet`). Marks inside of payloads are
no danger either: a frame is taken off the stream as a whole, and the search goes on behind it.
-/

namespace InstrumentRelay

namespace Packet

/-! ## Noise without a mark -/

/-- There is no sync mark in it. -/
def Quiet (noise : Bytes) : Prop := ¬syncMark <:+: noise

instance (noise : Bytes) : Decidable (Quiet noise) := inferInstanceAs (Decidable (¬_))

theorem Quiet.tail {b : UInt8} {noise : Bytes} (h : Quiet (b :: noise)) : Quiet noise :=
  fun hmark ↦ h (List.infix_cons hmark)

theorem Quiet.ne_syncMark {b₀ b₁ b₂ : UInt8} {noise : Bytes}
    (h : Quiet (b₀ :: b₁ :: b₂ :: noise)) : [b₀, b₁, b₂] ≠ syncMark := by
  intro hmark
  refine h ?_
  rw [← hmark]
  exact (List.prefix_append [b₀, b₁, b₂] noise).isInfix

/-- No mark begins in the noise and ends in a mark behind it. -/
theorem not_mayBegin_of_quiet {b : UInt8} {noise : Bytes} (h : Quiet (b :: noise)) (rest : Bytes) :
    ¬mayBegin (b :: noise ++ (syncMark ++ rest)) = true := by
  -- After one or two bytes of noise, the first byte of the mark would be its second or third, too.
  match noise, h with
  | [], _ =>
    intro hmark
    have hbytes := mayBegin_cons₃.mp hmark
    simp [syncMark] at hbytes
  | [c], _ =>
    intro hmark
    have hbytes := mayBegin_cons₃.mp hmark
    simp [syncMark] at hbytes
  | c :: d :: noise, h =>
    intro hmark
    exact h.ne_syncMark (mayBegin_cons₃.mp hmark)

/-- With no mark in it, a buffer that may begin a frame is too short to tell. -/
theorem length_lt_of_quiet {buffer : Bytes} (h : Quiet buffer) (hmark : mayBegin buffer = true) :
    buffer.length < 3 := by
  match buffer, h with
  | [], _ | [_], _ | [_, _], _ => simp
  | b₀ :: b₁ :: b₂ :: rest, h => exact absurd (mayBegin_cons₃.mp hmark) h.ne_syncMark

theorem read?_eq_none_of_short {buffer : Bytes} (hmark : mayBegin buffer = true)
    (hshort : buffer.length < headerSize) : read? buffer = .ok none := by
  unfold read?
  rw [if_pos hmark]
  split
  · simp only [List.length_cons, headerSize] at hshort
    omega
  · rfl

theorem exists_frame_eq (p : Packet) : ∃ rest, p.frame = syncMark ++ rest := by
  rw [frame, header]
  simp only [List.append_assoc]
  exact ⟨_, rfl⟩

/-- What is left of noise: its longest end that is a beginning of the mark, and not all of it. -/
structure LongestPartialMark (noise left : Bytes) : Prop where
  ends : left <:+ noise
  begins : left <+: syncMark
  partly : left ≠ syncMark
  longest : ∀ other, other <:+ noise → other <+: syncMark → other ≠ syncMark →
    other.length ≤ left.length

/-- A beginning of the mark may begin a frame. -/
theorem mayBegin_of_begins {buffer : Bytes} (h : buffer <+: syncMark) : mayBegin buffer = true :=
  mayBegin_iff.mpr ((List.take_prefix 3 buffer).trans h)

theorem longestPartialMark_self {noise : Bytes} (h : Quiet noise)
    (hmark : mayBegin noise = true) : LongestPartialMark noise noise where
  ends := List.suffix_rfl
  begins := by
    have hshort := length_lt_of_quiet h hmark
    have hbegins := mayBegin_iff.mp hmark
    rwa [List.take_of_length_le (by omega)] at hbegins
  partly := by
    rintro rfl
    exact h List.infix_rfl
  longest other hends _ _ := hends.length_le

theorem LongestPartialMark.cons {b : UInt8} {noise left : Bytes}
    (h : LongestPartialMark noise left) (hmark : ¬mayBegin (b :: noise) = true) :
    LongestPartialMark (b :: noise) left where
  ends := h.ends.trans (List.suffix_cons b noise)
  begins := h.begins
  partly := h.partly
  longest other hends hbegins hpartly := by
    rcases List.suffix_cons_iff.mp hends with rfl | hends
    · exact absurd (mayBegin_of_begins hbegins) hmark
    · exact h.longest other hends hbegins hpartly

end Packet

namespace FrameReader

open Packet (Quiet LongestPartialMark)

/-! ## Reading through noise -/

/-- The frame behind the noise is read, and the noise is dropped. -/
theorem next_of_quiet {noise : Bytes} (h : Quiet noise) (p : Packet) (rest : Bytes)
    (dropped : Nat) :
    next ⟨noise ++ (p.frame ++ rest), dropped⟩ = (some p, ⟨rest, dropped + noise.length⟩) := by
  induction noise generalizing dropped with
  | nil => exact next_of_read?_eq_some dropped (p.read?_frame_append rest)
  | cons b noise ih =>
    obtain ⟨body, hbody⟩ := p.exists_frame_eq
    have hmark := Packet.not_mayBegin_of_quiet h (body ++ rest)
    rw [← List.append_assoc Packet.syncMark, ← hbody, List.cons_append] at hmark
    rw [List.cons_append, next_of_read?_eq_error dropped (Packet.read?_eq_noSync hmark), ih h.tail,
      List.length_cons, Nat.add_assoc, Nat.add_comm 1]

/-- Noise with nothing behind it is dropped up to where a mark may begin. -/
theorem next_of_quiet_end {noise : Bytes} (h : Quiet noise) (dropped : Nat) :
    ∃ left dropped', next ⟨noise, dropped⟩ = (none, ⟨left, dropped'⟩) ∧
      LongestPartialMark noise left ∧ dropped' + left.length = dropped + noise.length := by
  induction noise generalizing dropped with
  | nil =>
    exact ⟨[], dropped, next_of_read?_eq_none dropped Packet.read?_nil,
      Packet.longestPartialMark_self h rfl, rfl⟩
  | cons b noise ih =>
    -- The search stops at the first partial mark, and later ones are shorter.
    by_cases hmark : Packet.mayBegin (b :: noise) = true
    · have hshort := Packet.length_lt_of_quiet h hmark
      have hread := Packet.read?_eq_none_of_short hmark (Nat.lt_trans hshort (by decide))
      exact ⟨b :: noise, dropped, next_of_read?_eq_none dropped hread,
        Packet.longestPartialMark_self h hmark, rfl⟩
    · obtain ⟨left, dropped', hnext, hleft, hcount⟩ := ih h.tail (dropped + 1)
      refine ⟨left, dropped', ?_, hleft.cons hmark, ?_⟩
      · rw [next_of_read?_eq_error dropped (Packet.read?_eq_noSync hmark), hnext]
      · rw [hcount, List.length_cons, Nat.add_assoc, Nat.add_comm 1]

/-! ## Whole streams -/

/-- Frames with noise in front of each of them, and noise at the end. -/
def noisy (frames : List (Bytes × Packet)) (last : Bytes) : Bytes :=
  (frames.flatMap fun x ↦ x.1 ++ x.2.frame) ++ last

/-- How many bytes of noise there are in front of the frames. -/
def noiseBefore (frames : List (Bytes × Packet)) : Nat := (frames.map fun x ↦ x.1.length).sum

theorem noisy_cons (x : Bytes × Packet) (frames : List (Bytes × Packet)) (last : Bytes) :
    noisy (x :: frames) last = x.1 ++ (x.2.frame ++ noisy frames last) := by
  rw [noisy, List.flatMap_cons, List.append_assoc, List.append_assoc, noisy]

theorem drain_noisy {frames : List (Bytes × Packet)} {last : Bytes}
    (hframes : ∀ x ∈ frames, Quiet x.1) (hlast : Quiet last) (dropped : Nat) :
    ∃ left dropped', drain ⟨noisy frames last, dropped⟩ = (frames.map Prod.snd, ⟨left, dropped'⟩) ∧
      LongestPartialMark last left ∧
      dropped' + left.length = dropped + noiseBefore frames + last.length := by
  induction frames generalizing dropped with
  | nil =>
    obtain ⟨left, dropped', hnext, hleft, hcount⟩ := next_of_quiet_end hlast dropped
    exact ⟨left, dropped', drain_of_next_eq_none hnext, hleft, hcount⟩
  | cons x frames ih =>
    have hrest : ∀ y ∈ frames, Quiet y.1 := fun y hy ↦ hframes y (List.mem_cons_of_mem x hy)
    obtain ⟨left, dropped', hdrain, hleft, hcount⟩ := ih hrest (dropped + x.1.length)
    have hnext := next_of_quiet (hframes x List.mem_cons_self) x.2 (noisy frames last) dropped
    refine ⟨left, dropped', ?_, hleft, ?_⟩
    · rw [noisy_cons, drain_of_next_eq_some hnext, hdrain, List.map_cons]
    · rw [hcount, noiseBefore, noiseBefore, List.map_cons, List.sum_cons, Nat.add_assoc dropped]

theorem drain_frames (packets : List Packet) :
    drain ⟨packets.flatMap Packet.frame, 0⟩ = (packets, empty) := by
  induction packets with
  | nil => exact drain_of_settled settled_empty
  | cons p packets ih =>
    have hread := p.read?_frame_append (packets.flatMap Packet.frame)
    rw [List.flatMap_cons, drain_of_next_eq_some (next_of_read?_eq_some 0 hread), ih]

/-- Frames are read as the packets they are made of, however the stream is cut. -/
theorem readAll_frames {packets : List Packet} {cuts : List Bytes}
    (h : cuts.flatten = (packets.map Packet.frame).flatten) :
    empty.readAll cuts = (packets, empty) := by
  rw [readAll_eq_drain settled_empty, h, ← List.flatMap_def]
  exact drain_frames packets

/-- **Frames in noise are read, and nothing else is.** Whatever stands in the payloads and however
the stream is cut, noise without a sync mark costs no packet and makes none. What is left at the end
is the longest partial mark at the end of the noise, and all other noise has been dropped. Without
noise nothing is left and nothing is dropped. -/
theorem readAll_noisy :
    (∀ (frames : List (Bytes × Packet)) (last : Bytes) (cuts : List Bytes),
      (∀ x ∈ frames, Quiet x.1) → Quiet last → cuts.flatten = noisy frames last →
        (empty.readAll cuts).1 = frames.map Prod.snd ∧
        LongestPartialMark last (empty.readAll cuts).2.buffer ∧
        (empty.readAll cuts).2.dropped + (empty.readAll cuts).2.buffer.length
          = noiseBefore frames + last.length) ∧
    (∀ (packets : List Packet) (cuts : List Bytes), cuts.flatten = packets.flatMap Packet.frame →
      empty.readAll cuts = (packets, empty)) := by
  have hwhole (cuts : List Bytes) : empty.readAll cuts = drain ⟨cuts.flatten, 0⟩ := by
    rw [readAll_eq_drain settled_empty, feed, empty, List.nil_append]
  constructor
  · intro frames last cuts hframes hlast hcuts
    obtain ⟨left, dropped, hdrain, hleft, hcount⟩ := drain_noisy hframes hlast 0
    rw [hwhole, hcuts, hdrain]
    rw [Nat.zero_add] at hcount
    exact ⟨rfl, hleft, hcount⟩
  · intro packets cuts hcuts
    rw [hwhole, hcuts, drain_frames]

/-- A packet with a whole sign of life in its payload, after noise that ends in a part of the mark,
in two reads that part the mark of its frame. At the end the noise has the first two bytes of a
mark. -/
theorem readAll_frame_in_payload :
    ∃ p : Packet, p.payload = Packet.syncMark ++ [0x09, 0x00, 0x10, 0x01, 0xD3]
        ++ List.replicate 8 0 ∧
      (empty.readAll [[0x00, 0xA3] ++ p.frame.take 2, p.frame.drop 2 ++ [0xA3, 0x9D]]).1 = [p] := by
  refine ⟨⟨.fromInstrument, ⟨0⟩, _, by decide⟩, rfl, ?_⟩
  refine (readAll_noisy.1 [([0x00, 0xA3], _)] [0xA3, 0x9D] _ ?_ (by decide) rfl).1
  intro x hx
  obtain rfl := List.mem_singleton.mp hx
  decide

end FrameReader

end InstrumentRelay
