import InstrumentRelay.Proofs.Stream.Noise

/-!
# No frame is lost for long

Garbage may look like the header of a long frame, and a reader that believes it waits. It does not
wait for ever: what it waits for is shorter than the longest frame, and once that much has arrived,
either a frame was really there, or the header has been found out and the search goes on right
behind its first byte. So a frame that begins where the reader does not already read another one is
read as soon as enough bytes stand behind it.

## The account

`locateAll` gives the packets together with the positions of their frames in the stream. `Account`
says what has become of every byte that is not in the buffer any more: it belongs to a frame that
was read, or no frame begins there (`judged`). The second half is a judgement about a position of
which only a part may have been seen. It stands, because what is bad stays bad with more bytes
behind it (`Account.feed`). What a search does to the account is found out once, in `next_eq`.
-/

namespace InstrumentRelay

namespace Packet

/-- What is waited for is shorter than the longest frame. -/
theorem length_lt_of_read?_eq_none {buffer : Bytes} (h : read? buffer = .ok none) :
    buffer.length < maxFrame := by
  unfold read? at h
  split at h
  case isFalse => simp at h
  case isTrue hsync =>
    split at h
    case h_2 hshort =>
      -- There is not even a header.
      rcases buffer with _ | ⟨b₀, _ | ⟨b₁, _ | ⟨b₂, _ | ⟨code, _ | ⟨size₁, _ | ⟨size₀, _ | ⟨sum₁,
        _ | ⟨sum₀, _ | ⟨t₇, _ | ⟨t₆, _ | ⟨t₅, _ | ⟨t₄, _ | ⟨t₃, _ | ⟨t₂, _ | ⟨t₁,
        _ | ⟨t₀, body⟩⟩⟩⟩⟩⟩⟩⟩⟩⟩⟩⟩⟩⟩⟩⟩
      case cons => exact absurd rfl (hshort _ _ _ _ _ _ _ _ _ _ _ _ _ _ _ _ body)
      all_goals simp [maxFrame]
    case h_1 b₀ b₁ b₂ code size₁ size₀ sum₁ sum₀ t₇ t₆ t₅ t₄ t₃ t₂ t₁ t₀ body =>
      have hsize := Bytes.value_pair_lt size₁ size₀
      dsimp only at h
      split at h
      · simp at h
      split at h
      case isTrue hpart =>
        rw [List.length_take] at hpart
        simp only [List.length_cons, headerSize, maxFrame] at *
        omega
      split at h
      · simp at h
      split at h
      · simp at h
      · simp at h

/-- Two frames at the front of one buffer are the same. -/
theorem eq_of_frame_begins (p : Packet) {q : Packet} {buffer : Bytes} (hp : p.frame <+: buffer)
    (hq : q.frame <+: buffer) : p = q := by
  obtain ⟨after, rfl⟩ := hp
  obtain ⟨after', hbuffer⟩ := hq
  have hread := q.read?_frame_append after'
  rw [hbuffer, p.read?_frame_append after] at hread
  simp only [Except.ok.injEq, Option.some.injEq, Prod.mk.injEq] at hread
  exact hread.1

end Packet

namespace FrameReader

/-! ## Positions -/

/-- What `drain` gives, with the position of each frame in a stream of which this many bytes have
arrived: a frame ends where the buffer after it begins. -/
def locate (arrived : Nat) (r : FrameReader) : List (Nat × Packet) :=
  match h : r.next with
  | (none, _) => []
  | (some p, r') =>
    have : r'.buffer.length < r.buffer.length := length_of_next h
    (arrived - r'.buffer.length - p.frameSize, p) :: locate arrived r'
termination_by r.buffer.length

/-- What `readAll` gives, with the position of each frame. -/
def locateAll (arrived : Nat) (r : FrameReader) : List Bytes → List (Nat × Packet)
  | [] => []
  | bytes :: rest =>
    (r.feed bytes).locate (arrived + bytes.length)
      ++ (r.feed bytes).drain.2.locateAll (arrived + bytes.length) rest

theorem locate_of_next_eq_none {r r' : FrameReader} (arrived : Nat) (h : r.next = (none, r')) :
    r.locate arrived = [] := by
  rw [locate]
  split
  case h_1 => rfl
  case h_2 hnext =>
    rw [h] at hnext
    cases hnext

theorem locate_of_next_eq_some {r r' : FrameReader} {p : Packet} (arrived : Nat)
    (h : r.next = (some p, r')) :
    r.locate arrived
      = (arrived - r'.buffer.length - p.frameSize, p) :: r'.locate arrived := by
  rw [locate]
  split
  all_goals
    rename_i hnext
    rw [h] at hnext
    cases hnext
  rfl

theorem map_snd_locate (arrived : Nat) (r : FrameReader) :
    (r.locate arrived).map Prod.snd = r.drain.1 := by
  fun_induction drain r with
  | case1 r r' h => rw [locate_of_next_eq_none arrived h, List.map_nil]
  | case2 r p r' h hlt ih => rw [locate_of_next_eq_some arrived h, List.map_cons, ih]

theorem map_snd_locateAll (arrived : Nat) (r : FrameReader) (cuts : List Bytes) :
    (r.locateAll arrived cuts).map Prod.snd = (r.readAll cuts).1 := by
  induction cuts generalizing arrived r with
  | nil => rfl
  | cons bytes rest ih => rw [locateAll, List.map_append, map_snd_locate, ih, readAll]

/-! ## What a search does -/

/-- A search passes over positions that are bad, up to one at which a frame stands or may still come
to stand. -/
theorem next_eq (r : FrameReader) :
    ∃ skipped rest, r.buffer = skipped ++ rest ∧
      (∀ k < skipped.length, ∃ e, Packet.read? (r.buffer.drop k) = .error e) ∧
      (Packet.read? rest = .ok none ∧ r.next = (none, ⟨rest, r.dropped + skipped.length⟩) ∨
        ∃ p after, rest = p.frame ++ after ∧
          r.next = (some p, ⟨after, r.dropped + skipped.length⟩)) := by
  obtain ⟨buffer, dropped⟩ := r
  induction buffer generalizing dropped with
  | nil =>
    refine ⟨[], [], rfl, by simp, .inl ⟨Packet.read?_nil, ?_⟩⟩
    exact next_of_read?_eq_none dropped Packet.read?_nil
  | cons b buffer ih =>
    rcases hread : Packet.read? (b :: buffer) with e | _ | ⟨p, after⟩
    · obtain ⟨skipped, rest, hbuffer, hbad, hnext⟩ := ih (dropped + 1)
      have hcount : dropped + 1 + skipped.length = dropped + (b :: skipped).length := by
        rw [List.length_cons]
        omega
      refine ⟨b :: skipped, rest, congrArg (b :: ·) hbuffer, fun k hk ↦ ?_, ?_⟩
      · cases k with
        | zero => exact ⟨e, hread⟩
        | succ k => exact hbad k (Nat.lt_of_succ_lt_succ hk)
      · rwa [next_of_read?_eq_error dropped hread, ← hcount]
    · exact ⟨[], b :: buffer, rfl, by simp, .inl ⟨hread, next_of_read?_eq_none dropped hread⟩⟩
    · refine ⟨[], b :: buffer, rfl, by simp, .inr ⟨p, after, ?_, ?_⟩⟩
      · exact Packet.eq_frame_append_of_read? hread
      · exact next_of_read?_eq_some dropped hread

theorem Settled.read?_eq_none {r : FrameReader} (h : r.Settled) :
    Packet.read? r.buffer = .ok none := by
  obtain ⟨skipped, rest, hbuffer, -, hnext⟩ := r.next_eq
  rw [show r.next = (none, r) from h] at hnext
  rcases hnext with ⟨hread, hnext⟩ | ⟨p, after, -, hnext⟩
  · have hrest := congrArg FrameReader.buffer (Prod.mk.inj hnext).2
    rw [hrest]
    exact hread
  · exact absurd (Prod.mk.inj hnext).1 (by simp)

/-! ## The account -/

/-- What has become of the bytes in front of the buffer, given the packets with the positions of
their frames. -/
structure Account (used : Bytes) (found : List (Nat × Packet)) (r : FrameReader) : Prop where
  /-- Every byte is part of a frame or dropped. -/
  size_eq : (found.map fun x ↦ x.2.frameSize).sum + r.dropped = used.length
  /-- The frames stand at their positions. -/
  located : ∀ x ∈ found, ∃ before after, used = before ++ (x.2.frame ++ after) ∧
    before.length = x.1
  /-- They do not overlap. -/
  apart : found.Pairwise fun x y ↦ x.1 + x.2.frameSize ≤ y.1
  /-- A position that is not in one of them is bad. -/
  judged : ∀ position < used.length,
    (∃ e, Packet.read? ((used ++ r.buffer).drop position) = .error e) ∨
      ∃ x ∈ found, x.1 ≤ position ∧ position < x.1 + x.2.frameSize

theorem account_empty : Account [] [] empty where
  size_eq := rfl
  located := by simp
  apart := List.Pairwise.nil
  judged := by simp

namespace Account

variable {used : Bytes} {found : List (Nat × Packet)} {r : FrameReader}

theorem end_le (h : Account used found r) {x : Nat × Packet} (hx : x ∈ found) :
    x.1 + x.2.frameSize ≤ used.length := by
  obtain ⟨before, after, rfl, hbefore⟩ := h.located x hx
  rw [List.length_append, List.length_append, Packet.length_frame]
  omega

theorem frame_at (h : Account used found r) {x : Nat × Packet} (hx : x ∈ found) :
    x.2.frame <+: (used ++ r.buffer).drop x.1 := by
  obtain ⟨before, after, rfl, hbefore⟩ := h.located x hx
  rw [← hbefore]
  simp only [List.append_assoc, List.drop_left]
  exact List.prefix_append _ _

/-- A frame that begins in front of the buffer was read, or begins inside of one that was. -/
theorem mem_or_inside (h : Account used found r) {position : Nat} {p : Packet}
    (hp : p.frame <+: (used ++ r.buffer).drop position) (hposition : position < used.length) :
    (position, p) ∈ found ∨ ∃ x ∈ found, x.1 < position ∧ position < x.1 + x.2.frameSize := by
  rcases h.judged position hposition with ⟨e, hbad⟩ | ⟨x, hx, hle, hlt⟩
  · obtain ⟨after, hafter⟩ := hp
    rw [← hafter, p.read?_frame_append after] at hbad
    exact absurd hbad (by simp)
  · rcases Nat.lt_or_eq_of_le hle with hinside | rfl
    · exact .inr ⟨x, hx, hinside, hlt⟩
    · rw [p.eq_of_frame_begins hp (h.frame_at hx)]
      exact .inl hx

/-- What is bad stays bad. -/
theorem feed (h : Account used found r) (more : Bytes) : Account used found (r.feed more) where
  size_eq := h.size_eq
  located := h.located
  apart := h.apart
  judged position hposition := by
    rcases h.judged position hposition with ⟨e, hbad⟩ | hfound
    · refine .inl ⟨e, ?_⟩
      have hle : position ≤ (used ++ r.buffer).length := by
        rw [List.length_append]
        omega
      rw [FrameReader.feed, ← List.append_assoc, List.drop_append_of_le_length hle]
      exact Packet.read?_append_of_error more hbad
    · exact .inr hfound

/-- Bad positions are passed over. -/
theorem skip {skipped rest : Bytes} (h : Account used found r) (hbuffer : r.buffer = skipped ++ rest)
    (hbad : ∀ k < skipped.length, ∃ e, Packet.read? (r.buffer.drop k) = .error e) :
    Account (used ++ skipped) found ⟨rest, r.dropped + skipped.length⟩ where
  size_eq := by
    rw [← Nat.add_assoc, h.size_eq, List.length_append]
  located x hx := by
    obtain ⟨before, after, hused, hbefore⟩ := h.located x hx
    refine ⟨before, after ++ skipped, ?_, hbefore⟩
    rw [hused]
    simp only [List.append_assoc]
  apart := h.apart
  judged position hposition := by
    rw [List.append_assoc, ← hbuffer]
    by_cases hused : position < used.length
    · exact h.judged position hused
    · rw [List.length_append] at hposition
      obtain ⟨e, he⟩ := hbad (position - used.length) (by omega)
      refine .inl ⟨e, ?_⟩
      rw [List.drop_append, List.drop_of_length_le (by omega), List.nil_append]
      exact he

/-- A frame is read. -/
theorem read {p : Packet} {after : Bytes} {dropped : Nat}
    (h : Account used found ⟨p.frame ++ after, dropped⟩) :
    Account (used ++ p.frame) (found ++ [(used.length, p)]) ⟨after, dropped⟩ where
  size_eq := by
    have hsize := h.size_eq
    simp only [List.map_append, List.sum_append, List.map_cons, List.map_nil, List.sum_singleton,
      List.length_append, Packet.length_frame] at hsize ⊢
    omega
  located x hx := by
    rcases List.mem_append.mp hx with hx | hx
    · obtain ⟨before, behind, hused, hbefore⟩ := h.located x hx
      refine ⟨before, behind ++ p.frame, ?_, hbefore⟩
      rw [hused]
      simp only [List.append_assoc]
    · obtain rfl := List.mem_singleton.mp hx
      exact ⟨used, [], by rw [List.append_nil], rfl⟩
  apart := by
    rw [List.pairwise_append]
    refine ⟨h.apart, List.pairwise_singleton _ _, fun x hx y hy ↦ ?_⟩
    obtain rfl := List.mem_singleton.mp hy
    exact h.end_le hx
  judged position hposition := by
    rw [List.append_assoc]
    by_cases hused : position < used.length
    · rcases h.judged position hused with hbad | ⟨x, hx, hinside⟩
      · exact .inl hbad
      · exact .inr ⟨x, List.mem_append_left _ hx, hinside⟩
    · rw [List.length_append, Packet.length_frame] at hposition
      exact .inr ⟨(used.length, p), by simp, by omega, hposition⟩

/-- Draining moves the account forward, and the stream stays what it is. -/
theorem drain (h : Account used found r) :
    ∃ used', used' ++ r.drain.2.buffer = used ++ r.buffer ∧
      Account used' (found ++ r.locate (used ++ r.buffer).length) r.drain.2 := by
  fun_induction FrameReader.drain r generalizing used found with
  | case1 r r' hnext =>
    obtain ⟨skipped, rest, hbuffer, hbad, ⟨-, hnext'⟩ | ⟨p, after, -, hnext'⟩⟩ := r.next_eq
    · obtain rfl := (Prod.mk.inj (hnext.symm.trans hnext')).2
      refine ⟨used ++ skipped, ?_, ?_⟩
      · rw [hbuffer, List.append_assoc]
      · rw [locate_of_next_eq_none _ hnext, List.append_nil]
        exact h.skip hbuffer hbad
    · exact absurd (Prod.mk.inj (hnext.symm.trans hnext')).1 (by simp)
  | case2 r p r' hnext hlt ih =>
    obtain ⟨skipped, rest, hbuffer, hbad, ⟨-, hnext'⟩ | ⟨q, after, rfl, hnext'⟩⟩ := r.next_eq
    · exact absurd (Prod.mk.inj (hnext.symm.trans hnext')).1 (by simp)
    · obtain ⟨hp, rfl⟩ := Prod.mk.inj (hnext.symm.trans hnext')
      obtain rfl := Option.some.inj hp
      have hstream : used ++ skipped ++ p.frame ++ after = used ++ r.buffer := by
        rw [hbuffer]
        simp only [List.append_assoc]
      obtain ⟨used', hused', haccount⟩ := ih (h.skip hbuffer hbad).read
      rw [hstream] at hused' haccount
      refine ⟨used', hused', ?_⟩
      -- The frame was read at the position at which the account has it.
      have hposition :
          (used ++ r.buffer).length - after.length - p.frameSize = (used ++ skipped).length := by
        rw [← hstream]
        simp only [List.length_append, Packet.length_frame]
        omega
      rw [locate_of_next_eq_some _ hnext, hposition]
      rwa [List.append_assoc] at haccount

theorem readAll (h : Account used found r) (cuts : List Bytes) :
    ∃ used', used' ++ (r.readAll cuts).2.buffer = used ++ r.buffer ++ cuts.flatten ∧
      Account used' (found ++ r.locateAll (used ++ r.buffer).length cuts) (r.readAll cuts).2 := by
  induction cuts generalizing used found r with
  | nil =>
    refine ⟨used, ?_, ?_⟩
    · rw [List.flatten_nil, List.append_nil, FrameReader.readAll]
    · rw [locateAll, List.append_nil, FrameReader.readAll]
      exact h
  | cons bytes rest ih =>
    obtain ⟨used₁, hused₁, h₁⟩ := (h.feed bytes).drain
    obtain ⟨used₂, hused₂, h₂⟩ := ih h₁
    have hstream : used ++ (r.feed bytes).buffer = used ++ r.buffer ++ bytes :=
      (List.append_assoc _ _ _).symm
    rw [hused₁, hstream] at hused₂ h₂
    refine ⟨used₂, ?_, ?_⟩
    · rw [FrameReader.readAll, hused₂, List.flatten_cons, List.append_assoc]
    · rw [FrameReader.readAll, locateAll, ← List.append_assoc, ← List.length_append]
      exact h₂

end Account

/-! ## No permanent loss -/

/-- **No frame is lost for long.** However the stream is cut and whatever stands in it, what is left
is shorter than the longest frame, and every other byte belongs to a frame that was read or was
dropped. A frame that stands in the stream with at least as many bytes from its beginning on as the
longest frame has, is read, unless it begins inside of another one that is. -/
theorem readAll_recovers (cuts : List Bytes) :
    (empty.locateAll 0 cuts).map Prod.snd = (empty.readAll cuts).1 ∧
    (∀ x ∈ empty.locateAll 0 cuts, x.2.frame <+: cuts.flatten.drop x.1) ∧
    ((empty.locateAll 0 cuts).Pairwise fun x y ↦ x.1 + x.2.frameSize ≤ y.1) ∧
    (empty.readAll cuts).2.buffer.length < Packet.maxFrame ∧
    ((empty.readAll cuts).1.map Packet.frameSize).sum + (empty.readAll cuts).2.dropped
      + (empty.readAll cuts).2.buffer.length = cuts.flatten.length ∧
    ∀ (position : Nat) (p : Packet), p.frame <+: cuts.flatten.drop position →
      position + Packet.maxFrame ≤ cuts.flatten.length →
      (position, p) ∈ empty.locateAll 0 cuts ∨
        ∃ x ∈ empty.locateAll 0 cuts, x.1 < position ∧ position < x.1 + x.2.frameSize := by
  obtain ⟨used, hstream, h⟩ := account_empty.readAll cuts
  rw [List.nil_append] at hstream h
  change used ++ _ = cuts.flatten at hstream
  change Account used (empty.locateAll 0 cuts) _ at h
  have hsettled := settled_readAll settled_empty cuts
  have hleft := Packet.length_lt_of_read?_eq_none hsettled.read?_eq_none
  have hlength : used.length + (empty.readAll cuts).2.buffer.length = cuts.flatten.length := by
    rw [← hstream, List.length_append]
  refine ⟨map_snd_locateAll 0 empty cuts, fun x hx ↦ ?_, h.apart, hleft, ?_,
    fun position p hp hlong ↦ ?_⟩
  · rw [← hstream]
    exact h.frame_at hx
  · rw [← map_snd_locateAll 0 empty cuts, List.map_map, ← hlength, ← h.size_eq]
    rfl
  · rw [← hstream] at hp
    exact h.mem_or_inside hp (by omega)

/-- A sign of life after a byte of noise is read as soon as as many bytes have come as the longest
frame has. -/
theorem mem_locateAll_heartbeat :
    ∃ p : Packet, p.kind = .heartbeat ∧
      (1, p) ∈ empty.locateAll 0 [[0x00], p.frame, List.replicate Packet.maxFrame 0] := by
  refine ⟨⟨.heartbeat, ⟨0⟩, Bytes.ofText "HB", by decide⟩, rfl, ?_⟩
  generalize (⟨.heartbeat, ⟨0⟩, Bytes.ofText "HB", by decide⟩ : Packet) = p
  have hbehind : (List.replicate Packet.maxFrame (0 : UInt8)).length = Packet.maxFrame :=
    List.length_replicate
  generalize List.replicate Packet.maxFrame (0 : UInt8) = behind at hbehind ⊢
  obtain ⟨-, hframes, -, -, -, hrecovers⟩ := readAll_recovers [[0x00], p.frame, behind]
  have hstream : [[0x00], p.frame, behind].flatten = 0x00 :: (p.frame ++ behind) := by simp
  rw [hstream] at hframes hrecovers
  have hlong : 1 + Packet.maxFrame ≤ (0x00 :: (p.frame ++ behind)).length := by
    rw [List.length_cons, List.length_append, hbehind]
    omega
  have hfound := hrecovers 1 p (List.prefix_append p.frame behind) hlong
  rcases hfound with hfound | ⟨x, hx, hbefore, -⟩
  · exact hfound
  · -- No frame begins with the noise.
    have hzero : x.1 = 0 := by omega
    obtain ⟨body, hbody⟩ := x.2.exists_frame_eq
    have hnoise := hframes x hx
    rw [hzero, hbody] at hnoise
    simp [Packet.syncMark] at hnoise

end FrameReader

end InstrumentRelay
