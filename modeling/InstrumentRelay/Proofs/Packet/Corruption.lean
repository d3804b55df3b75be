import Mathlib.Data.List.Basic
import InstrumentRelay.Proofs.Packet.Frame

/-!
# A frame with one wrong byte is not read

A sum of sixteen bits is a weak checksum. A single wrong byte is found out all the same, wherever it
stands but in the high byte of the size: the frame is then bad, or incomplete, and no packet is made
of it.

Most bytes change the sum by less than it can hold, or are in the mark or the checksum itself. The low
byte of the size is different: with it the end of the frame moves, and up to 255 bytes that may be
anything come in or drop out. Still the sum moves in one direction only, with each of these bytes and
with the size byte itself, and by at most 256 for each: `255 * 256` is less than `65536`, so it cannot
come round (`Balanced.sizeLow_eq`).

The high byte of the size moves the end by at least 256 bytes, and those can bring the sum round.
-/

namespace InstrumentRelay

namespace Bytes

/-! ## Sums without a limit -/

/-- The sum of the bytes as a number. -/
def total : Bytes → Nat
  | [] => 0
  | b :: rest => b.toNat + total rest

@[simp] theorem total_nil : total [] = 0 := rfl

@[simp] theorem total_cons (b : UInt8) (rest : Bytes) : total (b :: rest) = b.toNat + total rest :=
  rfl

@[simp] theorem total_append (first second : Bytes) :
    total (first ++ second) = total first + total second := by
  induction first with
  | nil => rw [List.nil_append, total_nil, Nat.zero_add]
  | cons b rest ih => rw [List.cons_append, total_cons, total_cons, ih, Nat.add_assoc]

theorem total_le (bytes : Bytes) : total bytes ≤ 255 * bytes.length := by
  induction bytes with
  | nil => exact Nat.le_refl _
  | cons b rest ih =>
    have hb := b.toNat_lt
    rw [total_cons, List.length_cons]
    omega

/-- The sixteen bit sum is the sum, cut off at the top. -/
theorem toNat_sum (bytes : Bytes) : (sum bytes).toNat = total bytes % 65536 := by
  suffices ∀ start : UInt16, (bytes.foldl (fun s b ↦ s + b.toUInt16) start).toNat
      = (start.toNat + total bytes) % 65536 by
    have hzero := this 0
    rwa [UInt16.toNat_zero, Nat.zero_add] at hzero
  intro start
  induction bytes generalizing start with
  | nil => simp [Nat.mod_eq_of_lt start.toNat_lt]
  | cons b rest ih =>
    rw [List.foldl_cons, ih, total_cons, UInt16.toNat_add, UInt8.toNat_toUInt16]
    omega

/-- A byte that is replaced takes its share away. -/
theorem total_set {bytes : Bytes} {i : Nat} {b : UInt8} (h : bytes[i]? = some b) (c : UInt8) :
    total (bytes.set i c) + b.toNat = total bytes + c.toNat := by
  induction bytes generalizing i with
  | nil => simp at h
  | cons d rest ih =>
    rcases i with _ | i
    · rw [List.getElem?_cons_zero, Option.some.injEq] at h
      rw [List.set_cons_zero, total_cons, total_cons, h]
      omega
    · rw [List.getElem?_cons_succ] at h
      rw [List.set_cons_succ, total_cons, total_cons]
      have hrest := ih h
      omega

/-- A longer beginning has more, at most 255 for each byte more. -/
theorem total_take_add (bytes : Bytes) (n more : Nat) :
    total (bytes.take n) ≤ total (bytes.take (n + more)) ∧
      total (bytes.take (n + more)) ≤ total (bytes.take n) + 255 * more := by
  rw [List.take_add, total_append]
  have hmore := total_le ((bytes.drop n).take more)
  have hlength := List.length_take_le more (bytes.drop n)
  omega

theorem value_pair (high low : UInt8) : value [high, low] = high.toNat * 256 + low.toNat := by
  simp [value]

end Bytes

namespace Packet

/-! ## What makes a frame -/

/-- The header and the sum of the frame fit together: what holds, in numbers, of a buffer that is
read as a packet. -/
structure Balanced (m₀ m₁ m₂ code s₁ s₀ c₁ c₀ : UInt8) (body : Bytes) : Prop where
  mark : [m₀, m₁, m₂] = syncMark
  headerSize_le : headerSize ≤ Bytes.value [s₁, s₀]
  sum_eq : Bytes.value [c₁, c₀] = (m₀.toNat + m₁.toNat + m₂.toNat + code.toNat + s₁.toNat + s₀.toNat
    + Bytes.total (body.take (Bytes.value [s₁, s₀] - 8))) % 65536

variable {m₀ m₁ m₂ code s₁ s₀ c₁ c₀ b : UInt8} {body : Bytes}

theorem balanced_of_read? {p : Packet} {rest : Bytes}
    (h : read? (m₀ :: m₁ :: m₂ :: code :: s₁ :: s₀ :: c₁ :: c₀ :: body) = .ok (some (p, rest))) :
    Balanced m₀ m₁ m₂ code s₁ s₀ c₁ c₀ body := by
  obtain ⟨size, sum, stamp, hsizeLen, hsumLen, hstampLen, hsize, -, hsum, hbuffer⟩ :=
    exists_fields_of_read? h
  obtain ⟨s₁', s₀', rfl⟩ := List.length_eq_two.1 hsizeLen
  obtain ⟨c₁', c₀', rfl⟩ := List.length_eq_two.1 hsumLen
  simp only [syncMark, List.cons_append, List.nil_append, List.append_assoc,
    List.cons.injEq] at hbuffer
  obtain ⟨rfl, rfl, rfl, rfl, rfl, rfl, rfl, rfl, rfl⟩ := hbuffer
  have hcovered : (stamp ++ (p.payload ++ rest)).take (Bytes.value [s₁, s₀] - 8)
      = stamp ++ p.payload := by
    rw [← List.append_assoc]
    refine List.take_left' ?_
    rw [List.length_append, hstampLen, hsize, frameSize, headerSize]
    omega
  refine ⟨rfl, ?_, ?_⟩
  · rw [hsize]
    exact Nat.le_add_right _ _
  · rw [hcovered, ← toNat_toUInt16_value hsumLen, hsum, Bytes.toNat_sum]
    simp only [syncMark, Bytes.total_append, Bytes.total_cons, Bytes.total_nil]
    congr 1
    omega

/-- A frame, its first eight bytes one by one. -/
theorem exists_frame_eq_cons (p : Packet) :
    ∃ m₀ m₁ m₂ code s₁ s₀ c₁ c₀ tail,
      p.frame = m₀ :: m₁ :: m₂ :: code :: s₁ :: s₀ :: c₁ :: c₀ :: tail ∧
        Bytes.value [s₁, s₀] = tail.length + 8 := by
  obtain ⟨s₁, s₀, hsize⟩ : ∃ s₁ s₀, Bytes.field 2 p.frameSize = [s₁, s₀] := ⟨_, _, rfl⟩
  obtain ⟨c₁, c₀, hsum⟩ : ∃ c₁ c₀, Bytes.field 2 p.checksum.toNat = [c₁, c₀] := ⟨_, _, rfl⟩
  have hframe : p.frame = 0xA3 :: 0x9D :: 0x7A :: p.kind.code :: s₁ :: s₀ :: c₁ :: c₀ ::
      (Bytes.field 8 p.stamp.bits.toNat ++ p.payload) := by
    rw [frame, header, hsize, hsum, syncMark]
    simp
  have hlength := p.length_frame
  rw [hframe] at hlength
  refine ⟨_, _, _, _, _, _, _, _, _, hframe, ?_⟩
  rw [← hsize, p.value_size, ← hlength]
  rfl

/-! ## No byte alone can be another one -/

namespace Balanced

variable (h : Balanced m₀ m₁ m₂ code s₁ s₀ c₁ c₀ body)

include h

theorem code_eq (h' : Balanced m₀ m₁ m₂ b s₁ s₀ c₁ c₀ body) : b = code := by
  have hsum := h.sum_eq.symm.trans h'.sum_eq
  have := code.toNat_lt
  have := b.toNat_lt
  exact UInt8.toNat.inj (by omega)

/-- The end of the frame moves with its size, and the sum moves on with every byte. -/
theorem sizeLow_eq (h' : Balanced m₀ m₁ m₂ code s₁ b c₁ c₀ body) : b = s₀ := by
  have hsum := h.sum_eq.symm.trans h'.sum_eq
  have hle := h.headerSize_le
  have hle' := h'.headerSize_le
  have := s₀.toNat_lt
  have := b.toNat_lt
  simp only [Bytes.value_pair, headerSize] at hsum hle hle'
  rcases Nat.lt_trichotomy b.toNat s₀.toNat with hlt | heq | hgt
  · have hmore := Bytes.total_take_add body (s₁.toNat * 256 + b.toNat - 8) (s₀.toNat - b.toNat)
    have hend : s₁.toNat * 256 + b.toNat - 8 + (s₀.toNat - b.toNat)
        = s₁.toNat * 256 + s₀.toNat - 8 := by omega
    rw [hend] at hmore
    omega
  · exact UInt8.toNat.inj heq
  · have hmore := Bytes.total_take_add body (s₁.toNat * 256 + s₀.toNat - 8) (b.toNat - s₀.toNat)
    have hend : s₁.toNat * 256 + s₀.toNat - 8 + (b.toNat - s₀.toNat)
        = s₁.toNat * 256 + b.toNat - 8 := by omega
    rw [hend] at hmore
    omega

theorem sum_unique {c₁' c₀' : UInt8} (h' : Balanced m₀ m₁ m₂ code s₁ s₀ c₁' c₀' body) :
    c₁' = c₁ ∧ c₀' = c₀ := by
  have hsum := h.sum_eq.trans h'.sum_eq.symm
  rw [Bytes.value_pair, Bytes.value_pair] at hsum
  have := c₀.toNat_lt
  have := c₀'.toNat_lt
  exact ⟨UInt8.toNat.inj (by omega), UInt8.toNat.inj (by omega)⟩

theorem getElem?_eq {i : Nat} (hi : i < Bytes.value [s₁, s₀] - 8) {old : UInt8}
    (hold : body[i]? = some old)
    (h' : Balanced m₀ m₁ m₂ code s₁ s₀ c₁ c₀ (body.set i b)) : b = old := by
  have hsum := h.sum_eq.symm.trans h'.sum_eq
  have hat : (body.take (Bytes.value [s₁, s₀] - 8))[i]? = some old := by
    rw [List.getElem?_take_of_lt hi, hold]
  have hset := Bytes.total_set hat b
  rw [← List.take_set] at hset
  have := old.toNat_lt
  have := b.toNat_lt
  exact UInt8.toNat.inj (by omega)

end Balanced

/-! ## Changed frames -/

theorem read?_set_ne (p : Packet) {offset : Nat} {byte : UInt8} (rest : Bytes)
    (hlt : offset < p.frameSize) (hoffset : offset ≠ 4) (hbyte : p.frame[offset]? ≠ some byte)
    (q : Packet) (after : Bytes) :
    read? (p.frame.set offset byte ++ rest) ≠ .ok (some (q, after)) := by
  intro hread
  have hframe := p.read?_frame_append rest
  rw [← p.length_frame] at hlt
  obtain ⟨m₀, m₁, m₂, code, s₁, s₀, c₁, c₀, tail, heq, hsize⟩ := p.exists_frame_eq_cons
  rw [heq] at hread hframe hlt hbyte
  have h := balanced_of_read? hframe
  match offset with
  | 0 | 1 | 2 =>
    -- The mark has to be the mark.
    have hmark := h.mark.trans (balanced_of_read? hread).mark.symm
    simp_all
  | 3 =>
    exact hbyte (by rw [h.code_eq (balanced_of_read? hread)]; rfl)
  | 4 => exact hoffset rfl
  | 5 =>
    exact hbyte (by rw [h.sizeLow_eq (balanced_of_read? hread)]; rfl)
  | 6 =>
    exact hbyte (by rw [(h.sum_unique (balanced_of_read? hread)).1]; rfl)
  | 7 =>
    exact hbyte (by rw [(h.sum_unique (balanced_of_read? hread)).2]; rfl)
  | i + 8 =>
    have hi : i < tail.length := by
      simp only [List.length_cons] at hlt
      omega
    have hold : (tail ++ rest)[i]? = some tail[i] := by
      rw [List.getElem?_append_left hi, List.getElem?_eq_getElem hi]
    have hset : (tail ++ rest).set i byte = tail.set i byte ++ rest :=
      List.set_append_left _ _ hi
    have h' : Balanced m₀ m₁ m₂ code s₁ s₀ c₁ c₀ ((tail ++ rest).set i byte) := by
      rw [hset]
      exact balanced_of_read? hread
    refine hbyte ?_
    rw [h.getElem?_eq (by omega) hold h']
    exact List.getElem?_eq_getElem hi

/-- **A frame with one wrong byte is not read**, whatever stands behind it and wherever the byte
stands but in the high byte of the size: the buffer is bad, or incomplete, and stays as it is. -/
theorem take_of_wrong_byte (p : Packet) {offset : Nat} {byte : UInt8} (rest : Bytes)
    (hlt : offset < p.frameSize) (hoffset : offset ≠ 4) (hbyte : p.frame[offset]? ≠ some byte) :
    (∃ e, take (p.frame.set offset byte ++ rest) = (.error e, p.frame.set offset byte ++ rest)) ∨
      take (p.frame.set offset byte ++ rest) = (.ok none, p.frame.set offset byte ++ rest) := by
  rcases htake : take (p.frame.set offset byte ++ rest) with ⟨e | _ | q, after⟩
  · exact .inl ⟨e, by rw [(take_eq_error_iff.1 htake).2]⟩
  · exact .inr (by rw [(take_eq_ok_none_iff.1 htake).2])
  · exact absurd (take_eq_ok_some_iff.1 htake) (p.read?_set_ne rest hlt hoffset hbyte q after)

/-- A sign of life that announces 255 bytes, as many as there are with what stands behind it. -/
theorem take_of_wrong_size :
    ∃ p : Packet, p.kind = .heartbeat ∧ 5 < p.frameSize ∧ 5 ≠ 4 ∧ p.frame[5]? ≠ some 0xFF ∧
      ((∃ e, take (p.frame.set 5 0xFF ++ List.replicate 237 0xFF)
          = (.error e, p.frame.set 5 0xFF ++ List.replicate 237 0xFF)) ∨
        take (p.frame.set 5 0xFF ++ List.replicate 237 0xFF)
          = (.ok none, p.frame.set 5 0xFF ++ List.replicate 237 0xFF)) := by
  have hlt : 5 < (⟨.heartbeat, ⟨0⟩, [0x48, 0x42], by decide⟩ : Packet).frameSize := by decide
  have hbyte : (⟨.heartbeat, ⟨0⟩, [0x48, 0x42], by decide⟩ : Packet).frame[5]? ≠ some 0xFF := by
    decide
  exact ⟨_, rfl, hlt, by decide, hbyte, take_of_wrong_byte _ _ hlt (by decide) hbyte⟩

/-- As many bytes as come in when the high byte of the size goes up by two. Their sum and those two
make `65536`. -/
def roundTheClock : Bytes := List.replicate 256 0xFF ++ 0xFE :: List.replicate 255 0x00

/-- The high byte of the size is the exception: there a wrong byte may go unnoticed. -/
theorem exists_read?_of_wrong_sizeHigh :
    ∃ (p : Packet) (byte : UInt8) (rest : Bytes), p.frame[4]? ≠ some byte ∧
      ∃ q after, read? (p.frame.set 4 byte ++ rest) = .ok (some (q, after)) := by
  refine ⟨⟨.heartbeat, ⟨0⟩, [], by decide⟩, 2, roundTheClock, by decide,
    ⟨.heartbeat, ⟨0⟩, roundTheClock, by decide +kernel⟩, [], read?_eq_ok_some_iff.2 ?_⟩
  decide +kernel

end Packet

end InstrumentRelay
