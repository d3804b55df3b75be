import InstrumentRelay.Packet.Frame

/-!
# Frames are canonical

A buffer is read as a packet exactly if the wire form of that packet stands at its front
(`read?_eq_ok_some_iff`). One direction says that reading undoes writing, over every kind, time and
payload and whatever follows the frame; the other that no second byte string is read as the same
packet. The fields of the header come back one by one, each by the law of its width, and the
checksum is the same sum on both sides because the two bytes it leaves out are left out by both.

What arrives later never changes an answer that has been given (`read?_append_of_some`,
`read?_append_of_error`): only "incomplete" is open to revision.
-/

namespace InstrumentRelay

namespace Packet

/-! ## The sync mark -/

theorem mayBegin_iff {buffer : Bytes} : mayBegin buffer = true ↔ buffer.take 3 <+: syncMark := by
  rw [mayBegin, List.isPrefixOf_iff_prefix]

/-- A buffer that cannot begin a frame cannot begin one with more bytes behind it. -/
theorem mayBegin_of_append {buffer more : Bytes} (h : mayBegin (buffer ++ more) = true) :
    mayBegin buffer = true := by
  rw [mayBegin_iff, List.take_append] at h
  exact mayBegin_iff.2 ((List.prefix_append _ _).trans h)

theorem mayBegin_cons₃ {b₀ b₁ b₂ : UInt8} {rest : Bytes} :
    mayBegin (b₀ :: b₁ :: b₂ :: rest) = true ↔ [b₀, b₁, b₂] = syncMark := by
  rw [mayBegin_iff]
  constructor
  · intro h
    exact h.eq_of_length rfl
  · intro h
    rw [← h]
    exact List.prefix_rfl

/-! ## Fields of the header -/

theorem toNat_toUInt64_value {stamp : Bytes} (h : stamp.length = 8) :
    (Bytes.value stamp).toUInt64.toNat = Bytes.value stamp := by
  have hlt := Bytes.value_lt stamp
  rw [h] at hlt
  exact Nat.mod_eq_of_lt hlt

theorem toNat_toUInt16_value {sum : Bytes} (h : sum.length = 2) :
    (Bytes.value sum).toUInt16.toNat = Bytes.value sum := by
  have hlt := Bytes.value_lt sum
  rw [h] at hlt
  exact Nat.mod_eq_of_lt hlt

theorem field_value_of_length {bytes : Bytes} {width : Nat} (h : bytes.length = width) :
    Bytes.field width (Bytes.value bytes) = bytes := by
  rw [← h, Bytes.field_value]

/-! ## Reading undoes writing -/

theorem value_size (p : Packet) : Bytes.value (Bytes.field 2 p.frameSize) = p.frameSize := by
  have hle := p.frameSize_le
  rw [Bytes.value_field]
  exact Nat.mod_eq_of_lt (Nat.lt_of_le_of_lt hle (by decide))

theorem value_stamp (p : Packet) :
    Bytes.value (Bytes.field 8 p.stamp.bits.toNat) = p.stamp.bits.toNat := by
  rw [Bytes.value_field]
  exact Nat.mod_eq_of_lt p.stamp.bits.toNat_lt

theorem value_checksum (p : Packet) :
    (Bytes.value (Bytes.field 2 p.checksum.toNat)).toUInt16 = p.checksum := by
  rw [Bytes.value_field, Nat.mod_eq_of_lt p.checksum.toNat_lt]
  exact p.checksum.ofNat_toNat

theorem read?_frame_append (p : Packet) (rest : Bytes) :
    read? (p.frame ++ rest) = .ok (some (p, rest)) := by
  obtain ⟨s₁, s₀, hsize⟩ : ∃ s₁ s₀, Bytes.field 2 p.frameSize = [s₁, s₀] := ⟨_, _, rfl⟩
  obtain ⟨c₁, c₀, hsum⟩ : ∃ c₁ c₀, Bytes.field 2 p.checksum.toNat = [c₁, c₀] := ⟨_, _, rfl⟩
  obtain ⟨t₇, t₆, t₅, t₄, t₃, t₂, t₁, t₀, hstamp⟩ : ∃ t₇ t₆ t₅ t₄ t₃ t₂ t₁ t₀,
      Bytes.field 8 p.stamp.bits.toNat = [t₇, t₆, t₅, t₄, t₃, t₂, t₁, t₀] :=
    ⟨_, _, _, _, _, _, _, _, rfl⟩
  have hframe : p.frame ++ rest = 0xA3 :: 0x9D :: 0x7A :: p.kind.code :: s₁ :: s₀ :: c₁ :: c₀ ::
      t₇ :: t₆ :: t₅ :: t₄ :: t₃ :: t₂ :: t₁ :: t₀ :: (p.payload ++ rest) := by
    rw [frame, header, hsize, hsum, hstamp, syncMark]
    simp
  have hcomputed : Bytes.sum (0xA3 :: 0x9D :: 0x7A :: p.kind.code :: s₁ :: s₀ ::
      t₇ :: t₆ :: t₅ :: t₄ :: t₃ :: t₂ :: t₁ :: t₀ :: p.payload) = p.checksum := by
    rw [checksum, header, hsize, hstamp]
    rfl
  have hvalue := p.value_size
  have hbits := p.value_stamp
  have hannounced := p.value_checksum
  rw [hsize, frameSize] at hvalue
  rw [hstamp] at hbits
  rw [hsum] at hannounced
  rw [hframe, read?, if_pos (mayBegin_cons₃.2 rfl)]
  have hle : ¬headerSize + p.payload.length < headerSize := by omega
  simp [hvalue, hbits, hannounced, hcomputed, PacketKind.ofCode?_code, hle]

/-! ## Nothing else is read -/

/-- What a buffer that is read as a packet is made of: the fields of the header have the widths and
the values that they have in the wire form. -/
theorem exists_fields_of_read? {buffer rest : Bytes} {p : Packet}
    (h : read? buffer = .ok (some (p, rest))) :
    ∃ size sum stamp : Bytes, size.length = 2 ∧ sum.length = 2 ∧ stamp.length = 8 ∧
      Bytes.value size = p.frameSize ∧ Bytes.value stamp = p.stamp.bits.toNat ∧
      (Bytes.value sum).toUInt16
        = Bytes.sum (syncMark ++ [p.kind.code] ++ size ++ stamp ++ p.payload) ∧
      buffer = syncMark ++ [p.kind.code] ++ size ++ sum ++ stamp ++ p.payload ++ rest := by
  unfold read? at h
  split at h
  case isFalse => simp at h
  case isTrue hsync =>
    split at h
    case h_2 => simp at h
    case h_1 b₀ b₁ b₂ code s₁ s₀ c₁ c₀ t₇ t₆ t₅ t₄ t₃ t₂ t₁ t₀ body =>
      dsimp only at h
      split at h
      · simp at h
      split at h
      · simp at h
      split at h
      · simp at h
      rename_i hsmall hshort hsum
      split at h
      · simp at h
      rename_i kind hkind
      simp only [Except.ok.injEq, Option.some.injEq, Prod.mk.injEq] at h
      obtain ⟨rfl, rfl⟩ := h
      have hmark : syncMark = [b₀, b₁, b₂] := (mayBegin_cons₃.1 hsync).symm
      have hcode : kind.code = code := (PacketKind.ofCode?_eq_some_iff.1 hkind).symm
      refine ⟨[s₁, s₀], [c₁, c₀], [t₇, t₆, t₅, t₄, t₃, t₂, t₁, t₀], rfl, rfl, rfl, ?_, ?_, ?_, ?_⟩
      · have hle := List.length_take_le (Bytes.value [s₁, s₀] - headerSize) body
        simp only [frameSize]
        omega
      · exact (toNat_toUInt64_value rfl).symm
      · rw [hmark, hcode]
        exact Decidable.not_not.1 hsum
      · simp [hmark, hcode]

/-- What is read as a packet is its wire form. -/
theorem eq_frame_append_of_read? {buffer rest : Bytes} {p : Packet}
    (h : read? buffer = .ok (some (p, rest))) : buffer = p.frame ++ rest := by
  obtain ⟨size, sum, stamp, hsizeLen, hsumLen, hstampLen, hsize, hstamp, hsum, rfl⟩ :=
    exists_fields_of_read? h
  have hsizeField : Bytes.field 2 p.frameSize = size := by
    rw [← hsize, field_value_of_length hsizeLen]
  have hstampField : Bytes.field 8 p.stamp.bits.toNat = stamp := by
    rw [← hstamp, field_value_of_length hstampLen]
  have hchecksum : p.checksum = (Bytes.value sum).toUInt16 := by
    rw [checksum, header, hsizeField, hstampField, List.append_nil, hsum]
  have hsumField : Bytes.field 2 p.checksum.toNat = sum := by
    rw [hchecksum, toNat_toUInt16_value hsumLen, field_value_of_length hsumLen]
  rw [frame, header, hsizeField, hsumField, hstampField]

theorem read?_eq_ok_some_iff {buffer rest : Bytes} {p : Packet} :
    read? buffer = .ok (some (p, rest)) ↔ buffer = p.frame ++ rest := by
  constructor
  · exact eq_frame_append_of_read?
  · rintro rfl
    exact p.read?_frame_append rest

/-! ## More bytes -/

theorem read?_eq_noSync {buffer : Bytes} (h : ¬mayBegin buffer = true) :
    read? buffer = .error .noSync := by
  unfold read?
  rw [if_neg h]

/-- What is wrong with a buffer stays wrong, whatever arrives behind it. -/
theorem read?_append_of_error {buffer : Bytes} {e : FrameError} (more : Bytes)
    (h : read? buffer = .error e) : read? (buffer ++ more) = .error e := by
  unfold read? at h
  split at h
  case isFalse hsync =>
    rw [read?_eq_noSync fun hm ↦ hsync (mayBegin_of_append hm)]
    exact h
  case isTrue hsync =>
    split at h
    case h_2 => simp at h
    case h_1 b₀ b₁ b₂ code s₁ s₀ c₁ c₀ t₇ t₆ t₅ t₄ t₃ t₂ t₁ t₀ body =>
      have hmark := mayBegin_cons₃.1 hsync
      dsimp only at h
      simp only [List.cons_append]
      rw [read?, if_pos (mayBegin_cons₃.2 hmark)]
      dsimp only
      split at h
      case isTrue hsmall =>
        rw [if_pos hsmall]
        exact h
      case isFalse hsmall =>
        split at h
        case isTrue => simp at h
        case isFalse hlong =>
          -- The payload has arrived, so it is the same with more bytes behind it.
          have hpayload : (body ++ more).take (Bytes.value [s₁, s₀] - headerSize)
              = body.take (Bytes.value [s₁, s₀] - headerSize) := by
            refine List.take_append_of_le_length ?_
            rw [List.length_take] at hlong
            omega
          simp only [hpayload, if_neg hsmall, if_neg hlong]
          split at h
          case isTrue hsum =>
            rw [if_pos hsum]
            exact h
          case isFalse hsum =>
            rw [if_neg hsum]
            split at h <;> simp_all

/-- A packet that has arrived is read in the same way with more bytes behind it. -/
theorem read?_append_of_some {buffer rest : Bytes} {p : Packet} (more : Bytes)
    (h : read? buffer = .ok (some (p, rest))) :
    read? (buffer ++ more) = .ok (some (p, rest ++ more)) := by
  rw [read?_eq_ok_some_iff] at h ⊢
  rw [h, List.append_assoc]

/-! ## Frames are canonical -/

/-- **Reading takes off exactly what writing produces**, and leaves the buffer alone unless it takes
off a packet. -/
theorem take_canonical (buffer : Bytes) :
    (∀ (p : Packet) (rest : Bytes),
        take buffer = (.ok (some p), rest) ↔ buffer = p.frame ++ rest) ∧
      ((∃ p, (take buffer).1 = .ok (some p)) ∨ (take buffer).2 = buffer) := by
  refine ⟨fun p rest ↦ take_eq_ok_some_iff.trans read?_eq_ok_some_iff, ?_⟩
  rcases htake : take buffer with ⟨e | _ | p, rest⟩
  · exact .inr (take_eq_error_iff.1 htake).2
  · exact .inr (take_eq_ok_none_iff.1 htake).2
  · exact .inl ⟨p, rfl⟩

end Packet

end InstrumentRelay
