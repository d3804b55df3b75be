import InstrumentRelay.Packet.Basic

/-!
# Frames

The wire form of a packet: a sync mark of three bytes, the code of the kind, the size of the frame,
a checksum, the time, and the payload. Numbers are big endian. The checksum is the wrapping sum of
all bytes of the frame but its own two.

Reading takes a frame off the front of a buffer. It answers as early as it can: a buffer that does
not agree with the sync mark is bad on its first byte, and nothing is said about a frame that has
not arrived in full. When a buffer is bad, `resync` drops bytes up to the next position at which a
sync mark may begin.
-/

namespace InstrumentRelay

/-- What is wrong with the front of a buffer. -/
inductive FrameError where
  /-- It does not begin with the sync mark. -/
  | noSync
  /-- The announced size does not even cover the header. -/
  | tooSmall (size : Nat)
  /-- The checksum is not the sum of the frame. -/
  | checksum (announced computed : UInt16)
  /-- No kind has this code. -/
  | unknownKind (code : UInt8)
  /-- The payload does not fit in one frame. -/
  | tooLarge (length : Nat)
  deriving DecidableEq, Repr

/-- A word as `0x` and four hexadecimal digits. -/
def hexWord (w : UInt16) : String :=
  let digits := Nat.toDigits 16 w.toNat
  "0x" ++ String.ofList (List.replicate (4 - digits.length) '0' ++ digits)

/-- The error in words. -/
def FrameError.message : FrameError → String
  | noSync => "Frame does not start with the sync sequence"
  | tooSmall size => "Frame size " ++ toString size ++ " is smaller than the header"
  | checksum announced computed =>
    "Checksum mismatch, header says " ++ hexWord announced ++ " but frame sums to "
      ++ hexWord computed
  | unknownKind code => "Unknown packet type code " ++ toString code.toNat
  | tooLarge length =>
    "Payload of " ++ toString length ++ " bytes does not fit in a single frame"

namespace Packet

/-! ## Writing -/

/-- The mark at the start of every frame. -/
def syncMark : Bytes := [0xA3, 0x9D, 0x7A]

/-- The header of a frame, with a checksum to be filled in. -/
def header (p : Packet) (checksum : Bytes) : Bytes :=
  syncMark ++ [p.kind.code] ++ Bytes.field 2 p.frameSize ++ checksum
    ++ Bytes.field 8 p.stamp.bits.toNat

/-- The sum of the frame without its checksum. -/
def checksum (p : Packet) : UInt16 := Bytes.sum (p.header [] ++ p.payload)

/-- The wire form. -/
def frame (p : Packet) : Bytes :=
  p.header (Bytes.field 2 p.checksum.toNat) ++ p.payload

@[simp] theorem length_frame (p : Packet) : p.frame.length = p.frameSize := by
  simp [frame, header, syncMark, frameSize, headerSize]
  omega

/-! ## Reading -/

/-- As far as both have bytes, the buffer agrees with the sync mark. -/
def mayBegin (buffer : Bytes) : Bool := (buffer.take 3).isPrefixOf syncMark

@[simp] theorem mayBegin_nil : mayBegin [] = true := rfl

/-- The frame at the front of the buffer and what follows it, or nothing if it is incomplete. -/
def read? (buffer : Bytes) : Except FrameError (Option (Packet × Bytes)) :=
  if mayBegin buffer then
    match buffer with
    | b₀ :: b₁ :: b₂ :: code :: size₁ :: size₀ :: sum₁ :: sum₀ ::
        t₇ :: t₆ :: t₅ :: t₄ :: t₃ :: t₂ :: t₁ :: t₀ :: body =>
      let size := Bytes.value [size₁, size₀]
      if size < headerSize then .error (.tooSmall size)
      else
        let payload := body.take (size - headerSize)
        if payload.length < size - headerSize then .ok none
        else
          let stamp := [t₇, t₆, t₅, t₄, t₃, t₂, t₁, t₀]
          let announced := (Bytes.value [sum₁, sum₀]).toUInt16
          let computed := Bytes.sum ([b₀, b₁, b₂, code, size₁, size₀] ++ stamp ++ payload)
          if announced ≠ computed then .error (.checksum announced computed)
          else
            match PacketKind.ofCode? code with
            | none => .error (.unknownKind code)
            | some kind =>
              .ok (some (⟨kind, ⟨(Bytes.value stamp).toUInt64⟩, payload, by
                have hsize := Bytes.value_pair_lt size₁ size₀
                have hlen := List.length_take_le (size - headerSize) body
                simp only [payload, size, headerSize, maxPayload, maxFrame] at *
                omega⟩, body.drop (size - headerSize)))
    | _ => .ok none
  else .error .noSync

/-- Takes a frame off the front of the buffer. Gives what was read and the buffer afterwards: an
incomplete frame stays there, and so does whatever is wrong. -/
def take (buffer : Bytes) : Except FrameError (Option Packet) × Bytes :=
  match read? buffer with
  | .ok (some (p, rest)) => (.ok (some p), rest)
  | .ok none => (.ok none, buffer)
  | .error e => (.error e, buffer)

/-! ## Finding the next sync mark -/

/-- The buffer from the first position on at which a frame may begin, and how many bytes come before
it, counted from `skipped`. -/
def skipToSync (skipped : Nat) : Bytes → Nat × Bytes
  | [] => (skipped, [])
  | b :: rest =>
    if mayBegin (b :: rest) then (skipped, b :: rest) else skipToSync (skipped + 1) rest

/-- Drops at least the first byte, then everything up to where a frame may begin. Gives the number
of bytes dropped and the rest. -/
def resync : Bytes → Nat × Bytes
  | [] => (0, [])
  | _ :: rest => skipToSync 1 rest

theorem skipToSync_length (skipped : Nat) (buffer : Bytes) :
    (skipToSync skipped buffer).1 + (skipToSync skipped buffer).2.length
      = skipped + buffer.length := by
  induction buffer generalizing skipped with
  | nil => rfl
  | cons b rest ih =>
    unfold skipToSync
    split
    · rfl
    · rw [ih, List.length_cons]
      omega

theorem length_skipToSync_le (skipped : Nat) (buffer : Bytes) :
    (skipToSync skipped buffer).2.length ≤ buffer.length := by
  induction buffer generalizing skipped with
  | nil => exact Nat.le_refl _
  | cons b rest ih =>
    unfold skipToSync
    split
    · exact Nat.le_refl _
    · exact Nat.le_succ_of_le (ih _)

theorem length_resync_lt {buffer : Bytes} (h : buffer ≠ []) :
    (resync buffer).2.length < buffer.length := by
  cases buffer with
  | nil => exact absurd rfl h
  | cons b rest => exact Nat.lt_succ_of_le (length_skipToSync_le 1 rest)

@[simp] theorem read?_nil : read? [] = .ok none := rfl

/-- A frame that is read is taken off the buffer. -/
theorem length_of_read? {buffer rest : Bytes} {p : Packet}
    (h : read? buffer = .ok (some (p, rest))) : rest.length < buffer.length := by
  unfold read? at h
  split at h
  · split at h
    · dsimp only at h
      split at h
      · simp at h
      split at h
      · simp at h
      split at h
      · simp at h
      split at h
      · simp at h
      · simp only [Except.ok.injEq, Option.some.injEq, Prod.mk.injEq] at h
        rw [← h.2]
        simp only [List.length_drop, List.length_cons]
        omega
    · simp at h
  · simp at h

theorem ne_nil_of_read?_eq_error {buffer : Bytes} {e : FrameError} (h : read? buffer = .error e) :
    buffer ≠ [] := by
  rintro rfl
  simp at h

theorem take_eq_ok_some_iff {buffer rest : Bytes} {p : Packet} :
    take buffer = (.ok (some p), rest) ↔ read? buffer = .ok (some (p, rest)) := by
  unfold take
  rcases read? buffer with e | _ | ⟨q, after⟩ <;> simp

theorem take_eq_ok_none_iff {buffer rest : Bytes} :
    take buffer = (.ok none, rest) ↔ read? buffer = .ok none ∧ rest = buffer := by
  unfold take
  rcases read? buffer with e | _ | ⟨q, after⟩ <;> simp [eq_comm]

theorem take_eq_error_iff {buffer rest : Bytes} {e : FrameError} :
    take buffer = (.error e, rest) ↔ read? buffer = .error e ∧ rest = buffer := by
  unfold take
  rcases read? buffer with e | _ | ⟨q, after⟩ <;> simp [eq_comm]

/-- A buffer that is bad gets shorter by looking for the next sync mark. -/
theorem length_resync_of_take {buffer rest : Bytes} {e : FrameError}
    (h : take buffer = (.error e, rest)) : (resync rest).2.length < buffer.length := by
  obtain ⟨hread, rfl⟩ := take_eq_error_iff.1 h
  exact length_resync_lt (ne_nil_of_read?_eq_error hread)

end Packet

end InstrumentRelay
