/-!
# Byte strings

Everything the relay moves is a byte string. It is kept as a list: a stream cut into reads is then
the concatenation of its pieces on the nose, and the laws about reading and writing need no index
arithmetic.

The fixed-width fields of a frame header are big endian. `Bytes.field` writes a number into so many
bytes and `Bytes.value` reads it back; `value_field` and `field_value` say that the two undo each
other, up to the width. Text enters a byte string as UTF-8 (`Bytes.ofText`). How bytes are read as
text is the subject of `InstrumentRelay.Text.Utf8`.
-/

namespace InstrumentRelay

/-- A string of bytes. -/
abbrev Bytes := List UInt8

namespace Bytes

/-- The UTF-8 form of a text. -/
def ofText (text : String) : Bytes := text.toList.flatMap String.utf8EncodeChar

@[simp] theorem ofText_append (s t : String) : ofText (s ++ t) = ofText s ++ ofText t := by
  simp [ofText]

/-! ## Big-endian fields -/

/-- The number `n` in `width` bytes, high byte first. What does not fit is cut off at the top. -/
def field : Nat → Nat → Bytes
  | 0, _ => []
  | width + 1, n => field width (n / 256) ++ [n.toUInt8]

/-- The number that these bytes write, high byte first. -/
def value (bytes : Bytes) : Nat := bytes.foldl (fun n b => n * 256 + b.toNat) 0

@[simp] theorem length_field (width n : Nat) : (field width n).length = width := by
  induction width generalizing n with
  | zero => rfl
  | succ width ih => simp [field, ih]

@[simp] theorem value_nil : value [] = 0 := rfl

@[simp] theorem value_concat (bytes : Bytes) (b : UInt8) :
    value (bytes ++ [b]) = value bytes * 256 + b.toNat := by
  simp [value]

theorem value_field (width n : Nat) : value (field width n) = n % Nat.pow 256 width := by
  induction width generalizing n with
  | zero => simp [field, Nat.mod_one]
  | succ width ih =>
    have hb : n.toUInt8.toNat = n % 256 := by simp
    rw [field, value_concat, ih, hb, Nat.pow_eq, Nat.pow_eq, Nat.pow_succ', Nat.mod_mul]
    omega

theorem field_value (bytes : Bytes) : field bytes.length (value bytes) = bytes := by
  suffices ∀ reversed : Bytes,
      field reversed.length (value reversed.reverse) = reversed.reverse by
    simpa using this bytes.reverse
  intro reversed
  induction reversed with
  | nil => rfl
  | cons b rest ih =>
    have hb : b.toNat < 256 := b.toNat_lt
    have hdiv : (value rest.reverse * 256 + b.toNat) / 256 = value rest.reverse := by omega
    have hlow : (value rest.reverse * 256 + b.toNat).toUInt8 = b := by
      apply UInt8.toNat.inj
      simp
    rw [List.length_cons, field, List.reverse_cons, value_concat, hdiv, hlow, ih]

theorem value_lt (bytes : Bytes) : value bytes < Nat.pow 256 bytes.length := by
  have h := value_field bytes.length (value bytes)
  rw [field_value] at h
  rw [h]
  exact Nat.mod_lt _ (Nat.pow_pos (by decide))

theorem value_pair_lt (high low : UInt8) : value [high, low] < 65536 := by
  have := high.toNat_lt
  have := low.toNat_lt
  simp only [value, List.foldl_cons, List.foldl_nil]
  omega

/-! ## Sums -/

/-- The sixteen bit sum of the bytes, wrapping. -/
def sum (bytes : Bytes) : UInt16 := bytes.foldl (fun s b => s + b.toUInt16) 0

/-! ## ASCII classes -/

/-- Space, tab, line feed, form feed and carriage return separate words. A vertical tab does not. -/
def isBlank (b : UInt8) : Bool := b == 0x20 || b == 0x09 || b == 0x0a || b == 0x0c || b == 0x0d

/-- The value of a hexadecimal digit, in either case. -/
def hexValue? (b : UInt8) : Option UInt8 :=
  if 0x30 ≤ b ∧ b ≤ 0x39 then some (b - 0x30)
  else if 0x61 ≤ b ∧ b ≤ 0x66 then some (b - 0x61 + 10)
  else if 0x41 ≤ b ∧ b ≤ 0x46 then some (b - 0x41 + 10)
  else none

end Bytes

end InstrumentRelay
