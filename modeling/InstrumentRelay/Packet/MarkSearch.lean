import InstrumentRelay.Packet.Frame

/-!
# Looking for a mark in two stages

`Packet.resync` tries one position after the other. What a reader looks for is nearly always a whole
mark, so it can look for that in the whole buffer first; only where there is none it has to look at
the end, where a mark may have begun. The end is the last two bytes, and never the first byte of the
buffer: that one is dropped in any case.

Both give the same: `resyncInStages_eq`. Either of them goes to the least position behind the first
byte at which a frame may begin.
-/

namespace InstrumentRelay

namespace Packet

/-- The position of the first whole mark. -/
def findMark? (bytes : Bytes) : Option Nat :=
  (List.range (bytes.length - 2)).find? fun position ↦ (bytes.drop position).take 3 == syncMark

/-- The first position in the last two bytes, behind the first byte, from which on the buffer is the
beginning of a mark. -/
def findPartialMark? (buffer : Bytes) : Option Nat :=
  let start := max (buffer.length - 2) 1
  (List.range' start (buffer.length - start)).find? fun position ↦
    (buffer.drop position).isPrefixOf syncMark

/-- Drops at least the first byte, then everything up to the next whole mark, or else up to a part
of one at the end. Gives the number of bytes dropped and the rest. -/
def resyncInStages : Bytes → Nat × Bytes
  | [] => (0, [])
  | b :: rest =>
    let dropped :=
      match findMark? rest with
      | some position => position + 1
      | none => (findPartialMark? (b :: rest)).getD (rest.length + 1)
    (dropped, (b :: rest).drop dropped)

/-! ## The next position at which a frame may begin -/

/-- A search that is at the front of this buffer goes this far to get to where a frame may begin. The
end of the buffer is such a place. -/
structure IsNextStart (rest : Bytes) (n : Nat) : Prop where
  le_length : n ≤ rest.length
  begins : mayBegin (rest.drop n) = true
  first : ∀ k < n, ¬mayBegin (rest.drop k) = true

variable {rest : Bytes}

theorem IsNextStart.unique {m n : Nat} (hm : IsNextStart rest m) (hn : IsNextStart rest n) :
    m = n := by
  rcases Nat.lt_trichotomy m n with hlt | heq | hgt
  · exact absurd hm.begins (hn.first m hlt)
  · exact heq
  · exact absurd hn.begins (hm.first n hgt)

theorem isNextStart_zero (h : mayBegin rest = true) : IsNextStart rest 0 :=
  ⟨Nat.zero_le _, h, fun _ hk ↦ absurd hk (Nat.not_lt_zero _)⟩

theorem IsNextStart.cons {b : UInt8} {n : Nat} (h : IsNextStart rest n)
    (hb : ¬mayBegin (b :: rest) = true) : IsNextStart (b :: rest) (n + 1) where
  le_length := Nat.succ_le_succ h.le_length
  begins := h.begins
  first k hk := by
    rcases k with _ | k
    · exact hb
    · exact h.first k (Nat.lt_of_succ_lt_succ hk)

theorem skipToSync_eq (skipped : Nat) (rest : Bytes) :
    ∃ n, IsNextStart rest n ∧ skipToSync skipped rest = (skipped + n, rest.drop n) := by
  induction rest generalizing skipped with
  | nil => exact ⟨0, isNextStart_zero rfl, rfl⟩
  | cons b rest ih =>
    rw [skipToSync]
    split
    case isTrue hb => exact ⟨0, isNextStart_zero hb, rfl⟩
    case isFalse hb =>
      obtain ⟨n, hn, heq⟩ := ih (skipped + 1)
      refine ⟨n + 1, hn.cons hb, ?_⟩
      rw [heq, Nat.add_assoc, Nat.add_comm 1, List.drop_succ_cons]

/-! ## Both stages together find it -/

/-- Where three bytes are left, a frame may begin only with a whole mark. -/
theorem mayBegin_drop_iff {k : Nat} (h : k + 3 ≤ rest.length) :
    mayBegin (rest.drop k) = true ↔ (rest.drop k).take 3 = syncMark := by
  rw [mayBegin, List.isPrefixOf_iff_prefix]
  constructor
  · intro hmark
    refine hmark.eq_of_length ?_
    rw [List.length_take, List.length_drop]
    exact Nat.min_eq_left (by omega)
  · intro hmark
    exact hmark ▸ List.prefix_rfl

/-- Where fewer are left, all of them have to agree. -/
theorem mayBegin_drop_eq {k : Nat} (h : rest.length < k + 3) :
    mayBegin (rest.drop k) = (rest.drop k).isPrefixOf syncMark := by
  rw [mayBegin, List.take_of_length_le]
  rw [List.length_drop]
  omega

theorem isNextStart_of_findMark? {n : Nat} (h : findMark? rest = some n) : IsNextStart rest n := by
  obtain ⟨hmark, hn, hfirst⟩ := List.find?_range_eq_some.1 h
  rw [List.mem_range] at hn
  rw [beq_iff_eq] at hmark
  refine ⟨by omega, (mayBegin_drop_iff (by omega)).2 hmark, fun k hk hbegin ↦ ?_⟩
  have hne := hfirst k hk
  rw [(mayBegin_drop_iff (by omega)).1 hbegin] at hne
  simp at hne

/-- Where there is no whole mark, a frame may begin in the last two bytes only. -/
theorem not_mayBegin_of_findMark? (h : findMark? rest = none) {k : Nat}
    (hk : k + 3 ≤ rest.length) : ¬mayBegin (rest.drop k) = true := by
  intro hbegin
  have hnone := List.find?_range_eq_none.1 h k (by omega)
  rw [(mayBegin_drop_iff hk).1 hbegin] at hnone
  simp at hnone

/-- Nor there, as far as there is no part of a mark. -/
theorem not_mayBegin_of_no_part {b : UInt8} {n : Nat} (hwhole : findMark? rest = none)
    (hpart : ∀ k, max ((b :: rest).length - 2) 1 ≤ k → k < n + 1 →
      (!((b :: rest).drop k).isPrefixOf syncMark) = true) {k : Nat} (hk : k < n) :
    ¬mayBegin (rest.drop k) = true := by
  by_cases hearly : k + 3 ≤ rest.length
  · exact not_mayBegin_of_findMark? hwhole hearly
  · have hne := hpart (k + 1) (by rw [List.length_cons]; omega) (Nat.succ_lt_succ hk)
    rw [List.drop_succ_cons, ← mayBegin_drop_eq (by omega)] at hne
    simpa using hne

theorem isNextStart_of_findPartialMark? {b : UInt8} {n : Nat} (hwhole : findMark? rest = none)
    (h : findPartialMark? (b :: rest) = some n) : ∃ m, n = m + 1 ∧ IsNextStart rest m := by
  obtain ⟨hmark, hn, hfirst⟩ := List.find?_range'_eq_some.1 h
  rw [List.mem_range'_1, List.length_cons] at hn
  obtain ⟨m, rfl⟩ : ∃ m, n = m + 1 := ⟨n - 1, by omega⟩
  refine ⟨m, rfl, by omega, ?_, fun k ↦ not_mayBegin_of_no_part hwhole hfirst⟩
  rw [mayBegin_drop_eq (by omega)]
  exact hmark

theorem isNextStart_of_findPartialMark?_eq_none {b : UInt8} (hwhole : findMark? rest = none)
    (h : findPartialMark? (b :: rest) = none) : IsNextStart rest rest.length := by
  have hpart := List.find?_range'_eq_none.1 h
  refine ⟨Nat.le_refl _, by rw [List.drop_length, mayBegin_nil], fun k hk ↦ ?_⟩
  refine not_mayBegin_of_no_part hwhole (fun j hj hlt ↦ hpart j hj ?_) hk
  rw [List.length_cons]
  omega

/-- Looking in two stages goes to the next position at which a frame may begin. -/
theorem resyncInStages_cons (b : UInt8) (rest : Bytes) :
    ∃ n, IsNextStart rest n ∧ resyncInStages (b :: rest) = (n + 1, rest.drop n) := by
  rw [resyncInStages]
  rcases hwhole : findMark? rest with _ | position
  · rcases hpart : findPartialMark? (b :: rest) with _ | position
    · exact ⟨rest.length, isNextStart_of_findPartialMark?_eq_none hwhole hpart, rfl⟩
    · obtain ⟨m, rfl, hm⟩ := isNextStart_of_findPartialMark? hwhole hpart
      exact ⟨m, hm, rfl⟩
  · exact ⟨position, isNextStart_of_findMark? hwhole, rfl⟩

/-- Looking in two stages and trying one position after the other do the same. -/
theorem resyncInStages_eq (buffer : Bytes) : resyncInStages buffer = resync buffer := by
  rcases buffer with _ | ⟨b, rest⟩
  · rfl
  · obtain ⟨m, hm, hstages⟩ := resyncInStages_cons b rest
    obtain ⟨n, hn, hone⟩ := skipToSync_eq 1 rest
    rw [hstages, resync, hone, hm.unique hn, Nat.add_comm]

end Packet

end InstrumentRelay
