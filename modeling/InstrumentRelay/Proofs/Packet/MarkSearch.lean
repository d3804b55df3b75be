import Mathlib.Order.Bounds.Defs
import InstrumentRelay.Packet.MarkSearch
import InstrumentRelay.Proofs.Packet.Frame

/-!
# Where the search for a mark ends

Whoever looks for the next frame cannot tell a sync mark from one that is still arriving: a position
is as good as a mark if the buffer agrees with the mark there, byte by byte, for as long as there
are bytes (`Agrees`). Where three bytes are left that means a whole mark, and where fewer are left,
the beginning of one; at the end of the buffer nothing is left that could disagree. The search is at
one of these positions when it stops, and has passed none of them on the way
(`IsNextStart.isLeast`).
-/

namespace InstrumentRelay

/-- One of two lists continues the other exactly if they agree wherever both have an element. -/
theorem prefix_or_prefix_iff {α : Type} {l m : List α} :
    l <+: m ∨ m <+: l ↔ ∀ k : Nat, ∀ a ∈ l[k]?, ∀ b ∈ m[k]?, a = b := by
  induction l generalizing m with
  | nil => simp
  | cons a l ih =>
    cases m with
    | nil => simp
    | cons b m =>
      rw [List.cons_prefix_cons, List.cons_prefix_cons, eq_comm (a := b), ← and_or_left, ih]
      constructor
      · rintro ⟨rfl, h⟩ (_ | k)
        · simp
        · exact h k
      · intro h
        exact ⟨h 0 a rfl b rfl, fun k ↦ h (k + 1)⟩

namespace Packet

/-- From this position on the buffer agrees with the sync mark, byte by byte, as far as both have
bytes. -/
def Agrees (buffer : Bytes) (position : Nat) : Prop :=
  ∀ k, ∀ b ∈ buffer[position + k]?, ∀ m ∈ syncMark[k]?, b = m

variable {buffer rest : Bytes} {position : Nat}

/-- What agrees with the mark is the beginning of one, or begins with a whole one. -/
theorem agrees_iff : Agrees buffer position ↔
    buffer.drop position <+: syncMark ∨ syncMark <+: buffer.drop position := by
  rw [prefix_or_prefix_iff]
  simp only [List.getElem?_drop]
  rfl

/-- At the end of the buffer nothing is left that could disagree. -/
theorem agrees_length (buffer : Bytes) : Agrees buffer buffer.length := by
  intro k b hb
  rw [List.getElem?_eq_none (Nat.le_add_right _ _)] at hb
  cases hb

theorem mayBegin_iff_prefix : mayBegin rest = true ↔ rest <+: syncMark ∨ syncMark <+: rest := by
  rw [mayBegin_iff]
  constructor
  · intro h
    by_cases hshort : rest.length ≤ 3
    · rw [List.take_of_length_le hshort] at h
      exact .inl h
    · have hmark : rest.take 3 = syncMark :=
        h.eq_of_length (List.length_take_of_le (Nat.le_of_not_le hshort))
      exact .inr (hmark ▸ List.take_prefix 3 rest)
  · rintro (h | h)
    · exact (List.take_prefix 3 rest).trans h
    · rw [List.prefix_iff_eq_take.1 h]
      exact List.prefix_rfl

theorem mayBegin_drop_iff_agrees :
    mayBegin (buffer.drop position) = true ↔ Agrees buffer position :=
  mayBegin_iff_prefix.trans agrees_iff.symm

/-- A search that leaves the first byte behind goes to the least position that agrees. -/
theorem IsNextStart.isLeast {n : Nat} (h : IsNextStart rest n) (b : UInt8) :
    IsLeast {i | 1 ≤ i ∧ i ≤ (b :: rest).length ∧ Agrees (b :: rest) i} (n + 1) := by
  constructor
  · exact ⟨Nat.le_add_left 1 n, Nat.succ_le_succ h.le_length, mayBegin_drop_iff_agrees.1 h.begins⟩
  · rintro i ⟨hfirst, -, hagrees⟩
    obtain ⟨k, rfl⟩ := Nat.exists_eq_add_of_le' hfirst
    rw [← mayBegin_drop_iff_agrees] at hagrees
    exact Nat.succ_le_succ (Nat.le_of_not_lt fun hk ↦ h.first k hk hagrees)

/-- **Resynchronizing drops up to the least position behind the first byte that agrees with the sync
mark**, as the end of the buffer always does, and leaves the rest as it is, whether it looks for a
whole mark first or tries one position after the other. So it always drops something, passes no
mark, be it whole or still arriving, and keeps nothing that no mark begins with. -/
theorem resync_isLeast (buffer : Bytes) (h : buffer ≠ []) :
    Agrees buffer buffer.length ∧
    ∃ dropped, IsLeast {i | 1 ≤ i ∧ i ≤ buffer.length ∧ Agrees buffer i} dropped ∧
      resyncInStages buffer = (dropped, buffer.drop dropped) ∧
      resync buffer = (dropped, buffer.drop dropped) ∧
      (∀ i, 1 ≤ i → i < dropped → ¬syncMark <+: buffer.drop i ∧ ¬buffer.drop i <+: syncMark) ∧
      (syncMark <+: buffer.drop dropped ∨ buffer.drop dropped <+: syncMark) := by
  obtain ⟨b, rest, rfl⟩ := List.exists_cons_of_ne_nil h
  obtain ⟨n, hn, hstages⟩ := resyncInStages_cons b rest
  have hleast := hn.isLeast b
  refine ⟨agrees_length _, n + 1, hleast, hstages, (resyncInStages_eq _).symm.trans hstages, ?_, ?_⟩
  · intro i hfirst hbefore
    have hdisagrees : ¬Agrees (b :: rest) i := fun hagrees ↦
      Nat.not_le_of_lt hbefore
        (hleast.2 ⟨hfirst, Nat.le_trans (Nat.le_of_lt hbefore) hleast.1.2.1, hagrees⟩)
    rw [agrees_iff, not_or] at hdisagrees
    exact hdisagrees.symm
  · exact (agrees_iff.1 hleast.1.2.2).symm

/-- A mark that breaks off, a byte that begins one, and two that may still become one. -/
theorem resync_of_broken_marks :
    ([0xA3, 0x9D, 0xA3, 0xA3, 0x9D] : Bytes) ≠ [] ∧
      IsLeast {i | 1 ≤ i ∧ i ≤ 5 ∧ Agrees [0xA3, 0x9D, 0xA3, 0xA3, 0x9D] i} 3 ∧
      resync [0xA3, 0x9D, 0xA3, 0xA3, 0x9D] = (3, [0xA3, 0x9D]) := by
  obtain ⟨-, dropped, hleast, -, hone, -⟩ :=
    resync_isLeast [0xA3, 0x9D, 0xA3, 0xA3, 0x9D] (by decide)
  have hfound : resync [0xA3, 0x9D, 0xA3, 0xA3, 0x9D] = (3, [0xA3, 0x9D]) := by decide
  obtain rfl : dropped = 3 := by
    rw [hfound] at hone
    exact (congrArg Prod.fst hone).symm
  exact ⟨by decide, hleast, hfound⟩

end Packet

end InstrumentRelay
