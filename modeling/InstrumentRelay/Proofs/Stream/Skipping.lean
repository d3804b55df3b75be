import InstrumentRelay.Packet.MarkSearch
import InstrumentRelay.Proofs.Stream.FrameReader

/-!
# Jumping over bad bytes

A reader whose buffer is bad does not have to try every position. It may jump, as long as each
position that it jumps over is bad itself: there no frame stands, and none is under way either, so
a reader that drops a single byte and tries again would get past it, too. What comes out is then the
same to the byte (`search_eq_next`): the packet or nothing, the bytes left over, and the number of
bytes dropped.

How a reader gets past a bad front is a parameter here (`search`), and the tries are counted. A jump
drops at least one byte, so no more tries are made than there are bytes, and one to find that nothing
is left.
-/

namespace InstrumentRelay

namespace Packet

/-- Drops the first byte. -/
def dropOne : Bytes → Nat × Bytes
  | [] => (0, [])
  | _ :: rest => (1, rest)

/-- A way past a bad front that drops the first byte, and then only positions that are bad. -/
def PassesBad (skip : Bytes → Nat × Bytes) : Prop :=
  ∀ b rest, ∃ n, skip (b :: rest) = (n + 1, rest.drop n) ∧
    ∀ k < n, ∃ e, read? (rest.drop k) = .error e

theorem passesBad_dropOne : PassesBad dropOne :=
  fun _ _ ↦ ⟨0, rfl, fun _ hk ↦ absurd hk (Nat.not_lt_zero _)⟩

theorem passesBad_resyncInStages : PassesBad resyncInStages := by
  intro b rest
  obtain ⟨n, hn, heq⟩ := resyncInStages_cons b rest
  exact ⟨n, heq, fun k hk ↦ ⟨.noSync, read?_eq_noSync (hn.first k hk)⟩⟩

end Packet

namespace FrameReader

/-- The next packet, if one is complete, and the reader after it, with at most so many tries. Between
two of them the reader gets past the bad front of its buffer in the given way. Gives nothing if the
tries do not suffice. -/
def search (skip : Bytes → Nat × Bytes) : Nat → FrameReader → Option (Option Packet × FrameReader)
  | 0, _ => none
  | tries + 1, r =>
    match Packet.take r.buffer with
    | (.ok found, rest) => some (found, { r with buffer := rest })
    | (.error _, rest) => search skip tries ⟨(skip rest).2, r.dropped + (skip rest).1⟩

/-- Bad positions may be passed over. -/
theorem next_drop {rest : Bytes} {n : Nat}
    (hbad : ∀ k < n, ∃ e, Packet.read? (rest.drop k) = .error e) (dropped : Nat) :
    next ⟨rest.drop n, dropped + n⟩ = next ⟨rest, dropped⟩ := by
  induction n with
  | zero => rfl
  | succ n ih =>
    obtain ⟨e, he⟩ := hbad n (Nat.lt_succ_self n)
    have hlt : n < rest.length := Nat.lt_of_not_le fun hle ↦
      Packet.ne_nil_of_read?_eq_error he (List.drop_of_length_le hle)
    rw [List.drop_eq_getElem_cons hlt] at he
    rw [← ih fun k hk ↦ hbad k (Nat.lt_succ_of_lt hk), List.drop_eq_getElem_cons hlt,
      next_of_read?_eq_error (dropped + n) he, Nat.add_assoc]

/-- However a reader gets past bad bytes, it finds the same. -/
theorem search_eq_next {skip : Bytes → Nat × Bytes} (hskip : Packet.PassesBad skip) {tries : Nat}
    {r : FrameReader} (h : r.buffer.length < tries) : search skip tries r = some r.next := by
  induction tries generalizing r with
  | zero => exact absurd h (Nat.not_lt_zero _)
  | succ tries ih =>
    obtain ⟨buffer, dropped⟩ := r
    rw [search]
    split
    case h_1 found rest htake => rw [next_of_take_eq_ok htake]
    case h_2 e rest htake =>
      obtain ⟨hread, rfl⟩ := Packet.take_eq_error_iff.1 htake
      obtain ⟨b, rest, rfl⟩ := List.exists_cons_of_ne_nil (Packet.ne_nil_of_read?_eq_error hread)
      obtain ⟨n, heq, hbad⟩ := hskip b rest
      have hshort : (rest.drop n).length < tries := by
        rw [List.length_drop]
        rw [List.length_cons] at h
        omega
      rw [heq, ih hshort, next_of_read?_eq_error dropped hread, ← next_drop hbad, Nat.add_assoc,
        Nat.add_comm 1]

/-- **Jumping to where a frame may begin finds what dropping byte by byte finds.** Whatever a buffer
holds, looking first for a whole mark and then for a part of one at the end comes to an answer, and
so does dropping one byte at a time, with no more tries than there are bytes and one more. Both give
the same packet or nothing, leave the same bytes and count the same number of bytes dropped. -/
theorem search_in_stages_eq_one_by_one (r : FrameReader) (tries : Nat)
    (h : r.buffer.length < tries) :
    search Packet.resyncInStages tries r = some r.next ∧
      search Packet.dropOne tries r = some r.next :=
  ⟨search_eq_next Packet.passesBad_resyncInStages h, search_eq_next Packet.passesBad_dropOne h⟩

/-- A mark that breaks off, a byte that begins one, and two that may still become one. -/
theorem search_broken_marks :
    ([0xA3, 0x9D, 0xA3, 0xA3, 0x9D] : Bytes).length < 6 ∧
      search Packet.resyncInStages 6 ⟨[0xA3, 0x9D, 0xA3, 0xA3, 0x9D], 7⟩
        = some (none, ⟨[0xA3, 0x9D], 10⟩) ∧
      search Packet.dropOne 6 ⟨[0xA3, 0x9D, 0xA3, 0xA3, 0x9D], 7⟩
        = some (none, ⟨[0xA3, 0x9D], 10⟩) := by
  obtain ⟨hstages, hone⟩ :=
    search_in_stages_eq_one_by_one ⟨[0xA3, 0x9D, 0xA3, 0xA3, 0x9D], 7⟩ 6 (by decide)
  have hfound : search Packet.dropOne 6 ⟨[0xA3, 0x9D, 0xA3, 0xA3, 0x9D], 7⟩
      = some (none, ⟨[0xA3, 0x9D], 10⟩) := by decide
  exact ⟨by decide, hstages.trans (hone.symm.trans hfound), hfound⟩

end FrameReader

end InstrumentRelay
