import Mathlib.Data.List.Basic
import InstrumentRelay.Packet.Basic

/-!
# Data of any length, cut into payloads

There is one way to cut data into payloads that are all full but the last, with none empty unless the
data is (`isCut_iff`): that is what `Packet.split` does. Data whose length is a multiple of the longest
payload ends in a full one, and no empty one comes behind it; empty data still makes one packet.

That no payload is too long is part of what a packet is. Here it is asked of byte strings, so that it
is a condition on the cut, and the packets are what comes of wrapping them (`single?`).
-/

namespace InstrumentRelay

namespace Packet

/-- The data, cut into full payloads and a rest. -/
structure IsCut (data : Bytes) (payloads : List Bytes) : Prop where
  /-- There is at least one. -/
  ne_nil : payloads ≠ []
  /-- All but the last are full. -/
  full : ∀ payload ∈ payloads.dropLast, payload.length = maxPayload
  /-- None is too long. -/
  length_le : ∀ payload ∈ payloads, payload.length ≤ maxPayload
  /-- None is empty unless there is no data. -/
  nonempty : data ≠ [] → ∀ payload ∈ payloads, payload ≠ []
  /-- Together they are the data. -/
  joined : payloads.flatten = data

variable {data payload : Bytes} {payloads : List Bytes}

/-! ## Full payloads -/

theorem ne_nil_of_full (h : payload.length = maxPayload) : payload ≠ [] := by
  rintro rfl
  simp [maxPayload, maxFrame, headerSize] at h

theorem isCut_singleton : IsCut data [payload] ↔ payload = data ∧ data.length ≤ maxPayload := by
  constructor
  · intro h
    have hjoined := h.joined
    rw [List.flatten_singleton] at hjoined
    subst hjoined
    exact ⟨rfl, h.length_le payload List.mem_cons_self⟩
  · rintro ⟨rfl, hle⟩
    exact ⟨List.cons_ne_nil _ _, by simp, by simpa using hle, by simp, List.flatten_singleton⟩

theorem IsCut.cons (h : IsCut data payloads) (hfull : payload.length = maxPayload)
    (hdata : data ≠ []) : IsCut (payload ++ data) (payload :: payloads) where
  ne_nil := List.cons_ne_nil _ _
  full other hother := by
    rw [List.dropLast_cons_of_ne_nil h.ne_nil] at hother
    rcases List.mem_cons.1 hother with rfl | hother
    · exact hfull
    · exact h.full other hother
  length_le other hother := by
    rcases List.mem_cons.1 hother with rfl | hother
    · exact Nat.le_of_eq hfull
    · exact h.length_le other hother
  nonempty _ other hother := by
    rcases List.mem_cons.1 hother with rfl | hother
    · exact ne_nil_of_full hfull
    · exact h.nonempty hdata other hother
  joined := by rw [List.flatten_cons, h.joined]

theorem IsCut.exists_rest {next : Bytes} (h : IsCut data (payload :: next :: payloads)) :
    payload.length = maxPayload ∧ ∃ rest, rest ≠ [] ∧ data = payload ++ rest ∧
      IsCut rest (next :: payloads) := by
  have hfull : payload.length = maxPayload := h.full payload (by simp)
  have hdata : data ≠ [] := by
    rw [← h.joined, List.flatten_cons]
    exact List.append_ne_nil_of_left_ne_nil (ne_nil_of_full hfull) _
  refine ⟨hfull, (next :: payloads).flatten, ?_, h.joined.symm, ?_⟩
  · have hnext : next ≠ [] := h.nonempty hdata next (by simp)
    rw [List.flatten_cons]
    exact List.append_ne_nil_of_left_ne_nil hnext _
  · refine ⟨List.cons_ne_nil _ _, fun other hother ↦ ?_, fun other hother ↦ ?_,
      fun _ other hother ↦ ?_, rfl⟩
    · exact h.full other (List.mem_cons_of_mem _ hother)
    · exact h.length_le other (List.mem_cons_of_mem _ hother)
    · exact h.nonempty hdata other (List.mem_cons_of_mem _ hother)

/-! ## Cutting -/

variable {kind : PacketKind} {stamp : Timestamp}

theorem split_of_le (h : data.length ≤ maxPayload) :
    split kind stamp data = [⟨kind, stamp, data, h⟩] := by
  rw [split, dif_pos h]

theorem split_append (hfull : payload.length = maxPayload) (hdata : data ≠ []) :
    split kind stamp (payload ++ data)
      = ⟨kind, stamp, payload, Nat.le_of_eq hfull⟩ :: split kind stamp data := by
  have hlong : ¬(payload ++ data).length ≤ maxPayload := by
    have hpos := List.length_pos_iff.2 hdata
    rw [List.length_append]
    omega
  rw [split, dif_neg hlong]
  simp only [List.take_left' hfull, List.drop_left' hfull]

theorem isCut_split : IsCut data ((split kind stamp data).map Packet.payload) := by
  fun_induction split kind stamp data with
  | case1 data h => exact isCut_singleton.2 ⟨rfl, h⟩
  | case2 data h ih =>
    have hfull : (data.take maxPayload).length = maxPayload :=
      List.length_take_of_le (Nat.le_of_not_le h)
    have hrest : data.drop maxPayload ≠ [] := by
      rw [Ne, List.drop_eq_nil_iff]
      exact h
    have hcut := ih.cons hfull hrest
    rwa [List.take_append_drop] at hcut

theorem IsCut.eq_split (h : IsCut data payloads) :
    payloads = (split kind stamp data).map Packet.payload := by
  induction payloads generalizing data with
  | nil => exact absurd rfl h.ne_nil
  | cons payload payloads ih =>
    rcases payloads with _ | ⟨next, payloads⟩
    · obtain ⟨rfl, hle⟩ := isCut_singleton.1 h
      rw [split_of_le hle]
      rfl
    · obtain ⟨hfull, rest, hrest, rfl, hcut⟩ := h.exists_rest
      rw [split_append hfull hrest, List.map_cons, ← ih hcut]

/-- There is one way to cut data into payloads. -/
theorem isCut_iff : IsCut data payloads ↔ payloads = (split kind stamp data).map Packet.payload := by
  constructor
  · exact IsCut.eq_split
  · rintro rfl
    exact isCut_split

theorem of_mem_split {p : Packet} (h : p ∈ split kind stamp data) :
    p.kind = kind ∧ p.stamp = stamp := by
  fun_induction split kind stamp data with
  | case1 data hle =>
    rw [List.mem_singleton.1 h]
    exact ⟨rfl, rfl⟩
  | case2 data hlong ih =>
    rcases List.mem_cons.1 h with rfl | hrest
    · exact ⟨rfl, rfl⟩
    · exact ih hrest

theorem kind_of_mem_split {p : Packet} (h : p ∈ split kind stamp data) : p.kind = kind :=
  (of_mem_split h).1

/-- Wrapping the payloads of packets of one kind and time gives these packets. -/
theorem map_single? {packets : List Packet}
    (h : ∀ p ∈ packets, p.kind = kind ∧ p.stamp = stamp) :
    (packets.map Packet.payload).map (single? kind stamp) = packets.map some := by
  rw [List.map_map]
  refine List.map_congr_left fun p hp ↦ ?_
  obtain ⟨rfl, rfl⟩ := h p hp
  rw [Function.comp_apply, single?, dif_pos p.payload_le]

/-- Packets of one kind and time are known by their payloads. -/
theorem eq_split_iff {packets : List Packet} :
    packets = split kind stamp data ↔
      (∀ p ∈ packets, p.kind = kind ∧ p.stamp = stamp) ∧ IsCut data (packets.map Packet.payload) := by
  constructor
  · rintro rfl
    exact ⟨fun p ↦ of_mem_split, isCut_split⟩
  · rintro ⟨hpackets, hcut⟩
    have hsome : packets.map some = (split kind stamp data).map some := by
      rw [← map_single? hpackets, ← map_single? fun p ↦ of_mem_split, hcut.eq_split]
    exact List.map_injective_iff.2 (fun _ _ ↦ Option.some.inj) hsome

/-- How many packets data makes, if there is any. -/
theorem length_split (h : data ≠ []) :
    (split kind stamp data).length = (data.length + (maxPayload - 1)) / maxPayload := by
  have hpos := List.length_pos_iff.2 h
  fun_induction split kind stamp data with
  | case1 data hle =>
    simp only [List.length_singleton, maxPayload, maxFrame, headerSize] at hle ⊢
    omega
  | case2 data hlong ih =>
    have hrest : data.drop maxPayload ≠ [] := by
      rw [Ne, List.drop_eq_nil_iff]
      exact hlong
    rw [List.length_cons, ih hrest (List.length_pos_iff.2 hrest), List.length_drop]
    simp only [maxPayload, maxFrame, headerSize] at hlong ⊢
    omega

end Packet

end InstrumentRelay
