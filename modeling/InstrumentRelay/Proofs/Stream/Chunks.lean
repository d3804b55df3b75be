import InstrumentRelay.Proofs.Packet.Split
import InstrumentRelay.Proofs.Stream.Noise
import InstrumentRelay.Stream.RawReader

/-!
# Data of any length, carried by packets

A frame holds less than data may have, so data is cut into packets before it goes over a line. Nothing
is lost on the way: what is read from the frames, however the line cuts them, is the packets, and
their payloads joined are the data. Where there are no frames, each read is cut in the same way, and
the payloads joined are the stream.
-/

namespace InstrumentRelay

namespace RawReader

/-- The packets of each of these reads, and the reader after them. -/
def readEach (r : RawReader) : List (Timestamp × Bytes) → List (List Packet) × RawReader
  | [] => ([], r)
  | (now, bytes) :: rest =>
    let first := (r.feed bytes).next now
    let others := first.2.readEach rest
    (first.1.getD [] :: others.1, others.2)

/-- The packets of one read. An empty one makes none. -/
def wrapped (kind : PacketKind) (read : Timestamp × Bytes) : List Packet :=
  if read.2 = [] then [] else Packet.split kind read.1 read.2

theorem next_feed_empty (kind : PacketKind) (read : Timestamp × Bytes) :
    (((⟨[], kind⟩ : RawReader).feed read.2).next read.1).1.getD [] = wrapped kind read ∧
      (((⟨[], kind⟩ : RawReader).feed read.2).next read.1).2 = ⟨[], kind⟩ := by
  obtain ⟨now, bytes⟩ := read
  rw [feed, List.nil_append, next, wrapped]
  rcases bytes with _ | ⟨b, rest⟩ <;> exact ⟨rfl, rfl⟩

/-- Nothing is kept from one read to the next. -/
theorem readEach_empty (kind : PacketKind) (reads : List (Timestamp × Bytes)) :
    (⟨[], kind⟩ : RawReader).readEach reads = (reads.map (wrapped kind), ⟨[], kind⟩) := by
  induction reads with
  | nil => rfl
  | cons read rest ih =>
    obtain ⟨hpackets, hreader⟩ := next_feed_empty kind read
    rw [readEach, hreader, ih, hpackets, List.map_cons]

theorem readAll_eq (kind : PacketKind) (reads : List (Timestamp × Bytes)) :
    readAll kind reads = reads.flatMap (wrapped kind) :=
  List.flatMap_congr fun read _ ↦ (next_feed_empty kind read).1

theorem join_wrapped (kind : PacketKind) (read : Timestamp × Bytes) :
    Packet.join (wrapped kind read) = read.2 := by
  rw [wrapped]
  split
  case isTrue h => rw [h, Packet.join, List.flatMap_nil]
  case isFalse => exact Packet.join_split ..

theorem join_flatMap_wrapped (kind : PacketKind) (reads : List (Timestamp × Bytes)) :
    Packet.join (reads.flatMap (wrapped kind)) = reads.flatMap Prod.snd := by
  rw [Packet.join, List.flatMap_assoc]
  exact List.flatMap_congr fun read _ ↦ join_wrapped kind read

theorem kind_of_mem_wrapped {kind : PacketKind} {read : Timestamp × Bytes} {p : Packet}
    (h : p ∈ wrapped kind read) : p.kind = kind := by
  rw [wrapped] at h
  split at h
  case isTrue => exact absurd h List.not_mem_nil
  case isFalse => exact Packet.kind_of_mem_split h

theorem length_wrapped (kind : PacketKind) (read : Timestamp × Bytes) :
    (wrapped kind read).length = (read.2.length + (Packet.maxPayload - 1)) / Packet.maxPayload := by
  rw [wrapped]
  split
  case isTrue h =>
    rw [h]
    rfl
  case isFalse h => exact Packet.length_split h

end RawReader

namespace Packet

/-- **Data of any length is carried.** It is cut into packets of its kind and time, at least one, all
full but the last, none empty unless the data is, and there is no other such cut. What wraps a single
payload accepts each of them. Their frames, however they are cut, are read as these packets, and the
payloads joined are the data.

An unframed stream is cut read by read: its payloads joined are what was read, and a read makes as
many packets as it takes, none if it is empty. -/
theorem split_carries (kind : PacketKind) :
    (∀ (stamp : Timestamp) (data : Bytes),
      (∀ packets : List Packet, packets = split kind stamp data ↔
        (∀ p ∈ packets, p.kind = kind ∧ p.stamp = stamp) ∧
          IsCut data (packets.map Packet.payload)) ∧
      (∀ payloads : List Bytes, IsCut data payloads →
        payloads.map (single? kind stamp) = (split kind stamp data).map some) ∧
      join (split kind stamp data) = data ∧
      ∀ cuts : List Bytes, cuts.flatten = ((split kind stamp data).map frame).flatten →
        FrameReader.empty.readAll cuts = (split kind stamp data, FrameReader.empty) ∧
          join (FrameReader.empty.readAll cuts).1 = data) ∧
    ∀ reads : List (Timestamp × Bytes), ∃ packets : List (List Packet),
      (⟨[], kind⟩ : RawReader).readEach reads = (packets, ⟨[], kind⟩) ∧
      RawReader.readAll kind reads = packets.flatten ∧
      (∀ p ∈ packets.flatten, p.kind = kind) ∧
      join packets.flatten = reads.flatMap Prod.snd ∧
      packets.map List.length
        = reads.map fun read ↦ (read.2.length + (maxPayload - 1)) / maxPayload := by
  refine ⟨fun stamp data ↦ ⟨fun packets ↦ eq_split_iff, fun payloads hcut ↦ ?_,
    join_split kind stamp data, fun cuts hcuts ↦ ?_⟩, fun reads ↦ ?_⟩
  · rw [hcut.eq_split, map_single? fun p ↦ of_mem_split]
  · rw [FrameReader.readAll_frames hcuts]
    exact ⟨rfl, join_split kind stamp data⟩
  · refine ⟨reads.map (RawReader.wrapped kind), RawReader.readEach_empty kind reads, ?_, ?_, ?_, ?_⟩
    · rw [RawReader.readAll_eq, List.flatMap_def]
    · intro p hp
      rw [← List.flatMap_def] at hp
      obtain ⟨read, -, hread⟩ := List.mem_flatMap.1 hp
      exact RawReader.kind_of_mem_wrapped hread
    · rw [← List.flatMap_def, RawReader.join_flatMap_wrapped]
    · rw [List.map_map]
      exact List.map_congr_left fun read _ ↦ RawReader.length_wrapped kind read

/-- Data with one byte more than a payload may have goes over the line in two frames, which come in
two reads, the first of which ends in a mark. -/
theorem split_carries_one_byte_more :
    ∃ (data wire : Bytes), data.length = maxPayload + 1 ∧
      IsCut data [data.take maxPayload, data.drop maxPayload] ∧
      [data.take maxPayload, data.drop maxPayload].map (single? .fromInstrument ⟨0⟩)
        = (split .fromInstrument ⟨0⟩ data).map some ∧
      [wire.take 2, wire.drop 2].flatten = ((split .fromInstrument ⟨0⟩ data).map frame).flatten ∧
      join (FrameReader.empty.readAll [wire.take 2, wire.drop 2]).1 = data := by
  obtain ⟨data, hlength⟩ : ∃ data : Bytes, data.length = maxPayload + 1 :=
    ⟨List.replicate (maxPayload + 1) 0, List.length_replicate⟩
  have hfull : (data.take maxPayload).length = maxPayload := List.length_take_of_le (by omega)
  have hrest : (data.drop maxPayload).length = 1 := by
    rw [List.length_drop]
    omega
  have hcut : IsCut data [data.take maxPayload, data.drop maxPayload] := by
    have hlast : IsCut (data.drop maxPayload) [data.drop maxPayload] :=
      isCut_singleton.2 ⟨rfl, by rw [hrest]; decide⟩
    have hboth := hlast.cons hfull (List.length_pos_iff.1 (by omega))
    rwa [List.take_append_drop] at hboth
  have hwire (wire : Bytes) : [wire.take 2, wire.drop 2].flatten = wire := by simp
  obtain ⟨-, hnew, -, hread⟩ := (split_carries .fromInstrument).1 ⟨0⟩ data
  exact ⟨data, _, hlength, hcut, hnew _ hcut, hwire _, (hread _ (hwire _)).2⟩

end Packet

end InstrumentRelay
