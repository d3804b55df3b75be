import InstrumentRelay.Bytes
import InstrumentRelay.Packet.Kind
import InstrumentRelay.Time.Timestamp

/-!
# Packets

A packet is a payload with a kind and a time. A frame says its size in sixteen bits, header
included, so a payload has at most `Packet.maxPayload` bytes; the bound is a field of the type, and
whoever builds a packet shows it. Longer data goes into several packets of one kind and time
(`Packet.split`), and joining the payloads gives the data back.
-/

namespace InstrumentRelay

namespace Packet

/-- The bytes in front of the payload in a frame. -/
def headerSize : Nat := 16

/-- The longest frame that the size field can announce. -/
def maxFrame : Nat := 65535

/-- The longest payload of a single frame. -/
def maxPayload : Nat := maxFrame - headerSize

end Packet

/-- A payload with its kind and time. -/
structure Packet where
  /-- What it is for. -/
  kind : PacketKind
  /-- When it was made. -/
  stamp : Timestamp
  /-- The bytes it carries. -/
  payload : Bytes
  /-- The payload fits in one frame. -/
  payload_le : payload.length ≤ Packet.maxPayload
  deriving DecidableEq

namespace Packet

@[ext] theorem ext {p q : Packet} (hk : p.kind = q.kind) (hs : p.stamp = q.stamp)
    (hp : p.payload = q.payload) : p = q := by
  cases p; cases q; simp_all

/-- The length of the frame. -/
def frameSize (p : Packet) : Nat := headerSize + p.payload.length

theorem frameSize_le (p : Packet) : p.frameSize ≤ maxFrame := by
  have := p.payload_le
  simp only [frameSize, headerSize, maxFrame, maxPayload] at *
  omega

/-- A single packet, if the payload fits. -/
def single? (kind : PacketKind) (stamp : Timestamp) (payload : Bytes) : Option Packet :=
  if h : payload.length ≤ maxPayload then some ⟨kind, stamp, payload, h⟩ else none

/-- The data cut into full payloads and a rest, at least one. -/
def split (kind : PacketKind) (stamp : Timestamp) (data : Bytes) : List Packet :=
  if h : data.length ≤ maxPayload then [⟨kind, stamp, data, h⟩]
  else
    ⟨kind, stamp, data.take maxPayload, List.length_take_le _ _⟩
      :: split kind stamp (data.drop maxPayload)
termination_by data.length
decreasing_by
  simp only [List.length_drop, maxPayload, maxFrame, headerSize] at *
  omega

/-- The payloads of several packets, one after the other. -/
def join (packets : List Packet) : Bytes := packets.flatMap payload

/-- A short description: the kind and the length of the payload. -/
def summary (p : Packet) : String :=
  p.kind.label ++ " (" ++ toString p.payload.length ++ " bytes)"

theorem split_ne_nil (kind : PacketKind) (stamp : Timestamp) (data : Bytes) :
    split kind stamp data ≠ [] := by
  unfold split
  split <;> simp

theorem join_split (kind : PacketKind) (stamp : Timestamp) (data : Bytes) :
    join (split kind stamp data) = data := by
  fun_induction split kind stamp data with
  | case1 data h => simp [join]
  | case2 data h ih => rw [join, List.flatMap_cons, ← join, ih, List.take_append_drop]

end Packet

end InstrumentRelay
