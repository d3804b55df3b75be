import InstrumentRelay.Packet.Basic

/-!
# Reading packets from an unframed stream

Where the stream has no frames, whatever one read brings becomes the payload of packets of a fixed
kind, stamped with the time of the read.
-/

namespace InstrumentRelay

/-- The state of wrapping reads into packets. -/
structure RawReader where
  /-- What has arrived and not been used yet. -/
  buffer : Bytes
  /-- The kind of the packets. -/
  kind : PacketKind
  deriving DecidableEq, Repr

namespace RawReader

/-- Bytes arrive. -/
def feed (r : RawReader) (bytes : Bytes) : RawReader := { r with buffer := r.buffer ++ bytes }

/-- Everything that has arrived, as packets, if anything has. -/
def next (r : RawReader) (now : Timestamp) : Option (List Packet) × RawReader :=
  if r.buffer.isEmpty then (none, r)
  else (some (Packet.split r.kind now r.buffer), { r with buffer := [] })

/-- The packets of a stream that comes in these reads, each at its time. -/
def readAll (kind : PacketKind) (reads : List (Timestamp × Bytes)) : List Packet :=
  reads.flatMap fun (now, bytes) ↦ (((⟨[], kind⟩ : RawReader).feed bytes).next now).1.getD []

end RawReader

end InstrumentRelay
