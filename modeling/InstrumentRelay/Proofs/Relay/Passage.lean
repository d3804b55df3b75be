import InstrumentRelay.Proofs.Relay.Course
import InstrumentRelay.Proofs.Stream.Recovery

/-!
# Frames pass as they are

Where the instrument is behind a server that frames the data, a frame is taken apart when it comes
in, and put together again when it goes out to a driver. Drivers do not notice: what they get is the
frame as it stood in the stream, byte for byte, because a frame is read only if it is the one that
is written for its packet. What is noise in the stream does not reach them, nor do frames of kinds
that are not for drivers.
-/

namespace InstrumentRelay

/-- What a connection gets of a letter, piece by piece, with the sender of the letter. -/
def Letter.pieces (d : Connection) (l : Letter) : List (Option ConnectionId × Bytes) :=
  l.message.packets.flatMap fun p ↦ (d.renderings .standard p).map (l.sender, ·)

namespace FrameReader

/-- What stands at the position of a frame that was read is the frame. -/
theorem slice_eq_frame {stream : Bytes} {x : Nat × Packet}
    (h : x ∈ empty.locateAll 0 [stream]) :
    (stream.drop x.1).take x.2.frameSize = x.2.frame := by
  obtain ⟨used, hstream, haccount⟩ := account_empty.readAll [stream]
  change used ++ _ = [stream].flatten at hstream
  change Account used (empty.locateAll 0 [stream]) _ at haccount
  have hbegins := haccount.frame_at h
  rw [hstream, List.flatten_singleton] at hbegins
  rw [← x.2.length_frame]
  exact (List.prefix_iff_eq_take.1 hbegins).symm

theorem map_snd_locateAll_of_drain {stream : Bytes} {packets : List Packet} {r : FrameReader}
    (h : (empty.feed stream).drain = (packets, r)) :
    (empty.locateAll 0 [stream]).map Prod.snd = packets := by
  rw [map_snd_locateAll, readAll, readAll, h, List.append_nil]

end FrameReader

namespace Input

/-- The packets that can be read without more bytes. -/
def complete : Input → List Packet
  | frames r => r.drain.1
  | _ => []

theorem complete_of_isWaiting {input : Input} (h : input.isWaiting = true) :
    input.complete = [] := by
  cases input with
  | bytes r => rfl
  | lines r => rfl
  | frames r =>
    rcases hnext : r.next with ⟨_ | p, r'⟩
    · rw [complete, FrameReader.drain_of_next_eq_none hnext]
    · simp [isWaiting, next, hnext] at h

end Input

namespace Relay

variable {config : Config} {r₁ r₂ : Relay} {c d₁ d₂ : Running}

theorem map_snd_pieces (d : Connection) (l : Letter) :
    (l.pieces d).map Prod.snd = l.message.packets.flatMap (d.renderings .standard) := by
  simp [Letter.pieces, List.map_flatMap, Function.comp_def]

theorem fst_of_mem_pieces {d : Connection} {l : Letter} {x : Option ConnectionId × Bytes}
    (h : x ∈ l.pieces d) : x.1 = l.sender := by
  obtain ⟨p, -, hx⟩ := List.mem_flatMap.1 h
  obtain ⟨piece, -, rfl⟩ := List.mem_map.1 hx
  rfl

/-- What a connection that gets frames has from one sender. -/
theorem pieces_from {d : Connection} (hframed : Connection.Framed d.endpoint)
    (sender : Option ConnectionId) (letters : List Letter) :
    ((letters.flatMap (Letter.pieces d)).filter (·.1 = sender)).map Prod.snd
      = ((packetsOf (letters.filter (·.sender = sender))).filter fun p ↦
        RouteTable.standard.routes d.endpoint p.kind).map Packet.frame := by
  have hsender : ∀ l ∈ letters, ∀ x ∈ l.pieces d,
      decide (x.1 = sender) = decide (l.sender = sender) := by
    intro l _ x hx
    rw [fst_of_mem_pieces hx]
  rw [filter_flatMap_of_iff hsender, List.map_flatMap, ← Connection.flatMap_renderings hframed,
    packetsOf, List.flatMap_assoc]
  simp only [map_snd_pieces]

/-- The frames of a stream that are read and go to an endpoint, as they stand in the stream. -/
def framesFor (e : Endpoint) (stream : Bytes) : List Bytes :=
  ((FrameReader.empty.locateAll 0 [stream]).filter fun x ↦
    RouteTable.standard.routes e x.2.kind).map fun x ↦ (stream.drop x.1).take x.2.frameSize

theorem framesFor_eq {e : Endpoint} {stream : Bytes} {packets : List Packet} {reader : FrameReader}
    (h : (FrameReader.empty.feed stream).drain = (packets, reader)) :
    framesFor e stream
      = (packets.filter fun p ↦ RouteTable.standard.routes e p.kind).map Packet.frame := by
  have hslices : ∀ x ∈ (FrameReader.empty.locateAll 0 [stream]).filter fun x ↦
      RouteTable.standard.routes e x.2.kind,
      (stream.drop x.1).take x.2.frameSize = x.2.frame :=
    fun x hx ↦ FrameReader.slice_eq_frame (List.mem_filter.1 hx).1
  rw [framesFor, List.map_congr_left hslices, ← FrameReader.map_snd_locateAll_of_drain h,
    List.filter_map, List.map_map]
  rfl

/-- What a connection that reads frames has posted since before it began. -/
theorem Reached.packets_since (h : Reached config r₁) (hlater : r₁.Changes r₂)
    (hbegins : ∀ c₁, r₁.connection? c.id = some c₁ → c₁.hasBegun = false) :
    packetsOf ((r₁.since r₂).filter (·.sender = some c.id))
      = (r₂.postedBy c.id).flatMap RouterMessage.packets := by
  have hbefore : r₁.postedBy c.id = [] := by
    rcases hc₁ : r₁.connection? c.id with _ | c₁
    · exact h.ledger.postedBy_eq_nil hc₁
    · exact ((h.history hc₁).of_not_begun (hbegins c₁ hc₁)).1
  rw [hlater.postedBy_eq, hbefore, List.nil_append, List.flatMap_map]
  rfl

/-- What a driver has written is what it was handed. -/
theorem Reached.written_driver {r : Relay} {d : Running} (h : Reached config r)
    {id : ConnectionId} (hd : r.connection? id = some d) (hend : d.spec.endpoint = .driver) :
    d.written = (r.exchange.deliveredTo id).take d.sent := by
  have hspec : d.spec = ServerKind.data.spec := (h.wired.wires id d hd).eq_server hend
  have hcopies := (h.history hd).copies (by rw [hspec]; decide)
  rwa [hspec, show ServerKind.data.spec.greeting = none from rfl, Option.toList_none, ite_self,
    List.nil_append] at hcopies

/-- **Frames pass as they are.** A driver that stays registered gets from a link that brings frames,
in order, the frames of the stream that are read and whose kind is for drivers, byte for byte as they
stand in it, whatever else is in the stream and however it is cut. Those that are complete and still
in the reader are yet to come; there are none when the link waits for more. -/
theorem frames_pass {host : Host} {answers : List Bool} {r₀ : Relay}
    {earlier later : List RelayEvent}
    (hstart : (Startup.ofConfig config host answers).outcome = .ok r₀)
    (hrun₁ : r₀.run earlier = some r₁) (hrun₂ : r₁.run later = some r₂)
    (hd₁ : r₁.connection? d₁.id = some d₁) (hend : d₁.spec.endpoint = .driver)
    (hphase₁ : d₁.phase = .running) (hd₂ : r₂.connection? d₁.id = some d₂)
    (hphase₂ : d₂.phase = .running) (hc : r₂.connection? c.id = some c)
    (hinbound : c.spec.inbound = .frames)
    (hbegins : ∀ c₁, r₁.connection? c.id = some c₁ → c₁.hasBegun = false) :
    let pieces := (r₁.since r₂).flatMap (Letter.pieces d₁.connection)
    let left := c.input.complete.filter fun p ↦ RouteTable.standard.routes .driver p.kind
    d₂.written = (r₂.exchange.deliveredTo d₁.id).take d₂.sent ∧
      r₂.course d₂ = r₁.course d₁ ++ pieces.map Prod.snd ∧
      (pieces.filter (·.1 = some c.id)).map Prod.snd ++ left.map Packet.frame
        = framesFor .driver c.received ∧
      (c.input.isWaiting = true →
        (pieces.filter (·.1 = some c.id)).map Prod.snd = framesFor .driver c.received) ∧
      ∀ cuts : List Bytes, cuts.flatten = c.received →
        (FrameReader.empty.readAll cuts).1
          = (FrameReader.empty.locateAll 0 [c.received]).map Prod.snd := by
  intro pieces left
  have h := reached_of_run hstart hrun₁
  have hlater := changes_of_run hrun₂
  have hframed : Connection.Framed d₁.connection.endpoint := by
    rw [show d₁.connection.endpoint = .driver from hend]
    exact Connection.framed_driver
  obtain ⟨reader, hinput, hdrain⟩ := ((h.changes hlater).history hc).reads hinbound
  have hcomplete : c.input.complete = reader.drain.1 := by
    rw [hinput]
    rfl
  have hfrom : (pieces.filter (·.1 = some c.id)).map Prod.snd ++ left.map Packet.frame
      = framesFor .driver c.received := by
    rw [framesFor_eq hdrain, List.filter_append, List.map_append, pieces_from hframed,
      h.packets_since hlater hbegins, ← hcomplete, show d₁.connection.endpoint = .driver from hend]
  refine ⟨?_, ?_, hfrom, ?_, ?_⟩
  · refine (h.changes hlater).written_driver hd₂ ?_
    rw [(hlater.kept_of hd₁ hd₂).spec_eq, hend]
  · rw [h.course_since hlater hd₁ hphase₁ hd₂ hphase₂, List.map_flatMap, packetsOf,
      List.flatMap_assoc]
    simp only [map_snd_pieces]
  · intro hwaits
    rw [← hfrom, show left = [] by simp [left, Input.complete_of_isWaiting hwaits], List.map_nil,
      List.append_nil]
  · intro cuts hcuts
    rw [FrameReader.map_snd_locateAll, FrameReader.readAll_eq_drain FrameReader.settled_empty,
      FrameReader.readAll_eq_drain FrameReader.settled_empty, hcuts, List.flatten_singleton]

/-- A frame behind a byte of noise, with the beginning of another one behind it. -/
theorem frames_pass_behind_noise :
    ∃ (p : Packet) (r₁ r₂ : Relay) (d₁ c : Running), d₁.spec.endpoint = .driver ∧
      c.received = 0x00 :: (p.frame ++ [0xA3]) ∧ framesFor .driver c.received = [p.frame] ∧
      r₂.exchange.deliveredTo d₁.id = [p.frame] ∧
      (((r₁.since r₂).flatMap (Letter.pieces d₁.connection)).filter (·.1 = some c.id)).map Prod.snd
        = framesFor .driver c.received := by
  let p : Packet := ⟨.fromInstrument, ⟨0⟩, [0x68, 0x69], by decide⟩
  let config : Config := { refdes := "X", instrument := .rsn "host" 2101 2102 .onDemand }
  let earlier : List RelayEvent := [.visit .data, .connection ⟨0⟩ .begins]
  let later : List RelayEvent := [.link 0 .made, .connection ⟨1⟩ .begins,
    .connection ⟨1⟩ (.receives (0x00 :: (p.frame ++ [0xA3]))), .routes, .connection ⟨1⟩ .takes,
    .routes, .routes]
  have hafter : ((Startup.ofConfig config .willing []).after earlier).any (fun r₁ ↦
      (r₁.run later).any fun r₂ ↦ (r₁.connection? ⟨0⟩).any fun d₁ ↦
        (r₂.connection? d₁.id).any fun d₂ ↦ (r₂.connection? ⟨1⟩).any fun c ↦
          d₁.id = ⟨0⟩ ∧ c.id = ⟨1⟩ ∧ d₁.spec.endpoint = .driver ∧ d₁.phase = .running ∧
            d₂.phase = .running ∧ c.spec.inbound = .frames ∧ (r₁.connection? c.id).isNone = true ∧
            c.input.isWaiting = true ∧ r₂.exchange.deliveredTo d₁.id = [p.frame] ∧
            c.received = 0x00 :: (p.frame ++ [0xA3]) ∧
            framesFor .driver c.received = [p.frame]) = true := by
    decide +kernel
  obtain ⟨r₀, r₁, hstart, hrun₁, h⟩ := Startup.exists_of_after hafter
  simp only [Option.any_eq_true, decide_eq_true_eq] at h
  obtain ⟨r₂, hrun₂, d₁, hd₁, d₂, hd₂, c, hc, hdid, hcid, hend, hphase₁, hphase₂, hinbound, hnew,
    hwaits, hdelivered, hreceived, hframes⟩ := h
  rw [← hdid] at hd₁
  rw [← hcid] at hc
  have hbegins : ∀ c₁, r₁.connection? c.id = some c₁ → c₁.hasBegun = false := by
    intro c₁ hc₁
    rw [hc₁] at hnew
    cases hnew
  have hpass := frames_pass hstart hrun₁ hrun₂ hd₁ hend hphase₁ hd₂ hphase₂ hc hinbound hbegins
  exact ⟨p, r₁, r₂, d₁, c, hend, hreceived, hframes, hdelivered, hpass.2.2.2.1 hwaits⟩

end Relay

end InstrumentRelay
