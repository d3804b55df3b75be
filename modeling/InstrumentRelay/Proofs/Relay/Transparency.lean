import InstrumentRelay.Proofs.Relay.Course

/-!
# A relay with one link is transparent

Where the instrument is reached by a single connection, a relay is a pipe with several ends. What
drivers write goes to the instrument: a merge of what has been read from each of them, in which
nothing is lost, added or changed. What the instrument says goes to every driver: as the payloads of
packets, or bare, it is what has been read from the instrument.

## Whose packets these are

Packets that drivers write and packets from the instrument are told apart by their kinds alone, so
everything hangs on who can post which kind (`TcpParty`). A kind says that a packet comes from the
instrument, but not over which connection, and links are made again and again. While one connection
to the instrument is open there is no other (`Wired.eq_of_up`), and what is closed posts nothing;
so all packets of the kind that are posted in the meantime are from that one
(`Reached.from_link`).
-/

namespace InstrumentRelay

namespace Running

/-- What has been read from the peer and passed on. -/
def heard (c : Running) : Bytes := c.received.take (c.received.length - c.input.held.length)

theorem heard_eq_of_received {c : Running} {passed : Bytes} (h : c.received = passed ++ c.input.held) :
    c.heard = passed := by
  rw [heard, h, List.length_append, Nat.add_sub_cancel, List.take_left]

end Running

/-- The parts that a connection can have where there is one link. -/
inductive TcpParty (spec : ConnectionSpec) : Prop
  /-- It is the link. -/
  | link (hrole : spec.role = .instrument) (hend : spec.endpoint = .instrument)
    (hinbound : spec.inbound = .bytes .fromInstrument) (hgreeting : spec.greeting = none)
  /-- It belongs to a driver. -/
  | driver (hrole : spec.role ≠ .instrument) (hend : spec.endpoint ∈ [.driver, .rawDriver])
    (hinbound : spec.inbound = .bytes .fromDriver) (hgreeting : spec.greeting = none)
  /-- It brings nothing that is passed between drivers and the instrument. -/
  | bystander (hrole : spec.role ≠ .instrument) (hend : spec.endpoint ∉ [.driver, .rawDriver])
    (hlink : ¬spec.inbound.Brings .fromInstrument) (hdriver : ¬spec.inbound.Brings .fromDriver)

theorem Config.Wires.tcpParty {config : Config} {address : String} {port : UInt16}
    (htcp : config.instrument = .tcp address port) {spec : ConnectionSpec}
    (h : config.Wires spec) : TcpParty spec := by
  cases h with
  | server kind =>
    cases kind with
    | data => exact .driver (by decide) (by decide) rfl rfl
    | raw => exact .driver (by decide) (by decide) rfl rfl
    | command =>
      refine .bystander (by decide) (by decide) ?_ ?_ <;> simp [ServerKind.spec, Inbound.Brings]
    | sniff =>
      refine .bystander (by decide) (by decide) ?_ ?_ <;> simp [ServerKind.spec, Inbound.Brings]
  | link hlink =>
    rw [htcp] at hlink
    obtain rfl := List.mem_singleton.1 hlink
    exact .link rfl rfl rfl rfl
  | onDemand => refine .bystander ?_ ?_ ?_ ?_ <;> simp [AuxMode.spec, Inbound.Brings]

namespace TcpParty

variable {spec : ConnectionSpec}

theorem role_of_brings (h : TcpParty spec) (hbrings : spec.inbound.Brings .fromInstrument) :
    spec.role = .instrument := by
  cases h with
  | link hrole => exact hrole
  | driver hrole hend hinbound =>
    rw [hinbound] at hbrings
    cases hbrings
  | bystander hrole hend hlink hdriver => exact absurd hbrings hlink

theorem of_instrument (h : TcpParty spec) (hrole : spec.role = .instrument) :
    spec.endpoint = .instrument ∧ spec.inbound = .bytes .fromInstrument ∧ spec.greeting = none := by
  cases h with
  | link _ hend hinbound hgreeting => exact ⟨hend, hinbound, hgreeting⟩
  | driver hother => exact absurd hrole hother
  | bystander hother => exact absurd hrole hother

theorem of_driver (h : TcpParty spec) (hdriver : spec.endpoint ∈ [.driver, .rawDriver]) :
    spec.inbound = .bytes .fromDriver ∧ spec.greeting = none := by
  cases h with
  | link hrole hend => simp [hend] at hdriver
  | driver hrole hend hinbound hgreeting => exact ⟨hinbound, hgreeting⟩
  | bystander hrole hend => exact absurd hdriver hend

end TcpParty

/-- The bytes of one kind in a letter. -/
def Letter.carries (kind : PacketKind) (l : Letter) : Bytes :=
  Packet.join (l.message.packets.filter (·.kind = kind))

namespace Relay

variable {config : Config} {r r' r₁ r₂ : Relay} {c c₁ c₂ : Running}

theorem Reached.tcpParty {address : String} {port : UInt16} (h : Reached config r)
    (htcp : config.instrument = .tcp address port) {id : ConnectionId}
    (hc : r.connection? id = some c) : TcpParty c.spec :=
  (h.wired.wires id c hc).tcpParty htcp

/-! ## What has been heard -/

/-- What has been read from a sender of letters and passed on. -/
def heard (r : Relay) (sender : Option ConnectionId) : Bytes :=
  (sender.bind r.connection?).elim [] Running.heard

/-- What has been read from a sender of letters since, and passed on. -/
def heardSince (r₁ r₂ : Relay) (sender : Option ConnectionId) : Bytes :=
  (r₂.heard sender).drop (r₁.heard sender).length

/-- What has been read from a connection and wrapped is what the connection has posted. -/
theorem Reached.heard_eq (h : Reached config r) {id : ConnectionId} {kind : PacketKind}
    (hkind : ∀ c, r.connection? id = some c → c.spec.inbound = .bytes kind) :
    r.heard (some id) = Packet.join ((r.postedBy id).flatMap RouterMessage.packets) := by
  rcases hc : r.connection? id with _ | c
  · rw [h.ledger.postedBy_eq_nil hc, heard, Option.bind_some, hc]
    rfl
  · rw [heard, Option.bind_some, hc]
    exact Running.heard_eq_of_received ((h.history hc).wraps (hkind c hc))

/-- What has been read from a connection since is what it has posted since. -/
theorem Reached.heard_since (h : Reached config r₁) (hlater : r₁.Changes r₂) {id : ConnectionId}
    {kind : PacketKind} (hc : r₂.connection? id = some c) (hkind : c.spec.inbound = .bytes kind) :
    r₁.heard (some id) ++ r₁.heardSince r₂ (some id) = r₂.heard (some id) ∧
      r₁.heardSince r₂ (some id)
        = Packet.join (packetsOf ((r₁.since r₂).filter (·.sender = some id))) := by
  have hkind₁ : ∀ d, r₁.connection? id = some d → d.spec.inbound = .bytes kind := by
    intro d hd
    rw [← (hlater.kept_of hd hc).spec_eq, hkind]
  have hkind₂ : ∀ d, r₂.connection? id = some d → d.spec.inbound = .bytes kind := by
    intro d hd
    rw [← Option.some.inj (hc.symm.trans hd), hkind]
  have hgrows : r₂.heard (some id) = r₁.heard (some id)
      ++ Packet.join (packetsOf ((r₁.since r₂).filter (·.sender = some id))) := by
    rw [(h.changes hlater).heard_eq hkind₂, h.heard_eq hkind₁, hlater.postedBy_eq,
      List.flatMap_append, Packet.join, List.flatMap_append, List.flatMap_map]
    rfl
  have hsince : r₁.heardSince r₂ (some id)
      = Packet.join (packetsOf ((r₁.since r₂).filter (·.sender = some id))) := by
    rw [heardSince, hgrows, List.drop_left]
  exact ⟨by rw [hsince, hgrows], hsince⟩

/-! ## The link -/

/-- While the link is open, nobody else posts packets from the instrument. -/
theorem Change.from_link {address : String} {port : UInt16} (hchange : r.Change r')
    (h : Reached config r) (htcp : config.instrument = .tcp address port)
    (hc : r.connection? c.id = some c) (hrole : c.spec.role = .instrument)
    (hopen : c.isOpen = true) {letter : Letter} (hletter : letter ∈ r'.mail.posted)
    (hpermit : r.Permits letter) {p : Packet} (hp : p ∈ letter.message.packets)
    (hkind : p.kind = .fromInstrument) : letter.sender = some c.id := by
  rcases (Reached.change h hchange).brings hletter hp with
    ⟨-, hstatus | hheartbeat⟩ | ⟨id, d', hsender, hd', hbrings⟩
  · rw [hkind] at hstatus
    cases hstatus
  · rw [hkind] at hheartbeat
    cases hheartbeat
  · rw [Permits, hsender] at hpermit
    obtain ⟨d, hd, hdopen⟩ := hpermit
    obtain ⟨e, he, hkept⟩ := hchange.kept hd
    obtain rfl := Option.some.inj (he.symm.trans hd')
    obtain rfl := id_of_connection? hd
    rw [hkept.spec_eq, hkind] at hbrings
    have hdrole := (h.tcpParty htcp hd).role_of_brings hbrings
    -- Both are open, and there is only one link.
    have hone : (config.instrument.links config.timing).length = 1 := by
      rw [htcp]
      rfl
    rw [hsender, h.wired.eq_of_up hone hc hd hrole hdrole hopen hdopen]

/-- **While the link is open, packets from the instrument come over it.** -/
theorem Reached.from_link {address : String} {port : UInt16} (h : Reached config r₁)
    (hlater : r₁.Changes r₂) (htcp : config.instrument = .tcp address port)
    (hc₁ : r₁.connection? c₁.id = some c₁) (hrole : c₁.spec.role = .instrument)
    (hc₂ : r₂.connection? c₁.id = some c₂) (hopen : c₂.isOpen = true) {letter : Letter}
    (hletter : letter ∈ r₁.since r₂) {p : Packet} (hp : p ∈ letter.message.packets)
    (hkind : p.kind = .fromInstrument) : letter.sender = some c₁.id := by
  induction hlater generalizing c₂ with
  | refl => simp [since] at hletter
  | @tail r r' hr hchange ih =>
    obtain ⟨c, hc, hkept⟩ := Changes.kept hr hc₁
    obtain ⟨c', hc', hkept'⟩ := hchange.kept hc
    obtain rfl := Option.some.inj (hc'.symm.trans hc₂)
    -- It is open at the end, so it was open all the time.
    have hopen' : c.isOpen = true := by
      refine Bool.of_not_eq_false fun hclosed ↦ ?_
      rw [hkept'.closed hclosed] at hopen
      cases hopen
    obtain ⟨new, hnew, hpermits⟩ := hchange.posted
    rw [since, hnew, Changes.posted_eq hr, List.append_assoc, List.drop_left] at hletter
    rcases List.mem_append.1 hletter with hold | hnow
    · exact ih hc hopen' hold
    · have hposted : letter ∈ r'.mail.posted := by
        rw [hnew]
        exact List.mem_append_right _ hnow
      have hid := id_of_connection? hc
      rw [← hid] at hc ⊢
      have hcrole : c.spec.role = .instrument := by rw [hkept.spec_eq, hrole]
      exact hchange.from_link (h.changes hr) htcp hc hcrole hopen' hposted
        (hpermits letter hnow) hp hkind

/-! ## What is passed on -/

theorem flatten_renderings_payload {kind : PacketKind}
    (hform : ∀ k, c.spec.endpoint.form? k = if k = kind then some .payload else none)
    (packets : List Packet) :
    (packets.flatMap (c.connection.renderings .standard)).flatten
      = Packet.join (packets.filter (·.kind = kind)) := by
  induction packets with
  | nil => rfl
  | cons p rest ih =>
    rw [List.flatMap_cons, List.flatten_append, ih, Connection.renderings_standard]
    have hp := hform p.kind
    by_cases hk : p.kind = kind
    · rw [if_pos hk] at hp
      rw [List.filter_cons_of_pos (by simpa using hk), Running.connection, hp]
      simp [Packet.join, Packet.render]
    · rw [if_neg hk] at hp
      rw [List.filter_cons_of_neg (by simpa using hk), Running.connection, hp]
      simp

/-- Where the packets of a kind are all from one sender and that sender brings no others, they are
what it has posted. -/
theorem filter_packetsOf_eq {kind : PacketKind} {sender : Option ConnectionId}
    {letters : List Letter}
    (hfrom : ∀ l ∈ letters, ∀ p ∈ l.message.packets, p.kind = kind ↔ l.sender = sender) :
    (packetsOf letters).filter (·.kind = kind)
      = packetsOf (letters.filter (·.sender = sender)) := by
  refine filter_flatMap_of_iff fun l hl p hp ↦ ?_
  rw [decide_eq_decide]
  exact hfrom l hl p hp

theorem join_packetsOf (kind : PacketKind) (letters : List Letter) :
    Packet.join ((packetsOf letters).filter (·.kind = kind))
      = letters.flatMap (Letter.carries kind) := by
  rw [packetsOf, List.filter_flatMap, Packet.join, List.flatMap_assoc]
  rfl

/-- The sender of a letter is a driver. -/
def isDriver (r : Relay) (sender : Option ConnectionId) : Bool :=
  (sender.bind r.connection?).any fun c ↦ c.spec.endpoint ∈ [.driver, .rawDriver]

theorem isDriver_iff {sender : Option ConnectionId} :
    r.isDriver sender = true ↔ ∃ id c, sender = some id ∧ r.connection? id = some c ∧
      c.spec.endpoint ∈ [.driver, .rawDriver] := by
  cases sender with
  | none => simp [isDriver]
  | some id => simp [isDriver, Option.any_eq_true]

/-- Drivers bring what goes to the instrument, and nobody else does. -/
theorem Reached.fromDriver_iff {address : String} {port : UInt16} (h : Reached config r)
    (htcp : config.instrument = .tcp address port) {letter : Letter}
    (hletter : letter ∈ r.mail.posted) {p : Packet} (hp : p ∈ letter.message.packets) :
    p.kind = .fromDriver ↔ r.isDriver letter.sender = true := by
  rw [isDriver_iff]
  rcases h.brings hletter hp with ⟨hnone, hkind⟩ | ⟨id, c, hsender, hc, hbrings⟩
  · rw [hnone]
    refine iff_of_false (fun hdriver ↦ ?_) (by simp)
    rw [hdriver] at hkind
    rcases hkind with hkind | hkind <;> cases hkind
  · rw [hsender]
    have hother : c.spec.endpoint ∉ [.driver, .rawDriver] →
        ¬∃ id' c', some id = some id' ∧ r.connection? id' = some c' ∧
          c'.spec.endpoint ∈ [.driver, .rawDriver] := by
      rintro hend ⟨id', c', hid, hc', hend'⟩
      rw [← Option.some.inj hid, hc] at hc'
      rw [← Option.some.inj hc'] at hend'
      exact hend hend'
    cases h.tcpParty htcp hc with
    | link hrole hend hinbound =>
      rw [hinbound] at hbrings
      refine iff_of_false (fun hdriver ↦ ?_) (hother (by simp [hend]))
      rw [hdriver] at hbrings
      cases hbrings
    | driver hrole hend hinbound =>
      rw [hinbound] at hbrings
      exact iff_of_true hbrings ⟨id, c, rfl, hc, hend⟩
    | bystander hrole hend hlink hdriver =>
      refine iff_of_false (fun hkind ↦ hdriver ?_) (hother hend)
      rwa [hkind] at hbrings

/-- What is carried to the instrument has been read from drivers. -/
theorem Reached.carries_fromDriver {address : String} {port : UInt16} (h : Reached config r₁)
    (hlater : r₁.Changes r₂) (htcp : config.instrument = .tcp address port)
    (sender : Option ConnectionId) :
    ((r₁.since r₂).filter (·.sender = sender)).flatMap (Letter.carries .fromDriver)
      = if r₂.isDriver sender then r₁.heardSince r₂ sender else [] := by
  have h₂ := h.changes hlater
  have hkinds : ∀ p ∈ packetsOf ((r₁.since r₂).filter (·.sender = sender)),
      p.kind = .fromDriver ↔ r₂.isDriver sender = true := by
    intro p hp
    obtain ⟨l, hl, hpl⟩ := List.mem_flatMap.1 hp
    obtain ⟨hl, hsender⟩ := List.mem_filter.1 hl
    rw [← of_decide_eq_true hsender]
    exact h₂.fromDriver_iff htcp (hlater.mem_posted hl) hpl
  rw [← join_packetsOf]
  by_cases hdriver : r₂.isDriver sender = true
  · obtain ⟨id, c, rfl, hc, hend⟩ := isDriver_iff.1 hdriver
    obtain ⟨hinbound, -⟩ := (h₂.tcpParty htcp hc).of_driver hend
    have hall : (packetsOf ((r₁.since r₂).filter (·.sender = some id))).filter
        (·.kind = .fromDriver) = packetsOf ((r₁.since r₂).filter (·.sender = some id)) := by
      rw [List.filter_eq_self]
      exact fun p hp ↦ decide_eq_true ((hkinds p hp).2 hdriver)
    rw [if_pos hdriver, hall, (h.heard_since hlater hc hinbound).2]
  · have hnone : (packetsOf ((r₁.since r₂).filter (·.sender = sender))).filter
        (·.kind = .fromDriver) = [] := by
      rw [List.filter_eq_nil_iff]
      exact fun p hp hkind ↦ hdriver ((hkinds p hp).1 (of_decide_eq_true hkind))
    rw [if_neg hdriver, hnone]
    rfl

/-- What comes from the instrument has been read from the link. -/
theorem Reached.join_fromInstrument {address : String} {port : UInt16} (h : Reached config r₁)
    (hlater : r₁.Changes r₂) (htcp : config.instrument = .tcp address port)
    (hc₁ : r₁.connection? c₁.id = some c₁) (hrole : c₁.spec.role = .instrument)
    (hc₂ : r₂.connection? c₁.id = some c₂) (hopen : c₂.isOpen = true) :
    Packet.join ((packetsOf (r₁.since r₂)).filter (·.kind = .fromInstrument))
      = r₁.heardSince r₂ (some c₁.id) := by
  have h₂ := h.changes hlater
  have hinbound : c₂.spec.inbound = .bytes .fromInstrument := by
    rw [(hlater.kept_of hc₁ hc₂).spec_eq]
    exact ((h.tcpParty htcp hc₁).of_instrument hrole).2.1
  rw [(h.heard_since hlater hc₂ hinbound).2]
  congr 1
  refine filter_packetsOf_eq fun l hl p hp ↦ ?_
  constructor
  · exact h.from_link hlater htcp hc₁ hrole hc₂ hopen hl hp
  · intro hsender
    rcases h₂.brings (hlater.mem_posted hl) hp with ⟨hnone, -⟩ | ⟨id, d, hid, hd, hbrings⟩
    · rw [hnone] at hsender
      cases hsender
    · rw [hsender] at hid
      rw [← Option.some.inj hid, hc₂] at hd
      rwa [← Option.some.inj hd, hinbound] at hbrings

/-! ## Transparency -/

/-- **A relay with one link is transparent.** Take two moments of a run between which the link to the
instrument stays registered. What has been handed or is on its way to the instrument has grown by a
merge of what has been read from each of the drivers, those that have gone included.

What has been handed or is on its way to a driver that stays registered has grown by what has been
read from the instrument: as the payloads of the packets from the instrument among the frames, or
just so where it wants bytes. It makes no difference how the bytes were cut when they were read.

And what counts as read from a connection has been received there in this order, and what is written
to it is what it was handed, up to what is still queued. -/
theorem tcp_transparent {host : Host} {answers : List Bool} {r₀ : Relay}
    {earlier later : List RelayEvent}
    (hstart : (Startup.ofConfig config host answers).outcome = .ok r₀)
    (hrun₁ : r₀.run earlier = some r₁) (hrun₂ : r₁.run later = some r₂)
    {address : String} {port : UInt16} (htcp : config.instrument = .tcp address port)
    (hc₁ : r₁.connection? c₁.id = some c₁) (hrole : c₁.spec.role = .instrument)
    (hphase₁ : c₁.phase = .running) (hc₂ : r₂.connection? c₁.id = some c₂)
    (hphase₂ : c₂.phase = .running) :
    (∃ whole, (r₂.course c₂).flatten = (r₁.course c₁).flatten ++ whole ∧
      IsMerge whole fun sender ↦ if r₂.isDriver sender then r₁.heardSince r₂ sender else []) ∧
    (∀ d₁ d₂, r₁.connection? d₁.id = some d₁ → d₁.phase = .running →
      r₂.connection? d₁.id = some d₂ → d₂.phase = .running →
        (d₁.spec.endpoint = .driver → ∃ packets : List Packet,
          r₂.course d₂ = r₁.course d₁ ++ packets.map Packet.frame ∧
          Packet.join (packets.filter (·.kind = .fromInstrument))
            = r₁.heardSince r₂ (some c₁.id)) ∧
        (d₁.spec.endpoint = .rawDriver →
          (r₂.course d₂).flatten
            = (r₁.course d₁).flatten ++ r₁.heardSince r₂ (some c₁.id))) ∧
    (∀ d, r₂.connection? d.id = some d →
      d.spec.role = .instrument ∨ d.spec.endpoint ∈ [.driver, .rawDriver] →
        r₁.heard (some d.id) ++ r₁.heardSince r₂ (some d.id) = r₂.heard (some d.id) ∧
        d.received = r₂.heard (some d.id) ++ d.input.held ∧
        d.written = (r₂.exchange.deliveredTo d.id).take d.sent) := by
  have h := reached_of_run hstart hrun₁
  have hlater := changes_of_run hrun₂
  have h₂ := h.changes hlater
  have hopen : c₂.isOpen = true := by rw [Running.isOpen, hphase₂]
  have hinstrument := h.join_fromInstrument hlater htcp hc₁ hrole hc₂ hopen
  refine ⟨?_, ?_, ?_⟩
  · obtain ⟨hend, -⟩ := (h.tcpParty htcp hc₁).of_instrument hrole
    have hform : ∀ kind, c₁.spec.endpoint.form? kind
        = if kind = .fromDriver then some .payload else none := by
      rw [hend]
      exact fun _ ↦ rfl
    -- Letters come from senders, and what a letter carries comes with it.
    have hmerge := (IsMerge.of_origin Letter.sender (r₁.since r₂)).flatMap
      (Letter.carries .fromDriver)
    refine ⟨_, ?_, hmerge.of_eq (h.carries_fromDriver hlater htcp)⟩
    rw [h.course_since hlater hc₁ hphase₁ hc₂ hphase₂, List.flatten_append,
      flatten_renderings_payload hform, join_packetsOf]
  · intro d₁ d₂ hd₁ hdphase₁ hd₂ hdphase₂
    have hcourse := h.course_since hlater hd₁ hdphase₁ hd₂ hdphase₂
    constructor
    · intro hend
      have hframed : Connection.Framed d₁.connection.endpoint := by
        rw [show d₁.connection.endpoint = .driver from hend]
        exact Connection.framed_driver
      rw [Connection.flatMap_renderings hframed] at hcourse
      refine ⟨_, hcourse, ?_⟩
      rw [show d₁.connection.endpoint = .driver from hend, List.filter_filter, ← hinstrument]
      congr 2
      funext p
      by_cases hkind : p.kind = .fromInstrument
      · rw [hkind]
        rfl
      · simp [hkind]
    · intro hend
      have hform : ∀ kind, d₁.spec.endpoint.form? kind
          = if kind = .fromInstrument then some .payload else none := by
        rw [hend]
        exact fun _ ↦ rfl
      rw [hcourse, List.flatten_append, flatten_renderings_payload hform, hinstrument]
  · intro d hd hparty
    obtain ⟨kind, hinbound, hgreeting⟩ :
        ∃ kind, d.spec.inbound = .bytes kind ∧ d.spec.greeting = none := by
      rcases hparty with hlink | hdriver
      · exact ⟨_, ((h₂.tcpParty htcp hd).of_instrument hlink).2⟩
      · exact ⟨_, (h₂.tcpParty htcp hd).of_driver hdriver⟩
    have hhistory := h₂.history hd
    have hlines : d.spec.inbound ≠ .lines := by simp [hinbound]
    have hwritten := hhistory.copies hlines
    rw [hgreeting, Option.toList_none, ite_self, List.nil_append] at hwritten
    have hreceived := hhistory.wraps hinbound
    have hheard : r₂.heard (some d.id) = d.heard := by
      rw [heard, Option.bind_some, hd]
      rfl
    refine ⟨(h.heard_since hlater hd hinbound).1, ?_, hwritten⟩
    rw [hheard, Running.heard_eq_of_received hreceived, ← hreceived]

/-- A greeting of the instrument, and a word of a driver that wants bytes. -/
theorem tcp_transparent_of_greeting :
    ∃ (r₁ r₂ : Relay) (c₁ c₂ d₁ d₂ : Running) (whole : Bytes),
      d₁.spec.endpoint = .rawDriver ∧ r₂.awaited = [] ∧
      r₁.heardSince r₂ (some c₁.id) = [0x68, 0x69] ∧ r₁.heardSince r₂ (some d₁.id) = [0x6F] ∧
      (r₂.course c₂).flatten = (r₁.course c₁).flatten ++ whole ∧
      (IsMerge whole fun sender ↦ if r₂.isDriver sender then r₁.heardSince r₂ sender else []) ∧
      (r₂.course d₂).flatten = (r₁.course d₁).flatten ++ [0x68, 0x69] := by
  let config : Config :=
    { refdes := "X", instrument := .tcp "host" 4001, ports := { raw := some 0 } }
  let earlier : List RelayEvent := [.link 0 .made, .visit .raw, .connection ⟨0⟩ .begins,
    .connection ⟨1⟩ .begins]
  let later : List RelayEvent := [.connection ⟨0⟩ (.receives [0x68, 0x69]), .routes,
    .connection ⟨1⟩ (.receives [0x6F]), .connection ⟨1⟩ .takes, .connection ⟨0⟩ .takes, .routes,
    .routes, .routes]
  have hafter : ((Startup.ofConfig config .willing []).after earlier).any (fun r₁ ↦
      (r₁.run later).any fun r₂ ↦ (r₁.connection? ⟨0⟩).any fun c₁ ↦
        (r₂.connection? c₁.id).any fun c₂ ↦ (r₁.connection? ⟨1⟩).any fun d₁ ↦
          (r₂.connection? d₁.id).any fun d₂ ↦
            c₁.id = ⟨0⟩ ∧ d₁.id = ⟨1⟩ ∧ c₁.spec.role = .instrument ∧ c₁.phase = .running ∧
              c₂.phase = .running ∧ d₁.spec.endpoint = .rawDriver ∧ d₁.phase = .running ∧
              d₂.phase = .running ∧ r₂.awaited = [] ∧
              r₁.heardSince r₂ (some c₁.id) = [0x68, 0x69] ∧
              r₁.heardSince r₂ (some d₁.id) = [0x6F]) = true := by
    decide +kernel
  obtain ⟨r₀, r₁, hstart, hrun₁, h⟩ := Startup.exists_of_after hafter
  simp only [Option.any_eq_true, decide_eq_true_eq] at h
  obtain ⟨r₂, hrun₂, c₁, hc₁, c₂, hc₂, d₁, hd₁, d₂, hd₂, hcid, hdid, hrole, hphase₁, hphase₂, hend,
    hdphase₁, hdphase₂, hawaited, hlink, hdriver⟩ := h
  rw [← hcid] at hc₁
  rw [← hdid] at hd₁
  obtain ⟨⟨whole, hwhole, hmerge⟩, hdrivers, -⟩ :=
    tcp_transparent hstart hrun₁ hrun₂ rfl hc₁ hrole hphase₁ hc₂ hphase₂
  have hraw := (hdrivers d₁ d₂ hd₁ hdphase₁ hd₂ hdphase₂).2 hend
  rw [hlink] at hraw
  exact ⟨r₁, r₂, c₁, c₂, d₁, d₂, whole, hend, hawaited, hlink, hdriver, hwhole, hmerge, hraw⟩

end Relay

end InstrumentRelay
