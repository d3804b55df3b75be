import InstrumentRelay.Proofs.Relay.Ledger

/-!
# The connections a relay has

Every connection of a relay is one that its wiring knows: someone has come to a server, a link has
been made, or the auxiliary link has been opened on demand. A connection on which the presence of
the instrument hangs belongs to a link for as long as it is open (`Wired.up`). Where there is only
one link, there is therefore only one such connection at a time (`Wired.eq_of_up`).
-/

namespace InstrumentRelay

/-- The connections that a relay with this configuration makes and takes. -/
inductive Config.Wires (config : Config) : ConnectionSpec → Prop
  /-- Someone comes to a server. -/
  | server (kind : ServerKind) : Wires config kind.spec
  /-- A link is made. -/
  | link {link : Link} (h : link ∈ config.instrument.links config.timing) : Wires config link.spec
  /-- The auxiliary link is opened on demand. -/
  | onDemand : Wires config (AuxMode.onDemand.spec config.timing)

/-- The instrument hangs on every link, and no link is made to a server. -/
theorem Instrument.spec_of_mem_links {i : Instrument} {timing : Timing} {link : Link}
    (h : link ∈ i.links timing) : link.spec.role = .instrument ∧
      link.spec.endpoint ∈ [.instrument, .instrumentData, .auxiliary] := by
  unfold links at h
  split at h
  case h_1 => simp_all
  case h_2 => rcases List.mem_cons.1 h with rfl | h <;> simp_all
  case h_3 =>
    rcases List.mem_cons.1 h with rfl | h
    · simp
    · split at h <;> simp_all [AuxMode.spec]

/-- A connection under the endpoint of a server has come to that server. -/
theorem Config.Wires.eq_server {config : Config} {spec : ConnectionSpec} (h : config.Wires spec)
    {kind : ServerKind} (hend : spec.endpoint = kind.spec.endpoint) : spec = kind.spec := by
  have hserver : kind.spec.endpoint ∉ [.instrument, .instrumentData, .auxiliary] := by
    cases kind <;> decide
  cases h with
  | server other =>
    -- No two servers have an endpoint in common.
    revert hend
    cases kind <;> cases other <;> decide
  | link hlink =>
    rw [← hend] at hserver
    exact absurd (Instrument.spec_of_mem_links hlink).2 hserver
  | onDemand =>
    rw [← hend] at hserver
    simp [AuxMode.spec] at hserver

/-- What is registered as an auxiliary link is one, held open or opened on demand. -/
theorem Config.Wires.exists_mode {config : Config} {spec : ConnectionSpec} (h : config.Wires spec)
    (hend : spec.endpoint = .auxiliary) : ∃ mode : AuxMode, spec = mode.spec config.timing := by
  cases h with
  | server kind => cases kind <;> cases hend
  | link hlink =>
    unfold Instrument.links at hlink
    split at hlink
    case h_1 => simp_all
    case h_2 => rcases List.mem_cons.1 hlink with rfl | hlink <;> simp_all
    case h_3 =>
      rcases List.mem_cons.1 hlink with rfl | hlink
      · cases hend
      · split at hlink
        · exact ⟨.persistent, congrArg Link.spec (List.mem_singleton.1 hlink)⟩
        · cases hlink
  | onDemand => exact ⟨.onDemand, rfl⟩

namespace Relay

/-- The connections there are, and the links they belong to. -/
structure Wired (config : Config) (r : Relay) : Prop where
  /-- The configuration stays. -/
  config_eq : r.config = config
  /-- The links stay. -/
  links_eq : r.links.map (·.link) = config.instrument.links config.timing
  /-- The wiring knows every connection. -/
  wires : ∀ id c, r.connection? id = some c → config.Wires c.spec
  /-- A connection to the instrument that is open belongs to a link. -/
  up : ∀ id c, r.connection? id = some c → c.spec.role = .instrument → c.isOpen = true →
    ∃ l ∈ r.links, l.phase = .up id

namespace Wired

variable {config : Config} {r r' : Relay}

theorem congr (h : r.Wired config) (hconfig : r'.config = r.config)
    (hconnections : r'.connections = r.connections)
    (hlinks : r'.links.map (·.link) = r.links.map (·.link))
    (hup : ∀ l ∈ r.links, ∀ id, l.phase = .up id → l ∈ r'.links) : r'.Wired config := by
  have hview : r'.connection? = r.connection? := by
    funext id
    rw [connection?, hconnections, connection?]
  constructor
  · rw [hconfig, h.config_eq]
  · rw [hlinks, h.links_eq]
  · rw [hview]
    exact h.wires
  · rw [hview]
    intro id c hc hrole hopen
    obtain ⟨l, hl, hphase⟩ := h.up id c hc hrole hopen
    exact ⟨l, hup l hl id hphase, hphase⟩

/-- Someone comes on whom no link depends. -/
theorem comes (h : r.Wired config) {spec : ConnectionSpec} (hwires : config.Wires spec)
    (hrole : spec.role ≠ .instrument) : (r.create spec).2.Wired config := by
  have hview : ∀ id c, (r.create spec).2.connection? id = some c →
      r.connection? id = some c ∨ c.spec = spec := by
    intro id c hc
    rw [connection?_create] at hc
    rcases Option.or_eq_some_iff.1 hc with hold | ⟨-, hnew⟩
    · exact .inl hold
    · obtain ⟨-, hnew⟩ := Option.ite_none_right_eq_some.1 hnew
      rw [← Option.some.inj hnew]
      exact .inr rfl
  refine ⟨h.config_eq, h.links_eq, ?_, ?_⟩
  · intro id c hc
    rcases hview id c hc with hold | rfl
    · exact h.wires id c hold
    · exact hwires
  · intro id c hc hinstrument hopen
    rcases hview id c hc with hold | rfl
    · exact h.up id c hold hinstrument hopen
    · exact absurd hinstrument hrole

/-- A link gets a connection, and the other links keep theirs. -/
theorem links (h : r.Wired config) {index : Nat} {l : LinkRun} (hl : r.links[index]? = some l)
    (hphase : l.phase = .dialing) :
    ((r.create l.link.spec).2.setLink index (l.made ⟨r.identities⟩)).Wired config := by
  have hmem : l.link ∈ config.instrument.links config.timing := by
    rw [← h.links_eq]
    exact List.mem_map_of_mem (List.mem_of_getElem? hl)
  have hindex : index < r.links.length := (List.getElem?_eq_some_iff.1 hl).1
  refine ⟨h.config_eq, ?_, ?_, ?_⟩
  · have hsame : (r.links.set index (l.made ⟨r.identities⟩)).map (·.link) = r.links.map (·.link) :=
      map_link_set hl rfl
    exact hsame.trans h.links_eq
  all_goals
    intro id c hc
    have hc : (r.create l.link.spec).2.connection? id = some c := hc
    rw [connection?_create] at hc
    rcases Option.or_eq_some_iff.1 hc with hold | ⟨-, hnew⟩
  · exact h.wires id c hold
  · obtain ⟨-, hnew⟩ := Option.ite_none_right_eq_some.1 hnew
    rw [← Option.some.inj hnew]
    exact .link hmem
  · intro hrole hopen
    obtain ⟨other, hother, hup⟩ := h.up id c hold hrole hopen
    refine ⟨other, mem_set_of_ne hl hother ?_, hup⟩
    rintro rfl
    rw [hphase] at hup
    cases hup
  · -- The new connection is the one that the link is now up with.
    intro _ _
    obtain ⟨rfl, -⟩ := Option.ite_none_right_eq_some.1 hnew
    exact ⟨_, List.mem_set hindex _, rfl⟩

theorem act (h : r.Wired config) {c c' : Running} {messages : List RouterMessage}
    (hc : r.connection? c.id = some c) (hact : c.Act (r.queue c) messages c') :
    ((r.post (some c.id) messages).update c').Wired config := by
  have hview : ∀ id d, ((r.post (some c.id) messages).update c').connection? id = some d →
      r.connection? id = some d ∨ (id = c.id ∧ d = c') := by
    intro id d hd
    rw [connection?_act hc hact] at hd
    split at hd
    case isTrue hid => exact .inr ⟨hid, (Option.some.inj hd).symm⟩
    case isFalse => exact .inl hd
  refine ⟨h.config_eq, h.links_eq, ?_, ?_⟩
  · intro id d hd
    rcases hview id d hd with hold | ⟨-, rfl⟩
    · exact h.wires id d hold
    · rw [hact.same.2]
      exact h.wires c.id c hc
  · intro id d hd hrole hopen
    rcases hview id d hd with hold | ⟨rfl, rfl⟩
    · exact h.up id d hold hrole hopen
    · rw [hact.same.2] at hrole
      refine h.up c.id c hc hrole ?_
      refine Bool.of_not_eq_false fun hclosed ↦ ?_
      rw [hact.closed hclosed] at hopen
      cases hopen

/-- The link of a connection that has ended is let go, and no other. -/
theorem release (h : r.Wired config) {id : ConnectionId}
    (hclosed : ∀ c, r.connection? id = some c → c.isOpen = false) :
    (r.releaseLink id).Wired config := by
  refine ⟨h.config_eq, ?_, h.wires, ?_⟩
  · rw [releaseLink, List.map_map, ← h.links_eq, List.map_inj_left]
    intro l hl
    rw [Function.comp_apply]
    split
    · exact link_wait l r.clock
    · rfl
  · intro other c hc hrole hopen
    obtain ⟨l, hl, hup⟩ := h.up other c hc hrole hopen
    refine ⟨l, List.mem_map.2 ⟨l, hl, if_neg ?_⟩, hup⟩
    rw [hup]
    rintro ⟨rfl⟩
    rw [hclosed c hc] at hopen
    cases hopen

theorem eq_of_up (h : r.Wired config) (hlinks : (config.instrument.links config.timing).length = 1)
    {c d : Running} (hc : r.connection? c.id = some c) (hd : r.connection? d.id = some d)
    (hcrole : c.spec.role = .instrument) (hdrole : d.spec.role = .instrument)
    (hcopen : c.isOpen = true) (hdopen : d.isOpen = true) : c = d := by
  have hone : r.links.length = 1 := by
    rw [← hlinks, ← h.links_eq, List.length_map]
  obtain ⟨l, hl⟩ := List.length_eq_one_iff.1 hone
  obtain ⟨m, hm, hmup⟩ := h.up c.id c hc hcrole hcopen
  obtain ⟨n, hn, hnup⟩ := h.up d.id d hd hdrole hdopen
  rw [hl, List.mem_singleton] at hm hn
  rw [hm] at hmup
  rw [hn, hmup] at hnup
  have hid : c.id = d.id := LinkPhase.up.inj hnup
  rw [hid, hd] at hc
  exact (Option.some.inj hc).symm

end Wired

theorem Change.wired {config : Config} {r r' : Relay} (h : r.Change r') (hwired : r.Wired config) :
    r'.Wired config := by
  have hsame : ∀ l ∈ r.links, ∀ id, l.phase = .up id → l ∈ r.links := fun l hl _ _ ↦ hl
  cases h with
  | aside h => exact hwired.congr h.config h.connections h.links h.up
  | opens file => exact hwired.congr rfl rfl rfl hsame
  | comes h =>
    rcases h with ⟨server, rfl⟩ | rfl
    · exact hwired.comes (.server server) (by cases server <;> decide)
    · rw [hwired.config_eq]
      exact hwired.comes .onDemand (by simp [AuxMode.spec])
  | links hl hphase => exact hwired.links hl hphase
  | acts hc hact hopen => exact hwired.act hc hact
  | @ends c c' messages hc hact hclosed =>
    have hlost : { (r.post (some c.id) messages).update c' with
        exchange := r.exchange.step (.lost c.id) }.Wired config :=
      (hwired.act hc hact).congr rfl rfl rfl fun l hl _ _ ↦ hl
    exact hlost.release fun _ ↦ closed_of_act hc hact hclosed
  | publishes bulletins => exact hwired.congr rfl rfl rfl hsame
  | routes htake => exact hwired.congr rfl rfl rfl hsame
  | reports refdes => exact hwired.congr rfl rfl rfl hsame
  | loses hany => exact hwired.congr rfl rfl rfl hsame

/-- **Every relay that can be reached has the connections of its wiring.** -/
theorem Reached.wired {config : Config} {r : Relay} (h : Reached config r) : r.Wired config := by
  induction h with
  | start h =>
    refine ⟨h.config_eq, ?_, ?_, ?_⟩
    · rw [h.links_eq, List.map_map]
      exact List.map_id _
    · intro id c hc
      rw [h.connection?] at hc
      cases hc
    · intro id c hc
      rw [h.connection?] at hc
      cases hc
  | change _ hchange ih => exact hchange.wired ih

end Relay

end InstrumentRelay
