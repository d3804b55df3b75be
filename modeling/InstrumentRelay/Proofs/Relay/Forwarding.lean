import InstrumentRelay.Proofs.Relay.Auxiliary

/-!
# Commands that are passed on

A command that is to be passed on over an auxiliary link that is opened on demand takes two looks at
that link. The first comes before it is answered, when a link is found open or has been registered;
whoever answers then posts the command. The second comes when the router takes the letter, after all
that was posted before it. Between the two the link goes on by itself, and it may find that it has
been idle for too long.

`forwarded_exact` says what comes of it: the command goes to the auxiliary links that run both when
it is posted and when it is routed, and to no other. If the far end does nothing to the link that is
counted on, that link gets the command exactly if it has not given up for idleness by then.
-/

namespace InstrumentRelay

/-! ## What is forwarded -/

/-- On demand, a request is passed on only if the auxiliary link has been reached. -/
theorem Request.of_reply_eq_forward {request : Request} {config : Config} {address : String}
    {port auxPort : UInt16} {state : Except RelayError LinkState}
    {reached : Except RelayError Unit} {line : Bytes}
    (hdemand : config.instrument = .rsn address port auxPort .onDemand)
    (h : request.reply config state reached = .forward line) :
    request.needs config.instrument = .auxiliary ∧ reached = .ok () := by
  unfold reply at h
  split at h
  · split at h <;> cases h
  · cases h
  · cases h
  case h_4 haction =>
    rw [hdemand] at h
    rcases reached with error | ⟨⟩
    · cases h
    · exact ⟨by simp [needs, haction, hdemand], rfl⟩

/-- An auxiliary link is handed the payloads of what is forwarded. -/
theorem flatMap_renderings_forward {c : Connection} (hendpoint : c.endpoint = .auxiliary)
    (line : Bytes) (now : Timestamp) :
    ((Reply.forward line).packets now).flatMap (c.renderings .standard)
      = ((Reply.forward line).packets now).map (·.payload) := by
  rw [List.map_eq_flatMap]
  refine List.flatMap_congr fun p hp ↦ ?_
  have hkind : p.kind = .auxCommand := Reply.kind_of_mem_packets hp
  rw [Connection.renderings_standard, hendpoint, hkind]
  rfl

theorem flatten_payloads (reply : Reply) (now : Timestamp) :
    ((reply.packets now).map (·.payload)).flatten = reply.content := by
  rw [← List.flatMap_def]
  exact Packet.join_split _ _ _

/-- The far end does something to this connection: it sends no more, or cannot be reached. -/
def RelayEvent.Disturbs (id : ConnectionId) (e : RelayEvent) : Prop :=
  e ∈ [.connection id .hangsUp, .connection id .readFails, .connection id .writeFails]

instance (id : ConnectionId) (e : RelayEvent) : Decidable (e.Disturbs id) :=
  inferInstanceAs (Decidable (_ ∈ _))

/-- An auxiliary link brings bytes. -/
theorem Config.Wires.bytes_of_auxiliary {config : Config} {spec : ConnectionSpec}
    (h : config.Wires spec) (hendpoint : spec.endpoint = .auxiliary) :
    spec.inbound = .bytes .auxResponse := by
  obtain ⟨mode, rfl⟩ := h.exists_mode hendpoint
  cases mode <;> rfl

namespace Relay

variable {config : Config} {r r' : Relay} {e : RelayEvent}

/-! ## Before a command is posted -/

/-- Whoever waits for the monitor does not need the auxiliary link, and whoever is about to pass a
command on has seen one. -/
structure Vouched (config : Config) (r : Relay) : Prop where
  asking : ∀ id c request, r.connection? id = some c → c.errand = some (.asking request) →
    request.needs config.instrument = .state
  forward : ∀ id c line, r.connection? id = some c →
    c.errand = some (.answering (.forward line)) → ∃ link, r.aux.current = some link

section Deeds

variable {c c' : Running} {messages : List RouterMessage} {notices : List MonitorLetter}
  {aux : AuxLink}

theorem Deed.needs_state (h : r.Deed e c messages notices aux c') {request : Request}
    (hasking : c'.errand = some (.asking request)) :
    c.errand = some (.asking request) ∨ request.needs r.config.instrument = .state := by
  cases h with
  | takesLine hfree hitem hstarts =>
    cases hstarts with
    | asks h hneeds =>
      cases hasking
      exact .inr hneeds
    | _ => cases hasking
  | turns herrand hturn => cases hturn <;> cases hasking
  | answers due hphase herrand => cases hasking
  | ends said hopen hsaid hcause => cases hasking
  | _ => exact .inl hasking

theorem Deed.seen (h : r.Deed e c messages notices aux c') {address : String}
    {port auxPort : UInt16} (hdemand : r.config.instrument = .rsn address port auxPort .onDemand)
    (hstate : ∀ request, c.errand = some (.asking request) →
      request.needs r.config.instrument = .state) {line : Bytes}
    (hforward : c'.errand = some (.answering (.forward line))) :
    c.errand = some (.answering (.forward line)) ∨ ∃ link, aux.current = some link := by
  have hneeds {request : Request} {state : Except RelayError LinkState}
      {reached : Except RelayError Unit}
      (hreply : some (Errand.answering (request.reply r.config state reached))
        = some (.answering (.forward line))) :
      request.needs r.config.instrument = .auxiliary ∧ reached = .ok () :=
    Request.of_reply_eq_forward hdemand (Errand.answering.inj (Option.some.inj hreply))
  cases h with
  | takesLine hfree hitem hstarts =>
    cases hstarts with
    | knows h hnothing => cases hnothing.symm.trans (hneeds hforward).1
    | _ => cases hforward
  | turns herrand hturn =>
    cases hturn with
    | told request => cases (hstate request herrand).symm.trans (hneeds hforward).1
    | reuses request hfree hlink hopen =>
      obtain ⟨id, hcurrent, -⟩ := Option.bind_eq_some_iff.1 hlink
      exact .inr ⟨id, hcurrent⟩
    | opens request deadline hfree hlink => cases hforward
    | gets request deadline hlink hbegun => exact .inr ⟨_, rfl⟩
    | fails request deadline made error hcause => cases (hneeds hforward).2
  | answers due hphase herrand => cases hforward
  | ends said hopen hsaid hcause => cases hforward
  | _ => exact .inl hforward

end Deeds

/-- The link that is counted on may be another one after a step, but there is one. -/
theorem Attached.exists_current {given : List ConnectionId} (h : r.Attached config given)
    (hstep : r.step e = some r') (hcurrent : ∃ link, r.aux.current = some link) :
    ∃ link, r'.aux.current = some link := by
  rcases h.current_of_move (move_of_step hstep) with ⟨hsame, -⟩ | ⟨id, d, haux, -⟩
  · rwa [hsame]
  · exact ⟨id, by rw [haux]⟩

theorem Vouched.step {given : List ConnectionId} (h : r.Vouched config)
    (hattached : r.Attached config given) {address : String} {port auxPort : UInt16}
    (hdemand : config.instrument = .rsn address port auxPort .onDemand)
    (hstep : r.step e = some r') : r'.Vouched config := by
  have hreached := hattached.orderly.reached
  have hconfig := hreached.wired.config_eq
  constructor
  · intro id c' request hc' hasking
    rcases (move_of_step hstep).was hreached.ledger hc' with ⟨hc, -⟩ | ⟨spec, -, rfl, -⟩ |
      ⟨-, hc, -, hdeed, -⟩ | ⟨-, hc, -, rfl, -⟩
    · exact h.asking id c' request hc hasking
    · cases hasking
    · rcases hdeed.needs_state hasking with hbefore | hstate
      · exact h.asking id _ request hc hbefore
      · rwa [← hconfig]
    · cases hasking
  · intro id c' line hc' hforward
    rcases (move_of_step hstep).was hreached.ledger hc' with ⟨hc, -⟩ | ⟨spec, -, rfl, -⟩ |
      ⟨-, hc, haux, hdeed, -⟩ | ⟨-, hc, -, rfl, -⟩
    · exact hattached.exists_current hstep (h.forward id c' line hc hforward)
    · cases hforward
    · rw [← hconfig] at hdemand
      rcases hdeed.seen hdemand (fun request hrequest ↦ hconfig ▸ h.asking id _ request hc hrequest)
        hforward with hbefore | hnow
      · exact hattached.exists_current hstep (h.forward id _ line hc hbefore)
      · rwa [haux]
    · cases hforward

/-- **Whoever is about to pass a command on has seen a link.** -/
theorem vouched_of_run {host : Host} {answers : List Bool} {r₀ : Relay} {events : List RelayEvent}
    (hstart : (Startup.ofConfig config host answers).outcome = .ok r₀) {address : String}
    {port auxPort : UInt16} (hdemand : config.instrument = .rsn address port auxPort .onDemand)
    (hrun : r₀.run events = some r) : r.Vouched config := by
  refine keeps_run hstart (P := fun _ r ↦ r.Vouched config) ?_ ?_ hrun
  · have hstarted := started_of_start hstart
    constructor <;> simp [connection?, hstarted.connections_eq]
  · intro events e r r' hreached hrun hstep h
    exact h.step (attached_of_run hstart hdemand hrun).1 hdemand hstep

/-! ## How an auxiliary link ends -/

/-- A link that brings bytes ends because the far end does something or has hung up, or because it
has been idle. -/
theorem Deed.disturbed {c c' : Running} {messages : List RouterMessage}
    {notices : List MonitorLetter} {aux : AuxLink} (h : r.Deed e c messages notices aux c')
    (hidle : c.errand = none) {kind : PacketKind} (hbytes : c.input.inbound = .bytes kind) :
    (c'.hungUp = true → c.hungUp = true ∨ e = .connection c.id .hangsUp) ∧
      (c'.phase = .closed true → c.phase = .closed true ∨ c.hungUp = true ∨
        e = .connection c.id .idles ∨ e.Disturbs c.id) := by
  cases h with
  | begins due hphase => exact ⟨.inl, nofun⟩
  | hangsUp hfree he => exact ⟨fun _ ↦ .inr he, .inl⟩
  | turns herrand hturn => cases hidle.symm.trans herrand
  | answers due hphase herrand => cases hidle.symm.trans herrand
  | ends said hopen hsaid hcause =>
    refine ⟨.inl, fun hclosed ↦ .inr ?_⟩
    rcases hcause with ⟨hphase, -⟩ | ⟨-, event, rfl, hending⟩ | ⟨n, reply, -, -, herrand⟩
    · have hbegun : c.hasBegun = true := Phase.closed.inj hclosed
      simp [Running.hasBegun, hphase] at hbegun
    · cases hending with
      | finishes hup => exact .inl hup
      | chokes hitem =>
        -- There is no line that could be too long.
        rcases hinput : c.input with reader | reader | reader <;> rw [hinput] at hbytes <;>
          cases hbytes
        rw [Running.item, hinput] at hitem
        split at hitem <;> cases hitem
      | readFails => exact .inr (.inr (by simp [RelayEvent.Disturbs]))
      | writeFails => exact .inr (.inr (by simp [RelayEvent.Disturbs]))
      | idles h hdue => exact .inr (.inl rfl)
    · cases hidle.symm.trans herrand
  | _ => exact ⟨.inl, .inl⟩

/-- These events say how a connection has come to its end, if it has. -/
structure EndedBy (events : List RelayEvent) (d : Running) : Prop where
  /-- Nobody hangs up in silence. -/
  up : d.hungUp = true → .connection d.id .hangsUp ∈ events
  /-- It has been idle for too long, or the far end has done something to it. -/
  closed : d.phase = .closed true →
    .connection d.id .idles ∈ events ∨ ∃ e ∈ events, e.Disturbs d.id

theorem EndedBy.concat {events : List RelayEvent} {d : Running} (h : EndedBy events d)
    (e : RelayEvent) : EndedBy (events ++ [e]) d where
  up hup := List.mem_append_left _ (h.up hup)
  closed hclosed := by
    refine (h.closed hclosed).imp (List.mem_append_left _) ?_
    rintro ⟨e', he', hdisturbs⟩
    exact ⟨e', List.mem_append_left _ he', hdisturbs⟩

/-- What a connection that brings bytes does is said by the event in which it does it. -/
theorem EndedBy.deed {events : List RelayEvent} {c c' : Running} {messages : List RouterMessage}
    {notices : List MonitorLetter} {aux : AuxLink} (h : EndedBy events c)
    (hdeed : r.Deed e c messages notices aux c') (hidle : c.errand = none) {kind : PacketKind}
    (hbytes : c.input.inbound = .bytes kind) : EndedBy (events ++ [e]) c' := by
  have hid : c'.id = c.id := hdeed.act.same.1
  have hlast : e ∈ events ++ [e] := List.mem_append_right _ List.mem_cons_self
  obtain ⟨hups, hends⟩ := hdeed.disturbed hidle hbytes
  constructor <;> rw [hid]
  · intro hup
    rcases hups hup with hbefore | rfl
    · exact (h.concat e).up hbefore
    · exact hlast
  · intro hclosed
    rcases hends hclosed with hbefore | hbefore | rfl | hdisturbs
    · exact (h.concat e).closed hbefore
    · exact .inr ⟨_, (h.concat e).up hbefore, by simp [RelayEvent.Disturbs]⟩
    · exact .inl hlast
    · exact .inr ⟨e, hlast, hdisturbs⟩

/-- **An auxiliary link to which the far end does nothing ends only of idleness.** -/
theorem endedBy_of_run {host : Host} {answers : List Bool} {r₀ : Relay} {events : List RelayEvent}
    (hstart : (Startup.ofConfig config host answers).outcome = .ok r₀)
    (hrun : r₀.run events = some r) {d : Running} (hd : r.connection? d.id = some d)
    (hendpoint : d.spec.endpoint = .auxiliary) : EndedBy events d := by
  refine keeps_run hstart (P := fun events r ↦ ∀ d : Running, r.connection? d.id = some d →
    d.spec.endpoint = .auxiliary → EndedBy events d) ?_ ?_ hrun d hd hendpoint
  · intro d hd
    rw [connection?, (started_of_start hstart).connections_eq] at hd
    cases hd
  · intro events e r r' hreached hrun hstep h d' hd' hendpoint
    rcases (move_of_step hstep).was hreached.ledger hd' with ⟨hd, -⟩ | ⟨spec, -, hnew, -⟩ |
      ⟨hid, hd, -, hdeed, -⟩ | ⟨hid, hd, -, hnew, -⟩
    · exact (h d' hd hendpoint).concat e
    · rw [hnew]
      constructor <;> rintro ⟨⟩
    · rw [← hid] at hd
      rw [hdeed.act.same.2] at hendpoint
      have hbytes := (hreached.wired.wires _ _ hd).bytes_of_auxiliary hendpoint
      have hhistory := hreached.history hd
      exact (h _ hd hendpoint).deed hdeed (hhistory.errand_eq_none (by simp [hbytes]))
        (hhistory.inbound_input.trans hbytes)
    · rw [← hid] at hd
      rw [hnew] at hendpoint ⊢
      exact ⟨((h _ hd hendpoint).concat e).up, ((h _ hd hendpoint).concat e).closed⟩

theorem closed_of_step_idles {id : ConnectionId}
    (hstep : r.step (.connection id .idles) = some r') :
    ∃ d, r'.connection? id = some d ∧ d.isOpen = false := by
  simp only [step, Option.bind_eq_bind, Option.bind_eq_some_iff] at hstep
  obtain ⟨c, hc, hstep⟩ := hstep
  obtain rfl := id_of_connection? hc
  rw [stepConnection] at hstep
  split at hstep
  case h_2 => cases hstep
  case h_1 due hdue =>
    obtain ⟨-, hclose⟩ := Option.ite_none_right_eq_some.1 hstep
    let ended : Running := { c with phase := .closed c.hasBegun, errand := none }
    have hconnections : (r.close c).connections = (r.update ended).connections := by
      rw [close]
      split
      · cases downNotice c.spec.role c.id <;> rfl
      · rfl
    refine ⟨ended, ?_, rfl⟩
    rw [← Option.some.inj hclose, connection?_congr hconnections]
    exact connection?_update_self (c := ended) hc

/-- What has been idle for too long has ended. -/
theorem closed_of_idles {r₀ : Relay} {events : List RelayEvent} {id : ConnectionId}
    (hrun : r₀.run events = some r) (hidles : .connection id .idles ∈ events) {d : Running}
    (hd : r.connection? id = some d) : d.isOpen = false := by
  obtain ⟨before, after, rfl⟩ := List.append_of_mem hidles
  rw [run_append] at hrun
  obtain ⟨mid, -, hrun⟩ := Option.bind_eq_some_iff.1 hrun
  obtain ⟨late, hstep, hrest⟩ := run_cons_eq_some_iff.1 hrun
  obtain ⟨ended, hended, hclosed⟩ := closed_of_step_idles hstep
  exact ((changes_of_run hrest).kept_of hended hd).closed hclosed

/-! ## When a command is routed -/

/-- The connection is registered, and its far end is there. -/
def runs (r : Relay) (id : ConnectionId) : Bool := (r.connection? id).any (·.phase = .running)

theorem runs_iff {c : Running} (hc : r.connection? c.id = some c) :
    r.runs c.id = true ↔ c.phase = .running := by
  rw [runs, hc, Option.any_some, decide_eq_true_eq]

theorem running_of_isOpen {c : Running} (hopen : c.isOpen = true) (hbegun : c.hasBegun = true) :
    c.phase = .running := by
  cases hphase : c.phase <;> simp_all [Running.isOpen, Running.hasBegun]

/-- An auxiliary link that is open later has been registered by the letters up to now exactly if it
runs now, and then it still does. -/
theorem Attached.told_iff_runs {given : List ConnectionId} (h : r.Attached config given)
    (hlater : r.Changes r') {d : Running} (hd : r'.connection? d.id = some d)
    (hendpoint : d.spec.endpoint = .auxiliary) :
    (d.isOpen = true ∧ r.messages.foldl d.connection.told false = true) ↔
      (r.runs d.id = true ∧ r'.runs d.id = true) := by
  rw [runs_iff hd]
  constructor
  · rintro ⟨hopen, htold⟩
    obtain ⟨link, hlink, hsame, hphase⟩ := h.running_of_told hendpoint htold
    have hid : link.id = d.id := congrArg Connection.id hsame
    have hkept := hlater.kept_of hlink (hid ▸ hd)
    refine ⟨?_, running_of_isOpen hopen (hkept.begun (by rw [Running.hasBegun, hphase]))⟩
    rwa [← hid, runs_iff hlink]
  · rintro ⟨hruns, hphase⟩
    obtain ⟨link, hlink, hrunning⟩ := (Option.any_eq_true _ _).1 hruns
    have hid := id_of_connection? hlink
    have hsame : link.connection = d.connection := by
      rw [Running.connection, Running.connection, hid, (hlater.kept_of hlink hd).spec_eq]
    rw [← hid] at hlink
    rw [← hsame, h.orderly.reached.told_iff hlink]
    exact ⟨by rw [Running.isOpen, hphase], of_decide_eq_true hrunning⟩

/-- What has been registered and runs later runs now. -/
theorem Changes.runs (h : r.Changes r') {c : Running} (hc : r.connection? c.id = some c)
    (hbegun : c.hasBegun = true) (hruns : r'.runs c.id = true) : r.runs c.id = true := by
  obtain ⟨c', hc', hkept⟩ := h.kept hc
  have hid : c'.id = c.id := id_of_connection? hc'
  rw [← hid] at hc' hruns
  have hphase := (runs_iff hc').1 hruns
  have hopen : c.isOpen = true := by
    refine Bool.of_not_eq_false fun hclosed ↦ ?_
    have hgone := hkept.closed hclosed
    simp [Running.isOpen, hphase] at hgone
  exact (runs_iff hc).2 (running_of_isOpen hopen hbegun)

/-- **An auxiliary link to which the far end does nothing runs until it is idle for too long.** -/
theorem runs_iff_notMem_idles {host : Host} {answers : List Bool} {r₀ : Relay}
    {events : List RelayEvent} (hstart : (Startup.ofConfig config host answers).outcome = .ok r₀)
    (hrun : r₀.run events = some r) {d : Running} (hd : r.connection? d.id = some d)
    (hendpoint : d.spec.endpoint = .auxiliary) (hbegun : d.hasBegun = true)
    (hspared : ∀ e ∈ events, ¬ e.Disturbs d.id) :
    r.runs d.id = true ↔ .connection d.id .idles ∉ events := by
  rw [runs_iff hd]
  constructor
  · intro hruns hidles
    have hgone := closed_of_idles hrun hidles hd
    simp [Running.isOpen, hruns] at hgone
  · intro hnever
    refine Decidable.byContradiction fun hnot ↦ ?_
    have hclosed : d.phase = .closed true := by
      cases hphase : d.phase <;> simp_all [Running.hasBegun]
    rcases (endedBy_of_run hstart hrun hd hendpoint).closed hclosed with hidles | ⟨e, he, hdisturbs⟩
    · exact hnever hidles
    · exact hspared e he hdisturbs

/-- When the router comes to a letter, it has taken all that were posted before it, and no others. -/
theorem Changes.next_letter (h : r.Changes r') {letter : Letter} {before : Relay}
    (hposted : r.mail.posted = before.mail.posted ++ [letter])
    (htaken : r'.mail.taken = before.mail.posted.length) :
    r'.mail.posted[r'.mail.taken]? = some letter ∧ r'.handled = before.messages := by
  have hposted' := h.posted_eq
  rw [hposted, List.append_assoc] at hposted'
  constructor
  · rw [htaken, hposted', List.getElem?_append_right (Nat.le_refl _), Nat.sub_self]
    rfl
  · rw [handled, htaken, hposted', List.take_left, messages]

/-- **A command that is passed on goes to the auxiliary links that run both when it is posted and when
it is routed.**

Whoever has a command to pass on can post it, and there is an auxiliary link that is counted on. When
the router comes to the command, all of it is handed to each auxiliary link that has run from the one
moment to the other, and nothing to any other. Unless the far end does something to the link that is
counted on, that link gets the command exactly if it has not ended of idleness by then. -/
theorem forwarded_exact {host : Host} {answers : List Bool} {r₀ : Relay} {events : List RelayEvent}
    {address : String} {port auxPort : UInt16} {c : Running} {line : Bytes}
    (hstart : (Startup.ofConfig config host answers).outcome = .ok r₀)
    (hdemand : config.instrument = .rsn address port auxPort .onDemand)
    (hrun : r₀.run events = some r) (hc : r.connection? c.id = some c)
    (herrand : c.errand = some (.answering (.forward line))) :
    ∃ (link : Running) (r₁ : Relay), r.aux.current = some link.id ∧
      r.connection? link.id = some link ∧ link.spec.endpoint = .auxiliary ∧
      r.step (.connection c.id .answers) = some r₁ ∧
      ∀ later r₂, r₁.run later = some r₂ → r₂.mail.taken = r.mail.posted.length →
        ∃ (r₃ : Relay) (pieces : List Bytes), r₂.step .routes = some r₃ ∧ pieces.flatten = line ∧
          (∀ d : Running, r₂.connection? d.id = some d → d.spec.endpoint = .auxiliary →
            r₃.exchange.deliveredTo d.id = r₂.exchange.deliveredTo d.id ++
              if r.runs d.id = true ∧ r₂.runs d.id = true then pieces else []) ∧
          (r₂.runs link.id = true → r.runs link.id = true) ∧
          ((∀ e ∈ events ++ .connection c.id .answers :: later, ¬ e.Disturbs link.id) →
            (r₂.runs link.id = true ↔
              .connection link.id .idles ∉ events ++ .connection c.id .answers :: later)) := by
  obtain ⟨hattached, -⟩ := attached_of_run hstart hdemand hrun
  have hreached := hattached.orderly.reached
  obtain ⟨id, hcurrent⟩ := (vouched_of_run hstart hdemand hrun).forward c.id c line hc herrand
  obtain ⟨link, hlink, hendpoint, hbegun⟩ := hattached.current id hcurrent
  obtain rfl := id_of_connection? hlink
  have hphase := hattached.orderly.running c.id c hc (by simp [herrand])
  have hstep := step_answers hc hphase herrand
  refine ⟨link, _, hcurrent, hlink, hendpoint, hstep, fun later r₂ hlater htaken ↦ ?_⟩
  -- Nobody comes between the letters before the command and the command.
  obtain ⟨hletter, hhandled⟩ := (changes_of_run hlater).next_letter rfl htaken
  obtain ⟨r₃, hroutes⟩ := exists_routes (List.getElem?_eq_some_iff.1 hletter).1
  have hchanges : r.Changes r₂ := (changes_of_step hstep).trans (changes_of_run hlater)
  refine ⟨r₃, _, hroutes, flatten_payloads (.forward line) r.stamp, ?_, hchanges.runs hlink hbegun,
    ?_⟩
  · intro d hd hdendpoint
    obtain ⟨letter, hnext, hdelivered⟩ := (hreached.changes hchanges).deliveredTo_routes hroutes hd
    obtain rfl := Option.some.inj (hletter.symm.trans hnext)
    rw [hdelivered, hhandled, RouterMessage.packets, flatMap_renderings_forward hdendpoint]
    simp only [hattached.told_iff_runs hchanges hd hdendpoint]
  · intro hspared
    have hall : r₀.run (events ++ .connection c.id .answers :: later) = some r₂ := by
      rw [run_append, hrun]
      exact run_cons_eq_some_iff.2 ⟨_, hstep, hlater⟩
    obtain ⟨link₂, hlink₂, hkept⟩ := hchanges.kept hlink
    have hid : link₂.id = link.id := id_of_connection? hlink₂
    rw [← hid] at hlink₂ hspared ⊢
    exact runs_iff_notMem_idles hstart hall hlink₂ (hkept.spec_eq ▸ hendpoint)
      (hkept.begun hbegun) hspared

/-- A link is opened for a command and gets it. -/
theorem forwarded_to_new_link :
    ∃ (r₀ r r₁ r₂ r₃ : Relay) (events later : List RelayEvent) (pieces : List Bytes),
      r₀.run events = some r ∧ r.step (.connection ⟨0⟩ .answers) = some r₁ ∧
      r₁.run later = some r₂ ∧ r₂.step .routes = some r₃ ∧
      pieces.flatten = Bytes.ofText "getver\n" ∧ r₂.runs ⟨1⟩ = true ∧
      r₃.exchange.deliveredTo ⟨1⟩ = r₂.exchange.deliveredTo ⟨1⟩ ++ pieces := by
  let config : Config := { refdes := "X", instrument := .rsn "host" 2101 2102 .onDemand }
  let command : Bytes := Bytes.ofText "getver\n"
  let events : List RelayEvent := [.visit .command, .connection ⟨0⟩ .begins,
    .connection ⟨0⟩ (.receives command), .connection ⟨0⟩ .takes, .connection ⟨0⟩ .claims,
    .connection ⟨0⟩ .reaches, .connection ⟨1⟩ .begins, .connection ⟨0⟩ .isReady]
  let later : List RelayEvent := List.replicate 3 .routes
  have hafter : ((Startup.ofConfig config .willing []).after events).any (fun r ↦
      (r.connection? ⟨0⟩).any fun c ↦ (r.step (.connection ⟨0⟩ .answers)).any fun r₁ ↦
        (r₁.run later).any fun r₂ ↦ (r₂.connection? ⟨1⟩).any fun d ↦
          c.errand = some (.answering (.forward command)) ∧
            r₂.mail.taken = r.mail.posted.length ∧ r.aux.current = some ⟨1⟩ ∧
            d.spec.endpoint = .auxiliary) = true := by
    decide +kernel
  obtain ⟨r₀, r, hstart, hrun, h⟩ := Startup.exists_of_after hafter
  simp only [Option.any_eq_true, decide_eq_true_eq] at h
  obtain ⟨c, hc, r₁, hstep, r₂, hlater, d, hd, herrand, htaken, hcurrent, hendpoint⟩ := h
  have hid := id_of_connection? hc
  have hdid := id_of_connection? hd
  rw [← hid] at hc hstep
  rw [← hdid] at hd hcurrent
  obtain ⟨link, r₁', hlink, -, -, hstep', hroutes⟩ := forwarded_exact hstart rfl hrun hc herrand
  obtain rfl := Option.some.inj (hstep.symm.trans hstep')
  have hsame : d.id = link.id := Option.some.inj (hcurrent.symm.trans hlink)
  obtain ⟨r₃, pieces, hnext, hpieces, hhanded, hbefore, hspared⟩ := hroutes later r₂ hlater htaken
  have hruns : r₂.runs d.id = true := by
    rw [hsame] at hdid ⊢
    refine (hspared ?_).2 ?_
    · rw [hdid, hid]
      decide
    · rw [hdid, hid]
      decide
  rw [hid] at hstep
  have hgets := hhanded d hd hendpoint
  rw [if_pos ⟨hsame ▸ hbefore (hsame ▸ hruns), hruns⟩] at hgets
  rw [hdid] at hruns hgets
  exact ⟨r₀, r, r₁, r₂, r₃, events, later, pieces, hrun, hstep, hlater, hnext, hpieces, hruns, hgets⟩

/-- A command is lost although the far end does nothing. The second command finds the link of the
first one open; then the link ends of idleness, and only then the command is posted. All letters are
routed, and the only auxiliary link that there ever was has been handed one of the two commands. -/
theorem command_lost_to_idleness :
    let config : Config := { refdes := "X", instrument := .rsn "host" 2101 2102 .onDemand }
    let command : Bytes := Bytes.ofText "getver\n"
    let asks : List RelayEvent := [.connection ⟨0⟩ (.receives command), .connection ⟨0⟩ .takes,
      .connection ⟨0⟩ .claims]
    let opens : List RelayEvent := [.connection ⟨0⟩ .reaches, .connection ⟨1⟩ .begins,
      .connection ⟨0⟩ .isReady, .connection ⟨0⟩ .answers, .routes, .routes, .routes, .routes,
      .connection ⟨1⟩ .writes]
    let late : List RelayEvent := [.elapse 5000000000 ⟨0⟩, .connection ⟨1⟩ .idles,
      .connection ⟨0⟩ .answers, .routes, .routes, .routes]
    let events : List RelayEvent := [.visit .command, .connection ⟨0⟩ .begins] ++ asks ++ opens
      ++ asks ++ late
    ∃ r₀ r, (Startup.ofConfig config .willing []).outcome = .ok r₀ ∧ r₀.run events = some r ∧
      r.mail.pending = [] ∧
      ((packetsOf r.mail.posted).filter (·.kind = .auxCommand)).map (·.payload)
        = [command, command] ∧
      (r.connections.filter (·.spec.endpoint = .auxiliary)).map (·.id) = [⟨1⟩] ∧
      r.exchange.deliveredTo ⟨1⟩ = [command] := by
  intro config command asks opens late events
  have hafter : ((Startup.ofConfig config .willing []).after events).any (fun r ↦
      r.mail.pending = [] ∧
        ((packetsOf r.mail.posted).filter (·.kind = .auxCommand)).map (·.payload)
          = [command, command] ∧
        (r.connections.filter (·.spec.endpoint = .auxiliary)).map (·.id) = [⟨1⟩] ∧
        r.exchange.deliveredTo ⟨1⟩ = [command]) = true := by
    decide +kernel
  obtain ⟨r₀, r, hstart, hrun, h⟩ := Startup.exists_of_after hafter
  exact ⟨r₀, r, hstart, hrun, of_decide_eq_true h⟩

end Relay

end InstrumentRelay
