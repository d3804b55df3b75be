import InstrumentRelay.Proofs.Observers
import InstrumentRelay.Proofs.Relay.Course
import InstrumentRelay.Proofs.Relay.Deeds

/-!
# A relay seen as a hub

Whatever happens to a relay, its monitor and its router go through a run of a hub
(`exists_hub_of_run`). What the hub still has to do about what the monitor has said is in the
letters of the monitor that the router has not taken (`Mirrors.due`), and the rest of what reaches
the two comes from connections. So what is shown of all runs of a hub holds of a relay at work.

What a connection does reaches the monitor and the router only in letters and in its loss
(`Beside`). The letters of an observer ask for nothing but its registration and the routing of
packets of unknown kind, and so everything that an observer does comes down to events of observers
(`exists_hub_of_step`). Leaving these out makes no difference to anyone else
(`Mirrors.exists_quiet`).
-/

namespace InstrumentRelay

/-- The letter is one in which the monitor says something. -/
def Letter.isBulletin (letter : Letter) : Bool :=
  letter.sender.isNone && letter.message.subject.isNone

theorem Mailbox.pending_post {α : Type} {m : Mailbox α} (h : m.taken ≤ m.posted.length)
    (messages : List α) : (m.post messages).pending = m.pending ++ messages :=
  List.drop_append_of_le_length h

namespace Hub

theorem run_moves (hub : Hub) (moves : List RouterMove) :
    hub.run (moves.map .moves) = some { hub with made := hub.made ++ moves } := by
  induction moves generalizing hub with
  | nil =>
    rw [List.append_nil]
    rfl
  | cons m rest ih =>
    have hrest := ih { hub with made := hub.made ++ [m] }
    rw [List.append_assoc] at hrest
    exact hrest

/-- The monitor has a turn. -/
theorem run_turns (hub : Hub) {now : Nat} {turn : MonitorTurn} {monitor : MonitorRun}
    (h : hub.monitor.step now turn = some monitor) (stamp : Timestamp) :
    hub.run [.turns now stamp turn] = some (hub.turned stamp turn monitor) := by
  rw [run, List.foldlM_cons, step, h]
  rfl

/-- The router does all that is due about a letter. -/
theorem run_proceeds (hub : Hub) {moves rest : List RouterMove} (h : hub.due = moves ++ rest) :
    hub.run (List.replicate moves.length .proceeds)
      = some { hub with due := rest, made := hub.made ++ moves } := by
  induction moves generalizing hub with
  | nil =>
    rw [List.append_nil, ← show hub.due = rest from h]
    rfl
  | cons m moves ih =>
    have hstep : hub.step .proceeds
        = some { hub with due := moves ++ rest, made := hub.made ++ [m] } := by
      rw [step, h]
      rfl
    have hrest := ih { hub with due := moves ++ rest, made := hub.made ++ [m] } rfl
    rw [List.append_assoc] at hrest
    rw [List.length_cons, List.replicate_succ, run, List.foldlM_cons, hstep]
    exact hrest

end Hub

namespace Relay

variable {r r' : Relay} {c : Running}

/-! ## What a connection does -/

/-- Monitor, router and clock do nothing. Letters are posted for this connection, and it may be
lost. -/
structure Beside (id : ConnectionId) (r r' : Relay) : Prop where
  monitor : r'.monitor = r.monitor
  clock : r'.clock = r.clock
  mail : ∃ messages : List RouterMessage, r'.mail = r.mail.post (messages.map (⟨some id, ·⟩))
  exchange : r'.exchange = r.exchange ∨ r'.exchange = r.exchange.step (.lost id)

theorem Beside.of_silent {id : ConnectionId} (hmonitor : r'.monitor = r.monitor)
    (hclock : r'.clock = r.clock) (hmail : r'.mail = r.mail)
    (hexchange : r'.exchange = r.exchange) : r.Beside id r' where
  monitor := hmonitor
  clock := hclock
  mail := ⟨[], by rw [hmail, List.map_nil, Mailbox.post, List.append_nil]⟩
  exchange := .inl hexchange

theorem beside_register (c : Running) : r.Beside c.id (r.register c) := by
  rw [register]
  cases upNotice c.spec.role c.id <;> exact ⟨rfl, rfl, ⟨[.register c.connection], rfl⟩, .inl rfl⟩

theorem beside_close (c : Running) : r.Beside c.id (r.close c) := by
  rw [close]
  by_cases hphase : c.phase = .running
  · rw [if_pos hphase]
    cases downNotice c.spec.role c.id <;>
      exact ⟨rfl, rfl, ⟨[.deregister c.connection], rfl⟩, .inr rfl⟩
  · rw [if_neg hphase]
    exact ⟨rfl, rfl, ⟨[], by rw [List.map_nil, Mailbox.post, List.append_nil]; rfl⟩, .inr rfl⟩

theorem beside_takeLine (c : Running) (line : Bytes) : r.Beside c.id (r.takeLine c line) := by
  have hposted (r' : Relay) (hmonitor : r'.monitor = r.monitor) (hclock : r'.clock = r.clock)
      (hmail : r'.mail = r.mail.post [⟨some c.id, .data (Packet.split .command r.stamp line)⟩])
      (hexchange : r'.exchange = r.exchange) : r.Beside c.id r' :=
    ⟨hmonitor, hclock, ⟨[.data (Packet.split .command r.stamp line)], hmail⟩, .inl hexchange⟩
  rw [takeLine]
  dsimp only
  split
  · exact hposted _ rfl rfl rfl rfl
  · split <;> exact hposted _ rfl rfl rfl rfl

theorem beside_claimAux (c : Running) (request : Request) :
    r.Beside c.id (r.claimAux c request) := by
  rw [claimAux]
  split
  · split <;> exact .of_silent rfl rfl rfl rfl
  · exact .of_silent rfl rfl rfl rfl

/-- **A connection posts letters and may be lost, and that is all the monitor and the router see of
it.** -/
theorem beside_of_stepConnection {e : ConnectionEvent} (h : r.stepConnection c e = some r') :
    r.Beside c.id r' := by
  cases e
  all_goals rw [stepConnection] at h
  case begins =>
    obtain ⟨-, h⟩ := Option.ite_none_right_eq_some.1 h
    cases h
    exact beside_register c
  case beginningFails | readFails | writeFails =>
    obtain ⟨-, h⟩ := Option.ite_none_right_eq_some.1 h
    cases h
    exact beside_close c
  case idles =>
    split at h
    case h_2 => cases h
    case h_1 =>
      obtain ⟨-, h⟩ := Option.ite_none_right_eq_some.1 h
      cases h
      exact beside_close c
  case answerFails n =>
    split at h
    case h_2 => cases h
    case h_1 reply _ _ =>
      dsimp only at h
      obtain ⟨-, h⟩ := Option.ite_none_right_eq_some.1 h
      cases h
      exact beside_close { c with
        written := c.written ++ ((reply.packets r.stamp).take n).map Packet.frame }
  case takes =>
    obtain ⟨-, h⟩ := Option.ite_none_right_eq_some.1 h
    split at h
    case h_1 =>
      cases h
      exact beside_close c
    case h_2 packets input _ =>
      cases h
      exact ⟨rfl, rfl, ⟨[.data packets], rfl⟩, .inl rfl⟩
    case h_3 line input _ =>
      cases h
      exact beside_takeLine { c with input := input } line
    case h_4 =>
      obtain ⟨-, h⟩ := Option.ite_none_right_eq_some.1 h
      cases h
      exact beside_close c
  case answers =>
    split at h
    case h_2 => cases h
    case h_1 reply _ _ =>
      cases h
      exact ⟨rfl, rfl, ⟨[.data (reply.packets r.stamp)], rfl⟩, .inl rfl⟩
  case claims =>
    split at h
    case h_2 => cases h
    case h_1 request _ _ =>
      cases h
      exact beside_claimAux c request
  case receives | hangsUp =>
    obtain ⟨-, h⟩ := Option.ite_none_right_eq_some.1 h
    cases h
    exact .of_silent rfl rfl rfl rfl
  case writes =>
    obtain ⟨-, h⟩ := Option.ite_none_right_eq_some.1 h
    split at h
    · cases h
      exact .of_silent rfl rfl rfl rfl
    · cases h
  case reaches | isRefused =>
    split at h
    · cases h
      exact .of_silent rfl rfl rfl rfl
    · cases h
  case isReady | isLost | timesOut =>
    split at h
    · try dsimp only at h
      obtain ⟨-, h⟩ := Option.ite_none_right_eq_some.1 h
      cases h
      exact .of_silent rfl rfl rfl rfl
    · cases h

/-! ## What the hub is like -/

/-- The hub is the monitor and the router of this relay. -/
structure Mirrors (r : Relay) (hub : Hub) : Prop where
  /-- The monitor is the same. -/
  monitor : hub.monitor.watch.monitor = r.monitor
  /-- What it has attended to is past. -/
  clock : hub.monitor.watch.clock ≤ r.clock
  /-- What it has said has been posted. -/
  emitted : hub.emitted = (r.mail.posted.filter (·.isBulletin)).flatMap (·.message.packets)
  /-- What is left to do about it is in the letters that have not been taken. -/
  due : hub.due = (r.mail.pending.filter (·.isBulletin)).flatMap (·.message.moves .standard)
  /-- The router has done the same. -/
  exchange : (RouterRun.start .standard).Reaches hub.made r.exchange
  /-- That is what it was to do about the letters it has taken. -/
  handles : Handles .standard r.handled hub.made

/-- What comes from a connection is no bulletin. -/
theorem filter_isBulletin_of_sender (id : ConnectionId) (messages : List RouterMessage) :
    (messages.map (Letter.mk (some id))).filter (·.isBulletin) = [] := by
  rw [List.filter_eq_nil_iff]
  intro letter hletter
  obtain ⟨m, -, rfl⟩ := List.mem_map.1 hletter
  exact Bool.false_ne_true

/-- What the monitor says is made of bulletins. -/
theorem filter_isBulletin_of_said (stamp : Timestamp) (said : List Bulletin) :
    ((said.map fun b ↦ RouterMessage.data (b.packets stamp)).map (Letter.mk none)).filter
        (·.isBulletin)
      = (said.map fun b ↦ RouterMessage.data (b.packets stamp)).map (Letter.mk none) := by
  rw [List.filter_eq_self]
  intro letter hletter
  obtain ⟨m, hm, rfl⟩ := List.mem_map.1 hletter
  obtain ⟨b, -, rfl⟩ := List.mem_map.1 hm
  rfl

namespace Mirrors

variable {hub : Hub}

/-- What neither the monitor nor the router notices makes no difference. -/
theorem congr (h : r.Mirrors hub) (hmonitor : r'.monitor = r.monitor)
    (hclock : r.clock ≤ r'.clock) (hmail : r'.mail = r.mail)
    (hexchange : r'.exchange = r.exchange) : r'.Mirrors hub where
  monitor := h.monitor.trans hmonitor.symm
  clock := Nat.le_trans h.clock hclock
  emitted := by rw [hmail, h.emitted]
  due := by rw [hmail, h.due]
  exchange := hexchange ▸ h.exchange
  handles := by rw [handled, hmail]; exact h.handles

/-- Letters that are no bulletins are posted. -/
theorem post (h : r.Mirrors hub) (hle : r.mail.taken ≤ r.mail.posted.length)
    {letters : List Letter} (hquiet : letters.filter (·.isBulletin) = []) :
    { r with mail := r.mail.post letters }.Mirrors hub where
  monitor := h.monitor
  clock := h.clock
  emitted := by
    rw [Mailbox.post, List.filter_append, hquiet, List.append_nil, h.emitted]
  due := by
    rw [Mailbox.pending_post hle, List.filter_append, hquiet, List.append_nil, h.due]
  exchange := h.exchange
  handles := by
    rw [handled_of_post (r := r) rfl hle]
    exact h.handles

/-- A connection is lost. -/
theorem lose (h : r.Mirrors hub) (id : ConnectionId) :
    { r with exchange := r.exchange.step (.lost id) }.Mirrors
      { hub with made := hub.made ++ [RouterMove.lost id] } where
  monitor := h.monitor
  clock := h.clock
  emitted := h.emitted
  due := h.due
  exchange := h.exchange.append (RouterRun.reaches_step r.exchange (.lost id))
  handles := by
    have hnone : Handles .standard [] [RouterMove.lost id] := rfl
    have hhandled := Ledger.handles_append h.handles hnone
    rw [List.append_nil] at hhandled
    exact hhandled

/-- The traffic is reported, which is no move. -/
theorem reports (h : r.Mirrors hub) {refdes : String} {nextReport : Nat} :
    { r with
      exchange := r.exchange.step (.report refdes)
      nextReport := nextReport }.Mirrors hub where
  monitor := h.monitor
  clock := h.clock
  emitted := h.emitted
  due := h.due
  exchange := by
    have hexchange := h.exchange.append (RouterRun.reaches_step r.exchange (.report refdes))
    rwa [RouterEvent.moves, List.append_nil] at hexchange
  handles := h.handles

/-- A connection does something. -/
theorem beside (h : r.Mirrors hub) (hledger : r.Ledger) {id : ConnectionId}
    (hbeside : r.Beside id r') :
    ∃ events hub', hub.run events = some hub' ∧ r'.Mirrors hub' ∧
      ∀ e ∈ events, e = .moves (RouterMove.lost id) := by
  obtain ⟨messages, hmail⟩ := hbeside.mail
  have hposted := h.post hledger.taken_le (filter_isBulletin_of_sender id messages)
  obtain hexchange | hexchange := hbeside.exchange
  · exact ⟨[], hub, rfl,
      hposted.congr hbeside.monitor (Nat.le_of_eq hbeside.clock.symm) hmail hexchange,
      fun _ he ↦ absurd he List.not_mem_nil⟩
  · exact ⟨[.moves (RouterMove.lost id)], _, rfl,
      (hposted.lose id).congr hbeside.monitor (Nat.le_of_eq hbeside.clock.symm) hmail hexchange,
      fun _ he ↦ List.mem_singleton.1 he⟩

/-- The router takes a letter. -/
theorem routes (h : r.Mirrors hub) (hledger : r.Ledger) {letter : Letter} {mail : Mailbox Letter}
    (htake : r.mail.take? = some (letter, mail)) :
    ∃ events hub', hub.run events = some hub' ∧
      { r with mail := mail, exchange := r.exchange.step (.message letter.message) }.Mirrors hub' ∧
      (letter.isBulletin = false → events = (letter.message.moves .standard).map .moves) := by
  have hexchange := RouterRun.reaches_step r.exchange (.message letter.message)
  rw [hledger.table] at hexchange
  have hpending := Mailbox.pending_of_take? htake
  have hemitted := h.emitted
  have hhandled := Ledger.handles_append h.handles (Ledger.handles_message .standard letter.message)
  rw [← handled_of_take? htake] at hhandled
  obtain ⟨-, rfl⟩ := Mailbox.take?_eq_some_iff.1 htake
  cases hbulletin : letter.isBulletin with
  | true =>
    have hdue := h.due
    rw [hpending, List.filter_cons_of_pos hbulletin, List.flatMap_cons] at hdue
    exact ⟨_, _, hub.run_proceeds hdue,
      ⟨h.monitor, h.clock, hemitted, rfl, h.exchange.append hexchange, hhandled⟩,
      fun hfalse ↦ by cases hfalse⟩
  | false =>
    have hdue := h.due
    rw [hpending, List.filter_cons_of_neg (by simp [hbulletin])] at hdue
    exact ⟨_, _, hub.run_moves _,
      ⟨h.monitor, h.clock, hemitted, hdue, h.exchange.append hexchange, hhandled⟩, fun _ ↦ rfl⟩

/-- The monitor attends to something, and what it says is posted. -/
theorem publishes (h : r.Mirrors hub) (hle : r.mail.taken ≤ r.mail.posted.length)
    (turn : MonitorTurn) {e : MonitorEvent} (hturn : turn.event? = some e) {monitor : Monitor}
    {said : List Bulletin} (hstep : r.monitor.step r.clock e = some (monitor, said)) :
    ∃ hub', hub.run [.turns r.clock r.stamp turn] = some hub' ∧
      ({ r with monitor := monitor }.publish said).Mirrors hub' := by
  have hnext : hub.monitor.step r.clock turn = some
      ⟨⟨monitor, r.clock, Watch.noted monitor r.clock hub.monitor.watch.missedSince⟩,
        hub.monitor.said ++ said⟩ := by
    simp only [MonitorRun.step, hturn, Watch.step, if_pos h.clock, h.monitor, hstep,
      Option.map_some]
  refine ⟨_, hub.run_turns hnext r.stamp, rfl, Nat.le_refl _, ?_, ?_, h.exchange, ?_⟩
  · simp only [Hub.turned, List.drop_left, publish, Relay.post, Mailbox.post, List.filter_append,
      filter_isBulletin_of_said, List.flatMap_append, h.emitted, List.flatMap_map]
    rfl
  · simp only [Hub.turned, List.drop_left, publish, Relay.post, Mailbox.pending_post hle,
      List.filter_append, filter_isBulletin_of_said, List.flatMap_append, h.due, List.flatMap_map,
      RouterMessage.moves, List.flatMap_assoc]
  · rw [handled_of_post (r := r) rfl hle]
    exact h.handles

/-- The monitor is asked for the state. -/
theorem answers (h : r.Mirrors hub) (turn : MonitorTurn) (hturn : turn.event? = none) :
    ∃ hub', hub.run [.turns r.clock r.stamp turn] = some hub' ∧ r.Mirrors hub' := by
  have hnext : hub.monitor.step r.clock turn
      = some { hub.monitor with watch := { hub.monitor.watch with clock := r.clock } } := by
    simp only [MonitorRun.step, hturn, if_pos h.clock]
  refine ⟨_, hub.run_turns hnext r.stamp, h.monitor, Nat.le_refl _, ?_, ?_, h.exchange, h.handles⟩
  · rw [← h.emitted]
    simp [Hub.turned]
  · rw [← h.due]
    simp [Hub.turned, RouterMessage.moves]

/-- The monitor takes a letter. -/
theorem attends (h : r.Mirrors hub) (hle : r.mail.taken ≤ r.mail.posted.length)
    (letter : MonitorLetter) :
    ∃ hub', hub.run [.turns r.clock r.stamp (.letter letter)] = some hub' ∧
      (r.attend letter).Mirrors hub' := by
  cases letter with
  | notice notice => exact h.publishes hle (.letter (.notice notice)) rfl rfl
  | question asker =>
    obtain ⟨hub', hrun, hmirrors⟩ := h.answers (.letter (.question asker)) rfl
    refine ⟨hub', hrun, ?_⟩
    rw [attend]
    split
    · split
      · exact hmirrors.congr rfl (Nat.le_refl _) rfl rfl
      · exact hmirrors
    · exact hmirrors

/-- A link does something. -/
theorem of_stepLink (h : r.Mirrors hub) {index : Nat} {l : LinkRun} {e : LinkEvent}
    (hstep : r.stepLink index l e = some r') : r'.Mirrors hub := by
  unfold stepLink at hstep
  split at hstep
  case h_1 | h_2 =>
    cases hstep
    exact h.congr rfl (Nat.le_refl _) rfl rfl
  case h_3 =>
    obtain ⟨-, hset⟩ := Option.ite_none_right_eq_some.1 hstep
    cases hset
    exact h.congr rfl (Nat.le_refl _) rfl rfl
  case h_4 => cases hstep

end Mirrors

/-! ## What an observer does -/

/-- The event is something that one of these connections does, or it is about a letter from them. -/
def StemsFrom (r : Relay) (watching : ConnectionId → Bool) : RelayEvent → Prop
  | .connection id _ => watching id = true
  | .routes => ∃ id, (r.mail.take?.bind (·.1.sender)) = some id ∧ watching id = true
  | .attends => r.notices.take?.any (fun x ↦ (MonitorTurn.letter x.1).isObservers watching) = true
  | _ => False

/-- The letters of an observer are about the observer and about what it says. -/
theorem Reached.isObservers {config : Config} (h : Reached config r)
    {watching : ConnectionId → Bool} {letter : Letter} (hletter : letter ∈ r.mail.posted)
    {id : ConnectionId} (hsender : letter.sender = some id) (hid : watching id = true)
    (hspec : ∀ c, r.connection? id = some c → c.spec = ServerKind.sniff.spec) {m : RouterMove}
    (hm : m ∈ letter.message.moves .standard) : m.isObservers watching = true := by
  have hsubject {d : Connection} (hd : letter.message.subject = some d) :
      (watching d.id && decide (d.endpoint = .observer)) = true := by
    obtain ⟨howner, c, hc, rfl⟩ | ⟨hnone, -⟩ := h.ledger.subjects letter hletter d hd
    · obtain rfl := Option.some.inj (hsender.symm.trans howner)
      rw [hid, Running.connection, hspec c hc]
      rfl
    · cases hsender.symm.trans hnone
  cases hmessage : letter.message with
  | register d | deregister d =>
    rw [hmessage] at hm
    obtain rfl := List.mem_singleton.1 hm
    exact hsubject (by rw [hmessage]; rfl)
  | data packets =>
    rw [hmessage] at hm
    obtain ⟨p, hp, hserve⟩ := List.mem_flatMap.1 hm
    obtain ⟨target, htarget, rfl⟩ := List.mem_map.1 hserve
    obtain ⟨hnone, -⟩ | ⟨id', c, hsender', hc, hbrings⟩ :=
      h.brings hletter (p := p) (by rw [hmessage]; exact hp)
    · cases hsender.symm.trans hnone
    · obtain rfl := Option.some.inj (hsender.symm.trans hsender')
      rw [hspec c hc] at hbrings
      have hkind : p.kind = .unknown := hbrings
      rw [hkind] at htarget
      simp [RouterMove.isObservers, hkind, htarget]

/-! ## Steps and runs -/

/-- **Whatever happens to a relay happens to a hub. What stems from observers comes down to events
of observers.** -/
theorem exists_hub_of_step {config : Config} (hreached : Reached config r) {hub : Hub}
    (h : r.Mirrors hub) (watching : ConnectionId → Bool)
    (hwatching : ∀ id c, watching id = true → r.connection? id = some c →
      c.spec = ServerKind.sniff.spec)
    {e : RelayEvent} (hstep : r.step e = some r') :
    ∃ events hub', hub.run events = some hub' ∧ r'.Mirrors hub' ∧
      (r.StemsFrom watching e → ∀ x ∈ events, x.isObservers watching = true) := by
  have hledger := hreached.ledger
  have hunnoticed (hsame : r'.Mirrors hub) :
      ∃ events hub', hub.run events = some hub' ∧ r'.Mirrors hub' ∧
        (r.StemsFrom watching e → ∀ x ∈ events, x.isObservers watching = true) :=
    ⟨[], hub, rfl, hsame, fun _ _ hx ↦ absurd hx List.not_mem_nil⟩
  cases e with
  | elapse nanos stamp =>
    cases hstep
    exact hunnoticed (h.congr rfl (Nat.le_add_right _ _) rfl rfl)
  | visit server =>
    obtain ⟨-, hcreate⟩ := Option.ite_none_right_eq_some.1 hstep
    cases hcreate
    exact hunnoticed (h.congr rfl (Nat.le_refl _) rfl rfl)
  | connection id event =>
    obtain ⟨c, hc, hevent⟩ := Option.bind_eq_some_iff.1 hstep
    obtain ⟨events, hub', hrun, hmirrors, hevents⟩ :=
      h.beside hledger (beside_of_stepConnection hevent)
    refine ⟨events, hub', hrun, hmirrors, fun hid x hx ↦ ?_⟩
    rw [hevents x hx, id_of_connection? hc]
    exact hid
  | link index event =>
    obtain ⟨l, -, hevent⟩ := Option.bind_eq_some_iff.1 hstep
    exact hunnoticed (h.of_stepLink hevent)
  | routes =>
    obtain ⟨⟨letter, mail⟩, htake, hrouted⟩ := Option.bind_eq_some_iff.1 hstep
    cases hrouted
    obtain ⟨events, hub', hrun, hmirrors, hevents⟩ := h.routes hledger htake
    refine ⟨events, hub', hrun, hmirrors, fun ⟨id, hsender, hid⟩ x hx ↦ ?_⟩
    rw [htake] at hsender
    replace hsender : letter.sender = some id := hsender
    -- A letter from a connection is no bulletin, so the router's moves are events of their own.
    rw [hevents (by rw [Letter.isBulletin, hsender]; rfl)] at hx
    obtain ⟨m, hm, rfl⟩ := List.mem_map.1 hx
    have hletter := List.mem_of_getElem? (Mailbox.take?_eq_some_iff.1 htake).1
    exact hreached.isObservers hletter hsender hid (fun c ↦ hwatching id c hid) hm
  | attends =>
    obtain ⟨⟨letter, notices⟩, htake, hattended⟩ := Option.bind_eq_some_iff.1 hstep
    cases hattended
    have hothers : { r with notices := notices }.Mirrors hub :=
      h.congr rfl (Nat.le_refl _) rfl rfl
    obtain ⟨hub', hrun, hmirrors⟩ := hothers.attends hledger.taken_le letter
    refine ⟨_, hub', hrun, hmirrors, fun hstems x hx ↦ ?_⟩
    rw [StemsFrom, htake] at hstems
    rw [List.mem_singleton.1 hx]
    exact hstems
  | beats =>
    obtain ⟨⟨monitor, said⟩, hbeat, hpublished⟩ := Option.bind_eq_some_iff.1 hstep
    cases hpublished
    have hothers : { r with refreshed := r.refreshed ++ monitor.settings.services }.Mirrors hub :=
      h.congr rfl (Nat.le_refl _) rfl rfl
    obtain ⟨hub', hrun, hmirrors⟩ := hothers.publishes hledger.taken_le .beats rfl hbeat
    exact ⟨_, hub', hrun, hmirrors, False.elim⟩
  | expires =>
    obtain ⟨⟨monitor, said⟩, hexpired, hpublished⟩ := Option.bind_eq_some_iff.1 hstep
    cases hpublished
    obtain ⟨hub', hrun, hmirrors⟩ := h.publishes hledger.taken_le .expires rfl hexpired
    exact ⟨_, hub', hrun, hmirrors, False.elim⟩
  | reports =>
    obtain ⟨-, hreport⟩ := Option.ite_none_right_eq_some.1 hstep
    cases hreport
    exact hunnoticed h.reports
  | announces accepted =>
    obtain ⟨-, hannounced⟩ := Option.ite_none_right_eq_some.1 hstep
    cases hannounced
    exact hunnoticed (h.congr rfl (Nat.le_refl _) rfl rfl)
  | fileFails id =>
    obtain ⟨-, hfails⟩ := Option.ite_none_right_eq_some.1 hstep
    cases hfails
    exact ⟨[.moves (RouterMove.lost id)], _, rfl, h.lose id, False.elim⟩

/-- A fresh relay is like a fresh hub. -/
theorem mirrors_of_fresh {settings : MonitorSettings} (hmonitor : r.monitor = .start settings 0)
    (hmail : r.mail = .empty) (hexchange : r.exchange = .start .standard) :
    r.Mirrors (Hub.start settings 0) where
  monitor := hmonitor.symm
  clock := Nat.zero_le _
  emitted := by rw [hmail]; rfl
  due := by rw [hmail]; rfl
  exchange := hexchange ▸ .nil _
  handles := by rw [handled, hmail]; rfl

theorem mirrors_of_addFiles {r : Relay} {hub : Hub} (h : r.Mirrors hub)
    (hle : r.mail.taken ≤ r.mail.posted.length) (files : List (Endpoint × LogFile)) :
    (files.foldl Startup.addFile r).Mirrors hub := by
  induction files generalizing r with
  | nil => exact h
  | cons file rest ih =>
    have hquiet :
        [Letter.mk none (.register ⟨⟨r.identities⟩, file.1⟩)].filter (·.isBulletin) = [] := rfl
    refine ih ((h.post hle hquiet).congr rfl (Nat.le_refl _) rfl rfl) (Nat.le_trans hle ?_)
    simp [Startup.addFile, newIdentity, Relay.post, Mailbox.post]

/-- A relay that has been started is like a hub that has been started. -/
theorem mirrors_of_start {config : Config} {host : Host} {answers : List Bool}
    (h : (Startup.ofConfig config host answers).outcome = .ok r) :
    ∃ settings, r.Mirrors (Hub.start settings 0) := by
  unfold Startup.ofConfig at h
  split at h
  · cases h
  · split at h
    · cases h
    · dsimp only at h
      split at h
      · cases h
      · cases h
        exact ⟨_, mirrors_of_addFiles (mirrors_of_fresh rfl rfl rfl) (Nat.le_refl _) _⟩

/-- **A relay that has been started goes through a run of a hub.** -/
theorem exists_hub_of_run {config : Config} {host : Host} {answers : List Bool} {r₀ : Relay}
    (hstart : (Startup.ofConfig config host answers).outcome = .ok r₀) :
    ∃ settings, ∀ (events : List RelayEvent) (r : Relay), r₀.run events = some r →
      ∃ hubEvents hub, (Hub.start settings 0).run hubEvents = some hub ∧ r.Mirrors hub := by
  obtain ⟨settings, hmirrors⟩ := mirrors_of_start hstart
  refine ⟨settings, fun events r hrun ↦ ?_⟩
  refine keeps_run hstart (P := fun _ r ↦ ∃ hubEvents hub,
    (Hub.start settings 0).run hubEvents = some hub ∧ r.Mirrors hub) ⟨[], _, rfl, hmirrors⟩ ?_ hrun
  rintro - e r r' hreached - hstep ⟨hubEvents, hub, hhub, h⟩
  obtain ⟨more, hub', hmore, h', -⟩ :=
    exists_hub_of_step hreached h (fun _ ↦ false) (by simp) hstep
  refine ⟨hubEvents ++ more, hub', ?_, h'⟩
  rw [Hub.run, List.foldlM_append, ← Hub.run, hhub]
  exact hmore

/-- **A relay works as if there were no observers.** A hub can go through the same without them. Its
monitor is the same but for the visitors and has said the same, and every connection that does not
get everything has been handed the same. -/
theorem Mirrors.exists_quiet {hub : Hub} (h : r.Mirrors hub) (hledger : r.Ledger)
    {settings : MonitorSettings} {events : List HubEvent}
    (hrun : (Hub.start settings 0).run events = some hub) (watching : ConnectionId → Bool) :
    ∃ quiet, (Hub.start settings 0).run (events.filter (!·.isObservers watching)) = some quiet ∧
      r.monitor.Resembles quiet.monitor.watch.monitor ∧
      quiet.emitted = (r.mail.posted.filter (·.isBulletin)).flatMap (·.message.packets) ∧
      ∀ run, (RouterRun.start .standard).Reaches quiet.made run →
        ∀ c, r.connection? c.id = some c → c.connection.Chooses → watching c.id = false →
          r.exchange.deliveredTo c.id = run.deliveredTo c.id := by
  obtain ⟨quiet, hquiet, hagrees⟩ := Hub.exists_run_without (Hub.agrees_refl watching _) hrun
  refine ⟨quiet, hquiet, h.monitor ▸ hagrees.monitor, hagrees.emitted ▸ h.emitted,
    fun run hreaches c hc hchooses hid ↦ ?_⟩
  exact RouterRun.deliveredTo_eq_of_filter h.exchange hreaches hagrees.made hchooses hid
    (hledger.sole hc h.handles)

end Relay

end InstrumentRelay
