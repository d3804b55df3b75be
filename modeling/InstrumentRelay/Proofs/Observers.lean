import InstrumentRelay.Proofs.Routing.Standard
import InstrumentRelay.Proofs.Timer

/-!
# Observers are passive

An observer is handed every packet. It is registered like everyone else, the monitor is told of it
like of any visitor, and the bytes that it brings are made into packets of unknown kind and routed.
None of this must be noticed by anyone else.

Monitor and router depend on each other in one direction only: what the monitor says is routed. A
`Hub` is the two of them with what is on its way from the one to the other. What else reaches them,
the letters to the monitor and the moves of the router about the messages of others, may be
anything, and so may be the points at which connections are lost.

Two runs of a hub that differ in events of observers are both compared with the run in which these
events are left out (`exists_run_without`). That run is possible, and it differs from the others
only in what the monitor notes about visitors, which it never looks at, and in the moves that are
about observers or logs (`Agrees`).
-/

namespace InstrumentRelay

/-! ## The monitor and the router -/

/-- The monitor and the router side by side. -/
structure Hub where
  /-- The monitor, and what it has said. -/
  monitor : MonitorRun
  /-- The packets in which it has said it, in order. -/
  emitted : List Packet
  /-- What it has answered to those who asked for the state, in order. -/
  answers : List LinkState
  /-- What the router has still to do about these packets. -/
  due : List RouterMove
  /-- What the router has done, in order, and which connections were lost in between. -/
  made : List RouterMove

/-- What can happen to the monitor and the router. -/
inductive HubEvent where
  /-- The monitor attends to something, at this moment and at this time of day. -/
  | turns (now : Nat) (stamp : Timestamp) (turn : MonitorTurn)
  /-- The router makes a move about a message from elsewhere, or a connection is lost. -/
  | moves (m : RouterMove)
  /-- The router makes the next move about what the monitor has said. -/
  | proceeds
  deriving DecidableEq

/-- The answer to a question. -/
def MonitorTurn.answer? (m : Monitor) : MonitorTurn → Option LinkState
  | letter (.question _) => some m.state
  | _ => none

namespace Hub

/-- A monitor that has just been started, and a router with nothing to do. -/
def start (settings : MonitorSettings) (now : Nat) : Hub := ⟨.start settings now, [], [], [], []⟩

/-- The monitor has had its turn. -/
def turned (h : Hub) (stamp : Timestamp) (turn : MonitorTurn) (monitor : MonitorRun) : Hub :=
  let packets := (monitor.said.drop h.monitor.said.length).flatMap (·.packets stamp)
  { h with
    monitor := monitor
    emitted := h.emitted ++ packets
    answers := h.answers ++ (turn.answer? monitor.watch.monitor).toList
    due := h.due ++ (RouterMessage.data packets).moves .standard }

/-- One event, if it can happen then. -/
def step (h : Hub) : HubEvent → Option Hub
  | .turns now stamp turn => (h.monitor.step now turn).map (h.turned stamp turn)
  | .moves m => some { h with made := h.made ++ [m] }
  | .proceeds =>
    match h.due with
    | [] => none
    | m :: rest => some { h with due := rest, made := h.made ++ [m] }

/-- Several events, if all of them can happen. -/
def run (h : Hub) (events : List HubEvent) : Option Hub := events.foldlM step h

theorem run_cons_eq_some {h last : Hub} {e : HubEvent} {rest : List HubEvent}
    (hrun : h.run (e :: rest) = some last) :
    ∃ next, h.step e = some next ∧ next.run rest = some last := by
  rw [run, List.foldlM_cons] at hrun
  exact Option.bind_eq_some_iff.1 hrun

end Hub

/-! ## What observers do -/

/-- The move is about one of these connections as an observer, or about what observers say. -/
def RouterMove.isObservers (watching : ConnectionId → Bool) : RouterMove → Bool
  | register c => watching c.id && decide (c.endpoint = .observer)
  | deregister c => watching c.id && decide (c.endpoint = .observer)
  | serve p target =>
    decide (p.kind = .unknown) && decide (target ∈ RouteTable.standard.targetsFor .unknown)
  | lost id => watching id

/-- The monitor is told that one of these connections has come or left. -/
def MonitorTurn.isObservers (watching : ConnectionId → Bool) : MonitorTurn → Bool
  | letter (.notice (.visitorUp id)) => watching id
  | letter (.notice (.visitorDown id)) => watching id
  | _ => false

/-- The event comes from these connections, which are those of observers. -/
def HubEvent.isObservers (watching : ConnectionId → Bool) : HubEvent → Bool
  | turns _ _ turn => turn.isObservers watching
  | moves m => m.isObservers watching
  | proceeds => false

/-! ## The monitor does not look at visitors -/

namespace Monitor

/-- The same but for the visitors. -/
def Resembles (m m' : Monitor) : Prop := ∃ visitors, m' = { m with visitors := visitors }

theorem Resembles.symm {m m' : Monitor} (h : m.Resembles m') : m'.Resembles m := by
  obtain ⟨visitors, rfl⟩ := h
  exact ⟨m.visitors, rfl⟩

theorem Resembles.trans {m m' m'' : Monitor} (h : m.Resembles m') (h' : m'.Resembles m'') :
    m.Resembles m'' := by
  obtain ⟨visitors, rfl⟩ := h
  obtain ⟨visitors', rfl⟩ := h'
  exact ⟨visitors', rfl⟩

theorem apply_visitors (m : Monitor) (visitors : List ConnectionId) (now : Nat)
    (effect : Option Effect) :
    ({ m with visitors := visitors } : Monitor).apply now effect
      = ({ (m.apply now effect).1 with visitors := visitors }, (m.apply now effect).2) := by
  unfold apply
  split <;> rfl

/-- Who visits makes no difference to what comes of an event. -/
theorem Resembles.step {m m' : Monitor} {now : Nat} {e : MonitorEvent}
    {result : Monitor × List Bulletin} (h : m.Resembles m') (hstep : m.step now e = some result) :
    ∃ next, m'.step now e = some (next, result.2) ∧ result.1.Resembles next := by
  obtain ⟨visitors, rfl⟩ := h
  cases e with
  | hears notice =>
    obtain rfl := Option.some.inj hstep
    cases notice with
    | instrumentUp id =>
      have happly := apply_visitors { m with presence := (m.presence.up id).1 } visitors now
        (m.presence.up id).2
      exact ⟨_, congrArg some happly, visitors, rfl⟩
    | instrumentDown id =>
      have happly := apply_visitors { m with presence := (m.presence.down id).1 } visitors now
        (m.presence.down id).2
      exact ⟨_, congrArg some happly, visitors, rfl⟩
    | visitorUp id | visitorDown id => exact ⟨_, rfl, _, rfl⟩
  | expires =>
    obtain ⟨t, ht, hdue⟩ := exists_timer_of_expires hstep
    have hexpires (m : Monitor) (ht : m.timer = some t) :
        m.step now .expires = some (m.expire now t.generation) := by
      simp only [Monitor.step, ht, if_pos hdue]
    obtain rfl := Option.some.inj ((hexpires m ht).symm.trans hstep)
    rw [hexpires { m with visitors := visitors } ht]
    have happly := apply_visitors
      { m with presence := (m.presence.fired t.generation).1, timer := none } visitors now
      (m.presence.fired t.generation).2
    exact ⟨_, congrArg some happly, visitors, rfl⟩
  | beats =>
    simp only [Monitor.step] at hstep ⊢
    obtain ⟨hdue, hbeat⟩ := Option.ite_none_right_eq_some.1 hstep
    obtain rfl := Option.some.inj hbeat
    rw [if_pos hdue]
    exact ⟨_, rfl, visitors, rfl⟩

end Monitor

namespace MonitorRun

variable {r r' : MonitorRun} {now : Nat} {turn : MonitorTurn}

/-- A turn takes the clock to its moment. The monitor may have something to say. -/
theorem exists_said_of_step (h : r.step now turn = some r') :
    r.watch.clock ≤ now ∧ r'.watch.clock = now ∧ ∃ said, r'.said = r.said ++ said ∧
      ((∃ e, turn.event? = some e ∧
          r.watch.monitor.step now e = some (r'.watch.monitor, said)) ∨
        (turn.event? = none ∧ r'.watch.monitor = r.watch.monitor ∧ said = [])) := by
  obtain ⟨e, said, hevent, hstep, hsaid⟩ | ⟨hevent, hclock, rfl⟩ := step_eq_some h
  · obtain ⟨hle, hclock, hmonitor, -⟩ := Watch.step_eq_some hstep
    exact ⟨hle, hclock, said, hsaid, .inl ⟨e, hevent, hmonitor⟩⟩
  · exact ⟨hclock, rfl, [], (List.append_nil _).symm, .inr ⟨hevent, rfl, rfl⟩⟩

/-- A monitor that resembles another can have the same turn, if it is not too late for it, and says
the same. -/
theorem exists_step_of_resembles {k : MonitorRun} (h : r.step now turn = some r')
    (hk : r.watch.monitor.Resembles k.watch.monitor) (hclock : k.watch.clock ≤ now) :
    ∃ k' said, k.step now turn = some k' ∧ k'.watch.clock = now ∧
      r'.said = r.said ++ said ∧ k'.said = k.said ++ said ∧
      r'.watch.monitor.Resembles k'.watch.monitor := by
  obtain ⟨-, -, said, hsaid, ⟨e, hevent, hmonitor⟩ | ⟨hevent, hmonitor, rfl⟩⟩ :=
    exists_said_of_step h
  · obtain ⟨next, hnext, hresembles⟩ := hk.step hmonitor
    refine ⟨⟨⟨next, now, Watch.noted next now k.watch.missedSince⟩, k.said ++ said⟩, said, ?_, rfl,
      hsaid, rfl, hresembles⟩
    simp only [step, hevent, Watch.step, if_pos hclock, hnext, Option.map_some]
  · refine ⟨{ k with watch := { k.watch with clock := now } }, [], ?_, rfl, hsaid,
      (List.append_nil _).symm, ?_⟩
    · simp only [step, hevent, if_pos hclock]
    · rw [hmonitor]
      exact hk

/-- Notices of observers leave nothing behind but what is noted about visitors. -/
theorem resembles_of_isObservers {watching : ConnectionId → Bool} (h : r.step now turn = some r')
    (hturn : turn.isObservers watching = true) :
    r.watch.monitor.Resembles r'.watch.monitor ∧ r'.said = r.said ∧
      ∀ m, turn.answer? m = none := by
  obtain ⟨notice, rfl, hquiet⟩ : ∃ notice, turn = .letter (.notice notice) ∧
      ∀ m : Monitor, m.Resembles (m.notice now notice).1 ∧ (m.notice now notice).2 = [] := by
    unfold MonitorTurn.isObservers at hturn
    split at hturn
    · exact ⟨_, rfl, fun m ↦ ⟨⟨_, rfl⟩, rfl⟩⟩
    · exact ⟨_, rfl, fun m ↦ ⟨⟨_, rfl⟩, rfl⟩⟩
    · cases hturn
  obtain ⟨-, -, said, hsaid, ⟨e, hevent, hmonitor⟩ | ⟨hevent, -⟩⟩ := exists_said_of_step h
  · cases hevent
    have hnext : r.watch.monitor.notice now notice = (r'.watch.monitor, said) :=
      Option.some.inj hmonitor
    obtain ⟨hresembles, hnone⟩ := hquiet r.watch.monitor
    rw [hnext] at hresembles hnone
    refine ⟨hresembles, ?_, fun _ ↦ rfl⟩
    rw [hsaid, show said = [] from hnone, List.append_nil]
  · cases hevent

end MonitorRun

/-- Those whose states resemble each other give the same answers. -/
theorem MonitorTurn.answer?_of_resembles {m m' : Monitor} (h : m.Resembles m')
    (turn : MonitorTurn) : turn.answer? m' = turn.answer? m := by
  obtain ⟨visitors, rfl⟩ := h
  rfl

namespace Hub

variable {watching : ConnectionId → Bool} {h h' k : Hub}

/-! ## A run without observers -/

/-- Nobody but observers and logs can tell the two apart. -/
structure Agrees (watching : ConnectionId → Bool) (h k : Hub) : Prop where
  /-- The monitors are the same but for the visitors. -/
  monitor : h.monitor.watch.monitor.Resembles k.monitor.watch.monitor
  /-- It may be later for the first. -/
  clock : k.monitor.watch.clock ≤ h.monitor.watch.clock
  /-- The monitors have said the same. -/
  said : h.monitor.said = k.monitor.said
  /-- In the same packets. -/
  emitted : h.emitted = k.emitted
  /-- They have given the same answers. -/
  answers : h.answers = k.answers
  /-- The routers have the same to do about it. -/
  due : h.due = k.due
  /-- They have done the same for all others. -/
  made : h.made.filter (!·.isObservers watching) = k.made.filter (!·.isObservers watching)

theorem agrees_refl (watching : ConnectionId → Bool) (h : Hub) : h.Agrees watching h :=
  ⟨⟨_, rfl⟩, Nat.le_refl _, rfl, rfl, rfl, rfl, rfl⟩

/-- An event of observers can be left out. -/
theorem Agrees.of_isObservers (hagrees : h.Agrees watching k) {e : HubEvent}
    (he : e.isObservers watching = true) (hstep : h.step e = some h') : h'.Agrees watching k := by
  cases e with
  | proceeds => cases he
  | moves m =>
    cases hstep
    refine ⟨hagrees.monitor, hagrees.clock, hagrees.said, hagrees.emitted, hagrees.answers,
      hagrees.due, ?_⟩
    have hnone : [m].filter (!·.isObservers watching) = [] := by
      rw [List.filter_cons_of_neg (by simpa [HubEvent.isObservers] using he), List.filter_nil]
    rw [List.filter_append, hnone, List.append_nil, hagrees.made]
  | turns now stamp turn =>
    obtain ⟨r, hr, rfl⟩ := Option.map_eq_some_iff.1 hstep
    obtain ⟨hle, hclock, -⟩ := MonitorRun.exists_said_of_step hr
    obtain ⟨hresembles, hsaid, hanswer⟩ := MonitorRun.resembles_of_isObservers hr he
    refine ⟨hresembles.symm.trans hagrees.monitor, ?_, hsaid.trans hagrees.said, ?_, ?_, ?_,
      hagrees.made⟩
    · exact Nat.le_trans hagrees.clock (Nat.le_trans hle (Nat.le_of_eq hclock.symm))
    · rw [turned, hsaid, List.drop_length]
      exact (List.append_nil _).trans hagrees.emitted
    · rw [turned, hanswer]
      exact (List.append_nil _).trans hagrees.answers
    · rw [turned, hsaid, List.drop_length]
      exact (List.append_nil _).trans hagrees.due

/-- Any other event can happen as well without them. -/
theorem Agrees.step (hagrees : h.Agrees watching k) {e : HubEvent} (hstep : h.step e = some h') :
    ∃ k', k.step e = some k' ∧ h'.Agrees watching k' := by
  cases e with
  | proceeds =>
    rw [Hub.step] at hstep
    split at hstep
    · cases hstep
    · rename_i m rest hdue
      cases hstep
      refine ⟨{ k with due := rest, made := k.made ++ [m] }, ?_, hagrees.monitor, hagrees.clock,
        hagrees.said, hagrees.emitted, hagrees.answers, rfl, ?_⟩
      · rw [Hub.step, ← hagrees.due, hdue]
      · rw [List.filter_append, List.filter_append, hagrees.made]
  | moves m =>
    cases hstep
    refine ⟨_, rfl, hagrees.monitor, hagrees.clock, hagrees.said, hagrees.emitted,
      hagrees.answers, hagrees.due, ?_⟩
    rw [List.filter_append, List.filter_append, hagrees.made]
  | turns now stamp turn =>
    obtain ⟨r, hr, rfl⟩ := Option.map_eq_some_iff.1 hstep
    have hclock := Nat.le_trans hagrees.clock (MonitorRun.exists_said_of_step hr).1
    obtain ⟨k', said, hk', hnow, hsaid, hsaid', hresembles⟩ :=
      MonitorRun.exists_step_of_resembles hr hagrees.monitor hclock
    refine ⟨k.turned stamp turn k', by rw [Hub.step, hk', Option.map_some], hresembles,
      Nat.le_of_eq (hnow.trans (MonitorRun.exists_said_of_step hr).2.1.symm), ?_, ?_, ?_, ?_,
      hagrees.made⟩
    · exact hsaid.trans ((congrArg (· ++ said) hagrees.said).trans hsaid'.symm)
    · simp only [turned, hsaid, hsaid', List.drop_left, hagrees.emitted]
    · simp only [turned, turn.answer?_of_resembles hresembles, hagrees.answers]
    · simp only [turned, hsaid, hsaid', List.drop_left, hagrees.due]

/-- **A run is possible without its observers, and nobody else can tell.** -/
theorem exists_run_without (hagrees : h.Agrees watching k) {events : List HubEvent}
    (hrun : h.run events = some h') :
    ∃ k', k.run (events.filter (!·.isObservers watching)) = some k' ∧ h'.Agrees watching k' := by
  induction events generalizing h k with
  | nil =>
    cases hrun
    exact ⟨k, rfl, hagrees⟩
  | cons e rest ih =>
    obtain ⟨next, hstep, hrest⟩ := run_cons_eq_some hrun
    by_cases he : e.isObservers watching = true
    · rw [List.filter_cons_of_neg (by simpa using he)]
      exact ih (hagrees.of_isObservers he hstep) hrest
    · obtain ⟨k', hk', hnext⟩ := hagrees.step hstep
      obtain ⟨last, hlast, hagrees'⟩ := ih hnext hrest
      refine ⟨last, ?_, hagrees'⟩
      rw [List.filter_cons_of_pos (by simpa using he), run, List.foldlM_cons, hk']
      exact hlast

end Hub

/-! ## What everyone else is handed -/

namespace Connection

variable {c : Connection} {watching : ConnectionId → Bool}

/-- The connection is none of those that get everything. -/
def Chooses (c : Connection) : Prop := c.endpoint ∉ [.textLog, .packetLog, .observer]

instance (c : Connection) : Decidable c.Chooses := inferInstanceAs (Decidable (_ ∉ _))

/-- What observers do concerns nobody else. -/
theorem concerns_of_isObservers (hc : c.Chooses) (hid : watching c.id = false) {m : RouterMove}
    (hm : m.isObservers watching = true) : c.concerns m = false := by
  have hobserver : c.endpoint ≠ .observer := fun he ↦ hc (by simp [he])
  cases m with
  | register d | deregister d =>
    simp only [RouterMove.isObservers, Bool.and_eq_true, decide_eq_true_eq] at hm
    rw [concerns, decide_eq_false_iff_not]
    rintro rfl
    exact hobserver hm.2
  | lost id =>
    rw [concerns, decide_eq_false_iff_not]
    rintro rfl
    rw [RouterMove.isObservers, hid] at hm
    cases hm
  | serve p target =>
    simp only [RouterMove.isObservers, Bool.and_eq_true, decide_eq_true_eq] at hm
    rw [concerns, decide_eq_false_iff_not]
    intro he
    have hform := RouteTable.rendering_of_mem_standard hm.2
    rw [he] at hform
    cases hc' : c.endpoint <;> simp_all [Chooses, Endpoint.form?]

/-- What concerns the connection is left when everything about observers is left out. -/
theorem filter_concerns_of_filter (hc : c.Chooses) (hid : watching c.id = false)
    (moves : List RouterMove) :
    (moves.filter (!·.isObservers watching)).filter c.concerns = moves.filter c.concerns := by
  rw [List.filter_filter]
  refine List.filter_congr fun m _ ↦ ?_
  cases hm : m.isObservers watching with
  | false => rw [Bool.not_false, Bool.and_true]
  | true => rw [concerns_of_isObservers hc hid hm, Bool.false_and]

theorem Sole.of_filter {moves moves' : List RouterMove} (h : c.Sole moves)
    (hid : watching c.id = false)
    (hsame : moves.filter (!·.isObservers watching) = moves'.filter (!·.isObservers watching)) :
    c.Sole moves' := by
  intro d hd hdid
  have hmem : RouterMove.register d ∈ moves'.filter (!·.isObservers watching) := by
    refine List.mem_filter.2 ⟨hd, ?_⟩
    rw [RouterMove.isObservers, hdid, hid]
    rfl
  rw [← hsame] at hmem
  exact h d (List.mem_filter.1 hmem).1 hdid

end Connection

/-- Routers that do the same but for observers hand the same to everyone who does not get
everything. -/
theorem RouterRun.deliveredTo_eq_of_filter {watching : ConnectionId → Bool} {c : Connection}
    {moves moves' : List RouterMove} {run run' : RouterRun}
    (hrun : (start .standard).Reaches moves run) (hrun' : (start .standard).Reaches moves' run')
    (hsame : moves.filter (!·.isObservers watching) = moves'.filter (!·.isObservers watching))
    (hc : c.Chooses) (hid : watching c.id = false) (hsole : c.Sole moves) :
    run.deliveredTo c.id = run'.deliveredTo c.id := by
  have hidle : ∀ m, c.concerns m = false → c.Idle m := fun m ↦ Connection.idle_of_concerns
  have hconcerns : moves.filter c.concerns = moves'.filter c.concerns := by
    rw [← Connection.filter_concerns_of_filter hc hid, hsame,
      Connection.filter_concerns_of_filter hc hid]
  rw [deliveredTo_of_start hrun hsole, deliveredTo_of_start hrun' (hsole.of_filter hid hsame),
    ← Connection.writes_filter hidle, ← Connection.writes_filter hidle false (c.lifetime moves'),
    ← Connection.lifetime_filter_concerns, ← Connection.lifetime_filter_concerns, hconcerns]

namespace Hub

/-- **Observers are passive.** Two runs of the monitor and the router that differ only in what
observers do, at whatever points and in whatever numbers they come, leave, are lost, and say
something: the monitor says the same in the same packets, it gives the same answers, and the router
hands the same to every connection that is not registered as a log or an observer, in the same
order. -/
theorem observers_passive {settings : MonitorSettings} {begun : Nat}
    {watching : ConnectionId → Bool} {events events' : List HubEvent} {hub hub' : Hub}
    {run run' : RouterRun}
    (hhub : (start settings begun).run events = some hub)
    (hhub' : (start settings begun).run events' = some hub')
    (hsame : events.filter (!·.isObservers watching) = events'.filter (!·.isObservers watching))
    (hrun : (RouterRun.start .standard).Reaches hub.made run)
    (hrun' : (RouterRun.start .standard).Reaches hub'.made run') :
    hub.monitor.said = hub'.monitor.said ∧ hub.emitted = hub'.emitted ∧
      hub.answers = hub'.answers ∧
      ∀ c : Connection, c.Chooses → watching c.id = false → c.Sole hub.made →
        run.deliveredTo c.id = run'.deliveredTo c.id := by
  obtain ⟨quiet, hquiet, h⟩ := exists_run_without (agrees_refl watching _) hhub
  obtain ⟨quiet', hquiet', h'⟩ := exists_run_without (agrees_refl watching _) hhub'
  rw [hsame, hquiet'] at hquiet
  cases hquiet
  exact ⟨h.said.trans h'.said.symm, h.emitted.trans h'.emitted.symm,
    h.answers.trans h'.answers.symm, fun c hc hid hsole ↦
      RouterRun.deliveredTo_eq_of_filter hrun hrun' (h.made.trans h'.made.symm) hc hid hsole⟩

/-- An observer comes before the instrument is connected, says something and is lost while the
status is routed. The driver is handed the same status as without it. -/
theorem observers_passive_around_status :
    let driver : Connection := ⟨⟨0⟩, .driver⟩
    let observer : Connection := ⟨⟨1⟩, .observer⟩
    let noise : Packet := ⟨.unknown, ⟨0⟩, [0x3F], by decide⟩
    let connects : HubEvent := .turns 5 ⟨0⟩ (.letter (.notice (.instrumentUp ⟨2⟩)))
    let asks : HubEvent := .turns 9 ⟨0⟩ (.letter (.question ⟨3⟩))
    let quiet : List HubEvent :=
      [.moves (.register driver), connects, .proceeds, .proceeds, .proceeds, .proceeds, asks]
    let watched : List HubEvent :=
      [.moves (.register driver), .turns 1 ⟨0⟩ (.letter (.notice (.visitorUp observer.id))),
        .moves (.register observer), connects, .proceeds,
        .moves (.serve noise ⟨.observer, .line⟩), .proceeds, .moves (.lost observer.id), .proceeds,
        .proceeds, .turns 7 ⟨0⟩ (.letter (.notice (.visitorDown observer.id))), asks]
    let watching : ConnectionId → Bool := (· = observer.id)
    watched.filter (!·.isObservers watching) = quiet.filter (!·.isObservers watching) ∧
    ∃ hub hub' run run',
      (start Watch.oneLink 0).run watched = some hub ∧
      (start Watch.oneLink 0).run quiet = some hub' ∧
      (RouterRun.start .standard).Reaches hub.made run ∧
      (RouterRun.start .standard).Reaches hub'.made run' ∧
      hub.answers = [.connected] ∧ hub'.answers = hub.answers ∧
      driver.Sole hub.made ∧ run.deliveredTo driver.id ≠ [] ∧
      run'.deliveredTo driver.id = run.deliveredTo driver.id := by
  intro driver observer noise connects asks quiet watched watching
  have hsame : watched.filter (!·.isObservers watching)
      = quiet.filter (!·.isObservers watching) := by
    decide +kernel
  let status : Packet := ⟨.status, ⟨0⟩, Bytes.ofText "CONNECTED", by decide⟩
  have hwatched : ((start Watch.oneLink 0).run watched).map (fun h ↦ (h.answers, h.made))
      = some ([.connected], [.register driver, .register observer, .serve status ⟨.textLog, .line⟩,
        .serve noise ⟨.observer, .line⟩, .serve status ⟨.packetLog, .frame⟩, .lost observer.id,
        .serve status ⟨.observer, .line⟩, .serve status ⟨.driver, .frame⟩]) := by decide +kernel
  have hquiet : ((start Watch.oneLink 0).run quiet).isSome := by decide +kernel
  obtain ⟨hub, hhub, hfacts⟩ := Option.map_eq_some_iff.1 hwatched
  obtain ⟨hub', hhub'⟩ := Option.isSome_iff_exists.1 hquiet
  obtain ⟨hanswers, hmade⟩ := Prod.mk.inj hfacts
  have hsole : driver.Sole hub.made := by
    rw [hmade]
    simp [Connection.Sole, driver, observer]
  have hsome : (hub.made.foldl RouterRun.move (.start .standard)).deliveredTo driver.id ≠ [] := by
    rw [hmade]
    decide +kernel
  have hrun := RouterRun.reaches_foldl (.start .standard) hub.made
  have hrun' := RouterRun.reaches_foldl (.start .standard) hub'.made
  obtain ⟨-, -, hsaid, hdelivered⟩ := observers_passive hhub hhub' hsame hrun hrun'
  exact ⟨hsame, hub, hub', _, _, hhub, hhub', hrun, hrun', hanswers, hsaid.symm, hsole, hsome,
    (hdelivered driver (by decide) (by decide) hsole).symm⟩

end Hub

end InstrumentRelay
