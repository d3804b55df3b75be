import Mathlib.Data.List.Induction
import InstrumentRelay.Proofs.Monitor
import InstrumentRelay.Proofs.Relay.History

/-!
# What a step does, in full

A `Change` says of a step what is needed to follow bytes and packets. It leaves open what a line is
answered with, what the monitor is told, and what is done about the auxiliary link. Here is the
whole of it. In a step at most one connection acts: `Deed` says what it does, with the errand that
it is on, what it posts, and what it tells the monitor; `Turn` says how it gets on with its errand,
and what becomes of the auxiliary link along with that. `Move` says what there is besides, and
`move_of_step` that there is nothing else.

A deed is an act (`Deed.act`), so whatever is known of acts is known of deeds.
-/

namespace InstrumentRelay

/-- The live links after the monitor has taken a letter. -/
def MonitorLetter.hear (live : List ConnectionId) : MonitorLetter → List ConnectionId
  | notice (.instrumentUp id) => if id ∈ live then live else id :: live
  | notice (.instrumentDown id) => live.erase id
  | _ => live

/-- Where only connections that run are busy, those that have just come are not. -/
theorem Running.errand_eq_none_of_starting {c : Running}
    (hbusy : c.errand ≠ none → c.phase = .running) (hphase : c.phase = .starting) :
    c.errand = none := by
  refine Decidable.byContradiction fun hne ↦ ?_
  cases hphase.symm.trans (hbusy hne)

namespace Relay

/-! ## One connection -/

/-- What comes of a line that has been taken: what the connection is busy with, and what it asks
the monitor. -/
inductive Starts (r : Relay) (id : ConnectionId) (line : Bytes) :
    Errand → List MonitorLetter → Prop
  /-- The line is no request. -/
  | faults {error : CommandError}
    (h : Request.ofLine r.config.instrument.catalogue line = .error error) :
    Starts r id line (.answering (.fault error)) []
  /-- The answer depends on nothing. -/
  | knows {request : Request}
    (h : Request.ofLine r.config.instrument.catalogue line = .ok request)
    (hneeds : request.needs r.config.instrument = .nothing) :
    Starts r id line (.answering (request.reply r.config (.ok r.monitor.state) (.ok ()))) []
  /-- The monitor is asked. -/
  | asks {request : Request}
    (h : Request.ofLine r.config.instrument.catalogue line = .ok request)
    (hneeds : request.needs r.config.instrument = .state) :
    Starts r id line (.asking request) [.question id]
  /-- The auxiliary link is needed. -/
  | queues {request : Request}
    (h : Request.ofLine r.config.instrument.catalogue line = .ok request)
    (hneeds : request.needs r.config.instrument = .auxiliary) :
    Starts r id line (.queueing request) []

/-- How a connection gets on with its errand, and what the auxiliary link is like afterwards. -/
inductive Turn (r : Relay) (e : RelayEvent) (id : ConnectionId) :
    Errand → AuxLink → Errand → Prop
  /-- The monitor has told the state. -/
  | told (request : Request) :
    Turn r e id (.asking request) r.aux
      (.answering (request.reply r.config (.ok r.monitor.state) (.ok ())))
  /-- There is an auxiliary link that is open. -/
  | reuses (request : Request) {link : Running} (hfree : r.aux.holder = none)
    (hlink : r.aux.current.bind r.connection? = some link) (hopen : link.isOpen = true) :
    Turn r e id (.queueing request) { r.aux with holder := none }
      (.answering (request.reply r.config (.ok r.monitor.state) (.ok ())))
  /-- There is none, and it starts to open one. -/
  | opens (request : Request) (deadline : Nat) (hfree : r.aux.holder = none)
    (hlink : ∀ link, r.aux.current.bind r.connection? = some link → link.isOpen = false) :
    Turn r e id (.queueing request) { r.aux with holder := some id }
      (.opening request deadline none)
  /-- The link that it opens has been registered. -/
  | gets (request : Request) (deadline : Nat) {made : ConnectionId} {link : Running}
    (hlink : r.connection? made = some link) (hbegun : link.hasBegun = true) :
    Turn r e id (.opening request deadline (some made)) { current := some made, holder := none }
      (.answering (request.reply r.config (.ok r.monitor.state) (.ok ())))
  /-- It gives up: no link has been made, or the one that was made has ended, or the time is up. -/
  | fails (request : Request) (deadline : Nat) (made : Option ConnectionId) (error : RelayError)
    (hmade : ∀ link, made = some link → e = .connection id .timesOut ∨
      ∀ d, r.connection? link = some d → d.isOpen = false) :
    Turn r e id (.opening request deadline made) { r.aux with holder := none }
      (.answering (request.reply r.config (.ok r.monitor.state) (.error error)))

/-- What a connection ends of that is registered and not busy. -/
inductive Ending (r : Relay) (c : Running) : ConnectionEvent → Prop
  /-- The peer has hung up, and all it sent has been taken. -/
  | finishes (h : c.hungUp = true) : Ending r c .takes
  /-- A line is too long. -/
  | chokes {error : LineTooLong} (h : c.item r.stamp = .error error) : Ending r c .takes
  /-- It cannot be read from any more. -/
  | readFails : Ending r c .readFails
  /-- It cannot be written to any more. -/
  | writeFails : Ending r c .writeFails
  /-- It has been idle for too long. -/
  | idles {due : Nat} (h : c.idleDue = some due) (hdue : due ≤ r.clock) : Ending r c .idles

/-- What a connection does: the messages that it posts, what it tells the monitor, what the
auxiliary link and the connection itself are like afterwards. -/
inductive Deed (r : Relay) (e : RelayEvent) :
    Running → List RouterMessage → List MonitorLetter → AuxLink → Running → Prop
  /-- It is registered. -/
  | begins {c : Running} (due : Option Nat) (h : c.phase = .starting) :
    Deed r e c [.register c.connection] ((upNotice c.spec.role c.id).toList.map .notice) r.aux
      { c with
        phase := .running
        written := c.written ++ c.spec.greeting.toList
        idleDue := due }
  /-- Bytes arrive. -/
  | receives {c : Running} (bytes : Bytes) (h : c.isFree = true) (hup : c.hungUp = false)
    (hwaits : c.input.isWaiting = true) :
    Deed r e c [] [] r.aux
      { c with input := c.input.feed bytes, received := c.received ++ bytes }
  /-- The peer hangs up. -/
  | hangsUp {c : Running} (h : c.isFree = true) (he : e = .connection c.id .hangsUp) :
    Deed r e c [] [] r.aux { c with hungUp := true }
  /-- It passes packets on. -/
  | passes {c : Running} {packets : List Packet} {input : Input} (due : Option Nat)
    (h : c.isFree = true) (hitem : c.item r.stamp = .ok (some (.packets packets), input)) :
    Deed r e c [.data packets] [] r.aux { c with input := input, idleDue := due }
  /-- It takes a line. -/
  | takesLine {c : Running} {line : Bytes} {input : Input} {errand : Errand}
    {notices : List MonitorLetter} (h : c.isFree = true)
    (hitem : c.item r.stamp = .ok (some (.line line), input))
    (hstarts : r.Starts c.id line errand notices) :
    Deed r e c [.data (Packet.split .command r.stamp line)] notices r.aux
      { c with input := input, errand := some errand }
  /-- It gets on with answering. -/
  | turns {c : Running} {errand errand' : Errand} {aux : AuxLink} (h : c.errand = some errand)
    (hturn : r.Turn e c.id errand aux errand') :
    Deed r e c [] [] aux { c with errand := some errand' }
  /-- It answers. -/
  | answers {c : Running} {reply : Reply} (due : Option Nat) (hphase : c.phase = .running)
    (h : c.errand = some (.answering reply)) :
    Deed r e c [.data (reply.packets r.stamp)] [] r.aux
      { c with
        errand := none
        written := c.written ++ (reply.packets r.stamp).map Packet.frame
        idleDue := due }
  /-- It writes the piece that is at the front of its queue. -/
  | writes {c : Running} {piece : Bytes} {rest : List Bytes} (due : Option Nat)
    (h : c.isFree = true) (hqueue : r.queue c = piece :: rest) :
    Deed r e c [] [] r.aux
      { c with sent := c.sent + 1, written := c.written ++ [piece], idleDue := due }
  /-- It ends: its greeting cannot be written, it is not busy, or an answer cannot be written. -/
  | ends {c : Running} (said : List Packet) (h : c.isOpen = true) (hsaid : c.MayHaveSaid said)
    (hcause : (c.phase = .starting ∧ e = .connection c.id .beginningFails) ∨
      (c.isFree = true ∧ ∃ event, e = .connection c.id event ∧ r.Ending c event) ∨
      ∃ n reply, e = .connection c.id (.answerFails n) ∧ c.phase = .running ∧
        c.errand = some (.answering reply)) :
    Deed r e c (if c.phase = .running then [.deregister c.connection] else [])
      (if c.phase = .running then (downNotice c.spec.role c.id).toList.map .notice else []) r.aux
      { c with
        phase := .closed c.hasBegun
        errand := none
        written := c.written ++ said.map Packet.frame }

theorem Deed.act {r : Relay} {e : RelayEvent} {c c' : Running} {messages : List RouterMessage}
    {notices : List MonitorLetter} {aux : AuxLink} (h : r.Deed e c messages notices aux c') :
    c.Act (r.queue c) messages c' := by
  cases h with
  | begins due h => exact .begins due h
  | receives bytes h hup hwaits => exact .receives bytes h hwaits
  | hangsUp h he => exact .hangsUp h
  | passes due h hitem => exact .passes r.stamp due h hitem
  | takesLine h hitem hstarts => exact .takesLine r.stamp _ h hitem
  | turns h hturn => exact .turns _ h
  | answers due hphase h => exact .answers r.stamp due hphase h
  | writes due h hqueue => exact .writes due h hqueue
  | ends said h hsaid hcause => exact .ends said h hsaid

/-- Whoever ends was not busy, or was about to answer. -/
theorem Deed.idle_or_answering {r : Relay} {e : RelayEvent} {c : Running}
    (hbusy : c.errand ≠ none → c.phase = .running)
    (hcause : (c.phase = .starting ∧ e = .connection c.id .beginningFails) ∨
      (c.isFree = true ∧ ∃ event, e = .connection c.id event ∧ r.Ending c event) ∨
      ∃ n reply, e = .connection c.id (.answerFails n) ∧ c.phase = .running ∧
        c.errand = some (.answering reply)) :
    c.errand = none ∨ ∃ n reply, e = .connection c.id (.answerFails n) ∧
      c.errand = some (.answering reply) := by
  rcases hcause with ⟨hphase, -⟩ | ⟨hfree, -⟩ | ⟨n, reply, he, -, herrand⟩
  · exact .inl (Running.errand_eq_none_of_starting hbusy hphase)
  · exact .inl (of_decide_eq_true hfree).2
  · exact .inr ⟨n, reply, he, herrand⟩

/-! ## The whole relay -/

/-- Nobody waits for an answer to this letter. -/
def Settles (r : Relay) : MonitorLetter → Prop
  | .notice _ => True
  | .question asker =>
    ∀ c request, r.connection? asker = some c → c.errand ≠ some (.asking request)

theorem settles_update {r : Relay} {c c' : Running} (hc : r.connection? c'.id = some c)
    (h : ∀ request, c'.errand ≠ some (.asking request)) :
    (r.update c').Settles (.question c'.id) := by
  intro d request hd
  rw [connection?_update_self hc] at hd
  rw [← Option.some.inj hd]
  exact h request

/-- The monitor takes no letter, or the next one. -/
def Hears (r r' : Relay) : Prop :=
  (r'.notices.taken = r.notices.taken ∧
      r'.monitor.presence.live = r.monitor.presence.live) ∨
    ∃ letter, r.notices.posted[r.notices.taken]? = some letter ∧
      r'.notices.taken = r.notices.taken + 1 ∧
      r'.monitor.presence.live = letter.hear r.monitor.presence.live ∧ r'.Settles letter

/-- Letters to the router, and after them letters to the monitor. -/
def batch (letters : List Letter) (notices : List MonitorLetter) : List Posting :=
  letters.map .router ++ notices.map .monitor

/-- What is posted in a step, and what the monitor takes in it. -/
structure Frame (r r' : Relay) (letters : List Letter) (notices : List MonitorLetter) : Prop where
  /-- The configuration stays. -/
  config : r'.config = r.config
  /-- These letters to the router are posted. -/
  posted : r'.mail.posted = r.mail.posted ++ letters
  /-- These letters to the monitor are posted. -/
  told : r'.notices.posted = r.notices.posted ++ notices
  /-- Those to the router are posted first. -/
  postings : r'.postings = r.postings ++ batch letters notices
  /-- The monitor takes no letter, or the next one. -/
  heard : r.Hears r'

/-- What happens in a step. -/
inductive Move (r : Relay) (e : RelayEvent) (r' : Relay) : Prop
  /-- No connection does anything. The monitor may have something to say. -/
  | aside {letters : List Letter} (hframe : r.Frame r' letters [])
    (hletters : ∀ letter ∈ letters, letter.sender = none ∧ letter.message.subject = none)
    (hconnections : r'.connections = r.connections) (haux : r'.aux = r.aux)
  /-- Someone comes to a server, or a link gets its connection. -/
  | comes {spec : ConnectionSpec} (hframe : r.Frame r' [] [])
    (hspec : (∃ server : ServerKind, spec = server.spec) ∨ ∃ l ∈ r.links, spec = l.link.spec)
    (hconnections : r'.connections = (r.create spec).2.connections) (haux : r'.aux = r.aux)
  /-- A connection does something. -/
  | acts {c c' : Running} {messages : List RouterMessage} {notices : List MonitorLetter}
    (hc : r.connection? c.id = some c) (hdeed : r.Deed e c messages notices r'.aux c')
    (hframe : r.Frame r' (messages.map (⟨some c.id, ·⟩)) notices)
    (hconnections : r'.connections = (r.update c').connections)
  /-- A connection that opens the auxiliary link has got as far as a new connection. -/
  | reaches {c : Running} {request : Request} {deadline : Nat} (hc : r.connection? c.id = some c)
    (herrand : c.errand = some (.opening request deadline none)) (hframe : r.Frame r' [] [])
    (hconnections : r'.connections = ((r.create (AuxMode.onDemand.spec r.config.timing)).2.update
      { c with errand := some (.opening request deadline (some ⟨r.identities⟩)) }).connections)
    (haux : r'.aux = r.aux)

section Connections

variable {r r' : Relay} {c : Running}

theorem batch_nil_right (letters : List Letter) : batch letters [] = letters.map .router :=
  List.append_nil _

/-- Letters are posted, to the router first, and the monitor takes none. -/
theorem Frame.posts {letters : List Letter} {notices : List MonitorLetter}
    (hconfig : r'.config = r.config) (hposted : r'.mail.posted = r.mail.posted ++ letters)
    (htold : r'.notices.posted = r.notices.posted ++ notices)
    (hpostings : r'.postings = r.postings ++ letters.map .router ++ notices.map .monitor)
    (htaken : r'.notices.taken = r.notices.taken) (hmonitor : r'.monitor = r.monitor) :
    r.Frame r' letters notices where
  config := hconfig
  posted := hposted
  told := htold
  postings := by rw [hpostings, List.append_assoc, batch]
  heard := .inl ⟨htaken, by rw [hmonitor]⟩

/-- Letters are posted to the router, and the monitor is not concerned. -/
theorem Frame.mails {letters : List Letter} (hconfig : r'.config = r.config)
    (hposted : r'.mail.posted = r.mail.posted ++ letters)
    (hpostings : r'.postings = r.postings ++ letters.map .router)
    (hnotices : r'.notices = r.notices) (hmonitor : r'.monitor = r.monitor) :
    r.Frame r' letters [] where
  config := hconfig
  posted := hposted
  told := by rw [hnotices, List.append_nil]
  postings := by rw [hpostings, batch_nil_right]
  heard := .inl ⟨by rw [hnotices], by rw [hmonitor]⟩

/-- Nothing is posted. The monitor may take a letter. -/
theorem Frame.hears (hconfig : r'.config = r.config) (hposted : r'.mail.posted = r.mail.posted)
    (htold : r'.notices.posted = r.notices.posted) (hpostings : r'.postings = r.postings)
    (hheard : r.Hears r') : r.Frame r' [] [] where
  config := hconfig
  posted := by rw [hposted, List.append_nil]
  told := by rw [htold, List.append_nil]
  postings := by rw [hpostings, batch_nil_right, List.map_nil, List.append_nil]
  heard := hheard

/-- Nothing is posted, and the monitor is not concerned. -/
theorem Frame.silent (hconfig : r'.config = r.config) (hposted : r'.mail.posted = r.mail.posted)
    (hpostings : r'.postings = r.postings) (hnotices : r'.notices = r.notices)
    (hmonitor : r'.monitor = r.monitor) : r.Frame r' [] [] :=
  .hears hconfig hposted (by rw [hnotices]) hpostings (.inl ⟨by rw [hnotices], by rw [hmonitor]⟩)

theorem move_register {e : RelayEvent} (hc : r.connection? c.id = some c)
    (hphase : c.phase = .starting) : r.Move e (r.register c) := by
  have hdeed : r.Deed e c _ _ r.aux _ :=
    .begins (c.spec.idleTimeout.map (r.clock + ·.wait.nanos)) hphase
  rw [register]
  cases hnotice : upNotice c.spec.role c.id with
  | none =>
    rw [hnotice] at hdeed
    exact .acts hc hdeed (.mails rfl rfl rfl rfl rfl) rfl
  | some notice =>
    rw [hnotice] at hdeed
    exact .acts hc hdeed (.posts rfl rfl rfl rfl rfl rfl) rfl

/-- To close a connection that may close is a deed. -/
theorem move_close {e : RelayEvent} (hc : r.connection? c.id = some c) (hopen : c.isOpen = true)
    {said : List Packet} (hsaid : c.MayHaveSaid said)
    (hcause : (c.phase = .starting ∧ e = .connection c.id .beginningFails) ∨
      (c.isFree = true ∧ ∃ event, e = .connection c.id event ∧ r.Ending c event) ∨
      ∃ n reply, e = .connection c.id (.answerFails n) ∧ c.phase = .running ∧
        c.errand = some (.answering reply)) :
    r.Move e (r.close { c with written := c.written ++ said.map Packet.frame }) := by
  have hdeed : r.Deed e c _ _ r.aux _ := .ends said hopen hsaid hcause
  by_cases hphase : c.phase = .running
  · rw [if_pos hphase, if_pos hphase] at hdeed
    rw [close, if_pos hphase]
    cases hnotice : downNotice c.spec.role c.id with
    | none =>
      rw [hnotice] at hdeed
      exact .acts hc hdeed (.mails rfl rfl rfl rfl rfl) rfl
    | some notice =>
      rw [hnotice] at hdeed
      exact .acts hc hdeed (.posts rfl rfl rfl rfl rfl rfl) rfl
  · rw [if_neg hphase, if_neg hphase] at hdeed
    rw [close, if_neg hphase]
    exact .acts hc hdeed (.silent rfl rfl rfl rfl rfl) rfl

/-- A connection that is not busy is closed. -/
theorem move_close_now {event : ConnectionEvent} (hc : r.connection? c.id = some c)
    (hfree : c.isFree = true) (hending : r.Ending c event) :
    r.Move (.connection c.id event) (r.close c) := by
  have hmove := move_close hc (isOpen_of_isFree hfree) (.inl rfl)
    (.inr (.inl ⟨hfree, event, rfl, hending⟩))
  rwa [List.map_nil, List.append_nil] at hmove

theorem move_takeLine {e : RelayEvent} {line : Bytes} {input : Input}
    (hc : r.connection? c.id = some c) (hfree : c.isFree = true)
    (hitem : c.item r.stamp = .ok (some (.line line), input)) :
    r.Move e (r.takeLine { c with input := input } line) := by
  have hdeed {errand : Errand} {notices : List MonitorLetter}
      (hstarts : r.Starts c.id line errand notices) :
      r.Deed e c _ notices r.aux { c with input := input, errand := some errand } :=
    .takesLine hfree hitem hstarts
  rw [takeLine]
  dsimp only
  split
  case h_1 error h =>
    exact .acts hc (hdeed (.faults h)) (.mails rfl rfl rfl rfl rfl) rfl
  case h_2 request h =>
    split
    case h_1 hneeds =>
      exact .acts hc (hdeed (.knows h hneeds)) (.mails rfl rfl rfl rfl rfl) rfl
    case h_2 hneeds => exact .acts hc (hdeed (.asks h hneeds)) (.posts rfl rfl rfl rfl rfl rfl) rfl
    case h_3 hneeds =>
      exact .acts hc (hdeed (.queues h hneeds)) (.mails rfl rfl rfl rfl rfl) rfl

theorem move_takes (hc : r.connection? c.id = some c)
    (h : r.stepConnection c .takes = some r') : r.Move (.connection c.id .takes) r' := by
  rw [stepConnection] at h
  obtain ⟨hfree, h⟩ := Option.ite_none_right_eq_some.1 h
  split at h
  case h_1 error hitem =>
    cases h
    exact move_close_now hc hfree (.chokes hitem)
  case h_2 packets input hitem =>
    cases h
    exact .acts hc (.passes (c.spec.idleTimeout.map (r.clock + ·.wait.nanos)) hfree hitem)
      (.mails rfl rfl rfl rfl rfl) rfl
  case h_3 line input hitem =>
    cases h
    exact move_takeLine hc hfree hitem
  case h_4 =>
    obtain ⟨hup, h⟩ := Option.ite_none_right_eq_some.1 h
    cases h
    exact move_close_now hc hfree (.finishes hup)

/-! ### The auxiliary link -/

/-- A connection gets on with its errand, and nothing is posted. -/
theorem move_turn {e : RelayEvent} {errand errand' : Errand} {aux : AuxLink}
    (hc : r.connection? c.id = some c) (h : c.errand = some errand)
    (hturn : r.Turn e c.id errand aux errand') :
    r.Move e { r.update { c with errand := some errand' } with aux := aux } :=
  .acts hc (.turns h hturn) (.silent rfl rfl rfl rfl rfl) rfl

theorem move_claimAux {e : RelayEvent} {request : Request} (hc : r.connection? c.id = some c)
    (h : c.errand = some (.queueing request)) (hfree : r.aux.holder = none) :
    r.Move e (r.claimAux c request) := by
  have hopens (hlink : ∀ link, r.aux.current.bind r.connection? = some link → link.isOpen = false) :
      r.Move e (claimAux.startOpening r c request) :=
    move_turn hc h (.opens request _ hfree hlink)
  rw [claimAux]
  split
  case h_1 link hlink =>
    split
    case isTrue hopen => exact move_turn hc h (.reuses request hfree hlink hopen)
    case isFalse hclosed =>
      refine hopens fun other hother ↦ ?_
      rw [← Option.some.inj (hlink.symm.trans hother)]
      exact Bool.of_not_eq_true hclosed
  case h_2 hnone =>
    refine hopens fun other hother ↦ ?_
    rw [hnone] at hother
    cases hother

theorem move_isReady (hc : r.connection? c.id = some c)
    (h : r.stepConnection c .isReady = some r') : r.Move (.connection c.id .isReady) r' := by
  rw [stepConnection] at h
  split at h
  case h_2 => cases h
  case h_1 request deadline id herrand =>
    obtain ⟨hready, h⟩ := Option.ite_none_right_eq_some.1 h
    cases h
    obtain ⟨link, hlink, hbegun⟩ := (Option.any_eq_true _ _).1 hready
    exact move_turn hc herrand (.gets request deadline hlink hbegun)

theorem move_isLost (hc : r.connection? c.id = some c)
    (h : r.stepConnection c .isLost = some r') : r.Move (.connection c.id .isLost) r' := by
  rw [stepConnection] at h
  split at h
  case h_2 => cases h
  case h_1 request deadline id herrand =>
    obtain ⟨hlost, h⟩ := Option.ite_none_right_eq_some.1 h
    cases h
    obtain ⟨link, hlink, hclosed⟩ := (Option.any_eq_true _ _).1 hlost
    refine move_turn hc herrand (.fails request deadline (some id) _ ?_)
    rintro _ ⟨rfl⟩
    refine .inr fun d hd ↦ ?_
    rw [← Option.some.inj (hlink.symm.trans hd)]
    simp_all

theorem move_timesOut (hc : r.connection? c.id = some c)
    (h : r.stepConnection c .timesOut = some r') : r.Move (.connection c.id .timesOut) r' := by
  rw [stepConnection] at h
  split at h
  case h_2 => cases h
  case h_1 request deadline made herrand =>
    dsimp only at h
    obtain ⟨-, h⟩ := Option.ite_none_right_eq_some.1 h
    cases h
    exact move_turn hc herrand (.fails request deadline made _ fun _ _ ↦ .inl rfl)

/-! ### All that a connection does -/

theorem move_answerFails {n : Nat} (hc : r.connection? c.id = some c)
    (h : r.stepConnection c (.answerFails n) = some r') :
    r.Move (.connection c.id (.answerFails n)) r' := by
  rw [stepConnection] at h
  split at h
  case h_2 => cases h
  case h_1 reply hphase herrand =>
    dsimp only at h
    obtain ⟨-, h⟩ := Option.ite_none_right_eq_some.1 h
    cases h
    exact move_close hc (by rw [Running.isOpen, hphase]) (.inr ⟨reply, r.stamp, n, herrand, rfl⟩)
      (.inr (.inr ⟨n, reply, rfl, hphase, herrand⟩))

theorem move_of_stepConnection {e : ConnectionEvent} (hc : r.connection? c.id = some c)
    (h : r.stepConnection c e = some r') : r.Move (.connection c.id e) r' := by
  cases e
  case takes => exact move_takes hc h
  case answerFails n => exact move_answerFails hc h
  case isReady => exact move_isReady hc h
  case isLost => exact move_isLost hc h
  case timesOut => exact move_timesOut hc h
  all_goals rw [stepConnection] at h
  case begins =>
    obtain ⟨hphase, h⟩ := Option.ite_none_right_eq_some.1 h
    cases h
    exact move_register hc hphase
  case beginningFails =>
    obtain ⟨hphase, h⟩ := Option.ite_none_right_eq_some.1 h
    cases h
    have hmove := move_close (e := .connection c.id .beginningFails) hc
      (by rw [Running.isOpen, hphase.1]) (.inl rfl) (.inl ⟨hphase.1, rfl⟩)
    rwa [List.map_nil, List.append_nil] at hmove
  case receives bytes =>
    obtain ⟨hwaits, h⟩ := Option.ite_none_right_eq_some.1 h
    cases h
    exact .acts hc (.receives bytes hwaits.1 (by simpa using hwaits.2.1) hwaits.2.2.1)
      (.silent rfl rfl rfl rfl rfl) rfl
  case hangsUp =>
    obtain ⟨hwaits, h⟩ := Option.ite_none_right_eq_some.1 h
    cases h
    exact .acts hc (.hangsUp hwaits.1 rfl) (.silent rfl rfl rfl rfl rfl) rfl
  case writes =>
    obtain ⟨hfree, h⟩ := Option.ite_none_right_eq_some.1 h
    split at h
    case h_2 => cases h
    case h_1 piece rest hqueue =>
      cases h
      exact .acts hc (.writes _ hfree hqueue) (.silent rfl rfl rfl rfl rfl) rfl
  case answers =>
    split at h
    case h_2 => cases h
    case h_1 reply hphase herrand =>
      cases h
      exact .acts hc (.answers (c.spec.idleTimeout.map (r.clock + ·.wait.nanos)) hphase herrand)
        (.mails rfl rfl rfl rfl rfl) rfl
  case claims =>
    split at h
    case h_2 => cases h
    case h_1 request herrand hfree =>
      cases h
      exact move_claimAux hc herrand hfree
  case reaches =>
    split at h
    case h_2 => cases h
    case h_1 request deadline herrand =>
      cases h
      exact .reaches hc herrand (.silent rfl rfl rfl rfl rfl) rfl rfl
  case isRefused problem =>
    split at h
    case h_2 => cases h
    case h_1 request deadline herrand =>
      cases h
      exact move_turn hc herrand (.fails request deadline none _ (by simp))
  case idles =>
    split at h
    case h_2 => cases h
    case h_1 due hdue =>
      obtain ⟨hidle, h⟩ := Option.ite_none_right_eq_some.1 h
      cases h
      exact move_close_now hc hidle.1 (.idles hdue hidle.2)
  case readFails =>
    obtain ⟨hfree, h⟩ := Option.ite_none_right_eq_some.1 h
    cases h
    exact move_close_now hc hfree.1 .readFails
  case writeFails =>
    obtain ⟨hfree, h⟩ := Option.ite_none_right_eq_some.1 h
    cases h
    exact move_close_now hc hfree.1 .writeFails

end Connections

/-! ## The monitor -/

theorem live_apply (m : Monitor) (now : Nat) (effect : Option Effect) :
    (m.apply now effect).1.presence.live = m.presence.live := by
  rw [Monitor.presence_apply]

theorem live_notice (m : Monitor) (now : Nat) (notice : Notice) :
    (m.notice now notice).1.presence.live
      = (MonitorLetter.notice notice).hear m.presence.live := by
  cases notice with
  | instrumentUp id =>
    simp only [Monitor.notice, live_apply, Presence.up, MonitorLetter.hear]
    split
    · rfl
    · split <;> rfl
  | instrumentDown id =>
    simp only [Monitor.notice, live_apply, Presence.down, MonitorLetter.hear]
    split
    case isTrue hid => rw [List.erase_of_not_mem hid]
    case isFalse => split <;> rfl
  | visitorUp id => rfl
  | visitorDown id => rfl

/-- Neither a timer nor a sign of life changes which links are live. -/
theorem live_of_step {m m' : Monitor} {now : Nat} {e : MonitorEvent} {said : List Bulletin}
    (h : m.step now e = some (m', said)) (he : ∀ notice, e ≠ .hears notice) :
    m'.presence.live = m.presence.live := by
  cases e with
  | hears notice => exact absurd rfl (he notice)
  | expires =>
    rw [Monitor.step] at h
    split at h
    case h_2 => cases h
    case h_1 t _ =>
      obtain ⟨-, h⟩ := Option.ite_none_right_eq_some.1 h
      have hm' : (m.expire now t.generation).1 = m' := by rw [Option.some.inj h]
      rw [← hm', Monitor.expire, live_apply]
      simp only [Presence.fired]
      split
      · rfl
      · split <;> rfl
  | beats =>
    obtain ⟨-, h⟩ := Option.ite_none_right_eq_some.1 h
    have hm' : (m.beat now).1 = m' := by rw [Option.some.inj h]
    rw [← hm']
    rfl

/-- What the monitor says is posted by the relay itself. -/
theorem move_publish {r r' : Relay} {e : RelayEvent} {bulletins : List Bulletin}
    (h : r.Frame r' [] []) (hconnections : r'.connections = r.connections)
    (haux : r'.aux = r.aux) : r.Move e (r'.publish bulletins) := by
  let letters : List Letter :=
    (bulletins.map fun b ↦ .data (b.packets r'.stamp)).map (⟨none, ·⟩)
  have hposted : (r'.publish bulletins).mail.posted = r.mail.posted ++ letters := by
    change r'.mail.posted ++ letters = _
    rw [h.posted, List.append_nil]
  have hpostings : (r'.publish bulletins).postings = r.postings ++ batch letters [] := by
    change r'.postings ++ letters.map .router = _
    rw [h.postings, batch_nil_right, batch_nil_right, List.map_nil, List.append_nil]
  have hframe : r.Frame (r'.publish bulletins) letters [] :=
    ⟨h.config, hposted, h.told, hpostings, h.heard⟩
  refine .aside hframe (fun letter hletter ↦ ?_) hconnections haux
  obtain ⟨m, hm, rfl⟩ := List.mem_map.1 hletter
  obtain ⟨b, -, rfl⟩ := List.mem_map.1 hm
  exact ⟨rfl, rfl⟩

/-- Apart from the connections, nothing happens that is posted. -/
theorem move_aside {r r' : Relay} {e : RelayEvent} (hframe : r.Frame r' [] [])
    (hconnections : r'.connections = r.connections) (haux : r'.aux = r.aux) : r.Move e r' :=
  .aside hframe (by simp) hconnections haux

theorem move_of_stepLink {r r' : Relay} {e : RelayEvent} {l : LinkRun} {index : Nat}
    {event : LinkEvent} (hl : r.links[index]? = some l)
    (h : r.stepLink index l event = some r') : r.Move e r' := by
  unfold stepLink at h
  split at h
  case h_1 =>
    cases h
    exact .comes (.silent rfl rfl rfl rfl rfl) (.inr ⟨l, List.mem_of_getElem? hl, rfl⟩) rfl rfl
  case h_2 =>
    cases h
    exact move_aside (.silent rfl rfl rfl rfl rfl) rfl rfl
  case h_3 due hphase =>
    obtain ⟨-, h⟩ := Option.ite_none_right_eq_some.1 h
    cases h
    exact move_aside (.silent rfl rfl rfl rfl rfl) rfl rfl
  case h_4 => cases h

theorem move_attends {r r' : Relay} (h : r.step .attends = some r') : r.Move .attends r' := by
  simp only [step, Option.bind_eq_bind, Option.bind_eq_some_iff, Prod.exists, Option.pure_def,
    Option.some.injEq] at h
  obtain ⟨letter, notices, htake, rfl⟩ := h
  obtain ⟨hletter, rfl⟩ := Mailbox.take?_eq_some_iff.1 htake
  have hhears {r' : Relay} (htaken : r'.notices.taken = r.notices.taken + 1)
      (hlive : r'.monitor.presence.live = letter.hear r.monitor.presence.live)
      (hsettles : r'.Settles letter) : r.Hears r' :=
    .inr ⟨letter, hletter, htaken, hlive, hsettles⟩
  cases letter with
  | notice notice =>
    refine move_publish (.hears rfl rfl rfl rfl ?_) rfl rfl
    exact hhears rfl (live_notice _ _ notice) trivial
  | question asker =>
    -- Whoever asked is told, or does not wait for it.
    rw [attend]
    split
    case h_2 hnone =>
      refine move_aside (.hears rfl rfl rfl rfl ?_) rfl rfl
      refine hhears rfl rfl fun c request hc ↦ ?_
      cases hnone.symm.trans hc
    case h_1 c hc =>
      split
      case h_2 hother =>
        refine move_aside (.hears rfl rfl rfl rfl ?_) rfl rfl
        refine hhears rfl rfl fun d request hd ↦ ?_
        obtain rfl := Option.some.inj (hc.symm.trans hd)
        exact hother request
      case h_1 request herrand =>
        obtain rfl := id_of_connection? hc
        refine .acts hc (.turns herrand (.told request))
          (.hears rfl rfl rfl rfl ?_) rfl
        exact hhears rfl rfl (settles_update hc (by simp))

/-- **Every step is a move.** -/
theorem move_of_step {r r' : Relay} {e : RelayEvent} (h : r.step e = some r') : r.Move e r' := by
  cases e
  case attends => exact move_attends h
  all_goals simp only [step, Option.bind_eq_bind, Option.bind_eq_some_iff, Prod.exists,
    Option.pure_def, Option.some.injEq, Option.ite_none_right_eq_some] at h
  case elapse nanos stamp =>
    subst h
    exact move_aside (.silent rfl rfl rfl rfl rfl) rfl rfl
  case visit server =>
    obtain ⟨-, rfl⟩ := h
    exact .comes (.silent rfl rfl rfl rfl rfl) (.inl ⟨server, rfl⟩) rfl rfl
  case connection id e =>
    obtain ⟨c, hc, h⟩ := h
    obtain rfl := id_of_connection? hc
    exact move_of_stepConnection hc h
  case link index e =>
    obtain ⟨l, hl, h⟩ := h
    exact move_of_stepLink hl h
  case routes =>
    obtain ⟨letter, mail, htake, rfl⟩ := h
    obtain ⟨-, rfl⟩ := Mailbox.take?_eq_some_iff.1 htake
    exact move_aside (.silent rfl rfl rfl rfl rfl) rfl rfl
  case beats =>
    obtain ⟨monitor, bulletins, hbeat, rfl⟩ := h
    refine move_publish (.hears rfl rfl rfl rfl ?_) rfl rfl
    exact .inl ⟨rfl, live_of_step hbeat (by simp)⟩
  case expires =>
    obtain ⟨monitor, bulletins, hexpires, rfl⟩ := h
    refine move_publish (.hears rfl rfl rfl rfl ?_) rfl rfl
    exact .inl ⟨rfl, live_of_step hexpires (by simp)⟩
  case reports =>
    obtain ⟨-, rfl⟩ := h
    exact move_aside (.silent rfl rfl rfl rfl rfl) rfl rfl
  case announces accepted =>
    obtain ⟨-, rfl⟩ := h
    exact move_aside (.silent rfl rfl rfl rfl rfl) rfl rfl
  case fileFails id =>
    obtain ⟨-, rfl⟩ := h
    exact move_aside (.silent rfl rfl rfl rfl rfl) rfl rfl

/-! ## What is seen of a move -/

theorem connection?_congr {r r' : Relay} (h : r'.connections = r.connections) :
    r'.connection? = r.connection? := by
  funext id
  rw [connection?, h, connection?]

/-- A deed is seen at the connection that does it. -/
theorem connection?_of_deed {r r' : Relay} {e : RelayEvent} {c c' : Running}
    {messages : List RouterMessage} {notices : List MonitorLetter} {aux : AuxLink}
    (hc : r.connection? c.id = some c) (h : r.Deed e c messages notices aux c')
    (hconnections : r'.connections = (r.update c').connections) (id : ConnectionId) :
    r'.connection? id = if id = c.id then some c' else r.connection? id := by
  rw [← connection?_act hc h.act id]
  exact congrFun (connection?_congr hconnections) id

/-- The connection that has been reached is there, and the one that reached it knows. -/
theorem connection?_of_reaches {r r' : Relay} {spec : ConnectionSpec} {c c' : Running}
    (hledger : r.Ledger) (hc : r.connection? c.id = some c) (hid : c'.id = c.id)
    (hconnections : r'.connections = ((r.create spec).2.update c').connections)
    (id : ConnectionId) :
    r'.connection? id = if id = c.id then some c'
      else if id = ⟨r.identities⟩ then some { id := ⟨r.identities⟩, spec := spec }
      else r.connection? id := by
  have hold : (r.create spec).2.connection? c'.id = some c := by
    rw [hid]
    exact connection?_create_of_some hc spec
  rw [connection?_congr hconnections]
  by_cases hself : id = c.id
  · rw [if_pos hself, hself, ← hid]
    exact connection?_update_self hold
  · rw [if_neg hself, connection?_update_of_ne (by rwa [hid]), connection?_create]
    by_cases hnew : id = ⟨r.identities⟩
    · rw [hnew, hledger.connection?_next, Option.none_or, if_pos rfl]
    · rw [if_neg hnew, if_neg hnew, Option.or_none]

theorem Frame.postedBy_eq {r r' : Relay} {letters : List Letter} {notices : List MonitorLetter}
    (h : r.Frame r' letters notices) (id : ConnectionId) :
    r'.postedBy id = r.postedBy id ++ (letters.filter (·.sender = some id)).map (·.message) := by
  rw [postedBy, h.posted, List.filter_append, List.map_append, postedBy]

/-- What a connection was before a step, given what it is after it. -/
inductive Was (r : Relay) (e : RelayEvent) (r' : Relay) (id : ConnectionId) (c' : Running) : Prop
  /-- It was the same. -/
  | same (hc : r.connection? id = some c') (hposted : r'.postedBy id = r.postedBy id)
  /-- It was not there. -/
  | absent (spec : ConnectionSpec) (hnone : r.connection? id = none)
    (hc' : c' = { id := id, spec := spec }) (hposted : r'.postedBy id = [])
  /-- It has done something. -/
  | acted {c : Running} {messages : List RouterMessage} {notices : List MonitorLetter}
    {aux : AuxLink} (hid : c.id = id) (hc : r.connection? id = some c) (haux : r'.aux = aux)
    (hdeed : r.Deed e c messages notices aux c')
    (hframe : r.Frame r' (messages.map (⟨some id, ·⟩)) notices)
    (hposted : r'.postedBy id = r.postedBy id ++ messages)
  /-- It has got as far as a new connection. -/
  | reached {c : Running} {request : Request} {deadline : Nat} (hid : c.id = id)
    (hc : r.connection? id = some c) (herrand : c.errand = some (.opening request deadline none))
    (hc' : c' = { c with errand := some (.opening request deadline (some ⟨r.identities⟩)) })
    (hposted : r'.postedBy id = r.postedBy id)
    (hmade : r'.connection? ⟨r.identities⟩
      = some { id := ⟨r.identities⟩, spec := AuxMode.onDemand.spec r.config.timing })

theorem Move.was {r r' : Relay} {e : RelayEvent} (h : r.Move e r') (hledger : r.Ledger)
    {id : ConnectionId} {c' : Running} (hc' : r'.connection? id = some c') :
    r.Was e r' id c' := by
  have hsilent (hframe : r.Frame r' [] []) : r'.postedBy id = r.postedBy id := by
    rw [hframe.postedBy_eq]
    exact List.append_nil _
  cases h with
  | aside hframe hletters hconnections haux =>
    rw [connection?_congr hconnections] at hc'
    refine .same hc' ?_
    rw [hframe.postedBy_eq, List.filter_eq_nil_iff.2, List.map_nil, List.append_nil]
    intro letter hletter
    simp [(hletters letter hletter).1]
  | @comes spec hframe hspec hconnections haux =>
    rw [connection?_congr hconnections, connection?_create] at hc'
    rcases Option.or_eq_some_iff.1 hc' with hold | ⟨hnone, hnew⟩
    · exact .same hold (hsilent hframe)
    · obtain ⟨hid, hmade⟩ := Option.ite_none_right_eq_some.1 hnew
      subst hid
      refine .absent spec hnone (Option.some.inj hmade).symm ?_
      rw [hsilent hframe, hledger.postedBy_eq_nil hnone]
  | @acts c d messages notices hc hdeed hframe hconnections =>
    have hposted : r'.postedBy id
        = r.postedBy id ++ if some c.id = some id then messages else [] := by
      rw [← postedBy_post, postedBy, hframe.posted]
      rfl
    rw [connection?_of_deed hc hdeed hconnections] at hc'
    split at hc'
    case isTrue hid =>
      obtain rfl := Option.some.inj hc'
      subst hid
      rw [if_pos rfl] at hposted
      exact .acted rfl hc rfl hdeed hframe hposted
    case isFalse hid =>
      rw [if_neg fun heq ↦ hid (Option.some.inj heq).symm, List.append_nil] at hposted
      exact .same hc' hposted
  | @reaches c request deadline hc herrand hframe hconnections haux =>
    -- Two connections are concerned, the one that opens the link and the link.
    have hview := connection?_of_reaches hledger hc (by rfl) hconnections
    rw [hview] at hc'
    split at hc'
    case isTrue hid =>
      obtain rfl := Option.some.inj hc'
      subst hid
      refine .reached rfl hc herrand rfl (hsilent hframe) ?_
      have hnew : (⟨r.identities⟩ : ConnectionId) ≠ c.id := by
        intro heq
        have hnone := hledger.connection?_next
        rw [heq, hc] at hnone
        cases hnone
      rw [hview, if_neg hnew, if_pos rfl]
    case isFalse =>
      split at hc'
      case isTrue hid =>
        subst hid
        refine .absent _ hledger.connection?_next (Option.some.inj hc').symm ?_
        rw [hsilent hframe, hledger.postedBy_eq_nil hledger.connection?_next]
      case isFalse => exact .same hc' (hsilent hframe)

theorem Move.exists_frame {r r' : Relay} {e : RelayEvent} (h : r.Move e r') :
    ∃ letters notices, r.Frame r' letters notices := by
  cases h with
  | aside hframe => exact ⟨_, _, hframe⟩
  | comes hframe => exact ⟨_, _, hframe⟩
  | acts hc hdeed hframe => exact ⟨_, _, hframe⟩
  | reaches hc herrand hframe => exact ⟨_, _, hframe⟩

/-- The monitor takes letters that have been posted. -/
theorem Frame.taken_le {r r' : Relay} {letters : List Letter} {notices : List MonitorLetter}
    (h : r.Frame r' letters notices) (hle : r.notices.taken ≤ r.notices.posted.length) :
    r'.notices.taken ≤ r'.notices.posted.length := by
  rw [h.told, List.length_append]
  rcases h.heard with ⟨htaken, -⟩ | ⟨letter, hletter, htaken, -⟩
  · rw [htaken]
    exact Nat.le_add_right_of_le hle
  · rw [htaken]
    exact Nat.le_add_right_of_le (List.getElem?_eq_some_iff.1 hletter).1

/-! ## The record of all letters -/

/-- The one record of all letters shows what was posted to the router and what was posted to the
monitor, each in its order. -/
structure PostingsAgree (r : Relay) : Prop where
  router : r.postings.filterMap Posting.letter? = r.mail.posted
  monitor : r.postings.filterMap Posting.monitorLetter? = r.notices.posted

theorem filterMap_letter?_batch (letters : List Letter) (notices : List MonitorLetter) :
    (batch letters notices).filterMap Posting.letter? = letters := by
  rw [batch, List.filterMap_append, List.filterMap_map, List.filterMap_map]
  simp [Function.comp_def, Posting.letter?]

theorem filterMap_monitorLetter?_batch (letters : List Letter) (notices : List MonitorLetter) :
    (batch letters notices).filterMap Posting.monitorLetter? = notices := by
  rw [batch, List.filterMap_append, List.filterMap_map, List.filterMap_map]
  simp [Function.comp_def, Posting.monitorLetter?]

namespace PostingsAgree

variable {r r' : Relay}

theorem mem_posted (h : r.PostingsAgree) {letter : Letter} (hletter : .router letter ∈ r.postings) :
    letter ∈ r.mail.posted := by
  rw [← h.router]
  exact List.mem_filterMap.2 ⟨_, hletter, rfl⟩

theorem mem_told (h : r.PostingsAgree) {letter : MonitorLetter}
    (hletter : .monitor letter ∈ r.postings) : letter ∈ r.notices.posted := by
  rw [← h.monitor]
  exact List.mem_filterMap.2 ⟨_, hletter, rfl⟩

/-- A batch of letters is posted. -/
theorem append (h : r.PostingsAgree) {letters : List Letter} {notices : List MonitorLetter}
    (hposted : r'.mail.posted = r.mail.posted ++ letters)
    (htold : r'.notices.posted = r.notices.posted ++ notices)
    (hpostings : r'.postings = r.postings ++ batch letters notices) : r'.PostingsAgree where
  router := by
    rw [hpostings, List.filterMap_append, h.router, filterMap_letter?_batch, hposted]
  monitor := by
    rw [hpostings, List.filterMap_append, h.monitor, filterMap_monitorLetter?_batch, htold]

end PostingsAgree

/-! ## From the start -/

/-- A relay at its start: there is no connection, and the monitor has not been told anything. -/
structure Started (r : Relay) : Prop where
  agree : r.PostingsAgree
  connections_eq : r.connections = []
  notices_eq : r.notices = .empty
  live_eq : r.monitor.presence.live = []
  aux_eq : r.aux = {}

theorem started_of_addFiles {r : Relay} (h : r.Started) (files : List (Endpoint × LogFile)) :
    (files.foldl Startup.addFile r).Started := by
  induction files generalizing r with
  | nil => exact h
  | cons file rest ih =>
    have hagree : (Startup.addFile r file).PostingsAgree :=
      h.agree.append rfl (List.append_nil _).symm rfl
    exact ih ⟨hagree, h.connections_eq, h.notices_eq, h.live_eq, h.aux_eq⟩

/-- A relay that has been started is a fresh one with its log files registered. -/
theorem exists_fresh_of_start {config : Config} {host : Host} {answers : List Bool} {r : Relay}
    (h : (Startup.ofConfig config host answers).outcome = .ok r) :
    ∃ (fresh : Relay) (files : List (Endpoint × LogFile)), fresh.Started ∧ fresh.mail = .empty ∧
      Startup.openLogs host config = .ok files ∧ r = files.foldl Startup.addFile fresh := by
  unfold Startup.ofConfig at h
  split at h
  · cases h
  · split at h
    · cases h
    · dsimp only at h
      split at h
      · cases h
      case h_2 files hfiles =>
        cases h
        exact ⟨_, files, ⟨⟨rfl, rfl⟩, rfl, rfl, rfl, rfl⟩, rfl, hfiles, rfl⟩

theorem started_of_start {config : Config} {host : Host} {answers : List Bool} {r : Relay}
    (h : (Startup.ofConfig config host answers).outcome = .ok r) : r.Started := by
  obtain ⟨fresh, files, hfresh, -, -, rfl⟩ := exists_fresh_of_start h
  exact started_of_addFiles hfresh files

/-- What holds at the start and is kept by every step holds after every run. -/
theorem keeps_run {config : Config} {host : Host} {answers : List Bool} {r₀ : Relay}
    (hstart : (Startup.ofConfig config host answers).outcome = .ok r₀)
    {P : List RelayEvent → Relay → Prop} (hnil : P [] r₀)
    (hstep : ∀ events e r r', Reached config r → r₀.run events = some r → r.step e = some r' →
      P events r → P (events ++ [e]) r')
    {events : List RelayEvent} {r : Relay} (hrun : r₀.run events = some r) : P events r := by
  induction events using List.reverseRecOn generalizing r with
  | nil =>
    cases hrun
    exact hnil
  | append_singleton events e ih =>
    rw [run_append] at hrun
    obtain ⟨mid, hmid, hlast⟩ := Option.bind_eq_some_iff.1 hrun
    have hone : mid.step e = some r := by simpa [run] using hlast
    exact hstep events e mid r (reached_of_run hstart hmid) hmid hone (ih hmid)

/-- **Both mailboxes can be read off the record of all letters.** -/
theorem postingsAgree_of_run {config : Config} {host : Host} {answers : List Bool} {r₀ r : Relay}
    {events : List RelayEvent} (hstart : (Startup.ofConfig config host answers).outcome = .ok r₀)
    (hrun : r₀.run events = some r) : r.PostingsAgree := by
  refine keeps_run hstart (P := fun _ r ↦ r.PostingsAgree) (started_of_start hstart).agree ?_ hrun
  intro events e r r' _ _ hstep h
  obtain ⟨letters, notices, hframe⟩ := (move_of_step hstep).exists_frame
  exact h.append hframe.posted hframe.told hframe.postings

end Relay

end InstrumentRelay
