import InstrumentRelay.Relay.State

/-!
# What can happen

Everything that happens to a relay is a `RelayEvent`: the world does something, or one of the parts
takes its next step. `Relay.step` gives the relay after an event, or nothing if the event cannot
happen now. Which of the possible events comes next is left open, so a list of events is one way in
which the parts may have been scheduled, and what holds after every list of events holds however
they are.

A connection that is not busy takes items from its reader, and writes what has been handed to it, in
any order. A line makes it busy. The letters it posts are, for each line, first the line itself and
then the answer, and the answer is written to the peer before it is posted.

The auxiliary link that is opened on demand is opened by one connection at a time. Whoever needs it
takes a link that is still open, or opens one; opening takes time, and the time is limited.
-/

namespace InstrumentRelay

/-- What can happen to a connection. -/
inductive ConnectionEvent where
  /-- Its greeting is written and it is registered. -/
  | begins
  /-- Its greeting cannot be written. -/
  | beginningFails
  /-- A read brings bytes. -/
  | receives (bytes : Bytes)
  /-- The peer sends no more. -/
  | hangsUp
  /-- A read fails. -/
  | readFails
  /-- The next item is taken from the reader. -/
  | takes
  /-- The next piece from the router is written. -/
  | writes
  /-- The next piece from the router cannot be written. -/
  | writeFails
  /-- It has been idle for too long. -/
  | idles
  /-- The answer to a line is written and posted. -/
  | answers
  /-- The answer cannot be written beyond so many packets. -/
  | answerFails (packets : Nat)
  /-- It looks for an open auxiliary link and starts to open one if there is none. -/
  | claims
  /-- The auxiliary link it opens is made. -/
  | reaches
  /-- The auxiliary link it opens is refused. -/
  | isRefused (problem : String)
  /-- The auxiliary link it opens is registered. -/
  | isReady
  /-- The auxiliary link it opens ends before it is registered. -/
  | isLost
  /-- It has been opening the auxiliary link for too long. -/
  | timesOut
  deriving DecidableEq, Repr

/-- What can happen to a link. -/
inductive LinkEvent where
  /-- The connection is made. -/
  | made
  /-- The connection is refused. -/
  | refused
  /-- It connects again. -/
  | redials
  deriving DecidableEq, Repr

/-- What can happen to a relay. -/
inductive RelayEvent where
  /-- So many nanoseconds pass, and then it is this time of day. -/
  | elapse (nanos : Nat) (stamp : Timestamp)
  /-- Someone connects to a server. -/
  | visit (server : ServerKind)
  /-- Something happens to a connection. -/
  | connection (id : ConnectionId) (event : ConnectionEvent)
  /-- Something happens to a link. -/
  | link (index : Nat) (event : LinkEvent)
  /-- The router takes its next letter. -/
  | routes
  /-- The monitor takes its next letter. -/
  | attends
  /-- The monitor gives a sign of life. -/
  | beats
  /-- The timer of the monitor has run out. -/
  | expires
  /-- The traffic is reported. -/
  | reports
  /-- The directory is asked, and answers. -/
  | announces (accepted : Bool)
  /-- A log file can no longer be written. -/
  | fileFails (id : ConnectionId)
  deriving DecidableEq, Repr

namespace Relay

/-! ## Command lines -/

/-- The words for an auxiliary link that ended too early. -/
def abortedText : String := "link closed before it was ready"

/-- Where the auxiliary link goes. -/
def auxTarget (i : Instrument) : String :=
  match i with
  | .rsn address _ digiPort _ => address ++ ":" ++ toString digiPort.toNat
  | _ => ""

/-- A connection takes a line. -/
def takeLine (r : Relay) (c : Running) (line : Bytes) : Relay :=
  let r := r.post (some c.id) [.data (Packet.split .command r.stamp line)]
  match Request.ofLine r.config.instrument.catalogue line with
  | .error e => r.update { c with errand := some (.answering (.fault e)) }
  | .ok request =>
    match request.needs r.config.instrument with
    | .nothing =>
      let reply := request.reply r.config (.ok r.monitor.state) (.ok ())
      r.update { c with errand := some (.answering reply) }
    | .state =>
      (r.update { c with errand := some (.asking request) }).tell (.question c.id)
    | .auxiliary => r.update { c with errand := some (.queueing request) }

/-- A connection knows whether the auxiliary link can be reached. Others may open it now. -/
def settleAux (r : Relay) (c : Running) (request : Request) (reached : Except RelayError Unit) :
    Relay :=
  let reply := request.reply r.config (.ok r.monitor.state) reached
  { r.update { c with errand := some (.answering reply) } with
    aux := { r.aux with holder := none } }

/-- A connection looks for an open auxiliary link. -/
def claimAux (r : Relay) (c : Running) (request : Request) : Relay :=
  match r.aux.current.bind r.connection? with
  | some link =>
    if link.isOpen then r.settleAux c request (.ok ())
    else startOpening
  | none => startOpening
where
  /-- There is none, so one is opened. -/
  startOpening : Relay :=
    let deadline := r.clock + r.config.timing.auxConnect.wait.nanos
    { r.update { c with errand := some (.opening request deadline none) } with
      aux := { r.aux with holder := some c.id } }

/-! ## Steps -/

/-- What happens to a connection. -/
def stepConnection (r : Relay) (c : Running) : ConnectionEvent → Option Relay
  | .begins => if c.phase = .starting then some (r.register c) else none
  | .beginningFails =>
    if c.phase = .starting ∧ c.spec.greeting.isSome then some (r.close c) else none
  | .receives bytes =>
    if c.isFree ∧ !c.hungUp ∧ c.input.isWaiting ∧ bytes ≠ [] then
      some (r.update { c with input := c.input.feed bytes, received := c.received ++ bytes })
    else none
  | .hangsUp =>
    if c.isFree ∧ !c.hungUp ∧ c.input.isWaiting then some (r.update { c with hungUp := true })
    else none
  | .readFails =>
    if c.isFree ∧ !c.hungUp ∧ c.input.isWaiting then some (r.close c) else none
  | .takes =>
    if c.isFree then
      match if c.hungUp then c.input.finish r.stamp else c.input.next r.stamp with
      | .error _ => some (r.close c)
      | .ok (some (.packets packets), input) =>
        some ((r.post (some c.id) [.data packets]).update ({ c with input := input }.touch r.clock))
      | .ok (some (.line line), input) => some (r.takeLine { c with input := input } line)
      | .ok (none, _) => if c.hungUp then some (r.close c) else none
    else none
  | .writes =>
    if c.isFree then
      match r.queue c with
      | piece :: _ =>
        some (r.update
          ({ c with sent := c.sent + 1, written := c.written ++ [piece] }.touch r.clock))
      | [] => none
    else none
  | .writeFails => if c.isFree ∧ r.queue c ≠ [] then some (r.close c) else none
  | .idles =>
    match c.idleDue with
    | some due => if c.isFree ∧ due ≤ r.clock then some (r.close c) else none
    | none => none
  | .answers =>
    match c.phase, c.errand with
    | .running, some (.answering reply) =>
      let packets := reply.packets r.stamp
      some ((r.post (some c.id) [.data packets]).update
        ({ c with errand := none, written := c.written ++ packets.map Packet.frame }.touch r.clock))
    | _, _ => none
  | .answerFails n =>
    match c.phase, c.errand with
    | .running, some (.answering reply) =>
      let packets := reply.packets r.stamp
      if n < packets.length then
        some (r.close { c with written := c.written ++ (packets.take n).map Packet.frame })
      else none
    | _, _ => none
  | .claims =>
    match c.errand, r.aux.holder with
    | some (.queueing request), none => some (r.claimAux c request)
    | _, _ => none
  | .reaches =>
    match c.errand with
    | some (.opening request deadline none) =>
      let (id, r) := r.create (AuxMode.onDemand.spec r.config.timing)
      some (r.update { c with errand := some (.opening request deadline (some id)) })
    | _ => none
  | .isRefused problem =>
    match c.errand with
    | some (.opening request _ none) =>
      some (r.settleAux c request (.error (.io .connectionRefused problem)))
    | _ => none
  | .isReady =>
    match c.errand with
    | some (.opening request _ (some id)) =>
      if (r.connection? id).any (·.hasBegun) then
        let r := r.settleAux c request (.ok ())
        some { r with aux := { r.aux with current := some id } }
      else none
    | _ => none
  | .isLost =>
    match c.errand with
    | some (.opening request _ (some id)) =>
      if (r.connection? id).any (fun link ↦ !link.isOpen && !link.hasBegun) then
        some (r.settleAux c request (.error (.io .connectionAborted abortedText)))
      else none
    | _ => none
  | .timesOut =>
    match c.errand with
    | some (.opening request deadline made) =>
      let outcome := (made.bind r.connection?).any fun link ↦ link.hasBegun || !link.isOpen
      if deadline ≤ r.clock ∧ !outcome then
        some (r.settleAux c request
          (.error (.connectTimeout r.config.timing.auxConnect (auxTarget r.config.instrument))))
      else none
    | _ => none

/-- Puts a link in the place of another. -/
def setLink (r : Relay) (index : Nat) (l : LinkRun) : Relay :=
  { r with links := r.links.set index l }

/-- What happens to a link. -/
def stepLink (r : Relay) (index : Nat) (l : LinkRun) (e : LinkEvent) : Option Relay :=
  match e, l.phase with
  | .made, .dialing =>
    let (id, r) := r.create l.link.spec
    some (r.setLink index (l.made id))
  | .refused, .dialing => some (r.setLink index (l.wait r.clock))
  | .redials, .waiting due =>
    if due ≤ r.clock then some (r.setLink index { l with phase := .dialing }) else none
  | _, _ => none

/-- The monitor takes a letter. -/
def attend (r : Relay) : MonitorLetter → Relay
  | .notice notice =>
    let (monitor, bulletins) := r.monitor.notice r.clock notice
    { r with monitor := monitor }.publish bulletins
  | .question asker =>
    match r.connection? asker with
    | some c =>
      match c.errand with
      | some (.asking request) =>
        let reply := request.reply r.config (.ok r.monitor.state) (.ok ())
        r.update { c with errand := some (.answering reply) }
      | _ => r
    | none => r

/-- What happens to a relay. -/
def step (r : Relay) : RelayEvent → Option Relay
  | .elapse nanos stamp => some { r with clock := r.clock + nanos, stamp := stamp }
  | .visit server =>
    if server ∈ r.config.ports.wanted.map (·.1) then some (r.create server.spec).2 else none
  | .connection id event => do
    let c ← r.connection? id
    r.stepConnection c event
  | .link index event => do
    let l ← r.links[index]?
    r.stepLink index l event
  | .routes => do
    let (letter, mail) ← r.mail.take?
    return { r with mail := mail, exchange := r.exchange.step (.message letter.message) }
  | .attends => do
    let (letter, notices) ← r.notices.take?
    return { r with notices := notices }.attend letter
  | .beats => do
    let (monitor, bulletins) ← r.monitor.step r.clock .beats
    let r := { r with
      monitor := monitor
      refreshed := r.refreshed ++ monitor.settings.services }
    return r.publish bulletins
  | .expires => do
    let (monitor, bulletins) ← r.monitor.step r.clock .expires
    return { r with monitor := monitor }.publish bulletins
  | .reports =>
    if r.nextReport ≤ r.clock then
      some { r with
        exchange := r.exchange.step (.report r.config.refdes)
        nextReport := r.nextReport + r.config.timing.stats.nanos }
    else none
  | .announces accepted =>
    if !r.announcer.isDone ∧ r.nextAttempt ≤ r.clock then
      some { r with
        announcer := r.announcer.attempt accepted
        nextAttempt :=
          if accepted then r.nextAttempt
          else r.clock + r.config.timing.registrationRetry.wait.nanos }
    else none
  | .fileFails id =>
    if r.files.any (·.1.id = id) then
      some { r with exchange := r.exchange.step (.lost id) }
    else none

/-- The relay after a list of events, all of which can happen. -/
def run (r : Relay) (events : List RelayEvent) : Option Relay := events.foldlM step r

theorem run_append (r : Relay) (first second : List RelayEvent) :
    r.run (first ++ second) = r.run first >>= (·.run second) := by
  simp [run, List.foldlM_append]

theorem run_cons_eq_some_iff {r r' : Relay} {e : RelayEvent} {rest : List RelayEvent} :
    r.run (e :: rest) = some r' ↔ ∃ mid, r.step e = some mid ∧ mid.run rest = some r' := by
  rw [run, List.foldlM_cons, Option.bind_eq_bind, Option.bind_eq_some_iff]
  rfl

end Relay

end InstrumentRelay
