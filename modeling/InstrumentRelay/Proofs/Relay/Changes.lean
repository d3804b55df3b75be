import Mathlib.Logic.Relation
import InstrumentRelay.Relay.Startup
import InstrumentRelay.Relay.Step

/-!
# What a step changes

Twenty-six things can happen to a relay, and a statement about every run would have to look at each
of them. But most of what they do is the same: a connection changes and posts letters, the router
takes a letter, something happens that the connections and the router do not see. `Running.Act` says
what a single connection can do, with the letters that it posts, and `Relay.Change` what can happen
to the relay as a whole. `changes_of_step` is the only place where the steps are gone through one by
one; from there on a statement about every run is an induction over `Relay.Reached`.

A change says less than the step it comes from. It leaves open what the monitor, the announcer and
the clock do, what a line is answered with, and what the auxiliary link is about.
-/

namespace InstrumentRelay

/-! ## One connection -/

namespace Running

/-- The next item, whether the peer still sends or has hung up. -/
def item (c : Running) (now : Timestamp) : Except LineTooLong (Option Item × Input) :=
  if c.hungUp then c.input.finish now else c.input.next now

/-- What a connection can have written of an answer when it ends. -/
def MayHaveSaid (c : Running) (said : List Packet) : Prop :=
  said = [] ∨ ∃ (reply : Reply) (now : Timestamp) (n : Nat),
    c.errand = some (.answering reply) ∧ said = (reply.packets now).take n

theorem MayHaveSaid.eq_nil {c : Running} {said : List Packet} (h : c.MayHaveSaid said)
    (herrand : c.errand = none) : said = [] := by
  rcases h with rfl | ⟨reply, now, n, hanswering, -⟩
  · rfl
  · rw [herrand] at hanswering
    cases hanswering

/-- What a connection can do with these pieces in its queue, the messages that it posts with it, and
what it is like afterwards. -/
inductive Act (queue : List Bytes) : Running → List RouterMessage → Running → Prop
  /-- It is registered. -/
  | begins {c : Running} (due : Option Nat) (h : c.phase = .starting) :
    Act queue c [.register c.connection]
      { c with
        phase := .running
        written := c.written ++ c.spec.greeting.toList
        idleDue := due }
  /-- Bytes arrive, after everything that came before has been used. -/
  | receives {c : Running} (bytes : Bytes) (h : c.isFree = true) (hwaits : c.input.isWaiting = true) :
    Act queue c [] { c with input := c.input.feed bytes, received := c.received ++ bytes }
  /-- The peer hangs up. -/
  | hangsUp {c : Running} (h : c.isFree = true) : Act queue c [] { c with hungUp := true }
  /-- It passes packets on. -/
  | passes {c : Running} {packets : List Packet} {input : Input} (now : Timestamp)
    (due : Option Nat) (h : c.isFree = true)
    (hitem : c.item now = .ok (some (.packets packets), input)) :
    Act queue c [.data packets] { c with input := input, idleDue := due }
  /-- It takes a line. -/
  | takesLine {c : Running} {line : Bytes} {input : Input} (now : Timestamp) (errand : Errand)
    (h : c.isFree = true) (hitem : c.item now = .ok (some (.line line), input)) :
    Act queue c [.data (Packet.split .command now line)]
      { c with input := input, errand := some errand }
  /-- It gets on with answering. -/
  | turns {c : Running} {errand : Errand} (errand' : Errand) (h : c.errand = some errand) :
    Act queue c [] { c with errand := some errand' }
  /-- It answers. -/
  | answers {c : Running} {reply : Reply} (now : Timestamp) (due : Option Nat)
    (hphase : c.phase = .running) (h : c.errand = some (.answering reply)) :
    Act queue c [.data (reply.packets now)]
      { c with
        errand := none
        written := c.written ++ (reply.packets now).map Packet.frame
        idleDue := due }
  /-- It writes the piece that is at the front of its queue. -/
  | writes {c : Running} {piece : Bytes} {rest : List Bytes} (due : Option Nat)
    (h : c.isFree = true) (hqueue : queue = piece :: rest) :
    Act queue c []
      { c with sent := c.sent + 1, written := c.written ++ [piece], idleDue := due }
  /-- It ends, perhaps in the middle of an answer. -/
  | ends {c : Running} (said : List Packet) (h : c.isOpen = true) (hsaid : c.MayHaveSaid said) :
    Act queue c (if c.phase = .running then [.deregister c.connection] else [])
      { c with
        phase := .closed c.hasBegun
        errand := none
        written := c.written ++ said.map Packet.frame }

end Running

/-! ## The whole relay -/

namespace Relay

/-- The connections and the router see no difference. Links that have a connection keep it. -/
structure Aside (r r' : Relay) : Prop where
  config : r'.config = r.config
  connections : r'.connections = r.connections
  mail : r'.mail = r.mail
  exchange : r'.exchange = r.exchange
  files : r'.files = r.files
  identities : r'.identities = r.identities
  links : r'.links.map (·.link) = r.links.map (·.link)
  up : ∀ l ∈ r.links, ∀ id, l.phase = .up id → l ∈ r'.links

/-- What can happen to a relay. -/
inductive Change : Relay → Relay → Prop
  /-- Something happens beside the connections and the router. -/
  | aside {r r' : Relay} (h : r.Aside r') : Change r r'
  /-- A log file is opened. -/
  | opens (r : Relay) (file : Endpoint × LogFile) : Change r (Startup.addFile r file)
  /-- Someone comes, or the auxiliary link is made on demand. -/
  | comes (r : Relay) {spec : ConnectionSpec}
    (h : (∃ server : ServerKind, spec = server.spec) ∨
      spec = AuxMode.onDemand.spec r.config.timing) : Change r (r.create spec).2
  /-- A link gets its connection. -/
  | links {r : Relay} {index : Nat} {l : LinkRun} (hl : r.links[index]? = some l)
    (hphase : l.phase = .dialing) :
    Change r ((r.create l.link.spec).2.setLink index (l.made ⟨r.identities⟩))
  /-- A connection does something, and is as open as it was. -/
  | acts {r : Relay} {c c' : Running} {messages : List RouterMessage}
    (hc : r.connection? c.id = some c) (h : c.Act (r.queue c) messages c')
    (hopen : c'.isOpen = c.isOpen) : Change r ((r.post (some c.id) messages).update c')
  /-- A connection ends. -/
  | ends {r : Relay} {c c' : Running} {messages : List RouterMessage}
    (hc : r.connection? c.id = some c) (h : c.Act (r.queue c) messages c')
    (hclosed : c'.isOpen = false) :
    Change r ({ (r.post (some c.id) messages).update c' with
      exchange := r.exchange.step (.lost c.id) }.releaseLink c.id)
  /-- The monitor says something. -/
  | publishes (r : Relay) (bulletins : List Bulletin) : Change r (r.publish bulletins)
  /-- The router takes a letter. -/
  | routes {r : Relay} {letter : Letter} {mail : Mailbox Letter}
    (h : r.mail.take? = some (letter, mail)) :
    Change r { r with mail := mail, exchange := r.exchange.step (.message letter.message) }
  /-- The traffic is reported. -/
  | reports (r : Relay) (refdes : String) :
    Change r { r with exchange := r.exchange.step (.report refdes) }
  /-- A log file can no longer be written. -/
  | loses {r : Relay} {id : ConnectionId} (h : r.files.any (·.1.id = id) = true) :
    Change r { r with exchange := r.exchange.step (.lost id) }

/-- One change after the other. -/
abbrev Changes : Relay → Relay → Prop := Relation.ReflTransGen Change

/-- What concerns neither connections, router nor links. -/
theorem Aside.of_eq {r r' : Relay}
    (h : r' = { r with
      clock := r'.clock, stamp := r'.stamp, monitor := r'.monitor, notices := r'.notices
      postings := r'.postings, aux := r'.aux, announcer := r'.announcer
      nextAttempt := r'.nextAttempt, nextReport := r'.nextReport
      refreshed := r'.refreshed }) : r.Aside r' := by
  rw [h]
  exact ⟨rfl, rfl, rfl, rfl, rfl, rfl, rfl, fun _ hl _ _ ↦ hl⟩

theorem Changes.aside {r₀ r r' : Relay} (h : r₀.Changes r) (haside : r.Aside r') :
    r₀.Changes r' := h.tail (.aside haside)

/-! ## Every step is made of changes -/

theorem id_of_connection? {r : Relay} {id : ConnectionId} {c : Running}
    (h : r.connection? id = some c) : c.id = id := by
  simpa using List.find?_some h

theorem aside_notify (r : Relay) (notice : Option Notice) : r.Aside (r.notify notice) := by
  cases notice <;> exact .of_eq rfl

@[simp] theorem post_nil (r : Relay) (sender : Option ConnectionId) : r.post sender [] = r := by
  simp [post, Mailbox.post]

section Connections

variable {r r' : Relay} {c : Running}

theorem changes_register (hc : r.connection? c.id = some c) (hphase : c.phase = .starting) :
    r.Changes (r.register c) := by
  have hact : c.Act (r.queue c) _ _ :=
    .begins (c.spec.idleTimeout.map (r.clock + ·.wait.nanos)) hphase
  have hopen : c.isOpen = true := by rw [Running.isOpen, hphase]
  exact Changes.aside (.single (.acts hc hact hopen.symm)) (aside_notify _ _)

/-- To close a connection is to end it, and to tell the monitor. -/
theorem changes_close (hc : r.connection? c.id = some c) (hopen : c.isOpen = true)
    {said : List Packet} (hsaid : c.MayHaveSaid said) :
    r.Changes (r.close { c with written := c.written ++ said.map Packet.frame }) := by
  have hact : c.Act (r.queue c) _ _ := .ends said hopen hsaid
  refine Changes.aside (.single (.ends hc hact rfl)) (.of_eq ?_)
  -- A connection that has not begun has nothing to be deregistered.
  rw [close]
  by_cases hphase : c.phase = .running
  · rw [if_pos hphase, if_pos hphase]
    cases c.spec.role <;> rfl
  · rw [if_neg hphase, if_neg hphase, post_nil]
    rfl

/-- A connection that says nothing is closed. -/
theorem changes_close_now (hc : r.connection? c.id = some c) (hopen : c.isOpen = true) :
    r.Changes (r.close c) := by
  have hclose := changes_close hc hopen (.inl rfl)
  rwa [List.map_nil, List.append_nil] at hclose

/-- A connection does something of which the router does not hear. -/
theorem changes_quietly {c' : Running} (hc : r.connection? c.id = some c)
    (h : c.Act (r.queue c) [] c') (hopen : c'.isOpen = c.isOpen) : r.Changes (r.update c') := by
  have hchange := Change.acts hc h hopen
  rw [post_nil] at hchange
  exact .single hchange

theorem changes_turn {errand errand' : Errand} (hc : r.connection? c.id = some c)
    (h : c.errand = some errand) : r.Changes (r.update { c with errand := some errand' }) :=
  changes_quietly hc (.turns errand' h) rfl

theorem isOpen_of_isFree (h : c.isFree = true) : c.isOpen = true := by
  have hphase : c.phase = .running := (of_decide_eq_true h).1
  rw [Running.isOpen, hphase]

theorem changes_takes (hc : r.connection? c.id = some c)
    (h : r.stepConnection c .takes = some r') : r.Changes r' := by
  rw [stepConnection] at h
  obtain ⟨hfree, h⟩ := Option.ite_none_right_eq_some.1 h
  have hopen := isOpen_of_isFree hfree
  split at h
  case h_1 =>
    cases h
    exact changes_close_now hc hopen
  case h_2 packets input hitem =>
    cases h
    have hact : c.Act (r.queue c) _ _ :=
      .passes r.stamp (c.spec.idleTimeout.map (r.clock + ·.wait.nanos)) hfree hitem
    exact .single (.acts hc hact rfl)
  case h_3 line input hitem =>
    cases h
    -- Whatever comes of the line, the line itself is posted.
    have hact (errand : Errand) := Change.acts hc (.takesLine r.stamp errand hfree hitem) rfl
    rw [takeLine]
    dsimp only
    split
    · exact .single (hact _)
    · split
      · exact .single (hact _)
      · exact Changes.aside (.single (hact _)) (.of_eq rfl)
      · exact .single (hact _)
  case h_4 =>
    split at h
    · cases h
      exact changes_close_now hc hopen
    · cases h

/-! ### The auxiliary link -/

theorem changes_settleAux {errand : Errand} (hc : r.connection? c.id = some c)
    (h : c.errand = some errand) (request : Request) (reached : Except RelayError Unit) :
    r.Changes (r.settleAux c request reached) :=
  Changes.aside (changes_turn hc h) (.of_eq rfl)

theorem changes_claimAux {errand : Errand} (hc : r.connection? c.id = some c)
    (h : c.errand = some errand) (request : Request) : r.Changes (r.claimAux c request) := by
  have hstart : r.Changes (claimAux.startOpening r c request) :=
    Changes.aside (changes_turn hc h) (.of_eq rfl)
  rw [claimAux]
  split
  · split
    · exact changes_settleAux hc h request _
    · exact hstart
  · exact hstart

theorem connection?_create_of_some {id : ConnectionId} (hc : r.connection? id = some c)
    (spec : ConnectionSpec) : (r.create spec).2.connection? id = some c := by
  rw [connection?] at hc
  simp only [create, newIdentity, connection?, List.find?_append, hc, Option.some_or]

theorem changes_reaches (hc : r.connection? c.id = some c)
    (h : r.stepConnection c .reaches = some r') : r.Changes r' := by
  rw [stepConnection] at h
  split at h
  case h_2 => cases h
  case h_1 request deadline herrand =>
    cases h
    -- The one who asks is still there when the auxiliary link has been made.
    have hcomes : Change r (r.create (AuxMode.onDemand.spec r.config.timing)).2 :=
      .comes r (.inr rfl)
    exact .head hcomes (changes_turn (connection?_create_of_some hc _) herrand)

theorem changes_of_stepConnection {e : ConnectionEvent} (hc : r.connection? c.id = some c)
    (h : r.stepConnection c e = some r') : r.Changes r' := by
  cases e
  case takes => exact changes_takes hc h
  case reaches => exact changes_reaches hc h
  all_goals rw [stepConnection] at h
  case begins =>
    obtain ⟨hphase, h⟩ := Option.ite_none_right_eq_some.1 h
    cases h
    exact changes_register hc hphase
  case beginningFails =>
    obtain ⟨hphase, h⟩ := Option.ite_none_right_eq_some.1 h
    cases h
    exact changes_close_now hc (by rw [Running.isOpen, hphase.1])
  case receives bytes =>
    obtain ⟨hwaits, h⟩ := Option.ite_none_right_eq_some.1 h
    cases h
    exact changes_quietly hc (.receives bytes hwaits.1 hwaits.2.2.1) rfl
  case hangsUp =>
    obtain ⟨hwaits, h⟩ := Option.ite_none_right_eq_some.1 h
    cases h
    exact changes_quietly hc (.hangsUp hwaits.1) rfl
  case writes =>
    obtain ⟨hfree, h⟩ := Option.ite_none_right_eq_some.1 h
    split at h
    case h_2 => cases h
    case h_1 piece rest hqueue =>
      cases h
      exact changes_quietly hc (.writes _ hfree hqueue) rfl
  case answers =>
    split at h
    case h_2 => cases h
    case h_1 reply hphase herrand =>
      cases h
      exact .single (.acts hc (.answers r.stamp
        (c.spec.idleTimeout.map (r.clock + ·.wait.nanos)) hphase herrand) rfl)
  case answerFails n =>
    split at h
    case h_2 => cases h
    case h_1 reply hphase herrand =>
      dsimp only at h
      obtain ⟨-, h⟩ := Option.ite_none_right_eq_some.1 h
      cases h
      exact changes_close hc (by rw [Running.isOpen, hphase])
        (.inr ⟨reply, r.stamp, n, herrand, rfl⟩)
  case claims =>
    split at h
    case h_2 => cases h
    case h_1 request herrand _ =>
      cases h
      exact changes_claimAux hc herrand request
  case isRefused problem =>
    split at h
    case h_2 => cases h
    case h_1 request deadline herrand =>
      cases h
      exact changes_settleAux hc herrand request _
  case isReady =>
    split at h
    case h_2 => cases h
    case h_1 request deadline id herrand =>
      obtain ⟨-, h⟩ := Option.ite_none_right_eq_some.1 h
      cases h
      exact Changes.aside (changes_settleAux hc herrand request _) (.of_eq rfl)
  case isLost =>
    split at h
    case h_2 => cases h
    case h_1 request deadline id herrand =>
      obtain ⟨-, h⟩ := Option.ite_none_right_eq_some.1 h
      cases h
      exact changes_settleAux hc herrand request _
  case timesOut =>
    split at h
    case h_2 => cases h
    case h_1 request deadline made herrand =>
      dsimp only at h
      obtain ⟨-, h⟩ := Option.ite_none_right_eq_some.1 h
      cases h
      exact changes_settleAux hc herrand request _
  case idles =>
    split at h
    case h_2 => cases h
    case h_1 due _ =>
      obtain ⟨hidle, h⟩ := Option.ite_none_right_eq_some.1 h
      cases h
      exact changes_close_now hc (isOpen_of_isFree hidle.1)
  case readFails =>
    obtain ⟨hfree, h⟩ := Option.ite_none_right_eq_some.1 h
    cases h
    exact changes_close_now hc (isOpen_of_isFree hfree.1)
  case writeFails =>
    obtain ⟨hfree, h⟩ := Option.ite_none_right_eq_some.1 h
    cases h
    exact changes_close_now hc (isOpen_of_isFree hfree.1)

end Connections

/-! ### Links, the monitor and the router -/

theorem mem_set_of_ne {links : List LinkRun} {index : Nat} {l l' other : LinkRun}
    (hl : links[index]? = some l) (hother : other ∈ links) (hne : other ≠ l) :
    other ∈ links.set index l' := by
  obtain ⟨j, hj⟩ := List.mem_iff_getElem?.1 hother
  have hindex : index ≠ j := by
    rintro rfl
    exact hne (Option.some.inj (hj.symm.trans hl))
  exact List.mem_iff_getElem?.2 ⟨j, by rw [List.getElem?_set_ne hindex, hj]⟩

theorem map_link_set {links : List LinkRun} {index : Nat} {l l' : LinkRun}
    (hl : links[index]? = some l) (hlink : l'.link = l.link) :
    (links.set index l').map (·.link) = links.map (·.link) := by
  obtain ⟨hindex, rfl⟩ := List.getElem?_eq_some_iff.1 hl
  rw [List.map_set, hlink, ← List.map_set, List.set_getElem_self]

theorem aside_setLink {r : Relay} {index : Nat} {l l' : LinkRun} (hl : r.links[index]? = some l)
    (hdown : ∀ id, l.phase ≠ .up id) (hlink : l'.link = l.link) : r.Aside (r.setLink index l') where
  config := rfl
  connections := rfl
  mail := rfl
  exchange := rfl
  files := rfl
  identities := rfl
  links := map_link_set hl hlink
  up other hother id hup := by
    refine mem_set_of_ne hl hother ?_
    rintro rfl
    exact hdown id hup

theorem link_wait (l : LinkRun) (clock : Nat) : (l.wait clock).link = l.link := by
  rw [LinkRun.wait]
  split <;> rfl

theorem changes_of_stepLink {r r' : Relay} {index : Nat} {l : LinkRun} {e : LinkEvent}
    (hl : r.links[index]? = some l) (h : r.stepLink index l e = some r') : r.Changes r' := by
  unfold stepLink at h
  split at h
  case h_1 hphase =>
    cases h
    exact .single (.links hl hphase)
  case h_2 hphase =>
    cases h
    exact .single (.aside (aside_setLink hl (by simp [hphase]) (link_wait l r.clock)))
  case h_3 due hphase =>
    obtain ⟨-, h⟩ := Option.ite_none_right_eq_some.1 h
    cases h
    exact .single (.aside (aside_setLink hl (by simp [hphase]) rfl))
  case h_4 => cases h

theorem changes_attend (r : Relay) (letter : MonitorLetter) : r.Changes (r.attend letter) := by
  cases letter with
  | notice notice =>
    have haside : r.Aside { r with monitor := (r.monitor.notice r.clock notice).1 } := .of_eq rfl
    exact .tail (.single (.aside haside)) (.publishes _ _)
  | question asker =>
    unfold attend
    dsimp only
    split
    case h_2 => exact .refl
    case h_1 c hc =>
      split
      case h_2 => exact .refl
      case h_1 request herrand =>
        obtain rfl := id_of_connection? hc
        exact changes_turn hc herrand

/-- **Every step is made of changes.** -/
theorem changes_of_step {r r' : Relay} {e : RelayEvent} (h : r.step e = some r') :
    r.Changes r' := by
  cases e
  all_goals simp only [step, Option.bind_eq_bind, Option.bind_eq_some_iff, Prod.exists,
    Option.pure_def, Option.some.injEq, Option.ite_none_right_eq_some] at h
  case elapse nanos stamp =>
    subst h
    exact .single (.aside (.of_eq rfl))
  case visit server =>
    obtain ⟨-, rfl⟩ := h
    exact .single (.comes r (.inl ⟨server, rfl⟩))
  case connection id e =>
    obtain ⟨c, hc, h⟩ := h
    obtain rfl := id_of_connection? hc
    exact changes_of_stepConnection hc h
  case link index e =>
    obtain ⟨l, hl, h⟩ := h
    exact changes_of_stepLink hl h
  case routes =>
    obtain ⟨letter, mail, htake, rfl⟩ := h
    exact .single (.routes htake)
  case attends =>
    obtain ⟨letter, notices, -, rfl⟩ := h
    exact .head (.aside (.of_eq rfl)) (changes_attend _ letter)
  case beats =>
    obtain ⟨monitor, bulletins, -, rfl⟩ := h
    exact .head (.aside (.of_eq rfl)) (.single (.publishes _ bulletins))
  case expires =>
    obtain ⟨monitor, bulletins, -, rfl⟩ := h
    exact .head (.aside (.of_eq rfl)) (.single (.publishes _ bulletins))
  case reports =>
    obtain ⟨-, rfl⟩ := h
    exact Changes.aside (.single (.reports r _)) (.of_eq rfl)
  case announces accepted =>
    obtain ⟨-, rfl⟩ := h
    exact .single (.aside (.of_eq rfl))
  case fileFails id =>
    obtain ⟨hfile, rfl⟩ := h
    exact .single (.loses hfile)

theorem changes_of_run {r r' : Relay} {events : List RelayEvent} (h : r.run events = some r') :
    r.Changes r' := by
  induction events generalizing r with
  | nil =>
    cases h
    exact .refl
  | cons e rest ih =>
    obtain ⟨mid, hstep, hrest⟩ := run_cons_eq_some_iff.1 h
    exact (changes_of_step hstep).trans (ih hrest)

/-! ## What can be reached -/

/-- Nothing has happened yet. -/
structure Blank (config : Config) (r : Relay) : Prop where
  config_eq : r.config = config
  connections_eq : r.connections = []
  files_eq : r.files = []
  mail_eq : r.mail = .empty
  exchange_eq : r.exchange = .start .standard
  links_eq : r.links = (config.instrument.links config.timing).map (.start config.timing)

/-- A relay that has come out of a blank one. -/
inductive Reached (config : Config) : Relay → Prop
  | start {r : Relay} (h : r.Blank config) : Reached config r
  | change {r r' : Relay} (h : Reached config r) (hchange : Change r r') : Reached config r'

theorem Reached.changes {config : Config} {r r' : Relay} (h : Reached config r)
    (hchanges : r.Changes r') : Reached config r' := by
  induction hchanges with
  | refl => exact h
  | tail _ hchange ih => exact .change ih hchange

theorem reached_of_addFiles {config : Config} {r : Relay} (h : Reached config r)
    (files : List (Endpoint × LogFile)) : Reached config (files.foldl Startup.addFile r) := by
  induction files generalizing r with
  | nil => exact h
  | cons file rest ih => exact ih (.change h (.opens r file))

/-- A relay that has been started is a blank one with its log files opened. -/
theorem reached_of_start {config : Config} {host : Host} {answers : List Bool} {r : Relay}
    (h : (Startup.ofConfig config host answers).outcome = .ok r) : Reached config r := by
  unfold Startup.ofConfig at h
  split at h
  · cases h
  · split at h
    · cases h
    · dsimp only at h
      split at h
      · cases h
      · cases h
        rw [Startup.relay]
        refine reached_of_addFiles (.start ?_) _
        exact ⟨rfl, rfl, rfl, rfl, rfl, rfl⟩

/-- **Every relay at work can be reached by changes.** -/
theorem reached_of_run {config : Config} {host : Host} {answers : List Bool} {r₀ r : Relay}
    {events : List RelayEvent} (h : (Startup.ofConfig config host answers).outcome = .ok r₀)
    (hrun : r₀.run events = some r) : Reached config r :=
  (reached_of_start h).changes (changes_of_run hrun)

end Relay

/-- A machine on which everything succeeds. -/
def Host.willing : Host where
  bind _ port := .ok port
  makeFolder _ := .ok ()
  openLog _ _ := .ok ()
  day := "20240229"

namespace Startup

/-- The relay that was started, after these events, if it was started and they can happen. -/
def after (s : Startup) (events : List RelayEvent) : Option Relay :=
  s.outcome.toOption.bind (·.run events)

theorem exists_of_after {s : Startup} {events : List RelayEvent} {p : Relay → Bool}
    (h : (s.after events).any p = true) :
    ∃ r₀ r, s.outcome = .ok r₀ ∧ r₀.run events = some r ∧ p r = true := by
  obtain ⟨r, hr, hp⟩ := (Option.any_eq_true _ _).1 h
  obtain ⟨r₀, hr₀, hrun⟩ := Option.bind_eq_some_iff.1 hr
  refine ⟨r₀, r, ?_, hrun, hp⟩
  rcases houtcome : s.outcome with e | started <;> rw [houtcome] at hr₀ <;> cases hr₀
  rfl

end Startup

end InstrumentRelay
