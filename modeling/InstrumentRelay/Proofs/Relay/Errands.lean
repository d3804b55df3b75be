import InstrumentRelay.Proofs.Relay.Course
import InstrumentRelay.Proofs.Relay.Deeds

/-!
# Busy connections

A connection that has taken a line is busy until it has answered. Meanwhile it may wait for the
monitor, for others that are opening the auxiliary link, or for the auxiliary link itself. `Orderly`
says what these waits rest on: whoever has asked the monitor is on its list, and the auxiliary link
is held by the one connection that is opening it.

So nobody waits for ever. From whatever is going on, a busy connection gets to its answer without
the help of any peer (`exists_answers`): the monitor reads on, the clock runs, and connections that
are busy get on with it (`RelayEvent.IsOwn`).
-/

namespace InstrumentRelay

/-! ## Errands -/

/-- The line may be answered like this. -/
def Config.Answers (config : Config) (line : Bytes) (reply : Reply) : Prop :=
  ∃ state reached, reply = config.answer (.ok state) reached line

/-- Who is busy with this will answer the line. -/
def Errand.Serves (config : Config) (line : Bytes) : Errand → Prop
  | asking request => Request.ofLine config.instrument.catalogue line = .ok request
  | queueing request => Request.ofLine config.instrument.catalogue line = .ok request
  | opening request _ _ => Request.ofLine config.instrument.catalogue line = .ok request
  | answering reply => config.Answers line reply

theorem Config.answers_reply {config : Config} {line : Bytes} {request : Request}
    (h : Request.ofLine config.instrument.catalogue line = .ok request) (state : LinkState)
    (reached : Except RelayError Unit) :
    config.Answers line (request.reply config (.ok state) reached) :=
  ⟨state, reached, by rw [Config.answer, h]⟩

/-- It is about opening the auxiliary link. -/
def Errand.isOpening : Errand → Bool
  | opening .. => true
  | _ => false

/-- The connection is opening the auxiliary link. -/
def Running.isOpening (c : Running) : Bool := c.errand.any Errand.isOpening

namespace Running

theorem isOpening_of_errand {c : Running} {errand : Errand} (h : c.errand = some errand) :
    c.isOpening = errand.isOpening := by
  rw [isOpening, h, Option.any_some]

theorem isOpening_eq_true_iff {c : Running} :
    c.isOpening = true ↔ ∃ request deadline made, c.errand = some (.opening request deadline made) := by
  constructor
  · intro h
    obtain ⟨errand, herrand, hopening⟩ := (Option.any_eq_true _ _).1 h
    cases errand with
    | opening request deadline made => exact ⟨request, deadline, made, herrand⟩
    | _ => cases hopening
  · rintro ⟨request, deadline, made, herrand⟩
    exact isOpening_of_errand herrand

end Running

namespace Relay

variable {config : Config} {r r' : Relay} {e : RelayEvent}

/-! ## What a deed does to an errand -/

theorem Starts.serves {id : ConnectionId} {line : Bytes} {errand : Errand}
    {notices : List MonitorLetter} (h : r.Starts id line errand notices)
    (hconfig : r.config = config) : errand.Serves config line := by
  subst hconfig
  cases h with
  | faults h => exact ⟨r.monitor.state, .ok (), by rw [Config.answer, h]⟩
  | knows h hneeds => exact Config.answers_reply h _ _
  | asks h hneeds => exact h
  | queues h hneeds => exact h

/-- An errand is for one line until that is answered. -/
theorem Turn.serves {id : ConnectionId} {line : Bytes} {errand errand' : Errand} {aux : AuxLink}
    (h : r.Turn e id errand aux errand') (hconfig : r.config = config)
    (hserves : errand.Serves config line) : errand'.Serves config line := by
  subst hconfig
  cases h with
  | opens request deadline hfree hlink => exact hserves
  | _ => exact Config.answers_reply hserves _ _

namespace Deed

variable {c c' : Running} {messages : List RouterMessage} {notices : List MonitorLetter}
  {aux : AuxLink}

/-- Whoever is busy is registered. -/
theorem running (h : r.Deed e c messages notices aux c')
    (hbusy : c.errand ≠ none → c.phase = .running) : c'.errand ≠ none → c'.phase = .running := by
  cases h with
  | begins due hphase => exact fun _ ↦ rfl
  | takesLine hfree hitem hstarts => exact fun _ ↦ (of_decide_eq_true hfree).1
  | turns herrand hturn => exact fun _ ↦ hbusy (by simp [herrand])
  | answers due hphase herrand => exact fun h ↦ absurd rfl h
  | ends said hopen hsaid hcause => exact fun h ↦ absurd rfl h
  | _ => exact hbusy

/-- Whoever waits for the monitor has asked it. -/
theorem asked (h : r.Deed e c messages notices aux c') {request : Request}
    (hasking : c'.errand = some (.asking request)) :
    c.errand = some (.asking request) ∨ .question c.id ∈ notices := by
  cases h with
  | takesLine hfree hitem hstarts =>
    cases hstarts with
    | asks => exact .inr List.mem_cons_self
    | _ => cases hasking
  | turns herrand hturn => cases hturn <;> cases hasking
  | answers due hphase herrand => cases hasking
  | ends said hopen hsaid hcause => cases hasking
  | _ => exact .inl hasking

/-- The auxiliary link is held by whoever is opening it. -/
theorem holder_iff (h : r.Deed e c messages notices aux c')
    (hbusy : c.errand ≠ none → c.phase = .running)
    (hself : r.aux.holder = some c.id ↔ c.isOpening = true) (id : ConnectionId) :
    aux.holder = some id ↔
      if id = c.id then c'.isOpening = true else r.aux.holder = some id := by
  have hstays (hopening : c'.isOpening = c.isOpening) : r.aux.holder = some id ↔
      if id = c.id then c'.isOpening = true else r.aux.holder = some id := by
    split
    case isTrue hid => rw [hid, hself, hopening]
    case isFalse => rfl
  cases h with
  | takesLine hfree hitem hstarts =>
    refine hstays ?_
    rw [Running.isOpening, Running.isOpening, (of_decide_eq_true hfree).2]
    cases hstarts <;> rfl
  | turns herrand hturn =>
    rw [Running.isOpening_of_errand herrand] at hself
    cases hturn with
    | told request => exact hstays (by simp [Running.isOpening, herrand, Errand.isOpening])
    | reuses request hfree hlink hopen =>
      by_cases hid : id = c.id <;> simp [hid, hfree, Running.isOpening, Errand.isOpening]
    | opens request deadline hfree hlink =>
      by_cases hid : id = c.id
      · simp [hid, Running.isOpening, Errand.isOpening]
      · simp [hid, hfree, Ne.symm hid]
    | _ =>
      have hholder : r.aux.holder = some c.id := hself.2 rfl
      by_cases hid : id = c.id
      · simp [hid, Running.isOpening, Errand.isOpening]
      · simp [hid, hholder, Ne.symm hid]
  | answers due hphase herrand =>
    exact hstays (by simp [Running.isOpening, herrand, Errand.isOpening])
  | ends said hopen hsaid hcause =>
    refine hstays ?_
    -- Nobody who is opening the auxiliary link ends.
    rcases idle_or_answering hbusy hcause with hidle | ⟨n, reply, -, herrand⟩
    · rw [Running.isOpening, Running.isOpening, hidle]
    · rw [Running.isOpening_of_errand herrand]
      rfl
  | _ => exact hstays rfl

/-- Whoever is busy gets on with it, answers, or cannot write its answer. -/
theorem of_busy (h : r.Deed e c messages notices aux c') {errand : Errand}
    (herrand : c.errand = some errand) (hphase : c.phase = .running) :
    (∃ errand', messages = [] ∧ c' = { c with errand := some errand' } ∧
      r.Turn e c.id errand aux errand') ∨
    (∃ reply, errand = .answering reply ∧ messages = [.data (reply.packets r.stamp)] ∧
      c'.phase = .running ∧ c'.errand = none) ∨
    ∃ n reply, e = .connection c.id (.answerFails n) ∧ errand = .answering reply := by
  have hbusy : c.isFree = false := by simp [Running.isFree, herrand]
  cases h with
  | begins due hstarting => cases hstarting.symm.trans hphase
  | turns herrand' hturn =>
    obtain rfl := Option.some.inj (herrand.symm.trans herrand')
    exact .inl ⟨_, rfl, rfl, hturn⟩
  | answers due hrunning herrand' =>
    obtain rfl := Option.some.inj (herrand.symm.trans herrand')
    exact .inr (.inl ⟨_, rfl, rfl, hrunning, rfl⟩)
  | ends said hopen hsaid hcause =>
    rcases hcause with ⟨hstarting, -⟩ | ⟨hfree, -⟩ | ⟨n, reply, he, -, hanswering⟩
    · cases hstarting.symm.trans hphase
    · cases hbusy.symm.trans hfree
    · exact .inr (.inr ⟨n, reply, he, Option.some.inj (herrand.symm.trans hanswering)⟩)
  | receives bytes hfree => cases hbusy.symm.trans hfree
  | hangsUp hfree => cases hbusy.symm.trans hfree
  | passes due hfree => cases hbusy.symm.trans hfree
  | takesLine hfree => cases hbusy.symm.trans hfree
  | writes due hfree => cases hbusy.symm.trans hfree

end Deed

/-! ## All errands -/

/-- The waits of busy connections have their reasons. -/
structure Orderly (config : Config) (r : Relay) : Prop where
  /-- The relay can be reached. -/
  reached : Reached config r
  /-- The monitor takes letters that have been posted. -/
  taken_le : r.notices.taken ≤ r.notices.posted.length
  /-- Whoever is busy is registered. -/
  running : ∀ id c, r.connection? id = some c → c.errand ≠ none → c.phase = .running
  /-- Whoever waits for the monitor is on its list. -/
  asked : ∀ id c request, r.connection? id = some c → c.errand = some (.asking request) →
    .question id ∈ r.notices.pending
  /-- The auxiliary link is held by whoever is opening it. -/
  holder_iff : ∀ id, r.aux.holder = some id ↔ ∃ c, r.connection? id = some c ∧ c.isOpening = true

/-- A question stays on the list of the monitor for as long as someone waits for the answer. -/
theorem Frame.mem_pending {letters : List Letter} {notices : List MonitorLetter}
    (h : r.Frame r' letters notices) (hle : r.notices.taken ≤ r.notices.posted.length)
    {id : ConnectionId} (hasked : .question id ∈ r.notices.pending ++ notices) {c : Running}
    {request : Request} (hc : r'.connection? id = some c)
    (hasking : c.errand = some (.asking request)) : .question id ∈ r'.notices.pending := by
  rw [Mailbox.pending, h.told]
  rcases h.heard with ⟨htaken, -⟩ | ⟨letter, hletter, htaken, -, hsettles⟩
  · rw [htaken, List.drop_append_of_le_length hle]
    exact hasked
  · obtain ⟨hlt, rfl⟩ := List.getElem?_eq_some_iff.1 hletter
    rw [Mailbox.pending, List.drop_eq_getElem_cons hlt, List.cons_append, List.mem_cons] at hasked
    rw [htaken, List.drop_append_of_le_length hlt]
    refine hasked.resolve_left fun heq ↦ ?_
    rw [← heq] at hsettles
    exact hsettles c request hc hasking

namespace Orderly

/-! ### What one step preserves -/

theorem asked_of_move (h : r.Orderly config) (hmove : r.Move e r') {id : ConnectionId}
    {c' : Running} {request : Request} (hc' : r'.connection? id = some c')
    (hasking : c'.errand = some (.asking request)) : .question id ∈ r'.notices.pending := by
  obtain ⟨letters, notices, hframe⟩ := hmove.exists_frame
  have hpending (hasked : .question id ∈ r.notices.pending) : .question id ∈ r'.notices.pending :=
    hframe.mem_pending h.taken_le (List.mem_append_left _ hasked) hc' hasking
  rcases hmove.was h.reached.ledger hc' with ⟨hc, -⟩ | ⟨spec, -, rfl, -⟩ |
    ⟨rfl, hc, -, hdeed, hown, -⟩ | ⟨-, hc, herrand, rfl, -, -⟩
  · exact hpending (h.asked id c' request hc hasking)
  · cases hasking
  · rcases hdeed.asked hasking with hbefore | hnow
    · exact hpending (h.asked _ _ request hc hbefore)
    · exact hown.mem_pending h.taken_le (List.mem_append_right _ hnow) hc' hasking
  · cases hasking

theorem holder_iff_of_move (h : r.Orderly config) (hmove : r.Move e r') (id : ConnectionId) :
    r'.aux.holder = some id ↔ ∃ c, r'.connection? id = some c ∧ c.isOpening = true := by
  have hledger := h.reached.ledger
  cases hmove with
  | aside hframe hletters hconnections haux =>
    rw [haux, connection?_congr hconnections]
    exact h.holder_iff id
  | comes hframe hspec hconnections haux =>
    rw [haux, connection?_congr hconnections, connection?_create, h.holder_iff]
    by_cases hid : id = ⟨r.identities⟩
    · simp [hid, hledger.connection?_next, Running.isOpening]
    · rw [if_neg hid, Option.or_none]
  | @acts c c' messages notices hc hdeed hframe hconnections =>
    have hself : r.aux.holder = some c.id ↔ c.isOpening = true := by
      rw [h.holder_iff, hc]
      simp
    rw [hdeed.holder_iff (h.running _ _ hc) hself, connection?_of_deed hc hdeed hconnections]
    by_cases hid : id = c.id
    · simp [hid]
    · rw [if_neg hid, if_neg hid]
      exact h.holder_iff id
  | @reaches c request deadline hc herrand hframe hconnections haux =>
    rw [haux, connection?_of_reaches hledger hc (by rfl) hconnections, h.holder_iff]
    by_cases hself : id = c.id
    · simp [hself, hc, Running.isOpening, herrand, Errand.isOpening]
    · rw [if_neg hself]
      by_cases hid : id = ⟨r.identities⟩
      · simp [hid, hledger.connection?_next, Running.isOpening]
      · rw [if_neg hid]

theorem running_of_move (h : r.Orderly config) (hmove : r.Move e r') {id : ConnectionId}
    {c' : Running} (hc' : r'.connection? id = some c') (hbusy : c'.errand ≠ none) :
    c'.phase = .running := by
  rcases hmove.was h.reached.ledger hc' with ⟨hc, -⟩ | ⟨spec, -, rfl, -⟩ |
    ⟨rfl, hc, -, hdeed, -⟩ | ⟨-, hc, herrand, rfl, -, -⟩
  · exact h.running id c' hc hbusy
  · exact absurd rfl hbusy
  · exact hdeed.running (h.running _ _ hc) hbusy
  · have hrunning := h.running id _ hc (by simp [herrand])
    exact hrunning

theorem step (h : r.Orderly config) (hstep : r.step e = some r') : r'.Orderly config where
  reached := h.reached.changes (changes_of_step hstep)
  taken_le := by
    obtain ⟨letters, notices, hframe⟩ := (move_of_step hstep).exists_frame
    exact hframe.taken_le h.taken_le
  running _ _ hc' hbusy := h.running_of_move (move_of_step hstep) hc' hbusy
  asked _ _ _ hc' hasking := h.asked_of_move (move_of_step hstep) hc' hasking
  holder_iff := h.holder_iff_of_move (move_of_step hstep)

theorem run (h : r.Orderly config) {events : List RelayEvent} (hrun : r.run events = some r') :
    r'.Orderly config := by
  induction events generalizing r with
  | nil =>
    cases hrun
    exact h
  | cons e rest ih =>
    obtain ⟨mid, hstep, hrest⟩ := run_cons_eq_some_iff.1 hrun
    exact ih (h.step hstep) hrest

end Orderly

theorem orderly_of_start {host : Host} {answers : List Bool}
    (hstart : (Startup.ofConfig config host answers).outcome = .ok r) : r.Orderly config := by
  have hstarted := started_of_start hstart
  constructor
  · exact reached_of_start hstart
  · rw [hstarted.notices_eq]
    exact Nat.le_refl 0
  all_goals simp [connection?, hstarted.connections_eq, hstarted.aux_eq]

end Relay

/-! ## Nobody waits for ever -/

/-- It takes no peer, no server and no directory. -/
def RelayEvent.IsOwn : RelayEvent → Prop
  | elapse _ _ => True
  | attends => True
  | connection _ e => e ∈ [.claims, .isReady, .isLost, .timesOut, .answers]
  | _ => False

namespace Relay

variable {config : Config} {r₀ r r' r'' : Relay} {c : Running}

/-- The relay gets there of its own. -/
def GetsTo (r r' : Relay) : Prop :=
  ∃ events, (∀ e ∈ events, e.IsOwn) ∧ r.run events = some r'

theorem GetsTo.refl (r : Relay) : r.GetsTo r := ⟨[], by simp, rfl⟩

theorem GetsTo.trans (h : r.GetsTo r') (h' : r'.GetsTo r'') : r.GetsTo r'' := by
  obtain ⟨events, hown, hrun⟩ := h
  obtain ⟨events', hown', hrun'⟩ := h'
  refine ⟨events ++ events', fun e he ↦ ?_, ?_⟩
  · exact (List.mem_append.1 he).elim (hown e) (hown' e)
  · rw [run_append, hrun]
    exact hrun'

theorem GetsTo.of_step {e : RelayEvent} (he : e.IsOwn) (hstep : r.step e = some r') :
    r.GetsTo r' :=
  ⟨[e], by simpa using he, by simp [run, hstep]⟩

theorem Orderly.getsTo (h : r.Orderly config) (hgets : r.GetsTo r') : r'.Orderly config := by
  obtain ⟨events, -, hrun⟩ := hgets
  exact h.run hrun

/-- The connection is busy with this on account of a line, and has posted nothing since an earlier
moment. -/
structure BusyWith (config : Config) (r₀ r : Relay) (c : Running) (line : Bytes) (errand : Errand) :
    Prop where
  connection : r.connection? c.id = some { c with errand := some errand }
  posted : r.postedBy c.id = r₀.postedBy c.id
  serves : errand.Serves config line

/-- Others get on, and it is still busy. -/
theorem BusyWith.of_eq {line : Bytes} {errand : Errand} (h : BusyWith config r₀ r c line errand)
    (hconnection : r'.connection? c.id = r.connection? c.id) (hmail : r'.mail = r.mail) :
    BusyWith config r₀ r' c line errand := by
  refine ⟨hconnection.trans h.connection, ?_, h.serves⟩
  rw [postedBy, hmail]
  exact h.posted

/-- It gets on with its errand. -/
theorem BusyWith.turn {line : Bytes} {errand errand' : Errand}
    (h : BusyWith config r₀ r c line errand)
    (hconnections : r'.connections = (r.update { c with errand := some errand' }).connections)
    (hmail : r'.mail = r.mail) (hserves : errand'.Serves config line) :
    BusyWith config r₀ r' c line errand' := by
  refine ⟨?_, ?_, hserves⟩
  · rw [connection?_congr hconnections]
    exact connection?_update_self h.connection
  · rw [postedBy, hmail]
    exact h.posted

/-- The monitor reads on. -/
theorem exists_attends {letter : MonitorLetter} {rest : List MonitorLetter}
    (hpending : r.notices.pending = letter :: rest) :
    ∃ r', r.step .attends = some r' ∧ r'.notices.pending = rest := by
  have htake : ∃ notices, r.notices.take? = some (letter, notices) := by
    rw [Mailbox.pending] at hpending
    have hget : r.notices.posted[r.notices.taken]? = some letter := by
      rw [← List.head?_drop, hpending]
      rfl
    exact ⟨_, Mailbox.take?_eq_some_iff.2 ⟨hget, rfl⟩⟩
  obtain ⟨notices, htake⟩ := htake
  have hrest : notices.pending = rest := by
    rw [Mailbox.pending_of_take? htake] at hpending
    exact (List.cons.inj hpending).2
  refine ⟨{ r with notices := notices }.attend letter, by simp [step, htake], ?_⟩
  rw [← hrest]
  cases letter with
  | notice notice => rfl
  | question asker =>
    rw [attend]
    split
    · split <;> rfl
    · rfl

/-- Whoever waits for the monitor is told. -/
theorem exists_told (h : r.Orderly config) {line : Bytes} {request : Request}
    (hbusy : BusyWith config r₀ r c line (.asking request)) (hphase : c.phase = .running) :
    ∃ r' reply, r.GetsTo r' ∧ BusyWith config r₀ r' c line (.answering reply) := by
  -- The list of the monitor gets shorter, and the question stays on it until it is answered.
  induction hpending : r.notices.pending generalizing r with
  | nil =>
    have hasked := h.asked c.id _ request hbusy.connection rfl
    rw [hpending] at hasked
    cases hasked
  | cons letter rest ih =>
    obtain ⟨mid, hstep, hrest⟩ := exists_attends hpending
    have hgets : r.GetsTo mid := .of_step (e := .attends) trivial hstep
    obtain ⟨c', hc', -⟩ := Changes.kept (changes_of_step hstep) hbusy.connection
    rcases (move_of_step hstep).was h.reached.ledger hc' with ⟨hc, hposted⟩ | ⟨spec, hnone, -, -⟩ |
      ⟨hid, hc, -, hdeed, -, hposted⟩ | ⟨-, hc, herrand, -, -⟩
    · have hstill : BusyWith config r₀ mid c line (.asking request) := by
        refine ⟨?_, hposted.trans hbusy.posted, hbusy.serves⟩
        rw [hc', ← hc, hbusy.connection]
      obtain ⟨r', reply, hlater, hanswering⟩ := ih (h.step hstep) hstill hrest
      exact ⟨r', reply, hgets.trans hlater, hanswering⟩
    · cases hnone.symm.trans hbusy.connection
    · obtain rfl := Option.some.inj (hbusy.connection.symm.trans hc)
      rcases hdeed.of_busy rfl hphase with ⟨errand', rfl, rfl, hturn⟩ | ⟨reply, hanswering, -⟩ |
        ⟨n, reply, he, -⟩
      · have hserves := hturn.serves h.reached.wired.config_eq hbusy.serves
        cases hturn with
        | told =>
          refine ⟨mid, _, hgets, hc', ?_, hserves⟩
          rw [hposted, List.append_nil, hbusy.posted]
      · cases hanswering
      · cases he
    · obtain rfl := Option.some.inj (hbusy.connection.symm.trans hc)
      cases herrand

/-- Whoever is opening the auxiliary link comes to know whether it can be reached, and lets others
try. -/
theorem exists_resolved {request : Request} {deadline : Nat} {made : Option ConnectionId}
    (hc : r.connection? c.id = some { c with errand := some (.opening request deadline made) }) :
    ∃ r' reached, r.GetsTo r' ∧ r'.aux.holder = none ∧ r'.mail = r.mail ∧
      r'.connections = (r.update { c with
        errand := some (.answering (request.reply r.config (.ok r.monitor.state) reached))
        }).connections := by
  let late : Relay := { r with clock := r.clock + deadline }
  have hlate : r.step (.elapse deadline r.stamp) = some late := rfl
  have hgets : r.GetsTo late := .of_step (e := .elapse deadline r.stamp) trivial hlate
  have hopening : late.connection? c.id
      = some { c with errand := some (.opening request deadline made) } := hc
  -- The event that settles it depends on what has become of the link.
  have hsettles (e : ConnectionEvent) (aux : AuxLink) (reached : Except RelayError Unit)
      (he : (RelayEvent.connection c.id e).IsOwn) (haux : aux.holder = none)
      (hstep : late.step (.connection c.id e)
        = some { late.settleAux { c with errand := some (.opening request deadline made) } request
          reached with aux := aux }) :
      ∃ r' reached, r.GetsTo r' ∧ r'.aux.holder = none ∧ r'.mail = r.mail ∧
        r'.connections = (r.update { c with
          errand := some (.answering (request.reply r.config (.ok r.monitor.state) reached))
          }).connections :=
    ⟨_, reached, hgets.trans (.of_step he hstep), haux, rfl, rfl⟩
  by_cases houtcome : (made.bind r.connection?).any (fun link ↦ link.hasBegun || !link.isOpen) = true
  · obtain ⟨link, hmade, hlink⟩ := (Option.any_eq_true _ _).1 houtcome
    obtain ⟨id, rfl, hlink?⟩ := Option.bind_eq_some_iff.1 hmade
    have hlink? : late.connection? id = some link := hlink?
    by_cases hbegun : link.hasBegun = true
    · refine hsettles .isReady { current := some id, holder := none } (.ok ())
        (by simp [RelayEvent.IsOwn]) rfl ?_
      simp [step, stepConnection, hopening, hlink?, hbegun, settleAux]
    · have hclosed : link.isOpen = false := by simpa [hbegun] using hlink
      refine hsettles .isLost { late.aux with holder := none }
        (.error (.io .connectionAborted abortedText)) (by simp [RelayEvent.IsOwn]) rfl ?_
      simp only [step, stepConnection, hopening, hlink?, hbegun, hclosed, Option.bind_eq_bind,
        Option.bind_some, Option.any_some, Bool.not_false, Bool.and_self, if_true, settleAux]
  · refine hsettles .timesOut { late.aux with holder := none }
      (.error (.connectTimeout r.config.timing.auxConnect (auxTarget r.config.instrument)))
      (by simp [RelayEvent.IsOwn]) rfl ?_
    have hnone : (made.bind late.connection?).any (fun link ↦ link.hasBegun || !link.isOpen)
        = false := Bool.of_not_eq_true houtcome
    have hdue : deadline ≤ late.clock := Nat.le_add_left _ _
    simp only [step, stepConnection, hopening, hnone, Option.bind_eq_bind, Option.bind_some, hdue,
      Bool.not_false, and_self, if_true, settleAux]
    rfl

/-- Whoever needs the auxiliary link when nobody is opening it has one or opens it. -/
theorem exists_claimed (hconfig : r.config = config) {line : Bytes} {request : Request}
    (hbusy : BusyWith config r₀ r c line (.queueing request)) (hfree : r.aux.holder = none) :
    ∃ r', r.GetsTo r' ∧ ((∃ reply, BusyWith config r₀ r' c line (.answering reply)) ∨
      ∃ deadline, BusyWith config r₀ r' c line (.opening request deadline none)) := by
  subst hconfig
  have hstep : r.step (.connection c.id .claims)
      = some (r.claimAux { c with errand := some (.queueing request) } request) := by
    simp [step, stepConnection, hbusy.connection, hfree]
  refine ⟨_, .of_step (by simp [RelayEvent.IsOwn]) hstep, ?_⟩
  have hopens (deadline : Nat) : Errand.Serves r.config line (.opening request deadline none) :=
    hbusy.serves
  rw [claimAux]
  split
  · split
    · exact .inl ⟨_, hbusy.turn rfl rfl (Config.answers_reply hbusy.serves _ _)⟩
    · exact .inr ⟨_, hbusy.turn rfl rfl (hopens _)⟩
  · exact .inr ⟨_, hbusy.turn rfl rfl (hopens _)⟩

/-- Whoever queues for the auxiliary link gets its turn. -/
theorem exists_free (h : r.Orderly config) {line : Bytes} {request : Request}
    (hbusy : BusyWith config r₀ r c line (.queueing request)) :
    ∃ r', r.GetsTo r' ∧ r'.aux.holder = none ∧
      BusyWith config r₀ r' c line (.queueing request) := by
  rcases hholder : r.aux.holder with _ | id
  · exact ⟨r, .refl r, hholder, hbusy⟩
  · obtain ⟨d, hd, hopening⟩ := (h.holder_iff id).1 hholder
    obtain ⟨request', deadline, made, herrand⟩ := Running.isOpening_eq_true_iff.1 hopening
    obtain rfl := id_of_connection? hd
    have hother : r.connection? d.id
        = some { d with errand := some (.opening request' deadline made) } := by
      rw [← herrand]
      exact hd
    obtain ⟨r', reached, hgets, hfree, hmail, hconnections⟩ := exists_resolved hother
    have hne : c.id ≠ d.id := by
      intro heq
      rw [← heq, hbusy.connection] at hd
      rw [← Option.some.inj hd] at herrand
      cases herrand
    refine ⟨r', hgets, hfree, hbusy.of_eq ?_ hmail⟩
    rw [connection?_congr hconnections]
    exact connection?_update_of_ne hne

/-- **Whoever is busy comes to know the answer.** -/
theorem exists_answering (h : r.Orderly config) {line : Bytes} {errand : Errand}
    (hbusy : BusyWith config r₀ r c line errand) (hphase : c.phase = .running) :
    ∃ r' reply, r.GetsTo r' ∧ BusyWith config r₀ r' c line (.answering reply) := by
  have hresolved {r : Relay} (h : r.Orderly config) {request : Request} {deadline : Nat}
      {made : Option ConnectionId}
      (hbusy : BusyWith config r₀ r c line (.opening request deadline made)) :
      ∃ r' reply, r.GetsTo r' ∧ BusyWith config r₀ r' c line (.answering reply) := by
    obtain ⟨r', reached, hgets, -, hmail, hconnections⟩ := exists_resolved hbusy.connection
    have hanswers := Config.answers_reply hbusy.serves r.monitor.state reached
    rw [h.reached.wired.config_eq] at hconnections
    exact ⟨r', _, hgets, hbusy.turn hconnections hmail hanswers⟩
  cases errand with
  | asking request => exact exists_told h hbusy hphase
  | queueing request =>
    obtain ⟨r₁, hfirst, hfree, hqueueing⟩ := exists_free h hbusy
    have h₁ := h.getsTo hfirst
    obtain ⟨r₂, hsecond, ⟨reply, hanswering⟩ | ⟨deadline, hopening⟩⟩ :=
      exists_claimed h₁.reached.wired.config_eq hqueueing hfree
    · exact ⟨r₂, reply, hfirst.trans hsecond, hanswering⟩
    · obtain ⟨r₃, reply, hthird, hanswering⟩ := hresolved (h₁.getsTo hsecond) hopening
      exact ⟨r₃, reply, (hfirst.trans hsecond).trans hthird, hanswering⟩
  | opening request deadline made => exact hresolved h hbusy
  | answering reply => exact ⟨r, reply, .refl r, hbusy⟩

/-- Whoever is free takes the line that comes next. -/
theorem step_takes_line {line : Bytes} {input : Input} (hc : r.connection? c.id = some c)
    (hfree : c.isFree = true) (hitem : c.item r.stamp = .ok (some (.line line), input)) :
    r.step (.connection c.id .takes) = some (r.takeLine { c with input := input } line) := by
  rw [Running.item] at hitem
  simp [step, stepConnection, hc, hfree, hitem]

/-- Whoever takes a line is busy with it. -/
theorem exists_starts (hc : r.connection? c.id = some c) (line : Bytes) (input : Input) :
    ∃ errand notices, r.Starts c.id line errand notices ∧
      (r.takeLine { c with input := input } line).connection? c.id
        = some { c with input := input, errand := some errand } := by
  have hbusy (errand : Errand) :
      ((r.post (some c.id) [.data (Packet.split .command r.stamp line)]).update
        { c with input := input, errand := some errand }).connection? c.id
      = some { c with input := input, errand := some errand } :=
    connection?_update_self (r := r.post _ _) (c := { c with input := input, errand := _ }) hc
  rw [takeLine]
  dsimp only
  split
  case h_1 error h => exact ⟨_, _, .faults h, hbusy _⟩
  case h_2 request h =>
    split
    case h_1 hneeds => exact ⟨_, _, .knows h hneeds, hbusy _⟩
    case h_2 hneeds => exact ⟨_, _, .asks h hneeds, hbusy _⟩
    case h_3 hneeds => exact ⟨_, _, .queues h hneeds, hbusy _⟩

/-- Whoever has an answer writes it and posts it. -/
theorem step_answers {reply : Reply} (hc : r.connection? c.id = some c)
    (hphase : c.phase = .running) (herrand : c.errand = some (.answering reply)) :
    r.step (.connection c.id .answers)
      = some ((r.post (some c.id) [.data (reply.packets r.stamp)]).update
        ({ c with
          errand := none
          written := c.written ++ (reply.packets r.stamp).map Packet.frame }.touch r.clock)) := by
  simp only [step, Option.bind_eq_bind, hc, Option.bind_some, stepConnection, hphase, herrand]

/-- **Every line is answered without anybody's help.** -/
theorem exists_answers (h : r.Orderly config) (hc : r.connection? c.id = some c) {line : Bytes}
    {errand : Errand} (herrand : c.errand = some errand) (hserves : errand.Serves config line) :
    ∃ (r' : Relay) (c' : Running) (reply : Reply), r.GetsTo r' ∧ r'.connection? c.id = some c' ∧
      c'.phase = .running ∧ c'.errand = none ∧ config.Answers line reply ∧
      r'.postedBy c.id = r.postedBy c.id ++ [.data (reply.packets r'.stamp)] := by
  have hphase := h.running c.id c hc (by simp [herrand])
  have hnow : BusyWith config r r c line errand := by
    refine ⟨?_, rfl, hserves⟩
    rw [← herrand]
    exact hc
  obtain ⟨mid, reply, hgets, hanswering⟩ := exists_answering h hnow hphase
  let ready : Running := { c with errand := some (.answering reply) }
  have hstep := step_answers (c := ready) hanswering.connection hphase rfl
  refine ⟨_, _, reply, hgets.trans (.of_step (by simp [RelayEvent.IsOwn]) hstep),
    connection?_update_self (r := mid.post _ _) (c := .touch _ _) hanswering.connection, hphase,
    rfl, hanswering.serves, ?_⟩
  have hposted := postedBy_post mid (some c.id) [.data (reply.packets mid.stamp)] c.id
  rw [if_pos rfl, hanswering.posted] at hposted
  exact hposted

end Relay

end InstrumentRelay
