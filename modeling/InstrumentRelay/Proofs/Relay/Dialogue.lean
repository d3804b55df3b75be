import Mathlib.Data.List.Basic
import InstrumentRelay.Proofs.Relay.Errands
import InstrumentRelay.Proofs.Relay.Framing
import InstrumentRelay.Proofs.Stream.LineReader

/-!
# Lines and their answers

Someone who types commands sends lines, and each of them is answered before the next one is looked
at. A `Talk` is a line with its answer. `Running.Dialogue` says of a connection that takes lines
that everything it has posted are its talks, one after the other, and at most one line that it is
still busy with; that the lines are those of the stream it has read, in order; and that what it has
written are its answers and what was routed to it, in whole frames. Every such connection has a
dialogue after every run in which its answers could be written (`Relay.dialogue_of_run`).
-/

namespace InstrumentRelay

/-- A line and its answer. -/
structure Talk where
  /-- The line. -/
  line : Bytes
  /-- When it was taken. -/
  heard : Timestamp
  /-- The answer. -/
  reply : Reply
  /-- When it was given. -/
  said : Timestamp

namespace Talk

/-- The packets of the answer. -/
def answer (t : Talk) : List Packet := t.reply.packets t.said

/-- What is posted: the line, and then the answer. -/
def messages (t : Talk) : List RouterMessage :=
  [.data (Packet.split .command t.heard t.line), .data t.answer]

end Talk

/-- A line that has not been answered yet, with the time at which it was taken. -/
abbrev Asked : Type := Option (Bytes × Timestamp)

namespace Asked

/-- The line. -/
def line (asked : Asked) : List Bytes := (asked.map Prod.fst).toList

/-- What is posted: the line. -/
def messages (asked : Asked) : List RouterMessage :=
  (asked.map fun (line, heard) ↦ .data (Packet.split .command heard line)).toList

end Asked

namespace Running

/-- What a connection that takes lines has done: it has been through these talks, and may be busy
with one more line. -/
structure Dialogue (config : Config) (posted : List RouterMessage) (c : Running)
    (talks : List Talk) (asked : Asked) : Prop where
  /-- Someone has come to type commands. -/
  spec_eq : c.spec = ServerKind.command.spec
  /-- It has posted its talks in order. -/
  posted_eq : posted = (if c.hasBegun then [.register c.connection] else [])
    ++ talks.flatMap Talk.messages ++ asked.messages
    ++ if c.phase = .closed true then [.deregister c.connection] else []
  /-- It has been registered before. -/
  begun : c.hasBegun = false → talks = []
  /-- Every line has got an answer that belongs to it. -/
  answers : ∀ t ∈ talks, config.Answers t.line t.reply
  /-- It is busy with the line that is left. -/
  serves : ∀ errand, c.errand = some errand →
    ∃ line heard, asked = some (line, heard) ∧ errand.Serves config line
  /-- If no line is left, it is not busy. -/
  idle : c.errand = none → asked = none
  /-- The lines are those of the stream. -/
  reads : ∃ reader, c.input = .lines reader ∧ ∀ more, (c.hungUp = true → more = []) →
    (LineReader.empty.feed (c.received ++ more)).drainEnd
      = (talks.map Talk.line ++ asked.line).foldr .cons (reader.feed more).drainEnd
  /-- Nothing has been written that was not routed or answered. -/
  length_written : c.written.length = c.sent + (talks.flatMap Talk.answer).length

namespace Dialogue

variable {config : Config} {posted : List RouterMessage} {c c' : Running} {talks : List Talk}
  {asked : Asked}

/-- While it runs, it has posted its registration, its talks, and the line that is left. -/
theorem posted_of_running (h : Dialogue config posted c talks asked) (hphase : c.phase = .running) :
    posted = .register c.connection :: (talks.flatMap Talk.messages ++ asked.messages) := by
  simpa [hasBegun, hphase] using h.posted_eq

/-- It has just come. -/
theorem made (config : Config) (id : ConnectionId) :
    Dialogue config [] { id := id, spec := ServerKind.command.spec } [] none where
  spec_eq := rfl
  posted_eq := rfl
  begun _ := rfl
  answers := by simp
  serves := by simp
  idle _ := rfl
  reads := ⟨.empty, rfl, fun more _ ↦ rfl⟩
  length_written := rfl

/-- It gets on with answering. -/
theorem turn (h : Dialogue config posted c talks asked) {errand errand' : Errand}
    (herrand : c.errand = some errand)
    (hserves : ∀ line, errand.Serves config line → errand'.Serves config line) :
    Dialogue config posted { c with errand := some errand' } talks asked where
  spec_eq := h.spec_eq
  posted_eq := h.posted_eq
  begun := h.begun
  answers := h.answers
  serves := by
    rintro other ⟨rfl⟩
    obtain ⟨line, heard, hasked, hbefore⟩ := h.serves errand herrand
    exact ⟨line, heard, hasked, hserves line hbefore⟩
  idle := by simp
  reads := h.reads
  length_written := h.length_written

/-- It takes the next line of the stream. -/
theorem takesLine (h : Dialogue config posted c talks asked) {now : Timestamp} {line : Bytes}
    {input : Input} {errand : Errand} (hfree : c.isFree = true)
    (hitem : c.item now = .ok (some (.line line), input)) (hserves : errand.Serves config line) :
    Dialogue config (posted ++ [.data (Packet.split .command now line)])
      { c with input := input, errand := some errand } talks (some (line, now)) := by
  obtain ⟨hphase, hidle⟩ : c.phase = .running ∧ c.errand = none := of_decide_eq_true hfree
  obtain rfl := h.idle hidle
  obtain ⟨reader, hinput, hreads⟩ := h.reads
  constructor
  · exact h.spec_eq
  · rw [h.posted_of_running hphase]
    simp [Asked.messages, connection, hasBegun, hphase]
  · exact h.begun
  · exact h.answers
  · rintro other ⟨rfl⟩
    exact ⟨line, now, rfl, hserves⟩
  · simp
  · -- The line is the next one of the stream, whether the stream goes on or has ended.
    have htakes : ∃ reader', input = .lines reader' ∧ ∀ more, (c.hungUp = true → more = []) →
        (reader.feed more).drainEnd = .cons line (reader'.feed more).drainEnd := by
      rw [item, hinput] at hitem
      split at hitem
      case isTrue hup =>
        rcases hfinish : reader.finish with e | ⟨_ | line', reader'⟩ <;>
          simp only [Input.finish, hfinish] at hitem <;> cases hitem
        refine ⟨reader', rfl, fun more hmore ↦ ?_⟩
        rw [hmore hup, LineReader.feed_nil, LineReader.feed_nil]
        exact LineReader.drainEnd_of_finish hfinish
      case isFalse hup =>
        rcases hnext : reader.next with e | ⟨_ | line', reader'⟩ <;>
          simp only [Input.next, hnext] at hitem <;> cases hitem
        refine ⟨reader', rfl, fun more _ ↦ LineReader.drainEnd_of_finish ?_⟩
        exact LineReader.finish_of_next (LineReader.next_feed hnext more)
    obtain ⟨reader', rfl, hline⟩ := htakes
    refine ⟨reader', rfl, fun more hmore ↦ ?_⟩
    rw [hreads more hmore, hline more hmore]
    simp [Asked.line, List.foldr_append]
  · exact h.length_written

/-- It answers. -/
theorem replies (h : Dialogue config posted c talks asked) (now : Timestamp) {reply : Reply}
    (hphase : c.phase = .running) (herrand : c.errand = some (.answering reply))
    (due : Option Nat) :
    ∃ line heard, asked = some (line, heard) ∧
      Dialogue config (posted ++ [.data (reply.packets now)])
        { c with
          errand := none
          written := c.written ++ (reply.packets now).map Packet.frame
          idleDue := due }
        (talks ++ [⟨line, heard, reply, now⟩]) none := by
  obtain ⟨line, heard, rfl, hanswers⟩ := h.serves _ herrand
  refine ⟨line, heard, rfl, ?_⟩
  constructor
  · exact h.spec_eq
  · rw [h.posted_of_running hphase]
    simp [Asked.messages, connection, hasBegun, hphase, Talk.messages, Talk.answer]
  · intro hbegun
    simp [hasBegun, hphase] at hbegun
  · intro t ht
    rcases List.mem_append.1 ht with hold | hnew
    · exact h.answers t hold
    · obtain rfl := List.mem_singleton.1 hnew
      exact hanswers
  · simp
  · simp
  · obtain ⟨reader, hinput, hreads⟩ := h.reads
    refine ⟨reader, hinput, fun more hmore ↦ ?_⟩
    rw [hreads more hmore]
    simp [Asked.line]
  · simp [h.length_written, Talk.answer, Nat.add_assoc]

/-- It is registered. -/
theorem begins (h : Dialogue config posted c talks asked) (hphase : c.phase = .starting)
    (hidle : c.errand = none) (due : Option Nat) :
    Dialogue config (posted ++ [.register c.connection])
      { c with
        phase := .running
        written := c.written ++ c.spec.greeting.toList
        idleDue := due } [] none := by
  have htalks : talks = [] := h.begun (by rw [hasBegun, hphase])
  obtain rfl := h.idle hidle
  subst htalks
  have hposted : posted = [] := by
    simpa [hasBegun, hphase, Asked.messages] using h.posted_eq
  have hgreeting : c.spec.greeting = none := by
    rw [h.spec_eq]
    rfl
  constructor
  · exact h.spec_eq
  · simp [hposted, hasBegun, Asked.messages, connection]
  · exact fun _ ↦ rfl
  · simp
  · exact h.serves
  · exact fun _ ↦ rfl
  · exact h.reads
  · rw [hgreeting]
    simpa using h.length_written

/-- More of the stream arrives. -/
theorem receives (h : Dialogue config posted c talks asked) (bytes : Bytes)
    (hup : c.hungUp = false) :
    Dialogue config posted
      { c with input := c.input.feed bytes, received := c.received ++ bytes } talks asked := by
  refine { h with reads := ?_ }
  obtain ⟨reader, hinput, hreads⟩ := h.reads
  refine ⟨reader.feed bytes, ?_, fun more hmore ↦ ?_⟩
  · simp only [hinput]
    rfl
  · rw [List.append_assoc, hreads (bytes ++ more) (by simp [hup]), LineReader.feed_append]

/-- The stream ends. -/
theorem hangsUp (h : Dialogue config posted c talks asked) :
    Dialogue config posted { c with hungUp := true } talks asked := by
  refine { h with reads := ?_ }
  obtain ⟨reader, hinput, hreads⟩ := h.reads
  exact ⟨reader, hinput, fun more hmore ↦ hreads more fun _ ↦ hmore rfl⟩

/-- It ends without a word. -/
theorem ends (h : Dialogue config posted c talks asked) (hopen : c.isOpen = true)
    (hidle : c.errand = none) :
    Dialogue config
      (posted ++ if c.phase = .running then [.deregister c.connection] else [])
      { c with
        phase := .closed c.hasBegun
        errand := none
        written := c.written ++ [] } talks none := by
  obtain rfl := h.idle hidle
  constructor
  · exact h.spec_eq
  · rw [h.posted_eq]
    rcases hphase : c.phase with _ | _ | begun
    · simp [hasBegun, hphase]
    · simp [hasBegun, hphase, connection]
    · rw [isOpen, hphase] at hopen
      cases hopen
  · intro hbegun
    exact h.begun hbegun
  · exact h.answers
  · simp
  · exact fun _ ↦ rfl
  · exact h.reads
  · simpa using h.length_written

/-- **Whatever the connection does, it keeps to the order of lines and answers**, unless it cannot
write an answer. -/
theorem deed {r : Relay} {e : RelayEvent} {messages : List RouterMessage}
    {notices : List MonitorLetter} {aux : AuxLink} (h : Dialogue config posted c talks asked)
    (hdeed : r.Deed e c messages notices aux c') (hconfig : r.config = config)
    (hbusy : c.errand ≠ none → c.phase = .running)
    (hfails : ∀ n, e ≠ .connection c.id (.answerFails n)) :
    ∃ talks' asked', Dialogue config (posted ++ messages) c' talks' asked' := by
  cases hdeed with
  | begins due hphase =>
    exact ⟨[], none, h.begins hphase (errand_eq_none_of_starting hbusy hphase) due⟩
  | receives bytes hfree hup hwaits =>
    rw [List.append_nil]
    exact ⟨talks, asked, h.receives bytes hup⟩
  | hangsUp hfree =>
    rw [List.append_nil]
    exact ⟨talks, asked, h.hangsUp⟩
  | passes due hfree hitem =>
    obtain ⟨reader, hinput, -⟩ := h.reads
    have hlines := (takes_of_item hitem).inbound_of_packets
    rw [hinput] at hlines
    exact absurd rfl hlines
  | takesLine hfree hitem hstarts =>
    exact ⟨talks, _, h.takesLine hfree hitem (hstarts.serves hconfig)⟩
  | turns herrand hturn =>
    rw [List.append_nil]
    exact ⟨talks, asked, h.turn herrand fun line hserves ↦ hturn.serves hconfig hserves⟩
  | answers due hphase herrand =>
    obtain ⟨line, heard, -, hlater⟩ := h.replies r.stamp hphase herrand due
    exact ⟨_, none, hlater⟩
  | writes due hfree hqueue =>
    refine ⟨talks, asked, ?_⟩
    rw [List.append_nil]
    refine { h with length_written := ?_ }
    simp [h.length_written]
    omega
  | ends said hopen hsaid hcause =>
    have hidle : c.errand = none := by
      rcases Relay.Deed.idle_or_answering hbusy hcause with hidle | ⟨n, reply, he, -⟩
      · exact hidle
      · exact absurd he (hfails n)
    obtain rfl := hsaid.eq_nil hidle
    exact ⟨talks, none, h.ends hopen hidle⟩

end Dialogue

/-- There is as much in a merge as there is in its parts. -/
theorem Source.length_eq_of_isMerge {α : Type} {whole fromRouter fromItself : List α}
    (h : IsMerge whole (Source.parts fromRouter fromItself)) :
    whole.length = fromRouter.length + fromItself.length := by
  obtain ⟨tagged, rfl, hparts⟩ := h
  have hrouter : (tagged.filter (·.1 = .router)).map Prod.snd = fromRouter := hparts .router
  have hitself : (tagged.filter (·.1 = .itself)).map Prod.snd = fromItself := hparts .itself
  have hother : (fun t : Source × α ↦ !decide (t.1 = .router)) = fun t ↦ decide (t.1 = .itself) := by
    funext t
    rcases t with ⟨_ | _, _⟩ <;> rfl
  rw [← hrouter, ← hitself, List.length_map, List.length_map, List.length_map,
    List.length_eq_length_filter_add (fun t : Source × α ↦ decide (t.1 = .router)), hother]

end Running

/-- A connection is handed only what is served to its endpoint. -/
theorem Connection.mem_handed {c : Connection} {registered : Bool} {moves : List RouterMove}
    {p : Packet} (h : p ∈ c.handed registered moves) :
    ∃ target, .serve p target ∈ moves ∧ target.endpoint = c.endpoint := by
  induction moves generalizing registered with
  | nil => cases h
  | cons m rest ih =>
    have hrest {registered : Bool} (h : p ∈ c.handed registered rest) :
        ∃ target, .serve p target ∈ m :: rest ∧ target.endpoint = c.endpoint := by
      obtain ⟨target, hserve, htarget⟩ := ih h
      exact ⟨target, List.mem_cons_of_mem m hserve, htarget⟩
    cases m with
    | serve q target =>
      rcases List.mem_append.1 h with hnow | hlater
      · split at hnow
        case isTrue hgets =>
          obtain rfl := List.mem_singleton.1 hnow
          exact ⟨target, List.mem_cons_self, hgets.2⟩
        case isFalse => cases hnow
      · exact hrest hlater
    | _ => exact hrest h

namespace Relay

variable {config : Config} {host : Host} {startAnswers : List Bool} {r₀ r : Relay}
  {events : List RelayEvent} {c : Running}

/-- **Every connection that takes lines has a dialogue**, as long as its answers can be written. -/
theorem dialogue_of_run (hstart : (Startup.ofConfig config host startAnswers).outcome = .ok r₀)
    (hrun : r₀.run events = some r) {id : ConnectionId} (hc : r.connection? id = some c)
    (hend : c.spec.endpoint = .commander) (hwrites : ∀ n, .connection id (.answerFails n) ∉ events) :
    ∃ talks asked, c.Dialogue config (r.postedBy id) talks asked := by
  refine keeps_run hstart (P := fun events r ↦ (∀ n, .connection id (.answerFails n) ∉ events) →
    ∀ c, r.connection? id = some c → c.spec.endpoint = .commander →
      ∃ talks asked, c.Dialogue config (r.postedBy id) talks asked) ?_ ?_ hrun hwrites c hc hend
  · intro _ c hc
    rw [connection?, (started_of_start hstart).connections_eq] at hc
    cases hc
  · intro events e r r' hreached hrun hstep ih hwrites c' hc' hend
    have horderly : r.Orderly config := (orderly_of_start hstart).run hrun
    have hbefore (n : Nat) : .connection id (.answerFails n) ∉ events := fun hmem ↦
      hwrites n (List.mem_append_left _ hmem)
    rcases (move_of_step hstep).was hreached.ledger hc' with ⟨hc, hposted⟩ |
      ⟨spec, -, rfl, hposted⟩ | ⟨rfl, hc, -, hdeed, -, hposted⟩ | ⟨-, hc, herrand, rfl, hposted, -⟩
    · rw [hposted]
      exact ih hbefore c' hc hend
    · have hwired := (hreached.changes (changes_of_step hstep)).wired
      have hspec : spec = ServerKind.command.spec := (hwired.wires id _ hc').eq_server hend
      rw [hposted, hspec]
      exact ⟨[], none, .made config id⟩
    · rw [hdeed.act.same.2] at hend
      obtain ⟨talks, asked, hdialogue⟩ := ih hbefore _ hc hend
      rw [hposted]
      refine hdialogue.deed hdeed hreached.wired.config_eq (horderly.running _ _ hc) fun n he ↦ ?_
      exact hwrites n (List.mem_append_right _ (List.mem_singleton.2 he.symm))
    · obtain ⟨talks, asked, hdialogue⟩ := ih hbefore _ hc hend
      rw [hposted]
      exact ⟨talks, asked, hdialogue.turn herrand fun line hserves ↦ hserves⟩

theorem answers_of_dialogue {posted : List RouterMessage} {talks : List Talk} {asked : Asked}
    (h : c.Dialogue config posted talks asked) :
    Running.History.answers posted = talks.flatMap Talk.answer := by
  have htalks : Running.History.answers (talks.flatMap Talk.messages)
      = talks.flatMap Talk.answer := by
    clear h
    induction talks with
    | nil => rfl
    | cons t rest ih =>
      have hfirst : Running.History.answers t.messages = t.answer := by
        rw [Talk.messages, ← List.singleton_append, Running.History.answers_append,
          Running.History.answers_line, Talk.answer, Running.History.answers_reply, List.nil_append]
      rw [List.flatMap_cons, Running.History.answers_append, hfirst, ih, List.flatMap_cons]
  have hasked : Running.History.answers asked.messages = [] := by
    rcases asked with _ | ⟨line, heard⟩
    · rfl
    · exact Running.History.answers_line heard line
  rw [h.posted_eq, Running.History.answers_append, Running.History.answers_append,
    Running.History.answers_append, htalks, hasked]
  split <;> split <;> simp [Running.History.answers, RouterMessage.packets]

/-- What is routed to someone who types commands comes from the auxiliary link. -/
theorem Reached.routed_commander (h : Reached config r) (hc : r.connection? c.id = some c)
    (hend : c.spec.endpoint = .commander) :
    ∃ routed : List Packet, r.exchange.deliveredTo c.id = routed.map Packet.frame ∧
      ∀ p ∈ routed, p.kind = .auxResponse := by
  obtain ⟨moves, hmoves, hhandles, -⟩ := h.ledger.routed
  have hframed : Connection.Framed c.connection.endpoint := by
    rw [show c.connection.endpoint = .commander from hend]
    exact Connection.framed_commander
  have hall : Handles .standard r.handled (moves ++ []) := by rwa [List.append_nil]
  refine ⟨_, Connection.deliveredTo_eq_frames hmoves hall (h.ledger.sole hc hhandles) hframed,
    fun p hp ↦ ?_⟩
  obtain ⟨target, hserve, htarget⟩ := Connection.mem_handed hp
  have hmem := (List.takeWhile_prefix _).subset hserve
  have hform := RouteTable.rendering_of_mem_standard
    (Connection.mem_targetsFor_of_handles hhandles hmem)
  rw [htarget, show c.connection.endpoint = .commander from hend, Endpoint.form?] at hform
  exact (Option.ite_none_right_eq_some.1 hform).1

/-- What has been written to someone who types commands are the answers and what was routed to it,
in whole frames. -/
theorem Reached.written_of_dialogue (h : Reached config r) (hc : r.connection? c.id = some c)
    {talks : List Talk} {asked : Asked}
    (hdialogue : c.Dialogue config (r.postedBy c.id) talks asked) :
    ∃ routed packets : List Packet, r.exchange.deliveredTo c.id = routed.map Packet.frame ∧
      (∀ p ∈ routed, p.kind = .auxResponse) ∧ c.written = packets.map Packet.frame ∧
      IsMerge packets (Running.Source.parts (routed.take c.sent) (talks.flatMap Talk.answer)) := by
  have hend : c.spec.endpoint = .commander := by
    rw [hdialogue.spec_eq]
    rfl
  obtain ⟨routed, hrouted, hkind⟩ := h.routed_commander hc hend
  obtain ⟨cut, packets, -, hwritten, hmerge⟩ := h.written_commander hc hend hrouted
  rw [answers_of_dialogue hdialogue] at hmerge
  -- Everything that has been written is accounted for, so no answer has been cut off.
  have hcut : cut = [] := by
    have hlength := Running.Source.length_eq_of_isMerge hmerge
    have hsent := (h.history hc).sent_le
    have htotal := hdialogue.length_written
    rw [hrouted, List.length_map] at hsent
    rw [hwritten, List.length_map] at htotal
    rw [List.length_take_of_le hsent, List.length_append] at hlength
    exact List.length_eq_zero_iff.1 (by omega)
  rw [hcut, List.append_nil] at hmerge
  exact ⟨routed, packets, hrouted, hkind, hwritten, hmerge⟩

/-! ## What a line cannot do -/

/-- A connection that is busy goes on running, whatever happens, as long as it can write. -/
theorem Orderly.running_of_step (h : r.Orderly config) {e : RelayEvent} {r' : Relay}
    (hstep : r.step e = some r') (hc : r.connection? c.id = some c) (hbusy : c.errand ≠ none)
    (hwrites : ∀ n, e ≠ .connection c.id (.answerFails n)) :
    ∃ c', r'.connection? c.id = some c' ∧ c'.phase = .running := by
  have hphase := h.running c.id c hc hbusy
  obtain ⟨errand, herrand⟩ := Option.ne_none_iff_exists'.1 hbusy
  obtain ⟨c', hc', -⟩ := Changes.kept (changes_of_step hstep) hc
  refine ⟨c', hc', ?_⟩
  rcases (move_of_step hstep).was h.reached.ledger hc' with ⟨hsame, -⟩ | ⟨spec, hnone, -, -⟩ |
    ⟨-, hsame, -, hdeed, -⟩ | ⟨-, hsame, -, rfl, -⟩
  · obtain rfl := Option.some.inj (hc.symm.trans hsame)
    exact hphase
  · cases hnone.symm.trans hc
  · obtain rfl := Option.some.inj (hc.symm.trans hsame)
    rcases hdeed.of_busy herrand hphase with ⟨errand', -, rfl, -⟩ | ⟨reply, -, -, hrunning, -⟩ |
      ⟨n, reply, he, -⟩
    · exact hphase
    · exact hrunning
    · exact absurd he (hwrites n)
  · obtain rfl := Option.some.inj (hc.symm.trans hsame)
    exact hphase

/-- A line makes a connection busy, whatever the line is. -/
theorem exists_takesLine {line : Bytes} {input : Input} (hc : r.connection? c.id = some c)
    (hfree : c.isFree = true) (hitem : c.item r.stamp = .ok (some (.line line), input)) :
    ∃ r' c', r.step (.connection c.id .takes) = some r' ∧ r'.connection? c.id = some c' ∧
      c'.phase = .running ∧ c'.errand ≠ none := by
  have hphase : c.phase = .running := (of_decide_eq_true hfree).1
  obtain ⟨errand, notices, -, htaken⟩ := exists_starts hc line input
  exact ⟨_, _, step_takes_line hc hfree hitem, htaken, hphase, by simp⟩

/-- **Every line is answered, one after the other, and none of them ends the connection.**

As long as answers can be written, whatever else happens: what someone who types commands makes the
router receive are, for each line of the stream in turn, packets that together are the line, and
then at least one packet of an answer that belongs to it; only the last line may still be without
its answer, while the connection is busy. What the peer gets are whole frames, and they are a merge
of the packets of these answers and of the first of those that were routed to the connection, which
all come from the auxiliary link. Any line makes the connection busy and leaves it running; while it
is busy nothing makes it end; and without anybody's help it comes to write and post an answer to the
line. -/
theorem lines_answered (hstart : (Startup.ofConfig config host startAnswers).outcome = .ok r₀)
    (hrun : r₀.run events = some r) (hc : r.connection? c.id = some c)
    (hend : c.spec.endpoint = .commander)
    (hwrites : ∀ n, .connection c.id (.answerFails n) ∉ events) :
    ∃ (talks : List Talk) (asked : Asked) (reader : LineReader) (routed packets : List Packet),
      (r.postedBy c.id = (if c.hasBegun then [.register c.connection] else [])
        ++ talks.flatMap Talk.messages ++ asked.messages
        ++ if c.phase = .closed true then [.deregister c.connection] else []) ∧
      (∀ t ∈ talks, Packet.join (Packet.split .command t.heard t.line) = t.line ∧
        t.answer ≠ [] ∧ config.Answers t.line t.reply) ∧
      (asked = none ↔ c.errand = none) ∧
      c.input = .lines reader ∧
      (LineReader.empty.feed c.received).drainEnd.lines
        = talks.map Talk.line ++ asked.line ++ reader.drainEnd.lines ∧
      r.exchange.deliveredTo c.id = routed.map Packet.frame ∧
      (∀ p ∈ routed, p.kind = .auxResponse) ∧
      c.written = packets.map Packet.frame ∧
      IsMerge packets (Running.Source.parts (routed.take c.sent) (talks.flatMap Talk.answer)) ∧
      (∀ line input, c.isFree = true → c.item r.stamp = .ok (some (.line line), input) →
        ∃ r' c', r.step (.connection c.id .takes) = some r' ∧ r'.connection? c.id = some c' ∧
          c'.phase = .running ∧ c'.errand ≠ none) ∧
      (∀ e r', r.step e = some r' → c.errand ≠ none →
        (∀ n, e ≠ .connection c.id (.answerFails n)) →
          ∃ c', r'.connection? c.id = some c' ∧ c'.phase = .running) ∧
      ∀ line heard, asked = some (line, heard) →
        ∃ (r' : Relay) (c' : Running) (reply : Reply), r.GetsTo r' ∧
          r'.connection? c.id = some c' ∧ c'.phase = .running ∧ c'.errand = none ∧
          config.Answers line reply ∧
          r'.postedBy c.id = r.postedBy c.id ++ [.data (reply.packets r'.stamp)] := by
  have horderly : r.Orderly config := (orderly_of_start hstart).run hrun
  obtain ⟨talks, asked, hdialogue⟩ := dialogue_of_run hstart hrun hc hend hwrites
  obtain ⟨reader, hinput, hreads⟩ := hdialogue.reads
  obtain ⟨routed, packets, hrouted, hkind, hwritten, hmerge⟩ :=
    horderly.reached.written_of_dialogue hc hdialogue
  have hlines := congrArg LineReader.Drained.lines (hreads [] fun _ ↦ rfl)
  rw [List.append_nil, LineReader.feed_nil, LineReader.lines_foldr_cons] at hlines
  refine ⟨talks, asked, reader, routed, packets, hdialogue.posted_eq, fun t ht ↦ ?_, ?_, hinput,
    hlines, hrouted, hkind, hwritten, hmerge, fun line input ↦ exists_takesLine hc,
    fun e r' hstep ↦ horderly.running_of_step hstep hc, fun line heard hasked ↦ ?_⟩
  · exact ⟨Packet.join_split _ _ _, Reply.packets_ne_nil _ _, hdialogue.answers t ht⟩
  · refine ⟨fun hnone ↦ ?_, hdialogue.idle⟩
    refine Decidable.byContradiction fun hbusy ↦ ?_
    obtain ⟨errand, herrand⟩ := Option.ne_none_iff_exists'.1 hbusy
    obtain ⟨line, heard, hsome, -⟩ := hdialogue.serves errand herrand
    cases hnone.symm.trans hsome
  · have hbusy : c.errand ≠ none := by
      intro hidle
      cases hasked.symm.trans (hdialogue.idle hidle)
    obtain ⟨errand, herrand⟩ := Option.ne_none_iff_exists'.1 hbusy
    obtain ⟨line', heard', hsome, hserves⟩ := hdialogue.serves errand herrand
    obtain ⟨rfl, rfl⟩ := Prod.mk.inj (Option.some.inj (hasked.symm.trans hsome))
    exact exists_answers horderly hc herrand hserves

/-- An empty line, one that cannot be taken apart, and one that asks for the state. -/
theorem lines_answered_of_three :
    ∃ (r : Relay) (c : Running) (talks : List Talk), r.connection? c.id = some c ∧
      c.phase = .running ∧
      r.postedBy c.id = .register c.connection :: talks.flatMap Talk.messages ∧
      talks.map Talk.line = [[], Bytes.ofText "\"", Bytes.ofText "get_state"] ∧
      ∃ packets : List Packet, c.written = packets.map Packet.frame ∧
        IsMerge packets (Running.Source.parts [] (talks.flatMap Talk.answer)) := by
  let text : Bytes := Bytes.ofText "\n\"\nget_state\n"
  let events : List RelayEvent := [.visit .command, .connection ⟨0⟩ .begins,
    .connection ⟨0⟩ (.receives text), .connection ⟨0⟩ .takes, .connection ⟨0⟩ .answers,
    .connection ⟨0⟩ .takes, .connection ⟨0⟩ .answers, .connection ⟨0⟩ .takes, .attends, .attends,
    .connection ⟨0⟩ .answers]
  have hafter : ((Startup.ofConfig { refdes := "X", instrument := .tcp "host" 4001 } .willing
      []).after events).any (fun r ↦ (r.connection? ⟨0⟩).any fun c ↦
        c.id = ⟨0⟩ ∧ c.spec.endpoint = .commander ∧ c.phase = .running ∧ c.errand = none ∧
          c.sent = 0 ∧ c.received = text ∧ c.input = .lines .empty) = true := by
    decide +kernel
  obtain ⟨r₀, r, hstart, hrun, h⟩ := Startup.exists_of_after hafter
  obtain ⟨c, hc, h⟩ := (Option.any_eq_true _ _).1 h
  obtain ⟨hid, hend, hphase, hidle, hsent, hreceived, hempty⟩ := of_decide_eq_true h
  rw [← hid] at hc
  obtain ⟨talks, asked, reader, routed, packets, hposted, -, hasked, hinput, hlines, -, -,
    hwritten, hmerge, -⟩ := lines_answered hstart hrun hc hend (by simp [events])
  obtain rfl := hasked.2 hidle
  obtain rfl := Input.lines.inj (hinput.symm.trans hempty)
  refine ⟨r, c, talks, hc, hphase, ?_, ?_, packets, hwritten, ?_⟩
  · simpa [Running.hasBegun, hphase, Asked.messages] using hposted
  · have hread : (LineReader.empty.feed text).drainEnd.lines
        = [[], Bytes.ofText "\"", Bytes.ofText "get_state"] := by
      decide +kernel
    have hrest : LineReader.empty.drainEnd.lines = [] := by decide +kernel
    rw [hreceived, hread, hrest, List.append_nil] at hlines
    simpa [Asked.line] using hlines.symm
  · rwa [hsent, List.take_zero] at hmerge

end Relay

end InstrumentRelay
