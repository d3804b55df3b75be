import InstrumentRelay.Proofs.Command.AuxLine
import InstrumentRelay.Proofs.Command.Names
import InstrumentRelay.Proofs.Relay.Errands

/-!
# What a line asks for

A line asks for a command if it consists of words and the first of them is the name of that command,
byte for byte; the other words are the arguments (`Request.IsMadeBy`). That is said of the line and
the list of commands, without a catalogue and without reading anything as text, and it is exactly
when the command is carried out (`Request.ofLine_eq_ok_iff`).

Any other line is refused. `Instrument.Refuses` lists the messages, and for each line there is one.
A refusal takes a connection two steps, and in both of them it posts packets and touches nothing but
itself (`Relay.PostsOnly`): the monitor is not told anything, no link is opened or closed, and no
other connection notices.

What is passed on over the auxiliary link is the name of a command for it, and the arguments
(`Config.exists_of_answer_eq_forward`).
-/

namespace InstrumentRelay

/-! ## Requests -/

/-- The line consists of the name of the command and the arguments. -/
structure Request.IsMadeBy (request : Request) (i : Instrument) (line : Bytes) : Prop where
  /-- There is such a command. -/
  command_mem : request.command ∈ i.commands
  /-- The name and the arguments are what the line says. -/
  words_eq : Words.ofLine line = .ok (Bytes.ofText request.command.name :: request.arguments)

/-- The line is refused, and this is the message. -/
inductive Instrument.Refuses (i : Instrument) (line : Bytes) : String → Prop
  /-- It does not consist of words. -/
  | malformed {error : WordError} (h : Words.ofLine line = .error error) :
    Refuses i line ("Unable to parse command on command port: " ++ error.message)
  /-- There are no words in it. -/
  | empty (h : Words.ofLine line = .ok []) :
    Refuses i line "Received empty command on command port"
  /-- The first word is not the name of a command. -/
  | unknown {first : Bytes} {arguments : List Bytes}
    (h : Words.ofLine line = .ok (first :: arguments))
    (hname : ∀ command ∈ i.commands, first ≠ Bytes.ofText command.name) :
    Refuses i line ("Received bad command on command port: " ++ quoted (Utf8.lenient first))

/-- There is one message for a line. -/
theorem Instrument.Refuses.unique {i : Instrument} {line : Bytes} {message message' : String}
    (h : i.Refuses line message) (h' : i.Refuses line message') : message = message' := by
  rcases h with h | h | ⟨h, -⟩ <;> rcases h' with h' | h' | ⟨h', -⟩ <;>
    cases h.symm.trans h' <;> rfl

namespace Request

variable {i : Instrument} {line : Bytes}

/-- **A command is carried out exactly if the line begins with its name.** -/
theorem ofLine_eq_ok_iff {request : Request} :
    ofLine i.catalogue line = .ok request ↔ request.IsMadeBy i line := by
  have hwords (h : request.IsMadeBy i line) := h.words_eq
  rcases hline : Words.ofLine line with error | _ | ⟨first, arguments⟩ <;> rw [hline] at hwords
  · refine ⟨fun h ↦ ?_, fun h ↦ nomatch hwords h⟩
    rw [ofLine, hline] at h
    cases h
  · refine ⟨fun h ↦ ?_, fun h ↦ nomatch hwords h⟩
    rw [ofLine, hline] at h
    cases h
  · rw [ofLine, hline]
    dsimp only
    constructor
    · intro h
      split at h
      case h_1 => cases h
      case h_2 command hfind =>
        cases h
        obtain ⟨hmem, rfl⟩ := Instrument.find?_lenient_eq_some_iff.1 hfind
        exact ⟨hmem, hline⟩
    · intro h
      obtain ⟨rfl, rfl⟩ := List.cons.inj (Except.ok.inj (hwords h))
      rw [Instrument.find?_lenient_eq_some_iff.2 ⟨h.command_mem, rfl⟩]

/-- A line that asks for nothing is refused. -/
theorem exists_refusal (h : ∀ request : Request, ¬request.IsMadeBy i line) :
    ∃ error, ofLine i.catalogue line = .error error ∧ i.Refuses line error.message := by
  rcases hline : Words.ofLine line with error | _ | ⟨first, arguments⟩
  · exact ⟨.malformed error, by rw [ofLine, hline], .malformed hline⟩
  · exact ⟨.empty, by rw [ofLine, hline], .empty hline⟩
  · have hname : ∀ command ∈ i.commands, first ≠ Bytes.ofText command.name := by
      rintro command hmem rfl
      exact h ⟨command, arguments⟩ ⟨hmem, hline⟩
    have hfind : i.catalogue.find? (Utf8.lenient first) = none := by
      refine Option.eq_none_iff_forall_ne_some.2 fun command hfind ↦ ?_
      obtain ⟨hmem, heq⟩ := Instrument.find?_lenient_eq_some_iff.1 hfind
      exact hname command hmem heq
    exact ⟨.unknown (Utf8.lenient first), by simp only [ofLine, hline, hfind],
      .unknown hline hname⟩

end Request

/-! ## Refusals at work -/

namespace Relay

/-- A step in which this connection posts this message. Nobody else hears or does anything. -/
structure PostsOnly (r : Relay) (id : ConnectionId) (message : RouterMessage) (r' : Relay) :
    Prop where
  /-- The configuration stays. -/
  config : r'.config = r.config
  /-- The router has one letter more. -/
  mail : r'.mail = r.mail.post [⟨some id, message⟩]
  /-- What was handed over stays as it is. -/
  exchange : r'.exchange = r.exchange
  /-- The state of the instrument stays as it is. -/
  monitor : r'.monitor = r.monitor
  /-- The monitor is told nothing. -/
  notices : r'.notices = r.notices
  /-- The links stay as they are. -/
  links : r'.links = r.links
  /-- So does the auxiliary link. -/
  aux : r'.aux = r.aux
  /-- So do all other connections. -/
  others : ∀ other, other ≠ id → r'.connection? other = r.connection? other

theorem postsOnly (r : Relay) (c : Running) (message : RouterMessage) :
    r.PostsOnly c.id message ((r.post (some c.id) [message]).update c) where
  config := rfl
  mail := rfl
  exchange := rfl
  monitor := rfl
  notices := rfl
  links := rfl
  aux := rfl
  others _ hother := connection?_update_of_ne (r := r.post (some c.id) [message]) hother

variable {r : Relay} {c : Running}

/-- Whoever takes a line is busy with answering it. -/
theorem exists_step_takes {line : Bytes} {input : Input} (hc : r.connection? c.id = some c)
    (hfree : c.isFree = true) (hitem : c.item r.stamp = .ok (some (.line line), input)) :
    ∃ r' c' errand, r.step (.connection c.id .takes) = some r' ∧ r'.connection? c.id = some c' ∧
      c'.phase = .running ∧ c'.errand = some errand ∧ errand.Serves r.config line := by
  obtain ⟨errand, notices, hstarts, htaken⟩ := exists_starts hc line input
  exact ⟨_, _, errand, step_takes_line hc hfree hitem, htaken, (of_decide_eq_true hfree).1, rfl,
    hstarts.serves rfl⟩

/-- Whoever takes a line that makes no request knows the answer at once. -/
theorem exists_step_takes_of_error {line : Bytes} {input : Input} {error : CommandError}
    (hc : r.connection? c.id = some c) (hfree : c.isFree = true)
    (hitem : c.item r.stamp = .ok (some (.line line), input))
    (hline : Request.ofLine r.config.instrument.catalogue line = .error error) :
    ∃ r', r.step (.connection c.id .takes) = some r' ∧
      r.PostsOnly c.id (.data (Packet.split .command r.stamp line)) r' ∧
      r'.connection? c.id
        = some { c with input := input, errand := some (.answering (.fault error)) } := by
  let posted := r.post (some c.id) [.data (Packet.split .command r.stamp line)]
  have hposted : Request.ofLine posted.config.instrument.catalogue line = .error error := hline
  have htaken : r.takeLine { c with input := input } line
      = posted.update { c with input := input, errand := some (.answering (.fault error)) } := by
    simp only [takeLine, posted, hposted]
  rw [step_takes_line hc hfree hitem, htaken]
  exact ⟨_, rfl, r.postsOnly { c with input := input, errand := _ } _,
    connection?_update_self (r := posted) (c := { c with input := input, errand := _ }) hc⟩

/-- Whoever knows the answer writes and posts it. -/
theorem exists_step_answers {reply : Reply} (hc : r.connection? c.id = some c)
    (hphase : c.phase = .running) (herrand : c.errand = some (.answering reply)) :
    ∃ r' c', r.step (.connection c.id .answers) = some r' ∧
      r.PostsOnly c.id (.data (reply.packets r.stamp)) r' ∧ r'.connection? c.id = some c' ∧
      c'.phase = .running ∧ c'.errand = none ∧
      c'.written = c.written ++ (reply.packets r.stamp).map Packet.frame := by
  let c' : Running := { c with
    errand := none
    written := c.written ++ (reply.packets r.stamp).map Packet.frame }.touch r.clock
  exact ⟨_, c', step_answers hc hphase herrand, r.postsOnly c' _,
    connection?_update_self (r := r.post _ _) (c := c') hc, hphase, rfl, rfl⟩

/-- Whoever knows the answer does nothing else. -/
theorem event_of_answering {reply : Reply} {event : ConnectionEvent} {r' : Relay}
    (hc : r.connection? c.id = some c) (hphase : c.phase = .running)
    (herrand : c.errand = some (.answering reply))
    (hstep : r.step (.connection c.id event) = some r') :
    event = .answers ∨ ∃ n, event = .answerFails n := by
  have hbusy : c.isFree = false := by simp [Running.isFree, herrand]
  simp only [step, hc, Option.bind_eq_bind, Option.bind_some] at hstep
  cases event with
  | answers => exact .inl rfl
  | answerFails n => exact .inr ⟨n, rfl⟩
  | idles =>
    rw [stepConnection] at hstep
    split at hstep <;> simp [hbusy] at hstep
  | _ => simp [stepConnection, hphase, hbusy, herrand] at hstep

end Relay

/-! ## Commands that are passed on -/

/-- A command that is passed on is one of those for the auxiliary link. -/
theorem Instrument.mem_commands_forward_iff {i : Instrument} {name : String} :
    (⟨name, .forward⟩ : Command) ∈ i.commands ↔ name ∈ i.vendorCommands := by
  simp [commands, basicCommands]

theorem Instrument.eq_auxLine_of_forward {i : Instrument} {name : String}
    {arguments : List Bytes} {reached : Except RelayError Unit} {payload : Bytes}
    (h : i.forward name arguments reached = .forward payload) :
    payload = auxLine name arguments := by
  unfold forward at h
  split at h <;> cases h <;> rfl

/-- A command for the auxiliary link is passed on if that can be reached. -/
theorem Instrument.forward_of_mem {i : Instrument} {name : String} {arguments : List Bytes}
    (h : name ∈ i.vendorCommands) :
    i.forward name arguments (.ok ()) = .forward (auxLine name arguments) := by
  cases i with
  | rsn address port auxPort mode => cases mode <;> rfl
  | _ => cases h

namespace Config

variable {config : Config} {state : Except RelayError LinkState} {reached : Except RelayError Unit}
  {line : Bytes}

theorem answer_of_isMadeBy {request : Request} (h : request.IsMadeBy config.instrument line) :
    config.answer state reached line = request.reply config state reached := by
  rw [answer, Request.ofLine_eq_ok_iff.2 h]

/-- What is passed on is the name of a command for the auxiliary link, and its arguments. -/
theorem exists_of_answer_eq_forward {payload : Bytes}
    (h : config.answer state reached line = .forward payload) :
    ∃ name ∈ config.instrument.vendorCommands, ∃ arguments,
      Request.IsMadeBy ⟨⟨name, .forward⟩, arguments⟩ config.instrument line ∧
      payload = auxLine name arguments := by
  rw [answer] at h
  split at h
  case h_1 => cases h
  case h_2 request hline =>
    obtain ⟨⟨name, action⟩, arguments⟩ := request
    have hmade := Request.ofLine_eq_ok_iff.1 hline
    cases action with
    | state => cases state <;> cases h
    | config => cases h
    | version => cases h
    | forward =>
      exact ⟨name, Instrument.mem_commands_forward_iff.1 hmade.command_mem, arguments, hmade,
        Instrument.eq_auxLine_of_forward h⟩

end Config

/-! ## Every line -/

/-- This error is all that comes of the line. -/
structure Config.Dismisses (config : Config) (line : Bytes) (error : CommandError) : Prop where
  /-- It is the answer, whatever the state and whether or not the auxiliary link can be reached. -/
  answer_eq : ∀ state reached, config.answer state reached line = .fault error
  /-- There is something to be sent. -/
  packets_ne_nil : ∀ now, (Reply.fault error).packets now ≠ []
  /-- What is sent are faults. -/
  kind_eq : ∀ now, ∀ p ∈ (Reply.fault error).packets now, p.kind = .fault
  /-- Together they are the message. -/
  join_eq : ∀ now, Packet.join ((Reply.fault error).packets now) = Bytes.ofText error.message
  /-- Whoever takes the line posts it, and knows the answer. -/
  takes : ∀ (r : Relay) (c : Running) (input : Input), r.config = config →
    r.connection? c.id = some c → c.isFree = true →
    c.item r.stamp = .ok (some (.line line), input) →
      ∃ r', r.step (.connection c.id .takes) = some r' ∧
        r.PostsOnly c.id (.data (Packet.split .command r.stamp line)) r' ∧
        r'.connection? c.id
          = some { c with input := input, errand := some (.answering (.fault error)) }
  /-- Whoever knows the answer does nothing else but give it, unless it cannot be written. -/
  event_eq : ∀ (r r' : Relay) (c : Running) (event : ConnectionEvent),
    r.connection? c.id = some c → c.phase = .running →
    c.errand = some (.answering (.fault error)) → r.step (.connection c.id event) = some r' →
      event = .answers ∨ ∃ n, event = .answerFails n
  /-- Whoever knows the answer can give it, and posts it. -/
  answers : ∀ (r : Relay) (c : Running), r.connection? c.id = some c → c.phase = .running →
    c.errand = some (.answering (.fault error)) →
      ∃ r' c', r.step (.connection c.id .answers) = some r' ∧
        r.PostsOnly c.id (.data ((Reply.fault error).packets r.stamp)) r' ∧
        r'.connection? c.id = some c' ∧ c'.phase = .running ∧ c'.errand = none ∧
        c'.written = c.written ++ ((Reply.fault error).packets r.stamp).map Packet.frame

theorem Config.dismisses_of_error {config : Config} {line : Bytes} {error : CommandError}
    (h : Request.ofLine config.instrument.catalogue line = .error error) :
    config.Dismisses line error where
  answer_eq state reached := by rw [answer, h]
  packets_ne_nil now := Reply.packets_ne_nil _ now
  kind_eq now _ hp := Reply.kind_of_mem_packets hp
  join_eq now := Packet.join_split _ _ _
  takes r c input hconfig hc hfree hitem :=
    Relay.exists_step_takes_of_error hc hfree hitem (by rw [hconfig, h])
  event_eq _ _ _ _ hc hphase herrand hstep := Relay.event_of_answering hc hphase herrand hstep
  answers _ _ hc hphase herrand := Relay.exists_step_answers hc hphase herrand

/-- **A line asks for a command exactly if its first word is the name of that command**, byte for
byte, whether or not it is in quotes. Then the answer is that of the command, with the other words
as its arguments, and whoever takes the line becomes busy with that. Any other line is dismissed
with the one message that there is for it: the answer is at least one fault, and together they are
the message; until it is given the connection does nothing, and nothing comes of the line but its
own packets and those of the fault.

If the auxiliary link is held open, a command that is passed on is one line for it, of the same
words, as long as none of them needs quotes. -/
theorem dispatch_exact (config : Config) (line : Bytes) :
    (∀ request, Request.ofLine config.instrument.catalogue line = .ok request ↔
      request.IsMadeBy config.instrument line) ∧
    (∀ request : Request, request.IsMadeBy config.instrument line →
      (∀ state reached, config.answer state reached line = request.reply config state reached) ∧
      ∀ (r : Relay) (c : Running) (input : Input), r.config = config →
        r.connection? c.id = some c → c.isFree = true →
        c.item r.stamp = .ok (some (.line line), input) →
          ∃ r' c' errand, r.step (.connection c.id .takes) = some r' ∧
            r'.connection? c.id = some c' ∧ c'.phase = .running ∧ c'.errand = some errand ∧
            errand.Serves config line) ∧
    ((∀ request : Request, ¬request.IsMadeBy config.instrument line) →
      ∃ error : CommandError,
        (∀ message, config.instrument.Refuses line message ↔ message = error.message) ∧
        config.Dismisses line error) ∧
    ∀ (address : String) (port auxPort : UInt16),
      config.instrument = .rsn address port auxPort .persistent →
      ∀ name ∈ config.instrument.vendorCommands, ∀ arguments,
        Words.ofLine line = .ok (Bytes.ofText name :: arguments) →
        (∀ word ∈ Bytes.ofText name :: arguments, Words.IsBare word) →
          ∀ state reached, ∃ payload, config.answer state reached line = .forward payload ∧
            (∀ now, ∀ p ∈ (Reply.forward payload).packets now, p.kind = .auxCommand) ∧
            (∀ now, Packet.join ((Reply.forward payload).packets now) = payload) ∧
            Words.ofLine payload = .ok (Bytes.ofText name :: arguments) := by
  refine ⟨fun request ↦ Request.ofLine_eq_ok_iff,
    fun request h ↦ ⟨fun state reached ↦ Config.answer_of_isMadeBy h, ?_⟩, fun h ↦ ?_, ?_⟩
  · rintro r c input rfl hc hfree hitem
    exact Relay.exists_step_takes hc hfree hitem
  · obtain ⟨error, hline, hrefuses⟩ := Request.exists_refusal h
    refine ⟨error, fun message ↦ ⟨fun hother ↦ hother.unique hrefuses, ?_⟩,
      Config.dismisses_of_error hline⟩
    rintro rfl
    exact hrefuses
  · intro address port auxPort hinstrument name hname arguments hwords hbare state reached
    have hmade : Request.IsMadeBy ⟨⟨name, .forward⟩, arguments⟩ config.instrument line :=
      ⟨Instrument.mem_commands_forward_iff.2 hname, hwords⟩
    refine ⟨auxLine name arguments, ?_, fun now p hp ↦ Reply.kind_of_mem_packets hp,
      fun now ↦ Packet.join_split _ _ _, (Words.line_auxLine hbare).ofLine_eq⟩
    rw [Config.answer_of_isMadeBy hmade]
    simp only [Request.reply, hinstrument, Instrument.forward]

/-- A command with its name in quotes, and one that ends in a byte that is no text. -/
theorem dispatch_exact_of_two_lines :
    let config : Config := { refdes := "X", instrument := .rsn "host" 4001 4002 .persistent }
    let request : Request := ⟨⟨"break", .forward⟩, [Bytes.ofText "a", Bytes.ofText "b"]⟩
    let asks : Bytes := Bytes.ofText "\"break\"  a\tb"
    let fails : Bytes := Bytes.ofText "break" ++ [0xff]
    (request.IsMadeBy config.instrument asks ∧
      Request.ofLine config.instrument.catalogue asks = .ok request ∧
      (∃ payload, config.answer (.ok .disconnected) (.ok ()) asks = .forward payload ∧
        Words.ofLine payload = .ok (Bytes.ofText "break" :: request.arguments)) ∧
      ∃ (r r' : Relay) (c c' : Running) (errand : Errand), r.connection? c.id = some c ∧
        r.step (.connection c.id .takes) = some r' ∧ r'.connection? c.id = some c' ∧
        c'.errand = some errand ∧ errand.Serves config asks) ∧
    (∀ request : Request, ¬request.IsMadeBy config.instrument fails) ∧
      ∃ (r r' r'' : Relay) (c c'' : Running) (error : CommandError),
        config.instrument.Refuses fails error.message ∧ r.connection? c.id = some c ∧
        r.step (.connection c.id .takes) = some r' ∧
        r'.step (.connection c.id .answers) = some r'' ∧
        r''.monitor = r.monitor ∧ r''.notices = r.notices ∧ r''.links = r.links ∧
        r''.connection? c.id = some c'' ∧
        c''.written
          = c.written ++ ((Reply.fault error).packets r'.stamp).map Packet.frame := by
  intro config request asks fails
  have hready (line : Bytes) (h : ((Startup.ofConfig config .willing []).after
      [.visit .command, .connection ⟨0⟩ .begins,
        .connection ⟨0⟩ (.receives (line ++ [0x0a]))]).any (fun r ↦ decide (r.config = config) &&
          (r.connection? ⟨0⟩).any fun c ↦ c.id = ⟨0⟩ ∧ c.isFree = true ∧
            c.item r.stamp = .ok (some (.line line), .lines .empty)) = true) :
      ∃ (r : Relay) (c : Running), r.config = config ∧ r.connection? c.id = some c ∧
        c.isFree = true ∧ c.item r.stamp = .ok (some (.line line), .lines .empty) := by
    obtain ⟨r, -, h⟩ := (Option.any_eq_true _ _).1 h
    obtain ⟨hconfig, h⟩ := Bool.and_eq_true_iff.1 h
    obtain ⟨c, hc, h⟩ := (Option.any_eq_true _ _).1 h
    obtain ⟨hid, hfree, hitem⟩ := of_decide_eq_true h
    exact ⟨r, c, of_decide_eq_true hconfig, by rw [hid, hc], hfree, hitem⟩
  have hasks : Words.ofLine asks = .ok (Bytes.ofText "break" :: request.arguments) := by
    decide +kernel
  have hfails : Words.ofLine fails = .ok [fails] := by decide +kernel
  have hmade : request.IsMadeBy config.instrument asks := ⟨by decide, hasks⟩
  have hunmade (other : Request) : ¬other.IsMadeBy config.instrument fails := by
    rintro ⟨hmem, hwords⟩
    have hnames : ∀ command ∈ config.instrument.commands, Bytes.ofText command.name ≠ fails := by
      decide +kernel
    exact hnames _ hmem (List.cons.inj (Except.ok.inj (hwords.symm.trans hfails))).1
  obtain ⟨hiff, hcarries, -, hforward⟩ := dispatch_exact config asks
  obtain ⟨-, -, hrefuses, -⟩ := dispatch_exact config fails
  refine ⟨⟨hmade, (hiff request).2 hmade, ?_, ?_⟩, hunmade, ?_⟩
  · have hbare : ∀ word ∈ Bytes.ofText "break" :: request.arguments, Words.IsBare word := by
      decide +kernel
    obtain ⟨payload, hpayload, -, -, hwords⟩ := hforward "host" 4001 4002 rfl "break" (by decide)
      request.arguments hasks hbare (.ok .disconnected) (.ok ())
    exact ⟨payload, hpayload, hwords⟩
  · obtain ⟨r, c, hconfig, hc, hfree, hitem⟩ := hready asks (by decide +kernel)
    obtain ⟨r', c', errand, hstep, hc', -, herrand, hserves⟩ :=
      (hcarries request hmade).2 r c _ hconfig hc hfree hitem
    exact ⟨r, r', c, c', errand, hc, hstep, hc', herrand, hserves⟩
  · obtain ⟨r, c, hconfig, hc, hfree, hitem⟩ := hready fails (by decide +kernel)
    obtain ⟨error, hmessage, hdismisses⟩ := hrefuses hunmade
    obtain ⟨r', hstep, hfirst, hc'⟩ := hdismisses.takes r c _ hconfig hc hfree hitem
    obtain ⟨r'', c'', hstep', hsecond, hc'', -, -, hwritten⟩ :=
      hdismisses.answers r'
        { c with input := .lines .empty, errand := some (.answering (.fault error)) } hc'
        (of_decide_eq_true hfree).1 rfl
    exact ⟨r, r', r'', c, c'', error, (hmessage _).2 rfl, hc, hstep, hstep',
      hsecond.monitor.trans hfirst.monitor, hsecond.notices.trans hfirst.notices,
      hsecond.links.trans hfirst.links, hc'', hwritten⟩

end InstrumentRelay
