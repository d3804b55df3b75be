import InstrumentRelay.Proofs.Command.Dispatch
import InstrumentRelay.Proofs.Relay.Transparency

/-!
# Lines on the auxiliary link

The far end of an auxiliary link takes lines, and the relay means to send it commands from a short
list and nothing else. What is it that decides where a line begins there?

Whatever the router hands to an auxiliary link has been posted by someone. A link that brings frames
can bring anything. Everybody else who posts something for the auxiliary link has taken a line that
asks for one of the commands, and posts that command (`Running.Candid`); the invariant is that who
is busy is so with a line that was taken. The router hands a letter on as a whole, so what reaches
the link is a sequence of such commands behind the greeting.

Each of them begins with a name from the list and ends with a line feed. So lines begin with these
names as long as there are no other line feeds (`Relay.Tame`). But an argument can have one, because
an escape stands for it on the command line and the argument is passed on as it is meant. Then
another line begins in the middle of a command, and it can be any line.
-/

namespace InstrumentRelay

/-! ## Where commands come from -/

/-- Among these messages is this line, as it was taken. -/
def TookLine (posted : List RouterMessage) (line : Bytes) : Prop :=
  ∃ now, .data (Packet.split .command now line) ∈ posted

theorem TookLine.append {posted : List RouterMessage} {line : Bytes} (h : TookLine posted line)
    (more : List RouterMessage) : TookLine (posted ++ more) line :=
  h.imp fun _ hmem ↦ List.mem_append_left more hmem

namespace Running

/-- A connection that takes lines is busy with lines that it took, and what it has posted for the
auxiliary link are answers to them. -/
structure Candid (config : Config) (posted : List RouterMessage) (c : Running) : Prop where
  /-- What it is busy with belongs to a line. -/
  busy : ∀ errand, c.errand = some errand → ∃ line, TookLine posted line ∧ errand.Serves config line
  /-- What it has posted belongs to a line. -/
  answered : ∀ m ∈ posted, ∀ p ∈ m.packets, p.kind = .auxCommand →
    ∃ line reply now, TookLine posted line ∧ config.Answers line reply ∧
      m = .data (reply.packets now)

namespace Candid

variable {config : Config} {posted : List RouterMessage} {c c' : Running}

/-- Further messages that are not for the auxiliary link make no difference. -/
theorem append (h : Candid config posted c) {messages : List RouterMessage}
    (hmessages : ∀ m ∈ messages, ∀ p ∈ m.packets, p.kind ≠ .auxCommand)
    (hbusy : ∀ errand, c'.errand = some errand →
      c.errand = some errand ∨ ∃ line, TookLine (posted ++ messages) line ∧
        errand.Serves config line) : Candid config (posted ++ messages) c' where
  busy errand herrand := by
    rcases hbusy errand herrand with hold | hnew
    · obtain ⟨line, htook, hserves⟩ := h.busy errand hold
      exact ⟨line, htook.append messages, hserves⟩
    · exact hnew
  answered m hm p hp hkind := by
    rcases List.mem_append.1 hm with hold | hnew
    · obtain ⟨line, reply, now, htook, hanswers, rfl⟩ := h.answered m hold p hp hkind
      exact ⟨line, reply, now, htook.append messages, hanswers, rfl⟩
    · exact absurd hkind (hmessages m hnew p hp)

/-- **Whatever it does, a connection that takes lines posts commands only in answer to lines.** -/
theorem deed {r : Relay} {e : RelayEvent} {messages : List RouterMessage}
    {notices : List MonitorLetter} {aux : AuxLink} (h : Candid config posted c)
    (hdeed : r.Deed e c messages notices aux c') (hconfig : r.config = config)
    (hlines : c.input.inbound = .lines) : Candid config (posted ++ messages) c' := by
  cases hdeed with
  | begins due hphase =>
    exact h.append (by simp [RouterMessage.packets]) fun errand herrand ↦ .inl herrand
  | passes due hfree hitem => exact absurd hlines (takes_of_item hitem).inbound_of_packets
  | @takesLine line input errand notices hfree hitem hstarts =>
    refine h.append ?_ fun errand' herrand ↦ .inr ⟨line, ?_, ?_⟩
    · intro m hm p hp
      obtain rfl := List.mem_singleton.1 hm
      rw [Packet.kind_of_mem_split hp]
      decide
    · exact ⟨_, List.mem_append_right _ List.mem_cons_self⟩
    · obtain rfl := Option.some.inj herrand
      exact hstarts.serves hconfig
  | @turns errand errand' aux herrand hturn =>
    refine h.append (by simp) fun errand'' hnew ↦ .inr ?_
    obtain rfl := Option.some.inj hnew
    obtain ⟨line, htook, hserves⟩ := h.busy errand herrand
    exact ⟨line, htook.append _, hturn.serves hconfig hserves⟩
  | @answers reply due hphase herrand =>
    obtain ⟨line, htook, hserves⟩ := h.busy _ herrand
    constructor
    · intro errand herrand'
      cases herrand'
    · intro m hm p hp hkind
      rcases List.mem_append.1 hm with hold | hnew
      · obtain ⟨line', reply', now, htook', hanswers, rfl⟩ := h.answered m hold p hp hkind
        exact ⟨line', reply', now, htook'.append _, hanswers, rfl⟩
      · exact ⟨line, reply, r.stamp, htook.append _, hserves, List.mem_singleton.1 hnew⟩
  | ends said hopen hsaid hcause =>
    refine h.append ?_ ?_
    · intro m hm p hp
      split at hm
      · obtain rfl := List.mem_singleton.1 hm
        exact absurd hp List.not_mem_nil
      · exact absurd hm List.not_mem_nil
    · intro errand herrand
      cases herrand
  | _ => exact h.append (by simp) fun errand herrand ↦ .inl herrand

end Candid

end Running

/-- What is for the auxiliary link comes from frames or is an answer to a line. -/
theorem Config.Wires.inbound_of_brings {config : Config} {spec : ConnectionSpec}
    (h : config.Wires spec) (hbrings : spec.inbound.Brings .auxCommand) :
    spec.inbound = .frames ∨ spec.inbound = .lines := by
  rcases hinbound : spec.inbound with kind | _ | _
  · exfalso
    rw [hinbound] at hbrings
    obtain rfl : PacketKind.auxCommand = kind := hbrings
    cases h with
    | server kind => cases kind <;> cases hinbound
    | link hlink =>
      unfold Instrument.links at hlink
      split at hlink
      case h_1 => simp_all
      case h_2 => rcases List.mem_cons.1 hlink with rfl | hlink <;> simp_all
      case h_3 =>
        rcases List.mem_cons.1 hlink with rfl | hlink
        · cases hinbound
        · split at hlink <;> simp_all [AuxMode.spec]
    | onDemand => cases hinbound
  · exact .inl rfl
  · exact .inr rfl

namespace Relay

variable {config : Config} {r r₀ : Relay} {c : Running} {host : Host} {answers : List Bool}
  {events : List RelayEvent}

/-- **Whoever takes lines posts commands only in answer to lines**, in every run. -/
theorem candid_of_run (hstart : (Startup.ofConfig config host answers).outcome = .ok r₀)
    (hrun : r₀.run events = some r) {id : ConnectionId} (hc : r.connection? id = some c)
    (hlines : c.spec.inbound = .lines) : c.Candid config (r.postedBy id) := by
  refine keeps_run hstart (P := fun _ r ↦ ∀ c, r.connection? id = some c →
    c.spec.inbound = .lines → c.Candid config (r.postedBy id)) ?_ ?_ hrun c hc hlines
  · have hstarted := started_of_start hstart
    simp [connection?, hstarted.connections_eq]
  · intro events e r r' hreached hrun hstep ih c' hc' hlines
    rcases (move_of_step hstep).was hreached.ledger hc' with ⟨hc, hposted⟩ |
      ⟨spec, -, rfl, hposted⟩ | ⟨rfl, hc, -, hdeed, -, hposted⟩ |
      ⟨rfl, hc, herrand, rfl, hposted, -⟩
    · rw [hposted]
      exact ih c' hc hlines
    · rw [hposted]
      exact ⟨fun _ herrand ↦ absurd herrand.symm (Option.some_ne_none _),
        fun m hm ↦ absurd hm List.not_mem_nil⟩
    · rw [hdeed.act.same.2] at hlines
      have hinput := (hreached.history hc).inbound_input
      rw [hposted]
      exact (ih _ hc hlines).deed hdeed hreached.wired.config_eq (by rw [hinput, hlines])
    · have hbefore := ih _ hc hlines
      rw [hposted]
      refine ⟨fun errand hnew ↦ ?_, hbefore.answered⟩
      obtain rfl := Option.some.inj hnew
      obtain ⟨line, htook, hserves⟩ := hbefore.busy _ herrand
      exact ⟨line, htook, hserves⟩

/-! ## What a letter carries -/

theorem carries_eq_of_kind {letter : Letter} {kind : PacketKind}
    (h : ∀ p ∈ letter.message.packets, p.kind = kind) :
    letter.carries kind = Packet.join letter.message.packets := by
  rw [Letter.carries, List.filter_eq_self.2 fun p hp ↦ decide_eq_true (h p hp)]

theorem exists_of_carries_ne_nil {letter : Letter} {kind : PacketKind}
    (h : letter.carries kind ≠ []) : ∃ p ∈ letter.message.packets, p.kind = kind := by
  refine Decidable.byContradiction fun hnone ↦ h ?_
  have hfilter : letter.message.packets.filter (·.kind = kind) = [] := by
    rw [List.filter_eq_nil_iff]
    exact fun p hp hkind ↦ hnone ⟨p, hp, of_decide_eq_true hkind⟩
  rw [Letter.carries, hfilter]
  rfl

/-- Someone who takes lines has posted this letter, which passes a command on that one of these
lines asks for. -/
def PassesOn (config : Config) (r : Relay) (letter : Letter) (name : String)
    (arguments : List Bytes) : Prop :=
  ∃ c line, letter.sender = some c.id ∧ r.connection? c.id = some c ∧ c.spec.inbound = .lines ∧
    TookLine (r.postedBy c.id) line ∧
    Request.IsMadeBy ⟨⟨name, .forward⟩, arguments⟩ config.instrument line ∧
    letter.carries .auxCommand = auxLine name arguments

/-- The letter is from a link that brings frames. -/
def IsFramed (r : Relay) (letter : Letter) : Prop :=
  ∃ c, letter.sender = some c.id ∧ r.connection? c.id = some c ∧ c.spec.inbound = .frames

/-- **What a letter has for the auxiliary link is a command that someone asked for**, unless it came
in a frame. -/
theorem passesOn_of_carries (hstart : (Startup.ofConfig config host answers).outcome = .ok r₀)
    (hrun : r₀.run events = some r) {letter : Letter} (hletter : letter ∈ r.mail.posted)
    (hcarries : letter.carries .auxCommand ≠ []) :
    r.IsFramed letter ∨ ∃ name ∈ config.instrument.vendorCommands, ∃ arguments,
      r.PassesOn config letter name arguments := by
  have hreached := reached_of_run hstart hrun
  obtain ⟨p, hp, hkind⟩ := exists_of_carries_ne_nil hcarries
  rcases hreached.brings hletter hp with ⟨-, hother⟩ | ⟨id, c, hsender, hc, hbrings⟩
  · rw [hkind] at hother
    rcases hother with hother | hother <;> cases hother
  obtain rfl := id_of_connection? hc
  rw [hkind] at hbrings
  rcases (hreached.wired.wires _ _ hc).inbound_of_brings hbrings with hframes | hlines
  · exact .inl ⟨c, hsender, hc, hframes⟩
  have hposted : letter.message ∈ r.postedBy c.id :=
    List.mem_map.2 ⟨letter, List.mem_filter.2 ⟨hletter, decide_eq_true hsender⟩, rfl⟩
  obtain ⟨line, reply, now, htook, ⟨state, reached, hreply⟩, hmessage⟩ :=
    (candid_of_run hstart hrun hc hlines).answered _ hposted p hp hkind
  rw [hmessage] at hp
  -- The reply has a packet for the auxiliary link, so it passes a command on.
  obtain ⟨payload, rfl⟩ : ∃ payload, reply = .forward payload := by
    have hreplyKind := (Reply.kind_of_mem_packets hp).symm.trans hkind
    cases reply with
    | forward payload => exact ⟨payload, rfl⟩
    | _ => cases hreplyKind
  obtain ⟨name, hname, arguments, hmade, rfl⟩ := Config.exists_of_answer_eq_forward hreply.symm
  have hjoin : letter.carries .auxCommand = auxLine name arguments := by
    rw [carries_eq_of_kind, hmessage]
    · exact Packet.join_split _ _ _
    · rw [hmessage]
      exact fun q hq ↦ Reply.kind_of_mem_packets hq
  exact .inr ⟨name, hname, arguments, c, line, hsender, hc, hlines, htook, hmade, hjoin⟩

end Relay

/-! ## What reaches the link -/

namespace Connection

/-- Messages are handled whole. -/
theorem exists_sublist_packets (c : Connection) (registered : Bool)
    (messages : List RouterMessage) :
    ∃ kept : List RouterMessage, kept.Sublist messages ∧
      c.packets registered messages = kept.flatMap RouterMessage.packets := by
  induction messages generalizing registered with
  | nil => exact ⟨[], .slnil, rfl⟩
  | cons m rest ih =>
    cases m with
    | register d =>
      obtain ⟨kept, hkept, heq⟩ := ih (registered || decide (d = c))
      exact ⟨kept, hkept.cons _, heq⟩
    | deregister d =>
      obtain ⟨kept, hkept, heq⟩ := ih (registered && decide (d ≠ c))
      exact ⟨kept, hkept.cons _, heq⟩
    | data handled =>
      obtain ⟨kept, hkept, heq⟩ := ih registered
      rw [packets, heq]
      cases registered with
      | false => exact ⟨kept, hkept.cons _, rfl⟩
      | true => exact ⟨.data handled :: kept, hkept.cons_cons _, rfl⟩

end Connection

namespace Relay

variable {config : Config} {r r₀ : Relay} {c : Running} {host : Host} {answers : List Bool}
  {events : List RelayEvent}

/-- **An auxiliary link is handed what letters carry for it**, letter by letter. -/
theorem Reached.exists_letters (h : Reached config r) (hc : r.connection? c.id = some c)
    (hopen : c.isOpen = true) (hend : c.spec.endpoint = .auxiliary) :
    ∃ letters : List Letter, letters.Sublist r.mail.posted ∧
      (r.exchange.deliveredTo c.id).flatten = letters.flatMap (Letter.carries .auxCommand) := by
  obtain ⟨kept, hkept, hpackets⟩ := c.connection.exists_sublist_packets false r.handled
  obtain ⟨letters, hletters, rfl⟩ := List.sublist_map_iff.1 hkept
  refine ⟨letters, hletters.trans (List.take_sublist _ _), ?_⟩
  have hform : ∀ k, c.spec.endpoint.form? k = if k = .auxCommand then some .payload else none :=
    fun k ↦ by rw [hend]; rfl
  rw [h.ledger.deliveredTo_eq hc hopen, flatten_renderings_payload hform, hpackets,
    ← join_packetsOf, packetsOf, List.flatMap_map]

/-! ## Where lines begin -/

/-- No argument of a line that was taken has a line feed in it, and no frame has brought anything
for the auxiliary link. -/
def Tame (r : Relay) : Prop :=
  ∀ letter ∈ r.mail.posted, ∀ c ∈ letter.sender.bind r.connection?,
    (c.spec.inbound = .lines → Words.StaysOnLine (letter.carries .command)) ∧
      (c.spec.inbound = .frames → letter.carries .auxCommand = [])

instance (r : Relay) : Decidable r.Tame := by
  unfold Tame
  infer_instance

namespace Tame

theorem staysOnLine (h : r.Tame) (hc : r.connection? c.id = some c)
    (hlines : c.spec.inbound = .lines) {line : Bytes} (htook : TookLine (r.postedBy c.id) line) :
    Words.StaysOnLine line := by
  obtain ⟨now, hposted⟩ := htook
  obtain ⟨letter, hletter, hmessage⟩ := List.mem_map.1 hposted
  obtain ⟨hletter, hsender⟩ := List.mem_filter.1 hletter
  have hsource : letter.sender.bind r.connection? = some c := by
    rw [of_decide_eq_true hsender, Option.bind_some, hc]
  have hcarries : letter.carries .command = line := by
    rw [carries_eq_of_kind, hmessage]
    · exact Packet.join_split _ _ _
    · rw [hmessage]
      exact fun p hp ↦ Packet.kind_of_mem_split hp
  rw [← hcarries]
  exact (h letter hletter c hsource).1 hlines

/-- What a letter has for the auxiliary link is one line. -/
theorem exists_auxLine (h : r.Tame)
    (hstart : (Startup.ofConfig config host answers).outcome = .ok r₀)
    (hrun : r₀.run events = some r) {letter : Letter} (hletter : letter ∈ r.mail.posted) :
    letter.carries .auxCommand = [] ∨ ∃ name ∈ config.instrument.vendorCommands, ∃ arguments,
      (∀ argument ∈ arguments, 0x0a ∉ argument) ∧
      letter.carries .auxCommand = auxLine name arguments := by
  refine or_iff_not_imp_left.2 fun hcarries ↦ ?_
  rcases passesOn_of_carries hstart hrun hletter hcarries with ⟨c, hsender, hc, hframes⟩ |
    ⟨name, hname, arguments, c, line, hsender, hc, hlines, htook, hmade, hcommand⟩
  · have hsource : letter.sender.bind r.connection? = some c := by
      rw [hsender, Option.bind_some, hc]
    exact absurd ((h letter hletter c hsource).2 hframes) hcarries
  · exact ⟨name, hname, arguments, fun argument hargument ↦
      (h.staysOnLine hc hlines htook).feed_notMem hmade.words_eq hargument, hcommand⟩

/-- **Letters put together are lines**, and each begins with the name of a command. -/
theorem ended_letters (h : r.Tame)
    (hstart : (Startup.ofConfig config host answers).outcome = .ok r₀)
    (hrun : r₀.run events = some r) {letters : List Letter}
    (hletters : ∀ letter ∈ letters, letter ∈ r.mail.posted) :
    ∃ commands : List (String × List Bytes),
      (∀ command ∈ commands, command.1 ∈ config.instrument.vendorCommands) ∧
      ended 0x0a (letters.flatMap (Letter.carries .auxCommand))
        = commands.map (fun (name, arguments) ↦ auxText name arguments) ∧
      unended 0x0a (letters.flatMap (Letter.carries .auxCommand)) = [] := by
  induction letters with
  | nil =>
    exact ⟨[], List.forall_mem_nil _, ended_of_notMem List.not_mem_nil,
      unended_of_notMem List.not_mem_nil⟩
  | cons letter letters ih =>
    rw [List.forall_mem_cons] at hletters
    obtain ⟨commands, hcommands, hended, hunended⟩ := ih hletters.2
    rw [List.flatMap_cons]
    rcases h.exists_auxLine hstart hrun hletters.1 with hnil |
      ⟨name, hname, arguments, harguments, hcommand⟩
    · rw [hnil, List.nil_append]
      exact ⟨commands, hcommands, hended, hunended⟩
    · obtain ⟨hfirst, hrest⟩ := ended_auxLine hname harguments
        (letters.flatMap (Letter.carries .auxCommand))
      refine ⟨(name, arguments) :: commands, List.forall_mem_cons.2 ⟨hname, hcommands⟩, ?_, ?_⟩
      · rw [hcommand, hfirst, hended, List.map_cons]
      · rw [hcommand, hrest, hunended]

end Tame

/-- What has been written to an auxiliary link is its greeting and what it was handed, as far as it
has got. -/
theorem Reached.written_auxiliary (h : Reached config r) (hc : r.connection? c.id = some c)
    (hend : c.spec.endpoint = .auxiliary) :
    c.written.flatten <+: auxGreeting ++ (r.exchange.deliveredTo c.id).flatten := by
  obtain ⟨mode, hspec⟩ := (h.wired.wires _ _ hc).exists_mode hend
  have hinbound : c.spec.inbound = .bytes .auxResponse := by rw [hspec]; cases mode <;> rfl
  have hgreeting : c.spec.greeting = some auxGreeting := by rw [hspec]; cases mode <;> rfl
  have hcopies := (h.history hc).copies (by rw [hinbound]; decide)
  rw [hgreeting, Option.toList_some] at hcopies
  cases hbegun : c.hasBegun with
  | false =>
    rw [((h.history hc).of_not_begun hbegun).2.2.1]
    exact List.nil_prefix
  | true =>
    rw [hbegun, if_pos rfl] at hcopies
    rw [hcopies, List.flatten_append, List.flatten_singleton]
    have hrest := congrArg List.flatten (List.take_append_drop c.sent (r.exchange.deliveredTo c.id))
    rw [List.flatten_append] at hrest
    exact (List.prefix_append_right_inj _).2 ⟨_, hrest⟩

/-- **What is passed on is one line, unless an argument has a line feed in it.** It is the name of a
command for the auxiliary link and the arguments, with a line feed at the end. If there is another
line feed in it, then in an argument, and a line begins behind it: any line at all, and typing it
takes a single line on the command port.

An auxiliary link gets its greeting and then, letter by letter, such commands, each asked for by a
line that was taken, and what came in frames for it. If no argument has a line feed in it and no
frame brought anything, all the lines that begin there begin with the names of commands. -/
theorem aux_lines_exact (config : Config) :
    (∀ state reached line payload, config.answer state reached line = .forward payload →
      ∃ name ∈ config.instrument.vendorCommands, ∃ arguments,
        Words.ofLine line = .ok (Bytes.ofText name :: arguments) ∧
        payload = auxText name arguments ++ [0x0a] ∧ Bytes.ofText name <+: payload ∧
        (IsLine payload ↔ ∀ argument ∈ arguments, 0x0a ∉ argument) ∧
        ∀ now, (∀ p ∈ (Reply.forward payload).packets now, p.kind = .auxCommand) ∧
          Packet.join ((Reply.forward payload).packets now) = payload) ∧
    (∀ name ∈ config.instrument.vendorCommands, ∀ text, 0x0a ∉ text →
      ∃ line, 0x0a ∉ line ∧ ∀ state, ∃ payload,
        config.answer state (.ok ()) line = .forward payload ∧
        ended 0x0a payload = [Bytes.ofText name ++ [0x20], text]) ∧
    ∀ (address : String) (port auxPort : UInt16) (mode : AuxMode) (host : Host)
      (answers : List Bool) (r₀ r : Relay) (events : List RelayEvent) (c : Running),
      config.instrument = .rsn address port auxPort mode →
      (Startup.ofConfig config host answers).outcome = .ok r₀ → r₀.run events = some r →
      r.connection? c.id = some c → c.spec.endpoint = .auxiliary → c.isOpen = true →
        c.written.flatten <+: auxGreeting ++ (r.exchange.deliveredTo c.id).flatten ∧
        (∃ letters : List Letter, letters.Sublist r.mail.posted ∧
          (r.exchange.deliveredTo c.id).flatten = letters.flatMap (Letter.carries .auxCommand) ∧
          ∀ letter ∈ letters, letter.carries .auxCommand ≠ [] →
            r.IsFramed letter ∨ ∃ name ∈ config.instrument.vendorCommands, ∃ arguments,
              r.PassesOn config letter name arguments) ∧
        (r.Tame → ∃ commands : List (String × List Bytes),
          (∀ command ∈ commands, command.1 ∈ config.instrument.vendorCommands) ∧
          ended 0x0a (auxGreeting ++ (r.exchange.deliveredTo c.id).flatten)
            = commands.map (fun (name, arguments) ↦ auxText name arguments) ∧
          unended 0x0a (auxGreeting ++ (r.exchange.deliveredTo c.id).flatten) = []) := by
  refine ⟨?_, ?_, ?_⟩
  · intro state reached line payload hanswer
    obtain ⟨name, hname, arguments, hmade, rfl⟩ := Config.exists_of_answer_eq_forward hanswer
    refine ⟨name, hname, arguments, hmade.words_eq, rfl, ?_, isLine_auxLine_iff hname,
      fun now ↦ ⟨fun p hp ↦ Reply.kind_of_mem_packets hp, Packet.join_split _ _ _⟩⟩
    rw [auxLine, List.append_assoc]
    exact List.prefix_append _ _
  · intro name hname text htext
    let words : List Bytes := [Bytes.ofText name, 0x0a :: text]
    have hne : words ≠ [] := List.cons_ne_nil _ _
    obtain ⟨l, hwords, hline⟩ := Words.WrittenLine.exists_writtenLine hne
    have hread : Words.ofLine l.text = .ok words := by rw [l.line_text.ofLine_eq, hwords]
    have hmade : Request.IsMadeBy ⟨⟨name, .forward⟩, [0x0a :: text]⟩ config.instrument l.text :=
      ⟨Instrument.mem_commands_forward_iff.2 hname, hread⟩
    refine ⟨l.text, Words.WrittenLine.feed_notMem_text hline, fun state ↦
      ⟨auxLine name [0x0a :: text], ?_, ended_auxLine_of_feed hname htext⟩⟩
    rw [Config.answer_of_isMadeBy hmade]
    exact Instrument.forward_of_mem hname
  · intro address port auxPort mode host answers r₀ r events c hinstrument hstart hrun hc hend hopen
    have hreached := reached_of_run hstart hrun
    obtain ⟨letters, hletters, hdelivered⟩ := hreached.exists_letters hc hopen hend
    refine ⟨hreached.written_auxiliary hc hend, ⟨letters, hletters, hdelivered,
      fun letter hletter ↦ passesOn_of_carries hstart hrun (hletters.subset hletter)⟩,
      fun htame ↦ ?_⟩
    have htime : "time" ∈ config.instrument.vendorCommands := by
      rw [hinstrument]
      simp [Instrument.vendorCommands]
    have hgreeting : auxGreeting = auxLine "time" [Bytes.ofText "2"] := by decide +kernel
    obtain ⟨commands, hcommands, hended, hunended⟩ :=
      htame.ended_letters hstart hrun fun _ hletter ↦ hletters.subset hletter
    have hdigit : ∀ argument ∈ [Bytes.ofText "2"], 0x0a ∉ argument := by decide +kernel
    obtain ⟨hfirst, hrest⟩ :=
      ended_auxLine htime hdigit (letters.flatMap (Letter.carries .auxCommand))
    refine ⟨("time", [Bytes.ofText "2"]) :: commands, List.forall_mem_cons.2 ⟨htime, hcommands⟩,
      ?_, ?_⟩
    · rw [hgreeting, hdelivered, hfirst, hended, List.map_cons]
    · rw [hgreeting, hdelivered, hrest, hunended]

/-- A command with a blank in an argument, which arrives as one line. -/
theorem aux_lines_exact_of_blank :
    let config : Config := { refdes := "X", instrument := .rsn "host" 4001 4002 .persistent }
    let line : Bytes := Bytes.ofText "break \"a b\""
    (∃ payload, config.answer (.ok .disconnected) (.ok ()) line = .forward payload ∧
      IsLine payload) ∧
    (∃ typed, 0x0a ∉ typed ∧ ∃ payload,
      config.answer (.ok .disconnected) (.ok ()) typed = .forward payload ∧
      ended 0x0a payload = [Bytes.ofText "help" ++ [0x20], Bytes.ofText "reset"]) ∧
    ∃ (r : Relay) (c : Running) (commands : List (String × List Bytes)),
      r.connection? c.id = some c ∧ c.spec.endpoint = .auxiliary ∧ c.isOpen = true ∧ r.Tame ∧
      c.written.flatten = Bytes.ofText "time 2\nbreak a b\n" ∧
      (∀ command ∈ commands, command.1 ∈ config.instrument.vendorCommands) ∧
      ended 0x0a (auxGreeting ++ (r.exchange.deliveredTo c.id).flatten)
        = commands.map (fun (name, arguments) ↦ auxText name arguments) := by
  intro config line
  let events : List RelayEvent := [.link 1 .made, .connection ⟨0⟩ .begins, .visit .command,
    .connection ⟨1⟩ .begins, .connection ⟨1⟩ (.receives (line ++ [0x0a])), .connection ⟨1⟩ .takes,
    .connection ⟨1⟩ .answers, .routes, .routes, .routes, .routes, .connection ⟨0⟩ .writes]
  have hafter : ((Startup.ofConfig config .willing []).after events).any (fun r ↦
      (r.connection? ⟨0⟩).any fun c ↦ c.id = ⟨0⟩ ∧ c.spec.endpoint = .auxiliary ∧
        c.isOpen = true ∧ r.Tame ∧
          c.written.flatten = Bytes.ofText "time 2\nbreak a b\n") = true := by
    decide +kernel
  obtain ⟨r₀, r, hstart, hrun, h⟩ := Startup.exists_of_after hafter
  obtain ⟨c, hc, h⟩ := (Option.any_eq_true _ _).1 h
  obtain ⟨hid, hend, hopen, htame, hwritten⟩ := of_decide_eq_true h
  rw [← hid] at hc
  obtain ⟨hpayload, hsmuggled, hlink⟩ := aux_lines_exact config
  have hwords : Words.ofLine line = .ok [Bytes.ofText "break", Bytes.ofText "a b"] := by
    decide +kernel
  refine ⟨?_, ?_, ?_⟩
  · have hanswer : config.answer (.ok .disconnected) (.ok ()) line
        = .forward (Bytes.ofText "break a b\n") := by
      decide +kernel
    obtain ⟨name, -, arguments, hread, -, -, hone, -⟩ := hpayload _ _ _ _ hanswer
    refine ⟨_, hanswer, hone.2 ?_⟩
    obtain ⟨-, rfl⟩ := List.cons.inj (Except.ok.inj (hread.symm.trans hwords))
    decide +kernel
  · obtain ⟨typed, htyped, hanswers⟩ :=
      hsmuggled "help" (by decide) (Bytes.ofText "reset") (by decide +kernel)
    exact ⟨typed, htyped, hanswers _⟩
  · obtain ⟨-, -, hlines⟩ :=
      hlink "host" 4001 4002 .persistent .willing [] r₀ r events c rfl hstart hrun hc hend hopen
    obtain ⟨commands, hcommands, hended, -⟩ := hlines htame
    exact ⟨r, c, commands, hc, hend, hopen, htame, hwritten, hcommands, hended⟩

/-- A line feed is written as an escape in an argument, and `reset` becomes a line of its own on the
auxiliary link. Typed by itself it is refused. -/
theorem reset_smuggled :
    let config : Config := { refdes := "X", instrument := .rsn "host" 4001 4002 .persistent }
    let line : Bytes := Bytes.ofText "break \"x\\nreset\""
    let payload : Bytes := Bytes.ofText "break x\nreset\n"
    0x0a ∉ line ∧ config.answer (.ok .disconnected) (.ok ()) line = .forward payload ∧
      ¬IsLine payload ∧
      (∀ name ∈ config.instrument.vendorCommands, ¬Bytes.ofText name <+: Bytes.ofText "reset") ∧
      config.answer (.ok .disconnected) (.ok ()) (Bytes.ofText "reset")
        = .fault (.unknown "reset") ∧
      ∃ (r : Relay) (c : Running), r.connection? c.id = some c ∧ c.spec.endpoint = .auxiliary ∧
        ended 0x0a c.written.flatten
          = [Bytes.ofText "time 2", Bytes.ofText "break x", Bytes.ofText "reset"] := by
  intro config line payload
  let events : List RelayEvent := [.link 1 .made, .connection ⟨0⟩ .begins, .visit .command,
    .connection ⟨1⟩ .begins, .connection ⟨1⟩ (.receives (line ++ [0x0a])), .connection ⟨1⟩ .takes,
    .connection ⟨1⟩ .answers, .routes, .routes, .routes, .routes, .connection ⟨0⟩ .writes]
  have hafter : ((Startup.ofConfig config .willing []).after events).any (fun r ↦
      (r.connection? ⟨0⟩).any fun c ↦ c.id = ⟨0⟩ ∧ c.spec.endpoint = .auxiliary ∧
        ended 0x0a c.written.flatten
          = [Bytes.ofText "time 2", Bytes.ofText "break x", Bytes.ofText "reset"]) = true := by
    decide +kernel
  obtain ⟨r, -, h⟩ := (Option.any_eq_true _ _).1 hafter
  obtain ⟨c, hc, h⟩ := (Option.any_eq_true _ _).1 h
  obtain ⟨hid, hend, hlines⟩ := of_decide_eq_true h
  rw [← hid] at hc
  have hpayload : ¬IsLine (Bytes.ofText "break x\nreset" ++ [0x0a]) := by
    rw [isLine_append_singleton]
    decide +kernel
  exact ⟨by decide +kernel, by decide +kernel, hpayload, by decide +kernel, by decide +kernel,
    r, c, hc, hend, hlines⟩

end Relay

end InstrumentRelay
