import Mathlib.Data.List.Nodup
import InstrumentRelay.Proofs.Relay.History
import InstrumentRelay.Proofs.Routing.Balance

/-!
# Nobody is registered twice

The router of a relay is asked to register each connection once: a connection asks for it when it
begins, which it does once, and a log file is registered when it is opened. A connection has an
identity that nobody else has, so that no two letters register the same one
(`Reached.nodup_enrolled`). Whatever the router has made of its letters so far, it has therefore
never registered a connection that was registered (`Reached.registersAfresh`), and this is all that
its registry needs to balance (`registry_balanced`).
-/

namespace InstrumentRelay

/-- The connections that a message registers, one or none. -/
def RouterMessage.registers : RouterMessage → List Connection
  | register c => [c]
  | _ => []

/-- What is registered is what the messages ask for. -/
theorem Handles.flatMap_registers {table : RouteTable} {messages : List RouterMessage}
    {moves : List RouterMove} (h : Handles table messages moves) :
    moves.flatMap RouterMove.registers = messages.flatMap RouterMessage.registers := by
  rw [h.flatMap_eq fun _ ↦ rfl]
  refine List.flatMap_congr fun m _ ↦ ?_
  cases m with
  | data packets =>
    rw [RouterMessage.moves, List.flatMap_assoc]
    refine List.flatMap_eq_nil_iff.2 fun p _ ↦ ?_
    rw [List.flatMap_map]
    exact List.flatMap_eq_nil_iff.2 fun _ _ ↦ rfl
  | register c | deregister c => rfl

/-- A connection asks to be registered when it begins, and never otherwise. -/
theorem Running.Act.registers_eq {queue : List Bytes} {c c' : Running}
    {messages : List RouterMessage} (h : c.Act queue messages c') :
    messages.flatMap RouterMessage.registers = [] ∨
      c.phase = .starting ∧ messages.flatMap RouterMessage.registers = [c.connection] := by
  cases h with
  | begins due hphase => exact .inr ⟨hphase, rfl⟩
  | ends said hopen hsaid =>
    split
    · exact .inl rfl
    · exact .inl rfl
  | _ => exact .inl rfl

namespace Relay

variable {config : Config} {r r' : Relay}

/-! ## The letters -/

/-- Everyone the router was asked to register. -/
def enrolled (r : Relay) : List Connection := r.messages.flatMap RouterMessage.registers

theorem enrolled_post (r : Relay) (sender : Option ConnectionId) (messages : List RouterMessage) :
    (r.post sender messages).enrolled
      = r.enrolled ++ messages.flatMap RouterMessage.registers := by
  rw [enrolled, Relay.messages, post, Mailbox.post, List.map_append, List.flatMap_append,
    List.map_map]
  simp only [Function.comp_def, List.map_id']
  rfl

theorem letter_of_mem_enrolled {c : Connection} (h : c ∈ r.enrolled) :
    ∃ letter ∈ r.mail.posted, letter.message = .register c := by
  obtain ⟨m, hm, hc⟩ := List.mem_flatMap.1 h
  obtain ⟨letter, hletter, hmessage⟩ := List.mem_map.1 hm
  refine ⟨letter, hletter, ?_⟩
  cases m with
  | register d => rw [hmessage, List.mem_singleton.1 hc]
  | data packets | deregister d => cases hc

/-- Whoever was to be registered has an identity that has been given out. -/
theorem Ledger.number_lt_of_mem_enrolled (h : r.Ledger) {c : Connection} (hc : c ∈ r.enrolled) :
    c.id.number < r.identities := by
  obtain ⟨letter, hletter, hmessage⟩ := letter_of_mem_enrolled hc
  have hsubject : letter.message.subject = some c := by
    rw [hmessage]
    rfl
  rcases h.subjects letter hletter c hsubject with ⟨-, d, hd, -⟩ | ⟨-, file, hfile, rfl⟩
  · exact h.fresh _ d hd
  · exact (h.files file hfile).1

/-- A connection that has not begun was not to be registered yet. -/
theorem Reached.notMem_enrolled (h : Reached config r) {c : Running}
    (hc : r.connection? c.id = some c) (hphase : c.phase = .starting) :
    c.connection ∉ r.enrolled := by
  intro hmem
  obtain ⟨letter, hletter, hmessage⟩ := letter_of_mem_enrolled hmem
  have hsubject : letter.message.subject = some c.connection := by
    rw [hmessage]
    rfl
  rcases h.ledger.subjects letter hletter _ hsubject with ⟨hsender, -⟩ | ⟨-, file, hfile, hsame⟩
  · -- Then the letter is its own, but it has posted nothing.
    have hnone := ((h.history hc).of_not_begun (by rw [Running.hasBegun, hphase])).1
    have hposted : letter.message ∈ r.postedBy c.id :=
      List.mem_map_of_mem (List.mem_filter.2 ⟨hletter, decide_eq_true hsender⟩)
    rw [hnone] at hposted
    cases hposted
  · have hnone := (h.ledger.files file hfile).2
    rw [hsame] at hnone
    cases hnone.symm.trans hc

theorem Reached.nodup_post (h : Reached config r) (hnodup : r.enrolled.Nodup) {c c' : Running}
    {messages : List RouterMessage} (hc : r.connection? c.id = some c)
    (hact : c.Act (r.queue c) messages c') : (r.post (some c.id) messages).enrolled.Nodup := by
  rw [enrolled_post]
  rcases hact.registers_eq with hnone | ⟨hphase, hone⟩
  · rw [hnone, List.append_nil]
    exact hnodup
  · rw [hone]
    exact hnodup.append (List.nodup_singleton _)
      (List.disjoint_singleton.2 (h.notMem_enrolled hc hphase))

theorem Reached.nodup_of_change (h : Reached config r) (hnodup : r.enrolled.Nodup)
    (hchange : r.Change r') : r'.enrolled.Nodup := by
  cases hchange with
  | aside h =>
    rw [enrolled, messages, h.mail]
    exact hnodup
  | opens file =>
    -- The identity of the file is the next one, so nobody who was registered has it.
    have hnew : Connection.mk ⟨r.identities⟩ file.1 ∉ r.enrolled :=
      fun hmem ↦ Nat.lt_irrefl _ (h.ledger.number_lt_of_mem_enrolled hmem)
    have henrolled : (Startup.addFile r file).enrolled
        = r.enrolled ++ [Connection.mk ⟨r.identities⟩ file.1] := enrolled_post _ none _
    rw [henrolled]
    exact hnodup.append (List.nodup_singleton _) (List.disjoint_singleton.2 hnew)
  | acts hc hact hopen => exact h.nodup_post hnodup hc hact
  | ends hc hact hclosed => exact h.nodup_post hnodup hc hact
  | publishes bulletins =>
    have henrolled : (r.publish bulletins).enrolled = r.enrolled ++ _ := enrolled_post r none _
    have hnone : (bulletins.map fun b ↦ RouterMessage.data (b.packets r.stamp)).flatMap
        RouterMessage.registers = [] := by
      rw [List.flatMap_map]
      exact List.flatMap_eq_nil_iff.2 fun _ _ ↦ rfl
    rw [henrolled, hnone, List.append_nil]
    exact hnodup
  | routes htake =>
    obtain ⟨-, rfl⟩ := Mailbox.take?_eq_some_iff.1 htake
    exact hnodup
  | comes | links | reports | loses => exact hnodup

/-- **Nobody is to be registered twice.** -/
theorem Reached.nodup_enrolled (h : Reached config r) : r.enrolled.Nodup := by
  induction h with
  | start h =>
    rw [enrolled, messages, h.mail_eq]
    exact List.nodup_nil
  | change h hchange ih => exact h.nodup_of_change ih hchange

/-! ## The router -/

/-- The router has been through these turns, and has handled the letters that it has taken. -/
structure Took (r : Relay) (turns : List RouterTurn) : Prop where
  /-- This is what has become of the router. -/
  exchange : r.exchange = (RouterRun.start .standard).play turns
  /-- The letters have been handled one after the other. -/
  handles : Handles .standard r.handled (turns.filterMap RouterTurn.move?)

namespace Took

variable {turns : List RouterTurn}

theorem append (h : r.Took turns) {more : List RouterTurn} {messages : List RouterMessage}
    (hexchange : r'.exchange = r.exchange.play more)
    (hhandled : r'.handled = r.handled ++ messages)
    (hmore : Handles .standard messages (more.filterMap RouterTurn.move?)) :
    r'.Took (turns ++ more) := by
  constructor
  · rw [hexchange, h.exchange, RouterRun.play, RouterRun.play, RouterRun.play, List.foldl_append]
  · rw [hhandled, List.filterMap_append]
    exact Ledger.handles_append h.handles hmore

theorem congr (h : r.Took turns) (hexchange : r'.exchange = r.exchange)
    (hhandled : r'.handled = r.handled) : r'.Took turns := by
  constructor
  · rw [hexchange, h.exchange]
  · rw [hhandled]
    exact h.handles

theorem lose (h : r.Took turns) {id : ConnectionId}
    (hexchange : r'.exchange = r.exchange.step (.lost id)) (hhandled : r'.handled = r.handled) :
    r'.Took (turns ++ [.move (.lost id)]) := by
  have hnone : Handles .standard [] ([RouterTurn.move (.lost id)].filterMap RouterTurn.move?) := rfl
  refine h.append hexchange ?_ hnone
  rw [hhandled, List.append_nil]

end Took

theorem Change.exists_took (h : r.Change r') (hledger : r.Ledger) {turns : List RouterTurn}
    (hturns : r.Took turns) : ∃ turns', r'.Took turns' := by
  cases h with
  | aside h =>
    refine ⟨turns, hturns.congr h.exchange ?_⟩
    rw [handled, h.mail, handled]
  | comes | links => exact ⟨turns, hturns.congr rfl rfl⟩
  | opens file => exact ⟨turns, hturns.congr rfl (handled_of_post rfl hledger.taken_le)⟩
  | acts hc hact hopen => exact ⟨turns, hturns.congr rfl (handled_of_post rfl hledger.taken_le)⟩
  | publishes bulletins => exact ⟨turns, hturns.congr rfl (handled_of_post rfl hledger.taken_le)⟩
  | ends hc hact hclosed => exact ⟨_, hturns.lose rfl (handled_of_post rfl hledger.taken_le)⟩
  | loses hany => exact ⟨_, hturns.lose rfl rfl⟩
  | reports refdes =>
    have hnone : Handles .standard [] ([RouterTurn.report refdes].filterMap RouterTurn.move?) := rfl
    exact ⟨_, hturns.append rfl (List.append_nil _).symm hnone⟩
  | @routes letter mail htake =>
    have hmoves : ((letter.message.moves .standard).map RouterTurn.move).filterMap RouterTurn.move?
        = letter.message.moves .standard := by
      rw [List.filterMap_map]
      exact List.filterMap_some
    refine ⟨_, hturns.append ?_ (handled_of_take? htake) (hmoves ▸ Ledger.handles_message _ _)⟩
    rw [RouterRun.play_map_move, ← hledger.table]
    exact RouterRun.step_message r.exchange letter.message

theorem Reached.exists_took (h : Reached config r) : ∃ turns, r.Took turns := by
  induction h with
  | start h =>
    refine ⟨[], h.exchange_eq, ?_⟩
    rw [handled, h.mail_eq]
    rfl
  | change h hchange ih =>
    obtain ⟨turns, hturns⟩ := ih
    exact hchange.exists_took h.ledger hturns

/-- The router of a relay never registers a connection that is registered. -/
theorem Reached.registersAfresh (h : Reached config r) {turns : List RouterTurn}
    (hturns : r.Took turns) : (RouterRun.start .standard).RegistersAfresh turns := by
  refine RouterRun.registersAfresh_of_nodup ?_
  have hnodup := h.nodup_enrolled
  rw [enrolled, ← handled_append_awaited, List.flatMap_append] at hnodup
  rw [hturns.handles.flatMap_registers]
  exact hnodup.of_append_left

/-- **The registry balances.** As long as no connection is registered that is registered already,
and whatever is deregistered, lost or reported, registrations of an endpoint minus its removals,
over all intervals from the start, are its connections. These are the ones that count as registered
under this identity and this endpoint, each once. And the router of a relay is always like this:
whatever has happened to the relay, no connection has been registered that was registered. -/
theorem registry_balanced :
    (∀ table turns, (RouterRun.start table).RegistersAfresh turns → ∀ e,
      let run := (RouterRun.start table).play turns
      (RouterRun.start table).total (·.adds) e turns
          = (RouterRun.start table).total (·.removes) e turns + (run.router.members.get e).length ∧
        (run.router.members.get e).Nodup ∧
          ∀ id, id ∈ run.router.members.get e ↔ Connection.countedAfter ⟨id, e⟩ turns = true) ∧
      ∀ config host answers r₀ events r, (Startup.ofConfig config host answers).outcome = .ok r₀ →
        r₀.run events = some r →
          ∃ turns, r.Took turns ∧ (RouterRun.start .standard).RegistersAfresh turns := by
  constructor
  · intro table turns h e
    exact ⟨h.total_adds_eq e, RouterRun.nodup_members_play table turns e,
      RouterRun.mem_members_play table turns e⟩
  · intro config host answers r₀ events r hstart hrun
    have hreached := reached_of_run hstart hrun
    obtain ⟨turns, hturns⟩ := hreached.exists_took
    exact ⟨turns, hturns, hreached.registersAfresh hturns⟩

/-- Of three drivers one is deregistered twice and one is lost. The lost one is deregistered as an
observer, which it is not, then found to be lost, and then deregistered. And there is a relay whose
router has registered its instrument and deregistered it. -/
theorem registry_balanced_of_repeated_deregistration :
    (let table := RouteTable.ofRoutes [⟨.all, .driver, .frame⟩]
      let greeting : Packet := ⟨.fromInstrument, ⟨0⟩, [0x68, 0x69], by decide⟩
      let turns : List RouterTurn := [
        .move (.register ⟨⟨0⟩, .driver⟩), .move (.register ⟨⟨1⟩, .driver⟩), .move (.lost ⟨1⟩),
        .report "CTDBP", .move (.deregister ⟨⟨1⟩, .observer⟩),
        .move (.serve greeting ⟨.driver, .frame⟩), .move (.deregister ⟨⟨1⟩, .driver⟩),
        .move (.deregister ⟨⟨0⟩, .driver⟩), .report "CTDBP", .move (.deregister ⟨⟨0⟩, .driver⟩),
        .move (.register ⟨⟨2⟩, .driver⟩)]
      (RouterRun.start table).RegistersAfresh turns ∧
        (RouterRun.start table).total (·.adds) .driver turns
          = (RouterRun.start table).total (·.removes) .driver turns + 1) ∧
      ∃ (r : Relay) (turns : List RouterTurn), r.handled.length = 2 ∧ r.Took turns ∧
        (RouterRun.start .standard).RegistersAfresh turns := by
  constructor
  · intro table greeting turns
    have hafresh : (RouterRun.start table).RegistersAfresh turns :=
      RouterRun.registersAfresh_of_nodup (by decide)
    have hleft : ((RouterRun.start table).play turns).router.members.get .driver = [⟨2⟩] := by
      decide
    refine ⟨hafresh, ?_⟩
    rw [(registry_balanced.1 table turns hafresh .driver).1, hleft, List.length_singleton]
  · let events : List RelayEvent := [.link 0 .made, .connection ⟨0⟩ .begins, .routes,
      .connection ⟨0⟩ .hangsUp, .connection ⟨0⟩ .takes, .routes]
    have hafter : ((Startup.ofConfig { refdes := "X", instrument := .tcp "host" 4001 } .willing
        []).after events).any (fun r ↦ r.handled.length = 2) = true := by
      decide +kernel
    obtain ⟨r₀, r, hstart, hrun, hlength⟩ := Startup.exists_of_after hafter
    obtain ⟨turns, hturns, hafresh⟩ := registry_balanced.2 _ _ _ r₀ events r hstart hrun
    exact ⟨r, turns, of_decide_eq_true hlength, hturns, hafresh⟩

end Relay

end InstrumentRelay
