import InstrumentRelay.Proofs.Relay.Course
import InstrumentRelay.Proofs.Relay.Deeds

/-!
# Who is registered

A connection runs exactly if the letters that have been posted so far leave it registered
(`Reached.told_iff`), so who will be registered when the router comes to a letter is decided when
that letter is posted. What the router does with it then depends on one thing more, whether the far
end is still there: `Reached.deliveredTo_routes` says exactly what a connection is handed when the
router takes a letter.
-/

namespace InstrumentRelay

/-- Messages about others do not change whether a connection is registered. -/
theorem Connection.foldl_told_filter {c : Connection} {letters : List Letter} {p : Letter → Bool}
    (h : ∀ l ∈ letters, l.message.subject = some c → p l = true) (registered : Bool) :
    ((letters.filter p).map (·.message)).foldl c.told registered
      = (letters.map (·.message)).foldl c.told registered := by
  induction letters generalizing registered with
  | nil => rfl
  | cons l rest ih =>
    have hrest := ih fun other hother ↦ h other (List.mem_cons_of_mem l hother)
    by_cases hp : p l = true
    · rw [List.filter_cons_of_pos hp, List.map_cons, List.foldl_cons, hrest, List.map_cons,
        List.foldl_cons]
    · have hother : l.message.subject ≠ some c := fun hsubject ↦ hp (h l List.mem_cons_self hsubject)
      have hsame : c.told registered l.message = registered := by
        cases hm : l.message <;> simp_all [RouterMessage.subject, told]
      rw [List.filter_cons_of_neg hp, hrest, List.map_cons, List.foldl_cons, hsame]

/-- Messages about nobody do not change who is registered. -/
theorem Connection.foldl_told_of_none {c : Connection} {messages : List RouterMessage}
    (h : ∀ m ∈ messages, m.subject = none) (registered : Bool) :
    messages.foldl c.told registered = registered := by
  induction messages generalizing registered with
  | nil => rfl
  | cons m rest ih =>
    rw [List.foldl_cons, ih fun other hother ↦ h other (List.mem_cons_of_mem m hother)]
    have hnone := h m List.mem_cons_self
    cases m with
    | data handled => rfl
    | _ => cases hnone

/-- Whoever has not been registered is not registered. -/
theorem Connection.register_of_told {c : Connection} {messages : List RouterMessage}
    (h : messages.foldl c.told false = true) : .register c ∈ messages := by
  -- The induction needs any state to begin with: the first message may have changed it.
  have hfold : ∀ registered, messages.foldl c.told registered = true →
      registered = true ∨ .register c ∈ messages := by
    clear h
    induction messages with
    | nil => exact fun _ h ↦ .inl h
    | cons m rest ih =>
      intro registered h
      rcases ih _ h with hnow | hlater
      · cases m with
        | data handled => exact .inl hnow
        | register d =>
          rw [told, Bool.or_eq_true, decide_eq_true_eq] at hnow
          exact hnow.imp_right fun hd ↦ List.mem_cons.2 (.inl (congrArg _ hd.symm))
        | deregister d =>
          rw [told, Bool.and_eq_true] at hnow
          exact .inl hnow.1
      · exact .inr (List.mem_cons_of_mem m hlater)
  exact (hfold false h).resolve_left Bool.false_ne_true

/-- A connection runs if what it has posted leaves it registered. -/
theorem Running.History.told_iff {delivered : List Bytes} {posted : List RouterMessage}
    {c : Running} (h : c.History delivered posted) :
    posted.foldl c.connection.told false = true ↔ c.phase = .running := by
  induction h with
  | made delivered id spec => simp
  | handed h more ih => exact ih
  | @acts delivered posted messages c c' h hact ih =>
    rw [hact.connection_eq, List.foldl_append]
    cases hact with
    | begins due hphase => simp [Connection.told]
    | ends said hopen hsaid =>
      by_cases hphase : c.phase = .running
      · simp [hphase, Connection.told]
      · simpa [hphase] using ih
    | _ => exact ih

namespace Relay

variable {config : Config} {r r' : Relay} {c : Running}

/-- **The letters there are leave a connection registered exactly if it runs.** -/
theorem Reached.told_iff (h : Reached config r) (hc : r.connection? c.id = some c) :
    r.messages.foldl c.connection.told false = true ↔ c.phase = .running := by
  rw [← (h.history hc).told_iff, messages, postedBy, Connection.foldl_told_filter]
  intro letter hletter hsubject
  rcases h.ledger.subjects letter hletter _ hsubject with ⟨hsender, -⟩ | ⟨-, file, hfile, hsame⟩
  · exact decide_eq_true hsender
  · have hnone := (h.ledger.files file hfile).2
    rw [hsame] at hnone
    cases hnone.symm.trans hc

/-! ## Lost connections -/

theorem Change.lost_of_closed (h : r.Change r')
    (hbefore : ∀ id c, r.connection? id = some c → c.isOpen = false → id ∈ r.exchange.lost)
    {id : ConnectionId} {c' : Running} (hc' : r'.connection? id = some c')
    (hclosed : c'.isOpen = false) : id ∈ r'.exchange.lost := by
  have hcreate {spec : ConnectionSpec} (hnew : (r.create spec).2.connection? id = some c') :
      id ∈ r.exchange.lost := by
    rw [connection?_create] at hnew
    rcases Option.or_eq_some_iff.1 hnew with hold | ⟨-, hmade⟩
    · exact hbefore id c' hold hclosed
    · obtain ⟨-, hmade⟩ := Option.ite_none_right_eq_some.1 hmade
      rw [← Option.some.inj hmade] at hclosed
      cases hclosed
  cases h with
  | aside h =>
    rw [connection?, h.connections] at hc'
    rw [h.exchange]
    exact hbefore id c' hc' hclosed
  | comes h => exact hcreate hc'
  | links hl hphase => exact hcreate hc'
  | acts hc hact hopen =>
    rw [connection?_act hc hact] at hc'
    split at hc'
    case isTrue hid =>
      obtain rfl := Option.some.inj hc'
      subst hid
      exact hbefore _ _ hc (by rwa [← hopen])
    case isFalse => exact hbefore id c' hc' hclosed
  | @ends c d messages hc hact hgone =>
    have hview : ((r.post (some c.id) messages).update d).connection? id = some c' := hc'
    rw [connection?_act hc hact] at hview
    split at hview
    case isTrue hid =>
      rw [hid]
      exact List.mem_cons_self
    case isFalse => exact List.mem_cons_of_mem _ (hbefore id c' hview hclosed)
  | loses hany => exact List.mem_cons_of_mem _ (hbefore id c' hc' hclosed)
  | _ => exact hbefore id c' hc' hclosed

/-- Whoever has ended has been lost. -/
theorem Reached.lost_of_closed (h : Reached config r) {id : ConnectionId}
    (hc : r.connection? id = some c) (hclosed : c.isOpen = false) : id ∈ r.exchange.lost := by
  induction h generalizing id c with
  | start h =>
    rw [h.connection?] at hc
    cases hc
  | change _ hchange ih => exact hchange.lost_of_closed (fun _ _ hc hclosed ↦ ih hc hclosed) hc hclosed

/-! ## What the router does with a letter -/

/-- The router takes a letter if there is one. -/
theorem exists_routes (h : r.mail.taken < r.mail.posted.length) :
    ∃ r', r.step .routes = some r' := by
  rw [← Option.isSome_iff_exists]
  simp [step, Mailbox.take?, h]

/-- What is handed over when the router takes a letter: nothing to those who are lost, and nothing
to those who were not registered when the letter was posted. -/
theorem Reached.deliveredTo_routes (h : Reached config r) (hstep : r.step .routes = some r')
    (hc : r.connection? c.id = some c) :
    ∃ letter, r.mail.posted[r.mail.taken]? = some letter ∧
      r'.exchange.deliveredTo c.id = r.exchange.deliveredTo c.id ++
        if c.isOpen = true ∧ r.handled.foldl c.connection.told false = true then
          letter.message.packets.flatMap (c.connection.renderings .standard)
        else [] := by
  have hledger' := (h.changes (changes_of_step hstep)).ledger
  simp only [step, Option.bind_eq_bind, Option.bind_eq_some_iff, Prod.exists, Option.pure_def,
    Option.some.injEq] at hstep
  obtain ⟨letter, mail, htake, rfl⟩ := hstep
  refine ⟨letter, (Mailbox.take?_eq_some_iff.1 htake).1, ?_⟩
  -- Only for those that are open the history says what they have been handed.
  rcases hopen : c.isOpen with _ | _
  · have hlost := h.lost_of_closed hc hopen
    have hnone := RouterRun.deliveredTo_of_lost
      (RouterRun.reaches_step r.exchange (.message letter.message)) hlost
    simpa using hnone
  · have hnow := hledger'.deliveredTo_eq hc hopen
    have hone (registered : Bool) : c.connection.packets registered [letter.message]
        = if registered = true then letter.message.packets else [] := by
      cases letter.message <;> simp [Connection.packets, RouterMessage.packets]
    rw [hnow, handled_of_take? htake, Connection.packets_append, List.flatMap_append,
      ← h.ledger.deliveredTo_eq hc hopen, hone]
    simp only [true_and]
    split <;> simp

end Relay

end InstrumentRelay
