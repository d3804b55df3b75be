import InstrumentRelay.Proofs.Relay.Deeds
import InstrumentRelay.Proofs.Relay.Wiring

/-!
# What happens to the links

A link is in one phase after the other: it connects, it is up, it waits, it connects again. Most
steps leave all links alone (`Relay.Calm`). What does not is an event of the link itself and the end
of a connection, which lets go of its link; that there is nothing else is `stirs_of_step`.

Seen from one link this is `Relay.Advances`: every way from one phase to another, with the event and
the moment. A link that is up stays up for as long as its connection is open, and no longer. For
that the link must have had its connection before the step (`advances_of_step`), and has it after
the step if it is up then.
-/

namespace InstrumentRelay

namespace Relay

/-! ## What leaves the links alone -/

/-- The connection is there and has not ended. -/
def isOpen (r : Relay) (id : ConnectionId) : Bool := (r.connection? id).any (·.isOpen)

/-- No link changes, no connection ends, and time does not go back. -/
structure Calm (r r' : Relay) : Prop where
  links : r'.links = r.links
  clock : r.clock ≤ r'.clock
  isOpen : ∀ id, r.isOpen id = true → r'.isOpen id = true

section Calm

variable {r r' : Relay} {c c' : Running} {id : ConnectionId}

theorem isOpen_congr (h : r'.connections = r.connections) (id : ConnectionId) :
    r'.isOpen id = r.isOpen id := by
  rw [isOpen, connection?_congr h, isOpen]

theorem isOpen_update (hc : r.connection? c'.id = some c) (hopen : c'.isOpen = c.isOpen)
    (id : ConnectionId) : (r.update c').isOpen id = r.isOpen id := by
  by_cases hid : id = c'.id
  · rw [hid, isOpen, connection?_update_self hc, isOpen, hc]
    exact hopen
  · rw [isOpen, connection?_update_of_ne hid, isOpen]

theorem isOpen_create (h : r.isOpen id = true) (spec : ConnectionSpec) :
    (r.create spec).2.isOpen id = true := by
  obtain ⟨c, hc, hopen⟩ := (Option.any_eq_true _ _).1 h
  rw [isOpen, connection?_create_of_some hc spec]
  exact hopen

/-- The connections stay as they are. -/
theorem calm_of_connections (hconnections : r'.connections = r.connections)
    (hlinks : r'.links = r.links) (hclock : r.clock ≤ r'.clock) : r.Calm r' :=
  ⟨hlinks, hclock, fun id h ↦ by rwa [isOpen_congr hconnections]⟩

/-- A connection changes and is as open as it was. -/
theorem calm_of_update (hc : r.connection? c.id = some c)
    (hconnections : r'.connections = (r.update c').connections) (hid : c'.id = c.id)
    (hopen : c'.isOpen = c.isOpen) (hlinks : r'.links = r.links) (hclock : r'.clock = r.clock) :
    r.Calm r' where
  links := hlinks
  clock := hclock.ge
  isOpen id h := by rwa [isOpen_congr hconnections, isOpen_update (by rwa [hid]) hopen]

theorem calm_create (r : Relay) (spec : ConnectionSpec) : r.Calm (r.create spec).2 :=
  ⟨rfl, Nat.le_refl _, fun _ h ↦ isOpen_create h spec⟩

theorem calm_register (hc : r.connection? c.id = some c) (hphase : c.phase = .starting) :
    r.Calm (r.register c) := by
  have hopen : c.isOpen = true := by rw [Running.isOpen, hphase]
  rw [register]
  cases upNotice c.spec.role c.id with
  | none => exact calm_of_update hc rfl rfl hopen.symm rfl rfl
  | some notice => exact calm_of_update hc rfl rfl hopen.symm rfl rfl

theorem calm_takeLine (hc : r.connection? c.id = some c) (input : Input) (line : Bytes) :
    r.Calm (r.takeLine { c with input := input } line) := by
  rw [takeLine]
  dsimp only
  split
  · exact calm_of_update hc rfl rfl rfl rfl rfl
  · split <;> exact calm_of_update hc rfl rfl rfl rfl rfl

theorem calm_settleAux (hc : r.connection? c.id = some c) (request : Request)
    (reached : Except RelayError Unit) : r.Calm (r.settleAux c request reached) :=
  calm_of_update hc rfl rfl rfl rfl rfl

theorem calm_claimAux (hc : r.connection? c.id = some c) (request : Request) :
    r.Calm (r.claimAux c request) := by
  have hstart : r.Calm (claimAux.startOpening r c request) := calm_of_update hc rfl rfl rfl rfl rfl
  rw [claimAux]
  split
  · split
    · exact calm_settleAux hc request _
    · exact hstart
  · exact hstart

/-! ## Closing a connection -/

/-- What the router and the monitor are told does not matter to the connections and the links. -/
theorem close_eq (r : Relay) (c : Running) : ∃ mail notices postings, r.close c =
    { { r with mail := mail, notices := notices, postings := postings }.update
        { c with phase := .closed c.hasBegun, errand := none } with
      exchange := r.exchange.step (.lost c.id) }.releaseLink c.id := by
  rw [close]
  split
  · cases c.spec.role <;> exact ⟨_, _, _, rfl⟩
  · exact ⟨_, _, _, rfl⟩

theorem connections_close (r : Relay) (c : Running) :
    (r.close c).connections
      = (r.update { c with phase := .closed c.hasBegun, errand := none }).connections := by
  obtain ⟨mail, notices, postings, hclose⟩ := close_eq r c
  rw [hclose]
  rfl

theorem links_close (r : Relay) (c : Running) :
    (r.close c).links = r.links.map fun l ↦ if l.phase = .up c.id then l.wait r.clock else l := by
  obtain ⟨mail, notices, postings, hclose⟩ := close_eq r c
  rw [hclose]
  rfl

theorem clock_close (r : Relay) (c : Running) : (r.close c).clock = r.clock := by
  obtain ⟨mail, notices, postings, hclose⟩ := close_eq r c
  rw [hclose]
  rfl

theorem isOpen_close_self (hc : r.connection? c.id = some c') :
    (r.close c).isOpen c.id = false := by
  let closed : Running := { c with phase := .closed c.hasBegun, errand := none }
  have hclosed : (r.update closed).connection? c.id = some closed := connection?_update_self hc
  rw [isOpen_congr (connections_close r c), isOpen, hclosed]
  rfl

theorem isOpen_close_of_ne (hid : id ≠ c.id) : (r.close c).isOpen id = r.isOpen id := by
  rw [isOpen_congr (connections_close r c), isOpen, connection?_update_of_ne (by exact hid), isOpen]

/-! ## What a connection does to the links -/

theorem Calm.trans {r'' : Relay} (h : r.Calm r') (h' : r'.Calm r'') : r.Calm r'' :=
  ⟨h'.links.trans h.links, h.clock.trans h'.clock, fun id hopen ↦ h'.isOpen id (h.isOpen id hopen)⟩

theorem calm_reaches (hc : r.connection? c.id = some c)
    (h : r.stepConnection c .reaches = some r') : r.Calm r' := by
  rw [stepConnection] at h
  split at h
  case h_2 => cases h
  case h_1 request deadline herrand =>
    cases h
    exact (calm_create r _).trans
      (calm_of_update (connection?_create_of_some hc _) rfl rfl rfl rfl rfl)

theorem takes_calm_or_close (hc : r.connection? c.id = some c)
    (h : r.stepConnection c .takes = some r') :
    r.Calm r' ∨ ∃ d : Running, d.id = c.id ∧ r' = r.close d := by
  rw [stepConnection] at h
  obtain ⟨-, h⟩ := Option.ite_none_right_eq_some.1 h
  split at h
  case h_1 =>
    cases h
    exact .inr ⟨c, rfl, rfl⟩
  case h_2 packets input hitem =>
    cases h
    exact .inl (calm_of_update hc rfl rfl rfl rfl rfl)
  case h_3 line input hitem =>
    cases h
    exact .inl (calm_takeLine hc input line)
  case h_4 =>
    obtain ⟨-, h⟩ := Option.ite_none_right_eq_some.1 h
    cases h
    exact .inr ⟨c, rfl, rfl⟩

/-- A connection that is not closed leaves the links alone. -/
theorem calm_or_close {e : ConnectionEvent} (hc : r.connection? c.id = some c)
    (h : r.stepConnection c e = some r') :
    r.Calm r' ∨ ∃ d : Running, d.id = c.id ∧ r' = r.close d := by
  -- What is closed may have written a part of its answer, so it need not be `c` itself.
  cases e
  case takes => exact takes_calm_or_close hc h
  case reaches => exact .inl (calm_reaches hc h)
  all_goals rw [stepConnection] at h
  case begins =>
    obtain ⟨hphase, h⟩ := Option.ite_none_right_eq_some.1 h
    cases h
    exact .inl (calm_register hc hphase)
  case receives | hangsUp =>
    obtain ⟨-, h⟩ := Option.ite_none_right_eq_some.1 h
    cases h
    exact .inl (calm_of_update hc rfl rfl rfl rfl rfl)
  case beginningFails | readFails | writeFails =>
    obtain ⟨-, h⟩ := Option.ite_none_right_eq_some.1 h
    cases h
    exact .inr ⟨c, rfl, rfl⟩
  case writes =>
    obtain ⟨-, h⟩ := Option.ite_none_right_eq_some.1 h
    split at h
    case h_2 => cases h
    case h_1 piece rest _ =>
      cases h
      exact .inl (calm_of_update hc rfl rfl rfl rfl rfl)
  case idles =>
    split at h
    case h_2 => cases h
    case h_1 due _ =>
      obtain ⟨-, h⟩ := Option.ite_none_right_eq_some.1 h
      cases h
      exact .inr ⟨c, rfl, rfl⟩
  case answers =>
    split at h
    case h_2 => cases h
    case h_1 reply _ _ =>
      cases h
      exact .inl (calm_of_update hc rfl rfl rfl rfl rfl)
  case answerFails n =>
    split at h
    case h_2 => cases h
    case h_1 reply _ _ =>
      dsimp only at h
      obtain ⟨-, h⟩ := Option.ite_none_right_eq_some.1 h
      cases h
      refine .inr ⟨_, ?_, rfl⟩
      rfl
  case claims =>
    split at h
    case h_2 => cases h
    case h_1 request _ _ =>
      cases h
      exact .inl (calm_claimAux hc request)
  case isRefused problem =>
    split at h
    case h_2 => cases h
    case h_1 request deadline _ =>
      cases h
      exact .inl (calm_settleAux hc request _)
  case isReady | isLost =>
    split at h
    case h_2 => cases h
    case h_1 request deadline id _ =>
      obtain ⟨-, h⟩ := Option.ite_none_right_eq_some.1 h
      cases h
      exact .inl (calm_of_update hc rfl rfl rfl rfl rfl)
  case timesOut =>
    split at h
    case h_2 => cases h
    case h_1 request deadline made _ =>
      dsimp only at h
      obtain ⟨-, h⟩ := Option.ite_none_right_eq_some.1 h
      cases h
      exact .inl (calm_settleAux hc request _)

theorem calm_attend (r : Relay) (letter : MonitorLetter) : r.Calm (r.attend letter) := by
  cases letter with
  | notice notice => exact calm_of_connections rfl rfl (Nat.le_refl _)
  | question asker =>
    unfold attend
    dsimp only
    split
    case h_2 => exact calm_of_connections rfl rfl (Nat.le_refl _)
    case h_1 c hc =>
      split
      case h_2 => exact calm_of_connections rfl rfl (Nat.le_refl _)
      case h_1 request _ =>
        obtain rfl := id_of_connection? hc
        exact calm_of_update hc rfl rfl rfl rfl rfl

/-- What a step does to the links. -/
inductive Stirs (r : Relay) (e : RelayEvent) (r' : Relay) : Prop
  /-- Nothing. -/
  | calm (he : ∀ index event, e ≠ .link index event) (h : r.Calm r')
  /-- A connection is closed, and its link is let go. -/
  | closes {c d : Running} (he : ∀ index event, e ≠ .link index event)
    (hc : r.connection? d.id = some c) (h : r' = r.close d)
  /-- Something happens to a link. -/
  | link {index : Nat} {l : LinkRun} {event : LinkEvent} (he : e = .link index event)
    (hl : r.links[index]? = some l) (h : r.stepLink index l event = some r')

theorem stirs_of_step {e : RelayEvent} (h : r.step e = some r') : r.Stirs e r' := by
  cases e
  all_goals simp only [step, Option.bind_eq_bind, Option.bind_eq_some_iff, Prod.exists,
    Option.pure_def, Option.some.injEq, Option.ite_none_right_eq_some] at h
  case elapse nanos stamp =>
    subst h
    exact .calm (by simp) (calm_of_connections rfl rfl (Nat.le_add_right _ _))
  case visit server =>
    obtain ⟨-, rfl⟩ := h
    exact .calm (by simp) (calm_create r _)
  case connection id e =>
    obtain ⟨c, hc, h⟩ := h
    obtain rfl := id_of_connection? hc
    rcases calm_or_close hc h with hcalm | ⟨d, hd, rfl⟩
    · exact .calm (by simp) hcalm
    · exact .closes (by simp) (by rwa [hd]) rfl
  case link index e =>
    obtain ⟨l, hl, h⟩ := h
    exact .link rfl hl h
  case attends =>
    obtain ⟨letter, notices, -, rfl⟩ := h
    have hnotices : r.Calm { r with notices := notices } :=
      calm_of_connections rfl rfl (Nat.le_refl _)
    exact .calm (by simp) (hnotices.trans (calm_attend _ letter))
  case routes | beats | expires =>
    obtain ⟨_, _, -, rfl⟩ := h
    exact .calm (by simp) (calm_of_connections rfl rfl (Nat.le_refl _))
  case reports | announces | fileFails =>
    obtain ⟨-, rfl⟩ := h
    exact .calm (by simp) (calm_of_connections rfl rfl (Nat.le_refl _))

end Calm

/-! ## What becomes of a link -/

/-- What becomes of a link in a step. -/
inductive Advances (r : Relay) (e : RelayEvent) (index : Nat) (r' : Relay) (l : LinkRun) :
    LinkRun → Prop
  /-- Nothing. If it is up, its connection is open. -/
  | stays (he : ∀ event, e ≠ .link index event)
    (hopen : ∀ id, l.phase = .up id → r'.isOpen id = true) : Advances r e index r' l l
  /-- It connects. -/
  | connects {id : ConnectionId} (he : e = .link index .made) (h : l.phase = .dialing)
    (hopen : r'.isOpen id = true) : Advances r e index r' l (l.made id)
  /-- It cannot connect, and waits. -/
  | isRefused (he : e = .link index .refused) (h : l.phase = .dialing) :
    Advances r e index r' l (l.wait r.clock)
  /-- Its connection has ended, and it waits. -/
  | loses {id : ConnectionId} (h : l.phase = .up id) (hclosed : r'.isOpen id = false) :
    Advances r e index r' l (l.wait r.clock)
  /-- It has waited for as long as it should, and connects again. -/
  | redials {due : Nat} (he : e = .link index .redials) (h : l.phase = .waiting due)
    (hdue : due ≤ r.clock) : Advances r e index r' l { l with phase := .dialing }

section Advances

variable {r r' : Relay} {e : RelayEvent} {index : Nat} {l l' : LinkRun}

/-- What happens to a link concerns no other link, and ends no connection. -/
theorem exists_set_of_stepLink {event : LinkEvent} (h : r.stepLink index l event = some r') :
    ∃ l', r'.links = r.links.set index l' ∧ r'.clock = r.clock ∧
      (∀ id, r.isOpen id = true → r'.isOpen id = true) ∧
      (r.Ledger → r.Advances (.link index event) index r' l l') := by
  unfold stepLink at h
  split at h
  case h_1 hphase =>
    cases h
    refine ⟨_, rfl, rfl, fun id hopen ↦ isOpen_create hopen l.link.spec, fun hledger ↦ ?_⟩
    -- The identity is a new one, so no earlier connection is found under it.
    have hnew : (r.create l.link.spec).2.isOpen ⟨r.identities⟩ = true := by
      rw [isOpen, connection?_create, hledger.connection?_next, Option.none_or, if_pos rfl]
      rfl
    exact .connects rfl hphase hnew
  case h_2 hphase =>
    cases h
    exact ⟨_, rfl, rfl, fun id hopen ↦ hopen, fun _ ↦ .isRefused rfl hphase⟩
  case h_3 due hphase =>
    obtain ⟨hdue, h⟩ := Option.ite_none_right_eq_some.1 h
    cases h
    exact ⟨_, rfl, rfl, fun id hopen ↦ hopen, fun _ ↦ .redials rfl hphase hdue⟩
  case h_4 => cases h

/-- What becomes of a link that has its connection if it is up. -/
theorem advances_of_step (hledger : r.Ledger) (h : r.step e = some r')
    (hl : r.links[index]? = some l) (hup : ∀ id, l.phase = .up id → r.isOpen id = true) :
    ∃ l', r'.links[index]? = some l' ∧ r.Advances e index r' l l' := by
  cases stirs_of_step h with
  | calm he hcalm =>
    refine ⟨l, ?_, .stays (he index) fun id hid ↦ hcalm.isOpen id (hup id hid)⟩
    rw [hcalm.links, hl]
  | @closes c d he hc hclose =>
    subst hclose
    rw [links_close, List.getElem?_map, hl, Option.map_some]
    by_cases hphase : l.phase = .up d.id
    · rw [if_pos hphase]
      exact ⟨_, rfl, .loses hphase (isOpen_close_self hc)⟩
    · rw [if_neg hphase]
      refine ⟨_, rfl, .stays (he index) fun id hid ↦ ?_⟩
      have hne : id ≠ d.id := by
        rintro rfl
        exact hphase hid
      -- Another link's connection has been closed, and this one's has not.
      rw [isOpen_close_of_ne hne]
      exact hup id hid
  | @link other m event he hm hstep =>
    subst he
    obtain ⟨m', hlinks, -, hopen, hadvances⟩ := exists_set_of_stepLink hstep
    by_cases hindex : other = index
    · subst hindex
      obtain rfl := Option.some.inj (hm.symm.trans hl)
      refine ⟨m', ?_, hadvances hledger⟩
      rw [hlinks, List.getElem?_set_self (List.getElem?_eq_some_iff.1 hl).1]
    · refine ⟨l, by rw [hlinks, List.getElem?_set_ne hindex, hl], .stays ?_ ?_⟩
      · rintro event' ⟨⟩
        exact hindex rfl
      · exact fun id hid ↦ hopen id (hup id hid)

/-- A link that waits goes on waiting, or its time has come. -/
theorem Advances.of_waiting {due : Nat} (h : r.Advances e index r' l l')
    (hdue : l.phase = .waiting due) : l' = l ∨ due ≤ r.clock := by
  cases h with
  | stays he hopen => exact .inl rfl
  | connects he hphase hopen => cases hdue.symm.trans hphase
  | isRefused he hphase => cases hdue.symm.trans hphase
  | loses hphase hclosed => cases hdue.symm.trans hphase
  | redials he hphase hpast =>
    obtain rfl := LinkPhase.waiting.inj (hdue.symm.trans hphase)
    exact .inr hpast

theorem clock_le_of_step (h : r.step e = some r') : r.clock ≤ r'.clock := by
  cases stirs_of_step h with
  | calm he hcalm => exact hcalm.clock
  | closes he hc hclose => rw [hclose, clock_close]
  | link he hl hstep =>
    obtain ⟨-, -, hclock, -, -⟩ := exists_set_of_stepLink hstep
    exact hclock.ge

theorem clock_le_of_run {events : List RelayEvent} (h : r.run events = some r') :
    r.clock ≤ r'.clock := by
  induction events generalizing r with
  | nil =>
    cases h
    exact Nat.le_refl _
  | cons e rest ih =>
    obtain ⟨mid, hstep, hrest⟩ := run_cons_eq_some_iff.1 h
    exact (clock_le_of_step hstep).trans (ih hrest)

end Advances

/-! ## From the start -/

section Start

variable {config : Config} {host : Host} {answers : List Bool} {r r' : Relay} {e : RelayEvent}
  {index : Nat} {l' : LinkRun}

theorem links_addFiles (r : Relay) (files : List (Endpoint × LogFile)) :
    (files.foldl Startup.addFile r).links = r.links := by
  induction files generalizing r with
  | nil => rfl
  | cons file rest ih => exact ih (Startup.addFile r file)

theorem links_of_start (h : (Startup.ofConfig config host answers).outcome = .ok r) :
    r.links = (config.instrument.links config.timing).map (.start config.timing) := by
  unfold Startup.ofConfig at h
  split at h
  · cases h
  · split at h
    · cases h
    · dsimp only at h
      split at h
      · cases h
      · cases h
        rw [Startup.relay, links_addFiles]

/-- No link comes or goes. -/
theorem exists_link_before (h : Reached config r) (hstep : r.step e = some r')
    (hl' : r'.links[index]? = some l') : ∃ l, r.links[index]? = some l := by
  have hlength : r.links.length = r'.links.length := by
    have hafter := (h.changes (changes_of_step hstep)).wired.links_eq
    have hsame := congrArg List.length (h.wired.links_eq.trans hafter.symm)
    rwa [List.length_map, List.length_map] at hsame
  refine ⟨_, List.getElem?_eq_getElem ?_⟩
  rw [hlength]
  exact (List.getElem?_eq_some_iff.1 hl').1

end Start

end Relay

end InstrumentRelay
