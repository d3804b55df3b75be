import Mathlib.Data.List.Nodup
import InstrumentRelay.Proofs.Relay.Errands
import InstrumentRelay.Proofs.Relay.Registration

/-!
# One auxiliary link at a time

Where the auxiliary link is opened on demand, whoever needs it opens it under a lock, and only if
the link that was opened last has ended. The lock is let go when the new link is registered or is
known not to come, and also when the time is up. In that last case the connection may have been made
already, and nobody takes it back: it goes on by itself and is registered later, although the relay
does not count on it any more. `Relay.abandons` says which links are given up in this way.

All others are accounted for. An auxiliary link that is open has been given up, or it is the one
that was opened last, or the one that is being opened (`Attached.known`), and of the last two there
is only one that is open. So among the auxiliary links that have not been given up the router never
has more than one (`auxiliary_alone`).
-/

namespace InstrumentRelay

/-- The link that has been made for this errand and is waited for. -/
def Errand.made : Errand → Option ConnectionId
  | opening _ _ made => made
  | _ => none

/-- The link that this connection has made and waits for. -/
def Running.made (c : Running) : Option ConnectionId := c.errand.bind Errand.made

theorem Running.made_of_errand {c : Running} {errand : Errand} (h : c.errand = some errand) :
    c.made = errand.made := by
  rw [made, h, Option.bind_some]

theorem Running.isOpening_of_made {c : Running} {id : ConnectionId} (h : c.made = some id) :
    c.isOpening = true := by
  obtain ⟨errand, herrand, hmade⟩ := Option.bind_eq_some_iff.1 h
  rw [isOpening_of_errand herrand]
  cases errand with
  | opening request deadline made => rfl
  | _ => cases hmade

namespace Relay

/-! ## Links that are given up -/

/-- The links that have been made and are waited for no longer after this event. -/
def abandons (r : Relay) : RelayEvent → List ConnectionId
  | .connection id .timesOut => ((r.connection? id).bind Running.made).toList
  | _ => []

/-- The links that are given up in the course of these events. -/
def abandonedOver (r : Relay) : List RelayEvent → List ConnectionId
  | [] => []
  | e :: rest =>
    match r.step e with
    | none => []
    | some r' => r.abandons e ++ r'.abandonedOver rest

variable {config : Config} {r r' : Relay} {e : RelayEvent} {given : List ConnectionId}

theorem abandonedOver_concat {events : List RelayEvent} (h : r.run events = some r')
    {last : Relay} (hlast : r'.step e = some last) :
    r.abandonedOver (events ++ [e]) = r.abandonedOver events ++ r'.abandons e := by
  induction events generalizing r with
  | nil =>
    cases h
    simp only [List.nil_append, abandonedOver, hlast, List.append_nil]
  | cons first rest ih =>
    obtain ⟨mid, hstep, hrest⟩ := run_cons_eq_some_iff.1 h
    simp only [List.cons_append, abandonedOver, hstep, ih hrest, List.append_assoc]

/-- The relay counts on this link: it was opened last, or someone has made it and waits for it. -/
def ReliesOn (r : Relay) (id : ConnectionId) : Prop :=
  r.aux.current = some id ∨ ∃ c, r.connection? c.id = some c ∧ c.made = some id

/-! ## What a deed does about the auxiliary link -/

/-- What becomes of the auxiliary link, and of the one that a connection waits for, when the
connection does something. -/
inductive AuxDeed (r : Relay) (e : RelayEvent) (c : Running) : AuxLink → Running → Prop
  /-- Whoever opens one does it because there is none that is open. -/
  | keeps {aux : AuxLink} {c' : Running} (hcurrent : aux.current = r.aux.current)
    (hmade : c'.made = c.made)
    (hholder : aux.holder ≠ none → r.aux.holder ≠ none ∨
      ∀ link, r.aux.current.bind r.connection? = some link → link.isOpen = false) :
    AuxDeed r e c aux c'
  /-- The link that has been made is registered. -/
  | gets {aux : AuxLink} {c' : Running} {made : ConnectionId} {link : Running}
    (haux : aux = { current := some made, holder := none }) (hmade : c.made = some made)
    (hlink : r.connection? made = some link) (hbegun : link.hasBegun = true)
    (hmade' : c'.made = none) : AuxDeed r e c aux c'
  /-- The link that has been made has ended, or is given up. -/
  | fails {aux : AuxLink} {c' : Running} (haux : aux = { r.aux with holder := none })
    (hmade : ∀ id, c.made = some id → id ∈ r.abandons e ∨
      ∀ d, r.connection? id = some d → d.isOpen = false) (hmade' : c'.made = none) :
    AuxDeed r e c aux c'

theorem Deed.auxDeed {c c' : Running} {messages : List RouterMessage}
    {notices : List MonitorLetter} {aux : AuxLink} (h : r.Deed e c messages notices aux c')
    (hc : r.connection? c.id = some c) (hbusy : c.errand ≠ none → c.phase = .running) :
    r.AuxDeed e c aux c' := by
  have hsame {c' : Running} (hmade : c'.made = c.made) : r.AuxDeed e c r.aux c' :=
    .keeps rfl hmade .inl
  cases h with
  | takesLine hfree hitem hstarts =>
    have hidle : c.errand = none := (of_decide_eq_true hfree).2
    refine hsame ?_
    rw [Running.made, Running.made, hidle]
    cases hstarts <;> rfl
  | turns herrand hturn =>
    have hmade := Running.made_of_errand herrand
    cases hturn with
    | told request => exact hsame hmade.symm
    | reuses request hfree hlink hopen => exact .keeps rfl hmade.symm fun h ↦ absurd rfl h
    | opens request deadline hfree hlink => exact .keeps rfl hmade.symm fun _ ↦ .inr hlink
    | gets request deadline hlink hbegun => exact .gets rfl hmade hlink hbegun rfl
    | fails request deadline made error hcause =>
      refine .fails rfl (fun id hid ↦ ?_) rfl
      rw [hmade] at hid
      refine (hcause id hid).imp_left ?_
      rintro rfl
      rw [abandons, hc, Option.bind_some, hmade]
      exact Option.mem_toList.2 hid
  | answers due hphase herrand => exact hsame (Running.made_of_errand herrand).symm
  | ends said hopen hsaid hcause =>
    refine hsame ?_
    -- Whoever waits for a link does not end.
    rcases idle_or_answering hbusy hcause with hidle | ⟨n, reply, -, herrand⟩
    · rw [Running.made, Running.made, hidle]
    · exact (Running.made_of_errand herrand).symm
  | _ => exact hsame rfl

/-! ## What is relied on -/

/-- The auxiliary links that are open are accounted for. -/
structure Attached (config : Config) (given : List ConnectionId) (r : Relay) : Prop where
  /-- The waits of busy connections have their reasons. -/
  orderly : r.Orderly config
  /-- Whom the relay itself registers is no auxiliary link. -/
  files : ∀ letter ∈ r.mail.posted, letter.sender = none → ∀ d, letter.message.subject = some d →
    d.endpoint ≠ .auxiliary
  /-- A link that is waited for is there. -/
  made : ∀ c id, r.connection? c.id = some c → c.made = some id →
    ∃ d, r.connection? id = some d ∧ d.spec.endpoint = .auxiliary
  /-- The link that was opened last is there and has been registered. -/
  current : ∀ id, r.aux.current = some id →
    ∃ d, r.connection? id = some d ∧ d.spec.endpoint = .auxiliary ∧ d.hasBegun = true
  /-- While a link is being opened, the one that was opened last has ended. -/
  closed : r.aux.holder ≠ none → ∀ link, r.aux.current.bind r.connection? = some link →
    link.isOpen = false
  /-- A link that is open has been given up or is relied on. -/
  known : ∀ id d, r.connection? id = some d → d.spec.endpoint = .auxiliary → d.isOpen = true →
    id ∈ given ∨ r.ReliesOn id

theorem Deed.eq_nil_or_singleton {c c' : Running} {messages : List RouterMessage}
    {notices : List MonitorLetter} {aux : AuxLink} (h : r.Deed e c messages notices aux c') :
    messages = [] ∨ ∃ m, messages = [m] := by
  cases h with
  | ends said hopen hsaid hcause =>
    split
    · exact .inr ⟨_, rfl⟩
    · exact .inl rfl
  | _ => simp

/-- Messages that are posted together are not about any connection, unless there is only one, and
that is from a connection. -/
theorem Move.exists_letters (h : r.Move e r') :
    ∃ letters, r'.mail.posted = r.mail.posted ++ letters ∧
      ((∀ letter ∈ letters, letter.message.subject = none) ∨
        ∃ letter, letters = [letter] ∧ letter.sender ≠ none) := by
  cases h with
  | aside hframe hletters => exact ⟨_, hframe.posted, .inl fun l hl ↦ (hletters l hl).2⟩
  | comes hframe => exact ⟨[], hframe.posted, .inl (by simp)⟩
  | reaches hc herrand hframe => exact ⟨[], hframe.posted, .inl (by simp)⟩
  | @acts c c' messages notices hc hdeed hframe hconnections =>
    refine ⟨_, hframe.posted, ?_⟩
    rcases hdeed.eq_nil_or_singleton with rfl | ⟨m, rfl⟩
    · exact .inl (by simp)
    · exact .inr ⟨_, rfl, by simp⟩

namespace Attached

theorem holder_eq (h : r.Attached config given) {c : Running} {made : ConnectionId}
    (hc : r.connection? c.id = some c) (hmade : c.made = some made) :
    r.aux.holder = some c.id :=
  (h.orderly.holder_iff c.id).2 ⟨c, hc, Running.isOpening_of_made hmade⟩

/-- Where someone waits for a link, the one that was opened last has ended. -/
theorem closed_of_made (h : r.Attached config given) {c : Running} {id made : ConnectionId}
    (hc : r.connection? c.id = some c) (hmade : c.made = some made)
    (hcurrent : r.aux.current = some id) : ∃ d, r.connection? id = some d ∧ d.isOpen = false := by
  obtain ⟨d, hd, -⟩ := h.current id hcurrent
  refine ⟨d, hd, h.closed ?_ d ?_⟩
  · simp [h.holder_eq hc hmade]
  · rw [hcurrent, Option.bind_some, hd]

/-- **There is only one link that is open and relied on.** -/
theorem eq_of_reliesOn (h : r.Attached config given) {c d : Running}
    (hc : r.connection? c.id = some c) (hd : r.connection? d.id = some d)
    (hcopen : c.isOpen = true) (hdopen : d.isOpen = true) (hcrelied : r.ReliesOn c.id)
    (hdrelied : r.ReliesOn d.id) : c.id = d.id := by
  have hnever {link waits : Running} {made : ConnectionId}
      (hlink : r.connection? link.id = some link) (hopen : link.isOpen = true)
      (hcurrent : r.aux.current = some link.id) (hwaits : r.connection? waits.id = some waits)
      (hmade : waits.made = some made) : c.id = d.id := by
    obtain ⟨other, hother, hclosed⟩ := h.closed_of_made hwaits hmade hcurrent
    rw [← Option.some.inj (hlink.symm.trans hother), hopen] at hclosed
    cases hclosed
  rcases hcrelied with hccurrent | ⟨waits, hwaits, hmade⟩ <;>
    rcases hdrelied with hdcurrent | ⟨waits', hwaits', hmade'⟩
  · exact Option.some.inj (hccurrent.symm.trans hdcurrent)
  · exact hnever hc hcopen hccurrent hwaits' hmade'
  · exact hnever hd hdopen hdcurrent hwaits hmade
  · -- Both wait under the same lock.
    have hself : waits.id = waits'.id :=
      Option.some.inj ((h.holder_eq hwaits hmade).symm.trans (h.holder_eq hwaits' hmade'))
    rw [hself, hwaits'] at hwaits
    rw [← Option.some.inj hwaits, hmade'] at hmade
    exact (Option.some.inj hmade).symm

/-- A connection that does something drops a link that is relied on only if it gives that up. -/
theorem reliesOn_of_deed (h : r.Attached config given) {d d' : Running}
    {messages : List RouterMessage} {notices : List MonitorLetter}
    (hd : r.connection? d.id = some d) (hdeed : r.Deed e d messages notices r'.aux d')
    (hconnections : r'.connections = (r.update d').connections) {c : Running}
    (hc : r.connection? c.id = some c) (hopen : c.isOpen = true) (hrelied : r.ReliesOn c.id) :
    r'.ReliesOn c.id ∨ c.id ∈ r.abandons e := by
  have hlost {p : Prop} (hclosed : ∃ d, r.connection? c.id = some d ∧ d.isOpen = false) : p := by
    obtain ⟨d, hd, hclosed⟩ := hclosed
    rw [← Option.some.inj (hc.symm.trans hd), hopen] at hclosed
    cases hclosed
  have hview := connection?_of_deed hd hdeed hconnections
  -- Whoever waits for the link and does nothing goes on waiting.
  have hwaiting : r.aux.current = some c.id ∨ d.made = some c.id ∨ r'.ReliesOn c.id := by
    refine hrelied.imp_right ?_
    rintro ⟨waits, hwaits, hmade⟩
    by_cases hself : waits.id = d.id
    · rw [hself, hd] at hwaits
      rw [← Option.some.inj hwaits] at hmade
      exact .inl hmade
    · exact .inr (.inr ⟨waits, by rw [hview, if_neg hself, hwaits], hmade⟩)
  cases hdeed.auxDeed hd (h.orderly.running d.id d hd) with
  | keeps hcurrent hmade hholder =>
    refine .inl ?_
    rcases hwaiting with hnow | hwaits | hstill
    · exact .inl (hcurrent.trans hnow)
    · refine .inr ⟨d', ?_, hmade.trans hwaits⟩
      rw [hview, hdeed.act.same.1, if_pos rfl]
    · exact hstill
  | gets haux hmade hlink hbegun hmade' =>
    rcases hwaiting with hnow | hwaits | hstill
    · exact hlost (h.closed_of_made hd hmade hnow)
    · refine .inl (.inl ?_)
      rw [haux, ← hmade, hwaits]
    · exact .inl hstill
  | fails haux hmade hmade' =>
    rcases hwaiting with hnow | hwaits | hstill
    · refine .inl (.inl ?_)
      rw [haux, hnow]
    · exact (hmade c.id hwaits).symm.imp_left fun hclosed ↦ hlost ⟨c, hc, hclosed c hc⟩
    · exact .inl hstill

/-- A link that is relied on stays so until it has ended or is given up. -/
theorem reliesOn (h : r.Attached config given) (hmove : r.Move e r') {c : Running}
    (hc : r.connection? c.id = some c) (hopen : c.isOpen = true) (hrelied : r.ReliesOn c.id) :
    r'.ReliesOn c.id ∨ c.id ∈ r.abandons e := by
  cases hmove with
  | aside hframe hletters hconnections haux =>
    rw [ReliesOn, haux, connection?_congr hconnections]
    exact .inl hrelied
  | comes hframe hspec hconnections haux =>
    refine .inl ?_
    rw [ReliesOn, haux, connection?_congr hconnections]
    refine hrelied.imp_right ?_
    rintro ⟨waits, hwaits, hmade⟩
    exact ⟨waits, connection?_create_of_some hwaits _, hmade⟩
  | acts hd hdeed hframe hconnections =>
    exact h.reliesOn_of_deed hd hdeed hconnections hc hopen hrelied
  | @reaches d request deadline hd herrand hframe hconnections haux =>
    have hview := connection?_of_reaches h.orderly.reached.ledger hd (by rfl) hconnections
    refine .inl ?_
    rw [ReliesOn, haux]
    refine hrelied.imp_right ?_
    rintro ⟨waits, hwaits, hmade⟩
    have hother : waits.id ≠ d.id := by
      intro hself
      rw [hself, hd] at hwaits
      rw [← Option.some.inj hwaits, Running.made_of_errand herrand] at hmade
      cases hmade
    refine ⟨waits, ?_, hmade⟩
    rw [hview, if_neg hother]
    split
    case isTrue hnew =>
      have hnone := h.orderly.reached.ledger.connection?_next
      rw [← hnew, hwaits] at hnone
      cases hnone
    case isFalse => exact hwaits

/-- What becomes of the link that was opened last. -/
theorem current_of_move (h : r.Attached config given) (hmove : r.Move e r') :
    (r'.aux.current = r.aux.current ∧ (r'.aux.holder ≠ none →
      ∀ link, r.aux.current.bind r.connection? = some link → link.isOpen = false)) ∨
    ∃ id link, r'.aux = { current := some id, holder := none } ∧ r.connection? id = some link ∧
      link.spec.endpoint = .auxiliary ∧ link.hasBegun = true := by
  have hsame (haux : r'.aux = r.aux) : r'.aux.current = r.aux.current ∧ (r'.aux.holder ≠ none →
      ∀ link, r.aux.current.bind r.connection? = some link → link.isOpen = false) := by
    rw [haux]
    exact ⟨rfl, h.closed⟩
  cases hmove with
  | aside hframe hletters hconnections haux => exact .inl (hsame haux)
  | comes hframe hspec hconnections haux => exact .inl (hsame haux)
  | reaches hc herrand hframe hconnections haux => exact .inl (hsame haux)
  | @acts c c' messages notices hc hdeed hframe hconnections =>
    cases hdeed.auxDeed hc (h.orderly.running c.id c hc) with
    | keeps hcurrent hmade hholder =>
      exact .inl ⟨hcurrent, fun hholds ↦ (hholder hholds).elim h.closed id⟩
    | gets haux hmade hlink hbegun hmade' =>
      obtain ⟨d, hd, hendpoint⟩ := h.made c _ hc hmade
      rw [hlink] at hd
      obtain rfl := Option.some.inj hd
      exact .inr ⟨_, _, haux, hlink, hendpoint, hbegun⟩
    | fails haux hmade hmade' =>
      rw [haux]
      exact .inl ⟨rfl, fun hholds ↦ absurd rfl hholds⟩

/-- A new auxiliary link is waited for. -/
theorem reliesOn_of_new (h : r.Attached config given) {address : String} {port auxPort : UInt16}
    (hdemand : config.instrument = .rsn address port auxPort .onDemand) (hmove : r.Move e r')
    {id : ConnectionId} {d : Running} (hnone : r.connection? id = none)
    (hd : r'.connection? id = some d) (hendpoint : d.spec.endpoint = .auxiliary) :
    r'.ReliesOn id := by
  cases hmove with
  | aside hframe hletters hconnections haux =>
    rw [connection?_congr hconnections, hnone] at hd
    cases hd
  | @comes spec hframe hspec hconnections haux =>
    -- No server and no other link is auxiliary.
    rw [connection?_congr hconnections, connection?_create, hnone, Option.none_or] at hd
    obtain ⟨-, hnew⟩ := Option.ite_none_right_eq_some.1 hd
    rw [← Option.some.inj hnew] at hendpoint
    rcases hspec with ⟨server, rfl⟩ | ⟨l, hl, rfl⟩
    · cases server <;> cases hendpoint
    · have hlink : l.link ∈ config.instrument.links config.timing := by
        rw [← h.orderly.reached.wired.links_eq]
        exact List.mem_map_of_mem hl
      rw [hdemand, Instrument.links, List.mem_singleton] at hlink
      rw [hlink] at hendpoint
      cases hendpoint
  | @acts c c' messages notices hc hdeed hframe hconnections =>
    rw [connection?_of_deed hc hdeed hconnections] at hd
    split at hd
    case isTrue hid =>
      rw [hid, hc] at hnone
      cases hnone
    case isFalse => cases hnone.symm.trans hd
  | @reaches c request deadline hc herrand hframe hconnections haux =>
    have hview := connection?_of_reaches h.orderly.reached.ledger hc (by rfl) hconnections
    rw [hview] at hd
    split at hd
    case isTrue hid =>
      rw [hid, hc] at hnone
      cases hnone
    case isFalse =>
      split at hd
      case isTrue hid =>
        refine .inr ⟨{ c with errand := some (.opening request deadline (some ⟨r.identities⟩)) }, ?_,
          by rw [hid]; rfl⟩
        rw [hview, if_pos rfl]
      case isFalse => cases hnone.symm.trans hd

/-! ### What one step preserves -/

theorem files_of_move (h : r.Attached config given) (hmove : r.Move e r') {letter : Letter}
    (hletter : letter ∈ r'.mail.posted) (hsender : letter.sender = none) {d : Connection}
    (hsubject : letter.message.subject = some d) : d.endpoint ≠ .auxiliary := by
  obtain ⟨letters, hposted, hletters⟩ := hmove.exists_letters
  rw [hposted] at hletter
  rcases List.mem_append.1 hletter with hold | hnew
  · exact h.files letter hold hsender d hsubject
  · rcases hletters with hnone | ⟨other, rfl, hother⟩
    · rw [hnone letter hnew] at hsubject
      cases hsubject
    · rw [List.mem_singleton.1 hnew] at hsender
      exact absurd hsender hother

theorem made_of_step (h : r.Attached config given) (hstep : r.step e = some r') {c' : Running}
    {id : ConnectionId} (hc' : r'.connection? c'.id = some c') (hmade : c'.made = some id) :
    ∃ d, r'.connection? id = some d ∧ d.spec.endpoint = .auxiliary := by
  have hlink {c : Running} (hc : r.connection? c.id = some c) (hmade : c.made = some id) :
      ∃ d, r'.connection? id = some d ∧ d.spec.endpoint = .auxiliary := by
    obtain ⟨d, hd, hendpoint⟩ := h.made c id hc hmade
    obtain ⟨d', hd', hkept⟩ := (changes_of_step hstep).kept hd
    exact ⟨d', hd', by rw [hkept.spec_eq, hendpoint]⟩
  rcases (move_of_step hstep).was h.orderly.reached.ledger hc' with ⟨hc, -⟩ | ⟨spec, -, hnew, -⟩ |
    ⟨hid, hc, -, hdeed, -⟩ | ⟨-, hc, -, hreached, -, hnew⟩
  · exact hlink hc hmade
  · rw [hnew] at hmade
    cases hmade
  · rw [← hid] at hc
    cases hdeed.auxDeed hc (h.orderly.running _ _ hc) with
    | keeps hcurrent hsame hholder => exact hlink hc (hsame ▸ hmade)
    | gets haux hbefore hlink hbegun hafter => cases hafter.symm.trans hmade
    | fails haux hbefore hafter => cases hafter.symm.trans hmade
  · rw [hreached] at hmade
    obtain rfl := Option.some.inj hmade
    exact ⟨_, hnew, rfl⟩

theorem current_of_step (h : r.Attached config given) (hstep : r.step e = some r')
    {id : ConnectionId} (hcurrent : r'.aux.current = some id) :
    ∃ d, r'.connection? id = some d ∧ d.spec.endpoint = .auxiliary ∧ d.hasBegun = true := by
  have hlink {d : Running} (hd : r.connection? id = some d)
      (hendpoint : d.spec.endpoint = .auxiliary) (hbegun : d.hasBegun = true) :
      ∃ d', r'.connection? id = some d' ∧ d'.spec.endpoint = .auxiliary ∧ d'.hasBegun = true := by
    obtain ⟨d', hd', hkept⟩ := (changes_of_step hstep).kept hd
    exact ⟨d', hd', by rw [hkept.spec_eq, hendpoint], hkept.begun hbegun⟩
  rcases h.current_of_move (move_of_step hstep) with
    ⟨hsame, -⟩ | ⟨made, link, haux, hmade, hendpoint, hbegun⟩
  · obtain ⟨d, hd, hendpoint, hbegun⟩ := h.current id (hsame ▸ hcurrent)
    exact hlink hd hendpoint hbegun
  · rw [haux] at hcurrent
    obtain rfl := Option.some.inj hcurrent
    exact hlink hmade hendpoint hbegun

theorem closed_of_step (h : r.Attached config given) (hstep : r.step e = some r')
    (hholds : r'.aux.holder ≠ none) {link : Running}
    (hlink : r'.aux.current.bind r'.connection? = some link) : link.isOpen = false := by
  rcases h.current_of_move (move_of_step hstep) with ⟨hsame, hclosed⟩ | ⟨made, link, haux, -⟩
  · obtain ⟨id, hcurrent, hnow⟩ := Option.bind_eq_some_iff.1 hlink
    rw [hsame] at hcurrent
    obtain ⟨d, hd, -⟩ := h.current id hcurrent
    obtain ⟨d', hd', hkept⟩ := (changes_of_step hstep).kept hd
    obtain rfl := Option.some.inj (hnow.symm.trans hd')
    refine hkept.closed (hclosed hholds d ?_)
    rw [hcurrent, Option.bind_some, hd]
  · rw [haux] at hholds
    exact absurd rfl hholds

theorem known_of_step (h : r.Attached config given) {address : String} {port auxPort : UInt16}
    (hdemand : config.instrument = .rsn address port auxPort .onDemand)
    (hstep : r.step e = some r') {id : ConnectionId} {d' : Running}
    (hd' : r'.connection? id = some d') (hendpoint : d'.spec.endpoint = .auxiliary)
    (hopen : d'.isOpen = true) : id ∈ given ++ r.abandons e ∨ r'.ReliesOn id := by
  have hmove := move_of_step hstep
  rw [List.mem_append]
  rcases hd : r.connection? id with _ | d
  · exact .inr (h.reliesOn_of_new hdemand hmove hd hd' hendpoint)
  · obtain ⟨other, hother, hkept⟩ := (changes_of_step hstep).kept hd
    obtain rfl := Option.some.inj (hd'.symm.trans hother)
    have hwas : d.isOpen = true := by
      refine Bool.of_not_eq_false fun hclosed ↦ ?_
      rw [hkept.closed hclosed] at hopen
      cases hopen
    rcases h.known id d hd (hkept.spec_eq ▸ hendpoint) hwas with hgiven | hrelied
    · exact .inl (.inl hgiven)
    · obtain rfl := id_of_connection? hd
      exact (h.reliesOn hmove hd hwas hrelied).symm.imp_left .inr

theorem step (h : r.Attached config given) {address : String} {port auxPort : UInt16}
    (hdemand : config.instrument = .rsn address port auxPort .onDemand)
    (hstep : r.step e = some r') : r'.Attached config (given ++ r.abandons e) where
  orderly := h.orderly.step hstep
  files _ hletter hsender _ hsubject := h.files_of_move (move_of_step hstep) hletter hsender hsubject
  made _ _ hc' hmade := h.made_of_step hstep hc' hmade
  current _ hcurrent := h.current_of_step hstep hcurrent
  closed hholds _ hlink := h.closed_of_step hstep hholds hlink
  known _ _ hd' hendpoint hopen := h.known_of_step hdemand hstep hd' hendpoint hopen

end Attached

/-! ## From the start -/

/-- The log files are what they are asked to be. -/
theorem endpoint_of_openAll {host : Host} {folder : String} {forms : List (Endpoint × String)}
    {files : List (Endpoint × LogFile)} (h : Startup.openAll host config folder forms = .ok files)
    {file : Endpoint × LogFile} (hfile : file ∈ files) : file.1 ∈ forms.map Prod.fst := by
  induction forms generalizing files with
  | nil =>
    cases h
    cases hfile
  | cons form rest ih =>
    simp only [Startup.openAll] at h
    split at h
    · cases h
    · rcases hothers : Startup.openAll host config folder rest with problem | others
      · rw [hothers] at h
        cases h
      · rw [hothers] at h
        cases h
        rcases List.mem_cons.1 hfile with rfl | hrest
        · exact List.mem_cons_self
        · exact List.mem_cons_of_mem _ (ih hothers hrest)

theorem posted_of_addFiles {files : List (Endpoint × LogFile)} {letter : Letter}
    (h : letter ∈ (files.foldl Startup.addFile r).mail.posted) :
    letter ∈ r.mail.posted ∨ ∃ file ∈ files, ∃ id, letter.message = .register ⟨id, file.1⟩ := by
  induction files generalizing r with
  | nil => exact .inl h
  | cons file rest ih =>
    rcases ih h with hhere | ⟨other, hother, hlater⟩
    · rcases List.mem_append.1 hhere with hold | hnew
      · exact .inl hold
      · refine .inr ⟨file, List.mem_cons_self, ⟨r.identities⟩, ?_⟩
        rw [List.mem_singleton.1 hnew]
    · exact .inr ⟨other, List.mem_cons_of_mem _ hother, hlater⟩

theorem endpoint_of_openLogs {host : Host} {files : List (Endpoint × LogFile)}
    (h : Startup.openLogs host config = .ok files) {file : Endpoint × LogFile}
    (hfile : file ∈ files) : file.1 ≠ .auxiliary := by
  rw [Startup.openLogs] at h
  split at h
  · cases h
    cases hfile
  · split at h
    · cases h
    · have hform := endpoint_of_openAll h hfile
      rintro heq
      rw [heq] at hform
      simp [Startup.logForms] at hform

/-- At the start, log files are registered and nobody else. -/
theorem endpoint_of_start {host : Host} {answers : List Bool}
    (hstart : (Startup.ofConfig config host answers).outcome = .ok r) {letter : Letter}
    (hletter : letter ∈ r.mail.posted) {d : Connection} (hd : letter.message.subject = some d) :
    d.endpoint ≠ .auxiliary := by
  obtain ⟨fresh, files, -, hmail, hfiles, rfl⟩ := exists_fresh_of_start hstart
  rcases posted_of_addFiles hletter with hold | ⟨file, hfile, id, hregister⟩
  · rw [hmail] at hold
    cases hold
  · rw [hregister] at hd
    rw [← Option.some.inj hd]
    exact endpoint_of_openLogs hfiles hfile

theorem attached_of_start {host : Host} {answers : List Bool}
    (hstart : (Startup.ofConfig config host answers).outcome = .ok r) : r.Attached config [] := by
  have hstarted := started_of_start hstart
  refine ⟨orderly_of_start hstart, fun letter hletter _ d ↦ endpoint_of_start hstart hletter,
    ?_, ?_, ?_, ?_⟩
  all_goals simp [connection?, hstarted.connections_eq, hstarted.aux_eq]

/-! ## Who is registered -/

/-- These messages leave no two auxiliary links registered that have not been given up. -/
def OneRegistered (given : List ConnectionId) (messages : List RouterMessage) : Prop :=
  ∀ c d : Connection, c.endpoint = .auxiliary → d.endpoint = .auxiliary → c.id ∉ given →
    d.id ∉ given → messages.foldl c.told false = true → messages.foldl d.told false = true → c = d

theorem OneRegistered.mono {given given' : List ConnectionId} {messages : List RouterMessage}
    (h : OneRegistered given messages) (hsub : given ⊆ given') : OneRegistered given' messages :=
  fun c d hc hd hcgiven hdgiven ↦
    h c d hc hd (fun hmem ↦ hcgiven (hsub hmem)) (fun hmem ↦ hdgiven (hsub hmem))

/-- An auxiliary link that the letters there are leave registered is one that runs. -/
theorem Attached.running_of_told (h : r.Attached config given) {c : Connection}
    (hendpoint : c.endpoint = .auxiliary) (htold : r.messages.foldl c.told false = true) :
    ∃ link, r.connection? link.id = some link ∧ link.connection = c ∧ link.phase = .running := by
  obtain ⟨letter, hletter, hmessage⟩ := List.mem_map.1 (Connection.register_of_told htold)
  have hsubject : letter.message.subject = some c := by
    rw [hmessage]
    rfl
  rcases h.orderly.reached.ledger.subjects letter hletter c hsubject with
    ⟨-, link, hlink, rfl⟩ | ⟨hsender, -⟩
  · exact ⟨link, hlink, rfl, (h.orderly.reached.told_iff hlink).1 htold⟩
  · exact absurd hendpoint (h.files letter hletter hsender c hsubject)

/-- The letters there are leave one auxiliary link registered, apart from those that have been given
up. -/
theorem Attached.oneRegistered (h : r.Attached config given) : OneRegistered given r.messages := by
  have hrelied {c : Connection} (hendpoint : c.endpoint = .auxiliary) (hgiven : c.id ∉ given)
      (htold : r.messages.foldl c.told false = true) :
      ∃ link, r.connection? link.id = some link ∧ link.connection = c ∧ link.isOpen = true ∧
        r.ReliesOn link.id := by
    obtain ⟨link, hlink, rfl, hphase⟩ := h.running_of_told hendpoint htold
    have hopen : link.isOpen = true := by rw [Running.isOpen, hphase]
    exact ⟨link, hlink, rfl, hopen, (h.known _ _ hlink hendpoint hopen).resolve_left hgiven⟩
  intro c d hcendpoint hdendpoint hcgiven hdgiven hctold hdtold
  obtain ⟨link, hlink, rfl, hopen, hon⟩ := hrelied hcendpoint hcgiven hctold
  obtain ⟨other, hother, rfl, hopen', hon'⟩ := hrelied hdendpoint hdgiven hdtold
  have hid := h.eq_of_reliesOn hlink hother hopen hopen' hon hon'
  rw [hid, hother] at hlink
  rw [Option.some.inj hlink]

/-- Where one more message is posted, or others that are about no connection, there is nothing to
see but what there was before and what there is in the end. -/
theorem oneRegistered_take {messages new : List RouterMessage}
    (h : ∀ n, OneRegistered given (messages.take n)) (hall : OneRegistered given (messages ++ new))
    (hnew : (∀ m ∈ new, m.subject = none) ∨ ∃ m, new = [m]) (n : Nat) :
    OneRegistered given ((messages ++ new).take n) := by
  by_cases hn : n ≤ messages.length
  · rw [List.take_append_of_le_length hn]
    exact h n
  · rcases hnew with hnone | ⟨m, rfl⟩
    · have hold (c : Connection) : ((messages ++ new).take n).foldl c.told false
          = (messages.take n).foldl c.told false := by
        rw [List.take_append, List.foldl_append]
        exact Connection.foldl_told_of_none (fun m hm ↦ hnone m (List.mem_of_mem_take hm)) _
      intro c d
      rw [hold c, hold d]
      exact h n c d
    · rwa [List.take_of_length_le]
      rw [List.length_append, List.length_singleton]
      omega

/-- **After every run, the auxiliary links are accounted for, and however far the router has got,
there is one at a time.** -/
theorem attached_of_run {host : Host} {answers : List Bool} {r₀ : Relay} {events : List RelayEvent}
    (hstart : (Startup.ofConfig config host answers).outcome = .ok r₀) {address : String}
    {port auxPort : UInt16} (hdemand : config.instrument = .rsn address port auxPort .onDemand)
    (hrun : r₀.run events = some r) :
    r.Attached config (r₀.abandonedOver events) ∧
      ∀ n, OneRegistered (r₀.abandonedOver events) (r.messages.take n) := by
  refine keeps_run hstart (P := fun events r ↦ r.Attached config (r₀.abandonedOver events) ∧
    ∀ n, OneRegistered (r₀.abandonedOver events) (r.messages.take n)) ?_ ?_ hrun
  · refine ⟨attached_of_start hstart, fun n c d hendpoint _ _ _ htold ↦ ?_⟩
    -- Only log files are registered.
    have hregister := List.mem_of_mem_take (Connection.register_of_told htold)
    obtain ⟨letter, hletter, hmessage⟩ := List.mem_map.1 hregister
    exact absurd hendpoint (endpoint_of_start hstart hletter (by rw [hmessage]; rfl))
  · rintro events e r r' hreached hrun hstep ⟨hattached, hone⟩
    rw [abandonedOver_concat hrun hstep]
    have hnow := hattached.step hdemand hstep
    obtain ⟨letters, hposted, hletters⟩ := (move_of_step hstep).exists_letters
    have hmessages : r'.messages = r.messages ++ letters.map (·.message) := by
      rw [messages, hposted, List.map_append, messages]
    have hall := hnow.oneRegistered
    rw [hmessages] at hall
    refine ⟨hnow, fun n ↦ ?_⟩
    rw [hmessages]
    refine oneRegistered_take (fun n ↦ (hone n).mono (List.subset_append_left _ _)) hall ?_ n
    rcases hletters with hnone | ⟨letter, rfl, -⟩
    · refine .inl fun m hm ↦ ?_
      obtain ⟨letter, hletter, rfl⟩ := List.mem_map.1 hm
      exact hnone letter hletter
    · exact .inr ⟨letter.message, rfl⟩

/-- What the router takes for registered has been registered by the letters that it has taken. -/
theorem Ledger.told_of_mem (h : r.Ledger) {e : Endpoint} {id : ConnectionId}
    (hid : id ∈ r.exchange.router.members.get e) :
    r.handled.foldl (Connection.told ⟨id, e⟩) false = true := by
  obtain ⟨moves, hreaches, hhandles, -⟩ := h.routed
  rw [← Connection.foldl_standing_of_handles hhandles]
  exact RouterRun.standing_of_mem hreaches (by simp [RouterRun.start, Router.start]) hid

theorem Ledger.nodup_members (h : r.Ledger) (e : Endpoint) :
    (r.exchange.router.members.get e).Nodup := by
  obtain ⟨moves, hreaches, -⟩ := h.routed
  exact RouterRun.nodup_members hreaches (by simp [RouterRun.start, Router.start])

/-- Something is handed to this connection between these two moments. -/
def Hands (r r' : Relay) (c : Running) : Prop :=
  r'.exchange.deliveredTo c.id ≠ r.exchange.deliveredTo c.id

/-- Whoever is handed something by a letter has been registered by those before it. -/
theorem Reached.told_of_hands (h : Reached config r) (hstep : r.step .routes = some r')
    {c : Running} (hc : r.connection? c.id = some c) (hhands : r.Hands r' c) :
    r.handled.foldl c.connection.told false = true := by
  obtain ⟨letter, -, hdelivered⟩ := h.deliveredTo_routes hstep hc
  refine Decidable.byContradiction fun hnot ↦ hhands ?_
  rw [hdelivered, if_neg (fun hboth ↦ hnot hboth.2), List.append_nil]

/-- **There is one auxiliary link at a time, apart from those that have been given up.**

Where the auxiliary link is opened on demand, in whatever order commands come in and links are made,
refused, too late, registered or lost: at every moment the router has at most one auxiliary link
that has not been given up, and whatever letter it takes next goes to at most one such link. In
particular, there is at most one as long as no link has been given up after it had been made. -/
theorem auxiliary_alone {host : Host} {answers : List Bool} {r₀ : Relay} {events : List RelayEvent}
    {address : String} {port auxPort : UInt16}
    (hstart : (Startup.ofConfig config host answers).outcome = .ok r₀)
    (hdemand : config.instrument = .rsn address port auxPort .onDemand)
    (hrun : r₀.run events = some r) :
    ((r.exchange.router.members.get .auxiliary).filter
      (· ∉ r₀.abandonedOver events)).length ≤ 1 ∧
    (r₀.abandonedOver events = [] → (r.exchange.router.members.get .auxiliary).length ≤ 1) ∧
    ∀ r', r.step .routes = some r' → ∀ c d : Running, r.connection? c.id = some c →
      r.connection? d.id = some d → c.spec.endpoint = .auxiliary → d.spec.endpoint = .auxiliary →
      c.id ∉ r₀.abandonedOver events → d.id ∉ r₀.abandonedOver events →
      r.Hands r' c → r.Hands r' d → c = d := by
  obtain ⟨hattached, hone⟩ := attached_of_run hstart hdemand hrun
  have hreached := hattached.orderly.reached
  have hhandled := hone r.mail.taken
  rw [messages, ← List.map_take, ← handled] at hhandled
  have hlength : ((r.exchange.router.members.get .auxiliary).filter
      (· ∉ r₀.abandonedOver events)).length ≤ 1 := by
    have hnodup := (hreached.ledger.nodup_members .auxiliary).filter (· ∉ r₀.abandonedOver events)
    refine Nat.le_of_not_lt fun htwo ↦ ?_
    obtain ⟨hmem, hgiven⟩ := List.mem_filter.1 (List.getElem_mem (Nat.lt_of_succ_lt htwo))
    obtain ⟨hmem', hgiven'⟩ := List.mem_filter.1 (List.getElem_mem htwo)
    have hsame := hhandled _ _ rfl rfl (of_decide_eq_true hgiven) (of_decide_eq_true hgiven')
      (hreached.ledger.told_of_mem hmem) (hreached.ledger.told_of_mem hmem')
    cases (List.Nodup.getElem_inj_iff hnodup).1 (congrArg Connection.id hsame)
  refine ⟨hlength, fun hnone ↦ ?_, ?_⟩
  · rwa [hnone, List.filter_eq_self.2 (by simp)] at hlength
  · intro r' hstep c d hc hd hcendpoint hdendpoint hcgiven hdgiven hchands hdhands
    have hsame := hhandled c.connection d.connection hcendpoint hdendpoint hcgiven hdgiven
      (hreached.told_of_hands hstep hc hchands) (hreached.told_of_hands hstep hd hdhands)
    have hid : c.id = d.id := congrArg Connection.id hsame
    rw [hid, hd] at hc
    exact (Option.some.inj hc).symm

/-- The first link is lost and a second one is opened; only that one is handed the command. -/
theorem auxiliary_alone_of_reopened :
    ∃ (r₀ r r' : Relay) (events : List RelayEvent) (c : Running), r₀.run events = some r ∧
      r₀.abandonedOver events = [] ∧ (r.exchange.router.members.get .auxiliary).length ≤ 1 ∧
      r.step .routes = some r' ∧ r.connection? c.id = some c ∧ r.Hands r' c ∧
      ∀ d : Running, r.connection? d.id = some d → d.spec.endpoint = .auxiliary →
        r.Hands r' d → d = c := by
  let config : Config := { refdes := "X", instrument := .rsn "host" 2101 2102 .onDemand }
  let asks : List RelayEvent := [.connection ⟨0⟩ (.receives (Bytes.ofText "getver\n")),
    .connection ⟨0⟩ .takes, .connection ⟨0⟩ .claims, .connection ⟨0⟩ .reaches]
  let gets : List RelayEvent := [.connection ⟨0⟩ .isReady, .connection ⟨0⟩ .answers]
  let events : List RelayEvent := [.visit .command, .connection ⟨0⟩ .begins] ++ asks
    ++ [.connection ⟨1⟩ .begins] ++ gets ++ [.connection ⟨1⟩ .hangsUp, .connection ⟨1⟩ .takes]
    ++ asks ++ [.connection ⟨2⟩ .begins] ++ gets ++ List.replicate 7 .routes
  have hafter : ((Startup.ofConfig config .willing []).after events).any (fun r ↦
      (r.connection? ⟨2⟩).any fun c ↦ (r.step .routes).any fun r' ↦
        c.spec.endpoint = .auxiliary ∧
          r'.exchange.deliveredTo ⟨2⟩ ≠ r.exchange.deliveredTo ⟨2⟩) = true := by
    decide +kernel
  have hkept : ((Startup.ofConfig config .willing []).outcome.toOption).any
      (fun r₀ ↦ r₀.abandonedOver events = []) = true := by
    decide +kernel
  obtain ⟨r₀, r, hstart, hrun, h⟩ := Startup.exists_of_after hafter
  simp only [Option.any_eq_true, decide_eq_true_eq] at h
  obtain ⟨c, hc, r', hstep, hendpoint, hhands⟩ := h
  have hnone : r₀.abandonedOver events = [] := by
    rw [hstart] at hkept
    exact of_decide_eq_true hkept
  have hid := id_of_connection? hc
  rw [← hid] at hc hhands
  obtain ⟨-, hlength, hsole⟩ := auxiliary_alone hstart rfl hrun
  have hkeeps (id : ConnectionId) : id ∉ r₀.abandonedOver events := by simp [hnone]
  exact ⟨r₀, r, r', events, c, hrun, hnone, hlength hnone, hstep, hc, hhands,
    fun d hd hdendpoint hdhands ↦ hsole r' hstep d c hd hc hdendpoint hendpoint (hkeeps _)
      (hkeeps _) hdhands hhands⟩

/-- Two auxiliary links at once. The time is up just after the first connection has been made, so
the fault is answered and the lock let go, and the first link is registered all the same. The next
command finds no link and opens another one. Then both are handed the command. -/
theorem two_auxiliaries_of_timeout :
    let config : Config := { refdes := "X", instrument := .rsn "host" 2101 2102 .onDemand }
    let command : Bytes := Bytes.ofText "getver\n"
    let asks : List RelayEvent := [.connection ⟨0⟩ (.receives command), .connection ⟨0⟩ .takes,
      .connection ⟨0⟩ .claims]
    let late : List RelayEvent := [.elapse 5000000000 ⟨0⟩, .connection ⟨0⟩ .reaches,
      .connection ⟨0⟩ .timesOut, .connection ⟨1⟩ .begins, .connection ⟨0⟩ .answers]
    let inTime : List RelayEvent := [.connection ⟨0⟩ .reaches, .connection ⟨2⟩ .begins,
      .connection ⟨0⟩ .isReady, .connection ⟨0⟩ .answers]
    let events : List RelayEvent := [.visit .command, .connection ⟨0⟩ .begins] ++ asks ++ late
      ++ asks ++ inTime ++ List.replicate 7 .routes
    ∃ r₀ r, (Startup.ofConfig config .willing []).outcome = .ok r₀ ∧ r₀.run events = some r ∧
      r.exchange.router.members.get .auxiliary = [⟨1⟩, ⟨2⟩] ∧
      r.exchange.deliveredTo ⟨1⟩ = [command] ∧ r.exchange.deliveredTo ⟨2⟩ = [command] := by
  intro config command asks late inTime events
  have hafter : ((Startup.ofConfig config .willing []).after events).any (fun r ↦
      r.exchange.router.members.get .auxiliary = [⟨1⟩, ⟨2⟩] ∧
        r.exchange.deliveredTo ⟨1⟩ = [command] ∧ r.exchange.deliveredTo ⟨2⟩ = [command]) = true := by
    decide +kernel
  obtain ⟨r₀, r, hstart, hrun, h⟩ := Startup.exists_of_after hafter
  exact ⟨r₀, r, hstart, hrun, of_decide_eq_true h⟩

end Relay

end InstrumentRelay
