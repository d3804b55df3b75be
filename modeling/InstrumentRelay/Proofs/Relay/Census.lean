import Mathlib.Data.List.Nodup
import Mathlib.Data.List.Perm.Subperm
import InstrumentRelay.Proofs.Relay.Course
import InstrumentRelay.Proofs.Relay.Deeds

/-!
# Who has come and gone

A connection that comes is announced twice, to the router and to the monitor, and so is one that
goes. The announcements travel in two mailboxes, but the relay also keeps one record of all letters,
in the order in which they are posted. `Relay.signals` is what this record says of one connection,
and `Running.signals` is what should have been said of a connection in its present phase; the two
agree after every run (`signals_eq`). That the router is told before the monitor is a fact about
`Relay.register` and `Relay.close`: `move_register` and `move_close` work out what they post.

The monitor counts the connections to the instrument from its letters alone, and reads them late.
`Census` compares the count with the connections there are: what the letters add up to, read or
not, are the connections that run (`mem_announced`), and after however many of the letters the
count does not exceed the number of links, because a link is let go before it gets its next
connection.
-/

namespace InstrumentRelay

/-! ## Signals -/

/-- Who has come or gone. -/
def Notice.subject : Notice → ConnectionId
  | instrumentUp id => id
  | instrumentDown id => id
  | visitorUp id => id
  | visitorDown id => id

/-- Whether a letter says of a connection that it has come or gone. -/
def Posting.concerns (id : ConnectionId) : Posting → Bool
  | router letter => letter.message.subject.any (·.id = id)
  | monitor (.notice notice) => notice.subject = id
  | monitor (.question _) => false

namespace Running

/-- What is said of a connection when it comes. -/
def comings (c : Running) : List Posting :=
  .router ⟨some c.id, .register c.connection⟩ ::
    (Relay.upNotice c.spec.role c.id).toList.map fun notice ↦ .monitor (.notice notice)

/-- What is said of it when it goes. -/
def goings (c : Running) : List Posting :=
  .router ⟨some c.id, .deregister c.connection⟩ ::
    (Relay.downNotice c.spec.role c.id).toList.map fun notice ↦ .monitor (.notice notice)

/-- What has been said of a connection up to its present phase. -/
def signals (c : Running) : List Posting :=
  match c.phase with
  | .starting => []
  | .running => c.comings
  | .closed false => []
  | .closed true => c.comings ++ c.goings

theorem filter_batch_comings (c : Running) :
    (Relay.batch [⟨some c.id, .register c.connection⟩]
      ((Relay.upNotice c.spec.role c.id).toList.map .notice)).filter (Posting.concerns c.id)
      = c.comings := by
  rw [comings]
  cases c.spec.role <;>
    simp [Relay.batch, Posting.concerns, RouterMessage.subject, connection, Relay.upNotice,
      Notice.subject]

theorem filter_batch_goings (c : Running) :
    (Relay.batch [⟨some c.id, .deregister c.connection⟩]
      ((Relay.downNotice c.spec.role c.id).toList.map .notice)).filter (Posting.concerns c.id)
      = c.goings := by
  rw [goings]
  cases c.spec.role <;>
    simp [Relay.batch, Posting.concerns, RouterMessage.subject, connection, Relay.downNotice,
      Notice.subject]

end Running

namespace Relay

variable {config : Config} {r r' : Relay} {e : RelayEvent}

/-- What has been said of the coming and going of a connection, in the order in which it was
said. -/
def signals (r : Relay) (id : ConnectionId) : List Posting :=
  r.postings.filter (Posting.concerns id)

theorem Frame.signals_eq {letters : List Letter} {notices : List MonitorLetter}
    (h : r.Frame r' letters notices) (id : ConnectionId) :
    r'.signals id = r.signals id ++ (batch letters notices).filter (Posting.concerns id) := by
  rw [signals, h.postings, List.filter_append, signals]

theorem filter_batch_eq_nil {id : ConnectionId} {letters : List Letter}
    {notices : List MonitorLetter}
    (hletters : ∀ letter ∈ letters, ∀ d, letter.message.subject = some d → d.id ≠ id)
    (hnotices : ∀ n, .notice n ∈ notices → n.subject ≠ id) :
    (batch letters notices).filter (Posting.concerns id) = [] := by
  rw [batch, List.filter_append, List.append_eq_nil_iff, List.filter_eq_nil_iff,
    List.filter_eq_nil_iff]
  constructor
  · rintro _ hposting hconcerns
    obtain ⟨letter, hletter, rfl⟩ := List.mem_map.1 hposting
    obtain ⟨d, hd, hid⟩ := (Option.any_eq_true _ _).1 hconcerns
    exact hletters letter hletter d hd (of_decide_eq_true hid)
  · rintro _ hposting hconcerns
    obtain ⟨notice | asker, hnotice, rfl⟩ := List.mem_map.1 hposting
    · exact hnotices notice hnotice (of_decide_eq_true hconcerns)
    · cases hconcerns

namespace Deed

variable {c c' : Running} {messages : List RouterMessage} {notices : List MonitorLetter}
  {aux : AuxLink}

/-- What a connection says of coming and going, it says of itself. -/
theorem subject_eq (h : r.Deed e c messages notices aux c') {n : Notice}
    (hn : .notice n ∈ notices) : n.subject = c.id := by
  cases h with
  | begins due hphase => cases hrole : c.spec.role <;> simp_all [upNotice, Notice.subject]
  | ends said hopen hsaid hcause =>
    cases hrole : c.spec.role <;> simp_all [downNotice, Notice.subject]
  | takesLine hfree hitem hstarts => cases hstarts <;> simp at hn
  | _ => simp at hn

theorem filter_batch_of_ne (h : r.Deed e c messages notices aux c') {id : ConnectionId}
    (hid : id ≠ c.id) :
    (batch (messages.map (⟨some c.id, ·⟩)) notices).filter (Posting.concerns id) = [] := by
  refine filter_batch_eq_nil (fun letter hletter d hd ↦ ?_) fun n hn ↦ ?_
  · obtain ⟨m, hm, rfl⟩ := List.mem_map.1 hletter
    rw [h.act.eq_of_subject hm hd]
    exact hid.symm
  · rw [h.subject_eq hn]
    exact hid.symm

/-- **A connection says of itself what its new phase asks for.** -/
theorem signals_eq (h : r.Deed e c messages notices aux c') :
    c'.signals = c.signals
      ++ (batch (messages.map (⟨some c.id, ·⟩)) notices).filter (Posting.concerns c.id) := by
  -- As long as the phase stays, the deed is no coming and no going.
  have hstays (hphase : c'.phase = c.phase) (hmessages : ∀ m ∈ messages, m.subject = none)
      (hnotices : ∀ n, .notice n ∉ notices) :
      c'.signals = c.signals
        ++ (batch (messages.map (⟨some c.id, ·⟩)) notices).filter (Posting.concerns c.id) := by
    have hnone : (batch (messages.map (⟨some c.id, ·⟩)) notices).filter (Posting.concerns c.id)
        = [] := by
      refine filter_batch_eq_nil (fun letter hletter d hd ↦ ?_) fun n hn ↦ absurd hn (hnotices n)
      obtain ⟨m, hm, rfl⟩ := List.mem_map.1 hletter
      cases (hmessages m hm).symm.trans hd
    have hid := h.act.same
    simp only [hnone, List.append_nil, Running.signals, hphase, Running.comings, Running.goings,
      h.act.connection_eq, hid.1, hid.2]
  cases h with
  | begins due hphase =>
    rw [List.map_singleton, Running.filter_batch_comings]
    simp only [Running.signals, hphase]
    rfl
  | takesLine hfree hitem hstarts =>
    refine hstays rfl (by simp [RouterMessage.subject]) ?_
    cases hstarts <;> simp
  | ends said hopen hsaid hcause =>
    rcases hphase : c.phase with _ | _ | begun
    · simp only [Running.signals, hphase, Running.hasBegun]
      rfl
    · rw [if_pos rfl, if_pos rfl, List.map_singleton, Running.filter_batch_goings]
      simp only [Running.signals, hphase, Running.hasBegun]
      rfl
    · rw [Running.isOpen, hphase] at hopen
      cases hopen
  | _ => exact hstays rfl (by simp [RouterMessage.subject]) (by simp)

end Deed

/-- What should have been said of a connection, if it is there. -/
def record (r : Relay) (id : ConnectionId) : List Posting :=
  (r.connection? id).elim [] Running.signals

/-- What is said in a step is what the phases ask for. -/
theorem Move.exists_said (h : r.Move e r') (hledger : r.Ledger) (id : ConnectionId) :
    ∃ said, r'.signals id = r.signals id ++ said ∧ r'.record id = r.record id ++ said := by
  cases h with
  | aside hframe hletters hconnections haux =>
    refine ⟨[], ?_, ?_⟩
    · rw [hframe.signals_eq, filter_batch_eq_nil ?_ (by simp)]
      intro letter hletter d hd
      cases (hletters letter hletter).2.symm.trans hd
    · rw [record, connection?_congr hconnections, List.append_nil, record]
  | comes hframe hspec hconnections haux =>
    refine ⟨[], hframe.signals_eq id, ?_⟩
    rw [record, connection?_congr hconnections, connection?_create, record]
    by_cases hid : id = ⟨r.identities⟩
    · rw [if_pos hid, hid, hledger.connection?_next]
      rfl
    · rw [if_neg hid, Option.or_none, List.append_nil]
  | @acts c c' messages notices hc hdeed hframe hconnections =>
    refine ⟨_, hframe.signals_eq id, ?_⟩
    rw [record, connection?_of_deed hc hdeed hconnections, record]
    by_cases hid : id = c.id
    · rw [if_pos hid, hid, hc]
      exact hdeed.signals_eq
    · rw [if_neg hid, hdeed.filter_batch_of_ne hid, List.append_nil]
  | @reaches c request deadline hc herrand hframe hconnections haux =>
    have hview := connection?_of_reaches hledger hc (by rfl) hconnections id
    refine ⟨[], hframe.signals_eq id, ?_⟩
    rw [record, hview, List.append_nil, record]
    by_cases hself : id = c.id
    · rw [if_pos hself, hself, hc]
      rfl
    · rw [if_neg hself]
      by_cases hid : id = ⟨r.identities⟩
      · rw [if_pos hid, hid, hledger.connection?_next]
        rfl
      · rw [if_neg hid]

/-- What has been said in the course of a run is what the phases ask for. -/
theorem signals_of_run {host : Host} {answers : List Bool} {r₀ : Relay} {events : List RelayEvent}
    (hstart : (Startup.ofConfig config host answers).outcome = .ok r₀)
    (hrun : r₀.run events = some r) (id : ConnectionId) :
    r.signals id = r₀.signals id ++ r.record id := by
  refine keeps_run hstart (P := fun _ r ↦ r.signals id = r₀.signals id ++ r.record id) ?_ ?_ hrun
  · rw [record, connection?, (started_of_start hstart).connections_eq]
    exact (List.append_nil _).symm
  · intro events e r r' hreached _ hstep h
    obtain ⟨said, hsignals, hrecord⟩ := (move_of_step hstep).exists_said hreached.ledger id
    rw [hsignals, h, hrecord, List.append_assoc]

/-- At the start only log files have been registered, and none of them is ever a connection. -/
theorem signals_of_start {host : Host} {answers : List Bool} {r₀ : Relay}
    {events : List RelayEvent} (hstart : (Startup.ofConfig config host answers).outcome = .ok r₀)
    (hrun : r₀.run events = some r) {id : ConnectionId} {c : Running}
    (hc : r.connection? id = some c) : r₀.signals id = [] := by
  have hstarted := started_of_start hstart
  have hledger := (reached_of_run hstart hrun).ledger
  have hfirst : r₀.run [] = some r₀ := rfl
  rw [signals, List.filter_eq_nil_iff]
  rintro (letter | letter) hposting hconcerns
  · have hmem := hstarted.agree.mem_posted hposting
    have hlater : letter ∈ r.mail.posted := by
      rw [(changes_of_run hrun).posted_eq]
      exact List.mem_append_left _ hmem
    obtain ⟨d, hd, hid⟩ := (Option.any_eq_true _ _).1 hconcerns
    obtain ⟨hsender, -⟩ | ⟨-, file, hfile, rfl⟩ := hledger.subjects letter hlater d hd
    · have hthere := (reached_of_run hstart hfirst).ledger.senders letter hmem _ hsender
      rw [connection?, hstarted.connections_eq] at hthere
      cases hthere
    · have hnone := (hledger.files file hfile).2
      rw [of_decide_eq_true hid, hc] at hnone
      cases hnone
  · have hmem := hstarted.agree.mem_told hposting
    rw [hstarted.notices_eq] at hmem
    cases hmem

/-- **What has been said of a connection is what its phase asks for.** -/
theorem signals_eq {host : Host} {answers : List Bool} {r₀ : Relay} {events : List RelayEvent}
    (hstart : (Startup.ofConfig config host answers).outcome = .ok r₀)
    (hrun : r₀.run events = some r) {id : ConnectionId} {c : Running}
    (hc : r.connection? id = some c) : r.signals id = c.signals := by
  rw [signals_of_run hstart hrun, signals_of_start hstart hrun hc, record, hc]
  rfl

theorem Deed.of_closed {c c' : Running} {messages : List RouterMessage}
    {notices : List MonitorLetter} {aux : AuxLink} (h : r.Deed e c messages notices aux c')
    (hphase : c'.phase = .closed false) :
    e = .connection c.id .beginningFails ∨ c.phase = .closed false := by
  cases h with
  | begins due hstarting => cases hphase
  | ends said hopen hsaid hcause =>
    rcases hcause with ⟨-, he⟩ | ⟨hfree, -⟩ | ⟨n, reply, -, hrunning, -⟩
    · exact .inl he
    · have hrunning : c.phase = .running := (of_decide_eq_true hfree).1
      simp [Running.hasBegun, hrunning] at hphase
    · simp [Running.hasBegun, hrunning] at hphase
  | _ => exact .inr hphase

/-- Who ends without having been announced could not be greeted. -/
theorem Move.of_closed (h : r.Move e r') (hledger : r.Ledger) {id : ConnectionId} {c' : Running}
    (hc' : r'.connection? id = some c') (hphase : c'.phase = .closed false) :
    e = .connection id .beginningFails ∨
      ∃ c, r.connection? id = some c ∧ c.phase = .closed false := by
  rcases h.was hledger hc' with
    ⟨hc, -⟩ | ⟨spec, -, rfl, -⟩ | ⟨rfl, hc, -, hdeed, -⟩ | ⟨-, hc, -, rfl, -⟩
  · exact .inr ⟨c', hc, hphase⟩
  · cases hphase
  · exact (hdeed.of_closed hphase).imp id fun hclosed ↦ ⟨_, hc, hclosed⟩
  · exact .inr ⟨_, hc, hphase⟩

theorem beginningFails_of_closed {host : Host} {answers : List Bool} {r₀ : Relay}
    {events : List RelayEvent} (hstart : (Startup.ofConfig config host answers).outcome = .ok r₀)
    (hrun : r₀.run events = some r) {id : ConnectionId} {c : Running}
    (hc : r.connection? id = some c) (hphase : c.phase = .closed false) :
    .connection id .beginningFails ∈ events := by
  refine keeps_run hstart (P := fun events r ↦ ∀ c, r.connection? id = some c →
    c.phase = .closed false → .connection id .beginningFails ∈ events) ?_ ?_ hrun c hc hphase
  · intro c hc
    rw [connection?, (started_of_start hstart).connections_eq] at hc
    cases hc
  · intro events e r r' hreached _ hstep h c' hc' hphase'
    rw [List.mem_append, List.mem_singleton]
    rcases (move_of_step hstep).of_closed hreached.ledger hc' hphase' with he | ⟨c, hc, hphase⟩
    · exact .inr he.symm
    · exact .inl (h c hc hphase)

end Relay

/-! ## The count -/

namespace MonitorLetter

/-- The live links after these letters. -/
def announced (letters : List MonitorLetter) : List ConnectionId := letters.foldl hear []

variable {live : List ConnectionId}

theorem nodup_hear (h : live.Nodup) (letter : MonitorLetter) : (letter.hear live).Nodup := by
  unfold hear
  split
  · split
    · exact h
    · exact List.nodup_cons.2 ⟨‹_›, h⟩
  · exact h.erase _
  · exact h

theorem nodup_announced (letters : List MonitorLetter) : (announced letters).Nodup := by
  have hfold (live : List ConnectionId) (h : live.Nodup) : (letters.foldl hear live).Nodup := by
    induction letters generalizing live with
    | nil => exact h
    | cons letter rest ih => exact ih _ (nodup_hear h letter)
  exact hfold [] List.nodup_nil

theorem announced_append (first second : List MonitorLetter) :
    announced (first ++ second) = second.foldl hear (announced first) :=
  List.foldl_append

end MonitorLetter

/-- The instrument is there by this connection. -/
def Running.Counts (c : Running) : Prop := c.phase = .running ∧ c.spec.role = .instrument

instance (c : Running) : Decidable c.Counts := inferInstanceAs (Decidable (_ ∧ _))

namespace Relay

variable {config : Config} {r r' : Relay} {e : RelayEvent}

/-- A connection tells the monitor whether it is to be counted. -/
theorem Deed.mem_hear {c c' : Running} {messages : List RouterMessage}
    {notices : List MonitorLetter} {aux : AuxLink} (h : r.Deed e c messages notices aux c')
    {live : List ConnectionId} (hlive : live.Nodup) (hmem : c.id ∈ live ↔ c.Counts)
    (id : ConnectionId) :
    id ∈ notices.foldl MonitorLetter.hear live ↔ if id = c.id then c'.Counts else id ∈ live := by
  have hstays (hphase : c'.phase = c.phase)
      (hnotices : notices.foldl MonitorLetter.hear live = live) :
      id ∈ notices.foldl MonitorLetter.hear live ↔
        if id = c.id then c'.Counts else id ∈ live := by
    rw [hnotices, Running.Counts, hphase, h.act.same.2]
    split
    case isTrue hid => rw [hid, hmem, Running.Counts]
    case isFalse => rfl
  cases h with
  | begins due hphase =>
    have hout : c.id ∉ live := by simp [hmem, Running.Counts, hphase]
    cases hrole : c.spec.role <;> by_cases hid : id = c.id <;>
      simp_all [upNotice, MonitorLetter.hear, Running.Counts]
  | takesLine hfree hitem hstarts => exact hstays rfl (by cases hstarts <;> rfl)
  | ends said hopen hsaid hcause =>
    by_cases hphase : c.phase = .running
    · cases hrole : c.spec.role <;> by_cases hid : id = c.id <;>
        simp_all [downNotice, MonitorLetter.hear, Running.Counts, hlive.mem_erase_iff]
    · by_cases hid : id = c.id <;> simp_all [Running.Counts]
  | _ => exact hstays rfl rfl

theorem Deed.length_notices_le {c c' : Running} {messages : List RouterMessage}
    {notices : List MonitorLetter} {aux : AuxLink} (h : r.Deed e c messages notices aux c') :
    notices.length ≤ 1 := by
  cases h with
  | begins due hphase => cases c.spec.role <;> simp [upNotice]
  | takesLine hfree hitem hstarts => cases hstarts <;> simp
  | ends said hopen hsaid hcause => cases c.spec.role <;> split <;> simp [downNotice]
  | _ => exact Nat.zero_le 1

/-- What the monitor has been told, whether it has read it or not, and what it has read. -/
structure Census (config : Config) (r : Relay) : Prop where
  /-- The monitor takes letters that have been posted. -/
  taken_le : r.notices.taken ≤ r.notices.posted.length
  /-- It goes by the letters that it has taken. -/
  live_eq : r.monitor.presence.live
    = MonitorLetter.announced (r.notices.posted.take r.notices.taken)
  /-- All letters together announce the connections there are. -/
  mem_announced : ∀ id, id ∈ MonitorLetter.announced r.notices.posted ↔
    ∃ c, r.connection? id = some c ∧ c.Counts
  /-- After however many of them, there are not too many links. -/
  length_le : ∀ n, (MonitorLetter.announced (r.notices.posted.take n)).length
    ≤ config.instrument.linkCount

/-- There is a link for every connection that counts. -/
theorem Wired.length_le (h : r.Wired config) {ids : List ConnectionId} (hnodup : ids.Nodup)
    (hids : ∀ id ∈ ids, ∃ c, r.connection? id = some c ∧ c.Counts) :
    ids.length ≤ config.instrument.linkCount := by
  have hsub : ids ⊆ r.links.filterMap fun l ↦
      match l.phase with
      | .up id => some id
      | _ => none := by
    intro id hid
    obtain ⟨c, hc, hphase, hrole⟩ := hids id hid
    obtain ⟨l, hl, hup⟩ := h.up id c hc hrole (by rw [Running.isOpen, hphase])
    exact List.mem_filterMap.2 ⟨l, hl, by rw [hup]⟩
  calc ids.length
    _ ≤ (r.links.filterMap _).length := (hnodup.subperm hsub).length_le
    _ ≤ r.links.length := List.length_filterMap_le _ _
    _ = config.instrument.linkCount := by
      rw [← Instrument.length_links config.timing, ← h.links_eq, List.length_map]

namespace Census

/-- The monitor goes on reading. -/
theorem reads (h : r.Census config) {letters : List Letter} {notices : List MonitorLetter}
    (hframe : r.Frame r' letters notices) :
    r'.monitor.presence.live
      = MonitorLetter.announced (r'.notices.posted.take r'.notices.taken) := by
  rw [hframe.told]
  rcases hframe.heard with ⟨htaken, hlive⟩ | ⟨letter, hletter, htaken, hlive, -⟩
  · rw [htaken, hlive, List.take_append_of_le_length h.taken_le]
    exact h.live_eq
  · have hlt := (List.getElem?_eq_some_iff.1 hletter).1
    rw [htaken, hlive, List.take_append_of_le_length hlt, List.take_add_one, hletter,
      MonitorLetter.announced_append, ← h.live_eq]
    rfl

/-- With one more letter, there are not too many links either, if there is a link for each of the
connections that count then. -/
theorem step (h : r.Census config) (hwired : r'.Wired config) {letters : List Letter}
    {notices : List MonitorLetter} (hframe : r.Frame r' letters notices) (hone : notices.length ≤ 1)
    (hmem : ∀ id, id ∈ notices.foldl MonitorLetter.hear (MonitorLetter.announced r.notices.posted) ↔
      ∃ c, r'.connection? id = some c ∧ c.Counts) : r'.Census config := by
  have htaken := hframe.taken_le h.taken_le
  have hlive := h.reads hframe
  have hnow (id : ConnectionId) : id ∈ MonitorLetter.announced r'.notices.posted ↔
      ∃ c, r'.connection? id = some c ∧ c.Counts := by
    rw [hframe.told, MonitorLetter.announced_append]
    exact hmem id
  refine ⟨htaken, hlive, hnow, fun n ↦ ?_⟩
  by_cases hn : n ≤ r.notices.posted.length
  · rw [hframe.told, List.take_append_of_le_length hn]
    exact h.length_le n
  · have hall : r'.notices.posted.length ≤ n := by
      rw [hframe.told, List.length_append]
      omega
    rw [List.take_of_length_le hall]
    exact hwired.length_le (MonitorLetter.nodup_announced _) fun id ↦ (hnow id).1

end Census

theorem Move.census (h : r.Move e r') (hledger : r.Ledger) (hwired : r'.Wired config)
    (hcensus : r.Census config) : r'.Census config := by
  cases h with
  | aside hframe hletters hconnections haux =>
    refine hcensus.step hwired hframe (Nat.zero_le 1) fun id ↦ ?_
    rw [connection?_congr hconnections]
    exact hcensus.mem_announced id
  | comes hframe hspec hconnections haux =>
    refine hcensus.step hwired hframe (Nat.zero_le 1) fun id ↦ ?_
    rw [connection?_congr hconnections, connection?_create]
    refine (hcensus.mem_announced id).trans ?_
    -- The new connection does not count yet.
    by_cases hid : id = ⟨r.identities⟩
    · simp [hid, hledger.connection?_next, Running.Counts]
    · rw [if_neg hid, Option.or_none]
  | @acts c c' messages notices hc hdeed hframe hconnections =>
    refine hcensus.step hwired hframe hdeed.length_notices_le fun id ↦ ?_
    have hself : c.id ∈ MonitorLetter.announced r.notices.posted ↔ c.Counts := by
      rw [hcensus.mem_announced, hc]
      simp
    rw [hdeed.mem_hear (MonitorLetter.nodup_announced _) hself,
      connection?_of_deed hc hdeed hconnections]
    by_cases hid : id = c.id
    · simp [hid]
    · rw [if_neg hid, if_neg hid]
      exact hcensus.mem_announced id
  | @reaches c request deadline hc herrand hframe hconnections haux =>
    refine hcensus.step hwired hframe (Nat.zero_le 1) fun id ↦ ?_
    rw [connection?_of_reaches hledger hc (by rfl) hconnections]
    refine (hcensus.mem_announced id).trans ?_
    by_cases hself : id = c.id
    · rw [if_pos hself, hself, hc]
      simp [Running.Counts]
    · rw [if_neg hself]
      by_cases hid : id = ⟨r.identities⟩
      · simp [hid, hledger.connection?_next, Running.Counts]
      · rw [if_neg hid]

/-- **After every run, the monitor's letters announce the connections there are.** -/
theorem census_of_run {host : Host} {answers : List Bool} {r₀ : Relay} {events : List RelayEvent}
    (hstart : (Startup.ofConfig config host answers).outcome = .ok r₀)
    (hrun : r₀.run events = some r) : r.Census config := by
  refine keeps_run hstart (P := fun _ r ↦ r.Census config) ?_ ?_ hrun
  · have hstarted := started_of_start hstart
    constructor
    · rw [hstarted.notices_eq]
      exact Nat.le_refl 0
    · rw [hstarted.live_eq, hstarted.notices_eq]
      rfl
    · simp [hstarted.notices_eq, Mailbox.empty, MonitorLetter.announced, connection?,
        hstarted.connections_eq]
    · simp [hstarted.notices_eq, Mailbox.empty, MonitorLetter.announced]
  · intro events e r r' hreached _ hstep h
    have hwired := (hreached.changes (changes_of_step hstep)).wired
    exact (move_of_step hstep).census hreached.ledger hwired h

/-! ### The connections there are -/

theorem Change.nodup_ids (h : r.Change r') (hledger : r.Ledger)
    (hnodup : (r.connections.map (·.id)).Nodup) : (r'.connections.map (·.id)).Nodup := by
  have hcreate (spec : ConnectionSpec) :
      ((r.create spec).2.connections.map (·.id)).Nodup := by
    have hnew : (⟨r.identities⟩ : ConnectionId) ∉ r.connections.map (·.id) := by
      intro hmem
      obtain ⟨c, hc, hid⟩ := List.mem_map.1 hmem
      have hnone := hledger.connection?_next
      rw [connection?, List.find?_eq_none] at hnone
      exact hnone c hc (decide_eq_true hid)
    simp only [create, newIdentity, List.map_append, List.map_cons, List.map_nil]
    exact List.nodup_append.2 ⟨hnodup, List.nodup_singleton _, fun id hid other hother heq ↦
      hnew (List.mem_singleton.1 hother ▸ heq ▸ hid)⟩
  have hupdate {r : Relay} (hnodup : (r.connections.map (·.id)).Nodup) (c : Running) :
      ((r.update c).connections.map (·.id)).Nodup := by
    have hsame : (r.update c).connections.map (·.id) = r.connections.map (·.id) := by
      rw [update, List.map_map, List.map_inj_left]
      intro d _
      rw [Function.comp_apply]
      split
      case isTrue hid => exact hid.symm
      case isFalse => rfl
    rwa [hsame]
  cases h with
  | aside h => rwa [h.connections]
  | comes h => exact hcreate _
  | links hl hphase => exact hcreate _
  | acts hc hact hopen => exact hupdate (r := r.post _ _) hnodup _
  | ends hc hact hclosed => exact hupdate (r := r.post _ _) hnodup _
  | _ => exact hnodup

/-- No two connections have the same identity. -/
theorem Reached.nodup_ids (h : Reached config r) : (r.connections.map (·.id)).Nodup := by
  induction h with
  | start h =>
    rw [h.connections_eq]
    exact List.nodup_nil
  | change h hchange ih => exact hchange.nodup_ids h.ledger ih

theorem Reached.mem_connections (h : Reached config r) {c : Running} :
    c ∈ r.connections ↔ r.connection? c.id = some c := by
  constructor
  · intro hc
    obtain ⟨d, hd⟩ : ∃ d, r.connection? c.id = some d := by
      rw [← Option.isSome_iff_exists, connection?, List.find?_isSome]
      exact ⟨c, hc, decide_eq_true rfl⟩
    have hsame : d = c := List.inj_on_of_nodup_map h.nodup_ids
      (List.mem_of_find?_eq_some hd) hc (id_of_connection? hd)
    rw [hd, hsame]
  · exact List.mem_of_find?_eq_some

/-- Once the monitor has read everything, it counts the connections there are. -/
theorem Census.length_live_eq (h : r.Census config) (hreached : Reached config r)
    (hread : r.notices.pending = []) :
    r.monitor.presence.live.length = r.instrumentConnections.length := by
  have hall : r.notices.posted.take r.notices.taken = r.notices.posted :=
    List.take_of_length_le (List.drop_eq_nil_iff.1 hread)
  have hids : (r.instrumentConnections.map (·.id)).Nodup :=
    hreached.nodup_ids.sublist (List.filter_sublist.map _)
  have hperm : (MonitorLetter.announced r.notices.posted).Perm
      (r.instrumentConnections.map (·.id)) := by
    rw [List.perm_ext_iff_of_nodup (MonitorLetter.nodup_announced _) hids]
    intro id
    rw [h.mem_announced, List.mem_map]
    constructor
    · rintro ⟨c, hc, hcounts⟩
      obtain rfl := id_of_connection? hc
      refine ⟨c, List.mem_filter.2 ⟨hreached.mem_connections.2 hc, decide_eq_true hcounts⟩, rfl⟩
    · rintro ⟨c, hc, rfl⟩
      obtain ⟨hmem, hcounts⟩ := List.mem_filter.1 hc
      exact ⟨c, hreached.mem_connections.1 hmem, of_decide_eq_true hcounts⟩
  rw [h.live_eq, hall, hperm.length_eq, List.length_map]

/-- **Every connection is announced when it comes and when it goes, and the monitor counts right.**

In whatever order things happen, and whatever a connection ends of: what it has posted about itself,
to the router and to the monitor, is nothing before it begins, its registration and the notice that
it is up while it runs, and after its end these two and its deregistration and the notice that it is
down, each once, in this order and under the same endpoint and identity. The order is that of the
record of all letters, off which both mailboxes can be read. Only a connection that could not be
greeted ends without a word. The monitor never counts more live links than there are links, and once
it has read what it was told it counts the connections to the instrument that are running. -/
theorem announced_and_counted {host : Host} {answers : List Bool} {r₀ : Relay}
    {events : List RelayEvent} (hstart : (Startup.ofConfig config host answers).outcome = .ok r₀)
    (hrun : r₀.run events = some r) :
    (∀ id c, r.connection? id = some c →
      r.signals id = c.signals ∧
      (c.phase = .closed false → .connection id .beginningFails ∈ events)) ∧
    r.PostingsAgree ∧
    r.monitor.presence.live.length ≤ config.instrument.linkCount ∧
    (r.notices.pending = [] →
      r.monitor.presence.live.length = r.instrumentConnections.length) := by
  have hcensus := census_of_run hstart hrun
  have hbound : r.monitor.presence.live.length ≤ config.instrument.linkCount := by
    rw [hcensus.live_eq]
    exact hcensus.length_le _
  refine ⟨fun id c hc ↦ ⟨signals_eq hstart hrun hc, ?_⟩, postingsAgree_of_run hstart hrun, hbound,
    hcensus.length_live_eq (reached_of_run hstart hrun)⟩
  exact beginningFails_of_closed hstart hrun hc

/-- A link loses its connection and gets another one, while the other link cannot be greeted. -/
theorem announced_and_counted_of_lost :
    ∃ (r₀ r : Relay) (events : List RelayEvent) (spec : ConnectionSpec),
      r₀.run events = some r ∧
      r.signals ⟨0⟩ =
        [.router ⟨some ⟨0⟩, .register ⟨⟨0⟩, spec.endpoint⟩⟩, .monitor (.notice (.instrumentUp ⟨0⟩)),
          .router ⟨some ⟨0⟩, .deregister ⟨⟨0⟩, spec.endpoint⟩⟩,
          .monitor (.notice (.instrumentDown ⟨0⟩))] ∧
      r.signals ⟨1⟩ = [] ∧
      .connection ⟨1⟩ .beginningFails ∈ events ∧
      r.PostingsAgree ∧
      r.monitor.presence.live.length ≤ 2 ∧
      r.monitor.presence.live.length = r.instrumentConnections.length := by
  let config : Config := { refdes := "X", instrument := .rsn "host" 2101 2102 .persistent }
  let events : List RelayEvent := [.link 0 .made, .connection ⟨0⟩ .begins, .link 1 .made,
    .connection ⟨1⟩ .beginningFails, .connection ⟨0⟩ .hangsUp, .connection ⟨0⟩ .takes,
    .elapse 1000000000 ⟨0⟩, .link 0 .redials, .link 0 .made, .connection ⟨2⟩ .begins, .attends,
    .attends, .attends]
  have hafter : ((Startup.ofConfig config .willing []).after events).any (fun r ↦
      (r.connection? ⟨0⟩).any fun c ↦ (r.connection? ⟨1⟩).any fun d ↦
        c.id = ⟨0⟩ ∧ c.phase = .closed true ∧ c.spec.role = .instrument ∧ d.phase = .closed false ∧
          r.notices.pending = []) = true := by
    decide +kernel
  obtain ⟨r₀, r, hstart, hrun, h⟩ := Startup.exists_of_after hafter
  simp only [Option.any_eq_true, decide_eq_true_eq] at h
  obtain ⟨c, hc, d, hd, hid, hclosed, hrole, hunannounced, hread⟩ := h
  obtain ⟨hsaid, hagree, hbound, hcount⟩ := announced_and_counted hstart hrun
  refine ⟨r₀, r, events, c.spec, hrun, ?_, ?_, (hsaid ⟨1⟩ d hd).2 hunannounced, hagree, hbound,
    hcount hread⟩
  · rw [(hsaid ⟨0⟩ c hc).1, Running.signals, hclosed, Running.comings, Running.goings, hrole, hid,
      Running.connection, hid]
    rfl
  · rw [(hsaid ⟨1⟩ d hd).1, Running.signals, hunannounced]

end Relay

end InstrumentRelay
