import Mathlib.Data.List.TakeWhile
import InstrumentRelay.Proofs.Relay.Changes
import InstrumentRelay.Proofs.Routing.Delivery

/-!
# The books of a relay

No two connections have the same identity, and no log file has that of a connection. The router
hears of a connection from that connection alone, and of a log file once. What the router has done
so far is to handle the letters it has taken, in order, while connections got lost; a connection
that is still open is not among them. `Ledger` holds all of this, and every relay that can be
reached has it (`Reached.ledger`).

What is handed to a connection can then be read off the letters (`Ledger.deliveredTo_eq`): the
identities are what makes the connection the only one of its number.
-/

namespace InstrumentRelay

theorem Mailbox.take?_eq_some_iff {α : Type} {m m' : Mailbox α} {a : α} :
    m.take? = some (a, m') ↔ m.posted[m.taken]? = some a ∧ m' = { m with taken := m.taken + 1 } := by
  rw [take?, Option.map_eq_some_iff]
  constructor
  · rintro ⟨b, hget, heq⟩
    cases heq
    exact ⟨hget, rfl⟩
  · rintro ⟨hget, rfl⟩
    exact ⟨a, hget, rfl⟩

/-- Whom a message registers or deregisters. -/
def RouterMessage.subject : RouterMessage → Option Connection
  | data _ => none
  | register c => some c
  | deregister c => some c

namespace Running.Act

variable {queue : List Bytes} {c c' : Running} {messages : List RouterMessage}

/-- A connection stays the connection it is. -/
theorem same (h : c.Act queue messages c') : c'.id = c.id ∧ c'.spec = c.spec := by
  cases h <;> exact ⟨rfl, rfl⟩

theorem connection_eq (h : c.Act queue messages c') : c'.connection = c.connection := by
  rw [connection, connection, h.same.1, h.same.2]

/-- A connection speaks for nobody but itself. -/
theorem eq_of_subject (h : c.Act queue messages c') {m : RouterMessage} (hm : m ∈ messages)
    {d : Connection} (hd : m.subject = some d) : d = c.connection := by
  cases h with
  | ends said hopen hsaid =>
    split at hm <;> simp_all [RouterMessage.subject]
  | _ => simp_all [RouterMessage.subject]

/-- What has ended does not come back. -/
theorem closed (h : c.Act queue messages c') (hclosed : c.isOpen = false) : c'.isOpen = false := by
  cases h with
  | turns errand' herrand => exact hclosed
  | ends said hopen hsaid => rfl
  | _ => simp_all [isOpen, isFree]

/-- Who has been registered has been registered ever after. -/
theorem begun (h : c.Act queue messages c') (hbegun : c.hasBegun = true) : c'.hasBegun = true := by
  cases h with
  | begins due hphase => rfl
  | ends said hopen hsaid => exact hbegun
  | _ => exact hbegun

end Running.Act

namespace Relay

/-! ## Views -/

section Views

variable {r : Relay} {c : Running} {id : ConnectionId}

theorem connection?_update (r : Relay) (c : Running) (id : ConnectionId) :
    (r.update c).connection? id = (r.connection? id).map fun d ↦ if d.id = c.id then c else d := by
  have hsame : (fun d : Running ↦ decide (d.id = id)) ∘ (fun d ↦ if d.id = c.id then c else d)
      = fun d ↦ decide (d.id = id) := by
    funext d
    by_cases hd : d.id = c.id <;> simp [hd]
  rw [connection?, update, List.find?_map, hsame, connection?]

theorem connection?_update_self {d : Running} (hd : r.connection? c.id = some d) :
    (r.update c).connection? c.id = some c := by
  rw [connection?_update, hd, Option.map_some, if_pos (id_of_connection? hd)]

theorem connection?_update_of_ne (h : id ≠ c.id) :
    (r.update c).connection? id = r.connection? id := by
  rw [connection?_update]
  rcases hd : r.connection? id with _ | d
  · rfl
  · rw [Option.map_some, if_neg fun heq ↦ h ((id_of_connection? hd).symm.trans heq)]

/-- What a connection does is seen at that connection. -/
theorem connection?_act {c' : Running} {messages : List RouterMessage}
    (hc : r.connection? c.id = some c) (hact : c.Act (r.queue c) messages c') (id : ConnectionId) :
    ((r.post (some c.id) messages).update c').connection? id
      = if id = c.id then some c' else r.connection? id := by
  have hold : (r.post (some c.id) messages).connection? c'.id = some c := by
    rw [hact.same.1]
    exact hc
  by_cases hid : id = c.id
  · have hnow := connection?_update_self hold
    rw [if_pos hid, hid]
    rwa [hact.same.1] at hnow
  · rw [if_neg hid, connection?_update_of_ne (by rwa [hact.same.1])]
    rfl

theorem closed_of_act {c' : Running} {messages : List RouterMessage}
    (hc : r.connection? c.id = some c) (hact : c.Act (r.queue c) messages c')
    (hclosed : c'.isOpen = false) {d : Running}
    (hd : ((r.post (some c.id) messages).update c').connection? c.id = some d) :
    d.isOpen = false := by
  rw [connection?_act hc hact, if_pos rfl] at hd
  rwa [← Option.some.inj hd]

theorem connection?_create (r : Relay) (spec : ConnectionSpec) (id : ConnectionId) :
    (r.create spec).2.connection? id
      = (r.connection? id).or
        (if id = ⟨r.identities⟩ then some { id := ⟨r.identities⟩, spec := spec } else none) := by
  simp only [create, newIdentity, connection?, List.find?_append]
  by_cases h : id = ⟨r.identities⟩
  · simp [h]
  · simp [h, Ne.symm h]

end Views

/-- Everything the router was asked to do. -/
def messages (r : Relay) : List RouterMessage := r.mail.posted.map (·.message)

/-- What the router has done. -/
def handled (r : Relay) : List RouterMessage := (r.mail.posted.take r.mail.taken).map (·.message)

/-- What the router has not come to yet. -/
def awaited (r : Relay) : List RouterMessage := r.mail.pending.map (·.message)

theorem handled_append_awaited (r : Relay) : r.handled ++ r.awaited = r.messages := by
  rw [handled, awaited, Mailbox.pending, ← List.map_append, List.take_append_drop, messages]

/-- The router does not hear of a letter before it takes it. -/
theorem handled_of_post {r r' : Relay} {letters : List Letter}
    (hmail : r'.mail = r.mail.post letters) (hle : r.mail.taken ≤ r.mail.posted.length) :
    r'.handled = r.handled := by
  rw [handled, hmail, Mailbox.post, List.take_append_of_le_length hle, handled]

theorem handled_of_take? {r : Relay} {letter : Letter} {mail : Mailbox Letter}
    {exchange : RouterRun} (htake : r.mail.take? = some (letter, mail)) :
    { r with mail := mail, exchange := exchange }.handled = r.handled ++ [letter.message] := by
  obtain ⟨hget, rfl⟩ := Mailbox.take?_eq_some_iff.1 htake
  rw [handled, List.take_add_one, hget, Option.toList_some, List.map_append]
  rfl

/-! ## The books -/

/-- Who may speak for `d`: the connection itself, or for a log file the relay. -/
def Owns (r : Relay) (sender : Option ConnectionId) (d : Connection) : Prop :=
  (sender = some d.id ∧ ∃ c, r.connection? d.id = some c ∧ c.connection = d) ∨
    (sender = none ∧ ∃ file ∈ r.files, file.1 = d)

/-- What has been registered by whom, and what the router has done about it. -/
structure Ledger (r : Relay) : Prop where
  /-- Identities of connections have been given out. -/
  fresh : ∀ id c, r.connection? id = some c → id.number < r.identities
  /-- Those of log files, too, and not to connections. -/
  files : ∀ file ∈ r.files, file.1.id.number < r.identities ∧ r.connection? file.1.id = none
  /-- Letters come from connections that exist. -/
  senders : ∀ letter ∈ r.mail.posted, ∀ id, letter.sender = some id →
    (r.connection? id).isSome = true
  /-- Nobody is registered or deregistered by anyone else. -/
  subjects : ∀ letter ∈ r.mail.posted, ∀ d, letter.message.subject = some d →
    r.Owns letter.sender d
  /-- The router takes letters that have been posted. -/
  taken_le : r.mail.taken ≤ r.mail.posted.length
  /-- It uses the table of a relay. -/
  table : r.exchange.router.table = .standard
  /-- Who is lost is not open. -/
  lost : ∀ id ∈ r.exchange.lost, id.number < r.identities ∧
    ∀ c, r.connection? id = some c → c.isOpen = false
  /-- The router has handled what it has taken. -/
  routed : ∃ moves, (RouterRun.start .standard).Reaches moves r.exchange ∧
    Handles .standard r.handled moves ∧ ∀ id, .lost id ∈ moves → id ∈ r.exchange.lost

namespace Ledger

variable {r : Relay}

theorem connection?_next (h : r.Ledger) : r.connection? ⟨r.identities⟩ = none := by
  rcases hc : r.connection? ⟨r.identities⟩ with _ | c
  · rfl
  · exact absurd (h.fresh _ c hc) (Nat.lt_irrefl _)

/-- Only what the books are about counts. -/
theorem congr {r' : Relay} (h : r.Ledger) (hconnections : r'.connections = r.connections)
    (hmail : r'.mail = r.mail) (hexchange : r'.exchange = r.exchange) (hfiles : r'.files = r.files)
    (hidentities : r'.identities = r.identities) : r'.Ledger := by
  have hview : r'.connection? = r.connection? := by
    funext id
    rw [connection?, hconnections, connection?]
  have howns : ∀ sender d, r.Owns sender d → r'.Owns sender d := by
    intro sender d hd
    rwa [Owns, hview, hfiles]
  constructor
  · rw [hview, hidentities]
    exact h.fresh
  · rw [hview, hidentities, hfiles]
    exact h.files
  · rw [hview, hmail]
    exact h.senders
  · rw [hmail]
    exact fun letter hletter d hd ↦ howns _ d (h.subjects letter hletter d hd)
  · rw [hmail]
    exact h.taken_le
  · rw [hexchange]
    exact h.table
  · rw [hview, hidentities, hexchange]
    exact h.lost
  · rw [handled, hmail, hexchange]
    exact h.routed

theorem post (h : r.Ledger) {sender : Option ConnectionId} {messages : List RouterMessage}
    (hsender : ∀ id, sender = some id → (r.connection? id).isSome = true)
    (hsubjects : ∀ m ∈ messages, ∀ d, m.subject = some d → r.Owns sender d) :
    (r.post sender messages).Ledger where
  fresh := h.fresh
  files := h.files
  senders letter hletter id hid := by
    rcases List.mem_append.1 hletter with hold | hnew
    · exact h.senders letter hold id hid
    · obtain ⟨m, -, rfl⟩ := List.mem_map.1 hnew
      exact hsender id hid
  subjects letter hletter d hd := by
    rcases List.mem_append.1 hletter with hold | hnew
    · exact h.subjects letter hold d hd
    · obtain ⟨m, hm, rfl⟩ := List.mem_map.1 hnew
      exact hsubjects m hm d hd
  taken_le := by
    have hle := h.taken_le
    rw [Relay.post, Mailbox.post, List.length_append]
    exact Nat.le_add_right_of_le hle
  table := h.table
  lost := h.lost
  routed := by
    rw [handled_of_post rfl h.taken_le]
    exact h.routed

theorem create (h : r.Ledger) (spec : ConnectionSpec) : (r.create spec).2.Ledger := by
  have hold : ∀ id : ConnectionId, id.number < r.identities →
      (r.create spec).2.connection? id = r.connection? id := by
    intro id hid
    have hne : id ≠ ⟨r.identities⟩ := fun heq ↦ Nat.ne_of_lt hid (congrArg ConnectionId.number heq)
    rw [connection?_create, if_neg hne, Option.or_none]
  have hkeeps : ∀ id c, r.connection? id = some c →
      (r.create spec).2.connection? id = some c :=
    fun id c hc ↦ connection?_create_of_some hc spec
  constructor
  · intro id c hc
    rw [connection?_create] at hc
    by_cases hid : id = ⟨r.identities⟩
    · rw [hid]
      exact Nat.lt_succ_self _
    · rw [if_neg hid, Option.or_none] at hc
      exact Nat.lt_succ_of_lt (h.fresh id c hc)
  · intro file hfile
    obtain ⟨hlt, hnone⟩ := h.files file hfile
    refine ⟨Nat.lt_succ_of_lt hlt, ?_⟩
    rw [hold _ hlt, hnone]
  · intro letter hletter id hid
    obtain ⟨c, hc⟩ := Option.isSome_iff_exists.1 (h.senders letter hletter id hid)
    rw [hkeeps id c hc, Option.isSome_some]
  · intro letter hletter d hd
    rcases h.subjects letter hletter d hd with ⟨hsender, c, hc, hsame⟩ | hfile
    · exact .inl ⟨hsender, c, hkeeps d.id c hc, hsame⟩
    · exact .inr hfile
  · exact h.taken_le
  · exact h.table
  · intro id hid
    obtain ⟨hlt, hclosed⟩ := h.lost id hid
    refine ⟨Nat.lt_succ_of_lt hlt, ?_⟩
    rw [hold id hlt]
    exact hclosed
  · exact h.routed

/-- A connection may change as long as it stays itself and does not come back. -/
theorem update (h : r.Ledger) {c c' : Running} (hc : r.connection? c.id = some c)
    (hsame : c'.connection = c.connection) (hopen : c.isOpen = false → c'.isOpen = false) :
    (r.update c').Ledger := by
  have hid : c'.id = c.id := congrArg Connection.id hsame
  rw [← hid] at hc
  -- Whoever is found afterwards is either the connection itself or was found before.
  have hview : ∀ id d, (r.update c').connection? id = some d →
      (id = c'.id ∧ d = c') ∨ (id ≠ c'.id ∧ r.connection? id = some d) := by
    intro id d hd
    by_cases heq : id = c'.id
    · rw [heq, connection?_update_self hc] at hd
      exact .inl ⟨heq, (Option.some.inj hd).symm⟩
    · rw [connection?_update_of_ne heq] at hd
      exact .inr ⟨heq, hd⟩
  have hkeeps : ∀ id, ((r.update c').connection? id).isSome = (r.connection? id).isSome := by
    intro id
    rw [connection?_update, Option.isSome_map]
  constructor
  · intro id d hd
    rcases hview id d hd with ⟨rfl, -⟩ | ⟨-, hd⟩
    · exact h.fresh _ c hc
    · exact h.fresh id d hd
  · intro file hfile
    obtain ⟨hlt, hnone⟩ := h.files file hfile
    refine ⟨hlt, ?_⟩
    rw [connection?_update, hnone, Option.map_none]
  · intro letter hletter id hid
    rw [hkeeps]
    exact h.senders letter hletter id hid
  · intro letter hletter d hd
    rcases h.subjects letter hletter d hd with ⟨hsender, e, he, rfl⟩ | hfile
    · refine .inl ⟨hsender, ?_⟩
      by_cases heq : e.connection.id = c'.id
      · rw [heq] at he ⊢
        refine ⟨c', connection?_update_self hc, ?_⟩
        rw [hsame, Option.some.inj (hc.symm.trans he)]
      · exact ⟨e, by rw [connection?_update_of_ne heq, he], rfl⟩
    · exact .inr hfile
  · exact h.taken_le
  · exact h.table
  · intro id hlost
    obtain ⟨hlt, hclosed⟩ := h.lost id hlost
    refine ⟨hlt, fun d hd ↦ ?_⟩
    rcases hview id d hd with ⟨rfl, rfl⟩ | ⟨-, hd⟩
    · exact hopen (hclosed c hc)
    · exact hclosed d hd
  · exact h.routed

/-! ### What the router does -/

theorem handles_append {table : RouteTable} {first second : List RouterMessage}
    {moves moves' : List RouterMove} (h : Handles table first moves)
    (h' : Handles table second moves') : Handles table (first ++ second) (moves ++ moves') := by
  rw [Handles] at h h' ⊢
  rw [List.filter_append, h, h', List.flatMap_append]

theorem handles_message (table : RouteTable) (m : RouterMessage) :
    Handles table [m] (m.moves table) := by
  rw [Handles, List.flatMap_cons, List.flatMap_nil, List.append_nil, List.filter_eq_self]
  intro move hmove
  cases m <;> simp [RouterMessage.moves] at hmove
  case data packets =>
    obtain ⟨p, -, target, -, rfl⟩ := hmove
    rfl
  all_goals
    subst hmove
    rfl

theorem not_lost_of_handles {table : RouteTable} {m : RouterMessage} {id : ConnectionId} :
    .lost id ∉ m.moves table := by
  cases m <;> simp [RouterMessage.moves]

/-- The end of a connection or a log file is noticed by the router in its own time. -/
theorem lose (h : r.Ledger) {id : ConnectionId} (hid : id.number < r.identities)
    (hclosed : ∀ c, r.connection? id = some c → c.isOpen = false) :
    { r with exchange := r.exchange.step (.lost id) }.Ledger where
  fresh := h.fresh
  files := h.files
  senders := h.senders
  subjects := h.subjects
  taken_le := h.taken_le
  table := h.table
  lost other hother := by
    rcases List.mem_cons.1 hother with rfl | hold
    · exact ⟨hid, hclosed⟩
    · exact h.lost other hold
  routed := by
    obtain ⟨moves, hreaches, hhandles, hlost⟩ := h.routed
    refine ⟨moves ++ [.lost id], hreaches.append (RouterRun.reaches_step _ (.lost id)), ?_, ?_⟩
    · have hnone : Handles .standard [] [.lost id] := rfl
      have happend := handles_append hhandles hnone
      rwa [List.append_nil] at happend
    · intro other hother
      rcases List.mem_append.1 hother with hold | hnew
      · exact List.mem_cons_of_mem id (hlost other hold)
      · simp only [List.mem_singleton, RouterMove.lost.injEq] at hnew
        rw [hnew]
        exact List.mem_cons_self

theorem report (h : r.Ledger) (refdes : String) :
    { r with exchange := r.exchange.step (.report refdes) }.Ledger where
  fresh := h.fresh
  files := h.files
  senders := h.senders
  subjects := h.subjects
  taken_le := h.taken_le
  table := h.table
  lost := h.lost
  routed := by
    obtain ⟨moves, hreaches, hhandles, hlost⟩ := h.routed
    have hstep := hreaches.append (RouterRun.reaches_step _ (.report refdes))
    rw [RouterEvent.moves, List.append_nil] at hstep
    exact ⟨moves, hstep, hhandles, hlost⟩

theorem take? (h : r.Ledger) {letter : Letter} {mail : Mailbox Letter}
    (htake : r.mail.take? = some (letter, mail)) :
    { r with mail := mail, exchange := r.exchange.step (.message letter.message) }.Ledger := by
  have hhandled (exchange : RouterRun) :
      ({ r with mail := mail, exchange := exchange } : Relay).handled
        = r.handled ++ [letter.message] := handled_of_take? htake
  obtain ⟨hget, rfl⟩ := Mailbox.take?_eq_some_iff.1 htake
  have hlost : (r.exchange.step (.message letter.message)).lost = r.exchange.lost := rfl
  constructor
  · exact h.fresh
  · exact h.files
  · exact h.senders
  · exact h.subjects
  · exact (List.getElem?_eq_some_iff.1 hget).1
  · exact (RouterRun.table_step _ _).trans h.table
  · exact h.lost
  · obtain ⟨moves, hreaches, hhandles, hgone⟩ := h.routed
    have hstep := RouterRun.reaches_step r.exchange (.message letter.message)
    rw [h.table, RouterEvent.moves] at hstep
    refine ⟨moves ++ letter.message.moves .standard, hreaches.append hstep, ?_, ?_⟩
    · rw [hhandled]
      exact handles_append hhandles (handles_message _ letter.message)
    · intro id hid
      rw [hlost]
      rcases List.mem_append.1 hid with hold | hnew
      · exact hgone id hold
      · exact absurd hnew not_lost_of_handles

/-! ### What connections do -/

theorem act (h : r.Ledger) {c c' : Running} {messages : List RouterMessage}
    (hc : r.connection? c.id = some c) (hact : c.Act (r.queue c) messages c') :
    ((r.post (some c.id) messages).update c').Ledger := by
  have hpost : (r.post (some c.id) messages).Ledger := by
    refine h.post ?_ fun m hm d hd ↦ ?_
    · rintro id ⟨rfl⟩
      rw [hc, Option.isSome_some]
    · obtain rfl := hact.eq_of_subject hm hd
      exact .inl ⟨rfl, c, hc, rfl⟩
  exact hpost.update hc hact.connection_eq hact.closed

theorem addFile (h : r.Ledger) (file : Endpoint × LogFile) : (Startup.addFile r file).Ledger := by
  have hnext : { r with
      identities := r.identities + 1
      files := r.files ++ [(Connection.mk ⟨r.identities⟩ file.1, file.2)] }.Ledger := by
    constructor
    · exact fun id c hc ↦ Nat.lt_succ_of_lt (h.fresh id c hc)
    · intro other hother
      rcases List.mem_append.1 hother with hold | hnew
      · exact ⟨Nat.lt_succ_of_lt (h.files other hold).1, (h.files other hold).2⟩
      · obtain rfl := List.mem_singleton.1 hnew
        exact ⟨Nat.lt_succ_self _, h.connection?_next⟩
    · exact h.senders
    · intro letter hletter d hd
      rcases h.subjects letter hletter d hd with hconnection | ⟨hsender, other, hother, rfl⟩
      · exact .inl hconnection
      · exact .inr ⟨hsender, other, List.mem_append_left _ hother, rfl⟩
    · exact h.taken_le
    · exact h.table
    · exact fun id hid ↦ ⟨Nat.lt_succ_of_lt (h.lost id hid).1, (h.lost id hid).2⟩
    · exact h.routed
  change (Relay.post _ none [.register _]).Ledger
  refine hnext.post (by simp) fun m hm d hd ↦ ?_
  obtain rfl := List.mem_singleton.1 hm
  obtain rfl := Option.some.inj hd
  exact .inr ⟨rfl, _, List.mem_append_right _ (List.mem_singleton.2 rfl), rfl⟩

end Ledger

/-- The books are kept through every change. -/
theorem Change.ledger {r r' : Relay} (h : r.Change r') (hledger : r.Ledger) : r'.Ledger := by
  cases h with
  | aside h => exact hledger.congr h.connections h.mail h.exchange h.files h.identities
  | opens file => exact hledger.addFile file
  | comes h => exact hledger.create _
  | links hl hphase => exact (hledger.create _).congr rfl rfl rfl rfl rfl
  | acts hc hact hopen => exact hledger.act hc hact
  | ends hc hact hclosed =>
    have hlost := (hledger.act hc hact).lose (hledger.fresh _ _ hc) fun _ ↦
      closed_of_act hc hact hclosed
    exact hlost.congr rfl rfl rfl rfl rfl
  | publishes bulletins =>
    refine hledger.post (by simp) fun m hm d hd ↦ ?_
    obtain ⟨b, -, rfl⟩ := List.mem_map.1 hm
    cases hd
  | routes htake => exact hledger.take? htake
  | reports refdes => exact hledger.report refdes
  | loses hany =>
    obtain ⟨file, hfile, hid⟩ := List.any_eq_true.1 hany
    obtain rfl := of_decide_eq_true hid
    obtain ⟨hlt, hnone⟩ := hledger.files file hfile
    exact hledger.lose hlt (by simp [hnone])

theorem Blank.connection? {config : Config} {r : Relay} (h : r.Blank config) (id : ConnectionId) :
    r.connection? id = none := by
  rw [Relay.connection?, h.connections_eq, List.find?_nil]

theorem Blank.ledger {config : Config} {r : Relay} (h : r.Blank config) : r.Ledger where
  fresh id c hc := by simp [h.connection?] at hc
  files := by simp [h.files_eq]
  senders := by simp [h.mail_eq, Mailbox.empty]
  subjects := by simp [h.mail_eq, Mailbox.empty]
  taken_le := by
    rw [h.mail_eq]
    exact Nat.le_refl 0
  table := by
    rw [h.exchange_eq]
    rfl
  lost := by simp [h.exchange_eq, RouterRun.start]
  routed := by
    refine ⟨[], ?_, ?_, by simp⟩
    · rw [h.exchange_eq]
      exact .nil _
    · rw [handled, h.mail_eq]
      rfl

/-- **Every relay that can be reached has its books in order.** -/
theorem Reached.ledger {config : Config} {r : Relay} (h : Reached config r) : r.Ledger := by
  induction h with
  | start h => exact h.ledger
  | change _ hchange ih => exact hchange.ledger ih

/-! ## What is handed to a connection -/

namespace Ledger

variable {r : Relay} {c : Running}

/-- Nobody else is registered under the identity of a connection. -/
theorem sole (h : r.Ledger) (hc : r.connection? c.id = some c) {moves : List RouterMove}
    (hmoves : Handles .standard r.handled moves) : c.connection.Sole moves := by
  intro d hd hid
  have hhandled : .register d ∈ r.handled := by
    have hown : RouterMove.register d ∈ moves.filter (!·.isLost) := List.mem_filter.2 ⟨hd, rfl⟩
    rw [hmoves] at hown
    obtain ⟨m, hm, hin⟩ := List.mem_flatMap.1 hown
    cases m <;> simp [RouterMessage.moves] at hin
    rwa [hin]
  -- The letter is from one who may register `d`, and that is the connection of this identity.
  obtain ⟨letter, hletter, hmessage⟩ := List.mem_map.1 hhandled
  have hsubject : letter.message.subject = some d := by
    rw [hmessage]
    rfl
  replace hid : d.id = c.id := hid
  rcases h.subjects letter (List.mem_of_mem_take hletter) d hsubject
    with ⟨-, e, he, rfl⟩ | ⟨-, file, hfile, rfl⟩
  · rw [hid, hc] at he
    rw [Option.some.inj he]
  · rw [← hid, (h.files file hfile).2] at hc
    cases hc

/-- Who is open has not been lost. -/
theorem routed_of_isOpen (h : r.Ledger) (hc : r.connection? c.id = some c)
    (hopen : c.isOpen = true) :
    ∃ moves, (RouterRun.start .standard).Reaches moves r.exchange ∧
      Handles .standard r.handled moves ∧ .lost c.id ∉ moves := by
  obtain ⟨moves, hreaches, hhandles, hlost⟩ := h.routed
  refine ⟨moves, hreaches, hhandles, fun hmem ↦ ?_⟩
  have hclosed := (h.lost c.id (hlost c.id hmem)).2 c hc
  rw [hopen] at hclosed
  cases hclosed

/-- **A connection that is open has been handed what its letters say**, as far as they have been
taken. -/
theorem deliveredTo_eq (h : r.Ledger) (hc : r.connection? c.id = some c) (hopen : c.isOpen = true) :
    r.exchange.deliveredTo c.id
      = (c.connection.packets false r.handled).flatMap (c.connection.renderings .standard) := by
  obtain ⟨moves, hreaches, hhandles, hlost⟩ := h.routed_of_isOpen hc hopen
  have halive : c.connection.lifetime moves = moves := by
    rw [Connection.lifetime, List.takeWhile_eq_self_iff]
    intro m hm
    refine decide_eq_true fun heq ↦ hlost ?_
    rwa [heq] at hm
  have hdelivered := RouterRun.deliveredTo_of_start hreaches (h.sole hc hhandles)
  rw [halive] at hdelivered
  rw [← Connection.writes_of_handles hhandles]
  exact hdelivered

end Ledger

end Relay

end InstrumentRelay
