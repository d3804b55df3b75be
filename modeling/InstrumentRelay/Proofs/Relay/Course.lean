import InstrumentRelay.Proofs.Relay.History
import InstrumentRelay.Proofs.Relay.Wiring
import InstrumentRelay.Proofs.Routing.Standard

/-!
# What is on its way

Between the moment at which a connection posts a packet and the moment at which the router hands it
on, other letters are waiting in front of it. So what a connection is handed lags behind what is
posted, and how far is a matter of scheduling. `Relay.course` adds what is on its way: it is what
the connection has been handed, and what it will be handed once the router has taken the letters
there are. A course does not depend on how far the router has got (`Ledger.course_eq`), and while a
connection stays registered it grows by exactly what is posted (`Reached.course_since`).
-/

namespace InstrumentRelay

namespace Connection

variable {c : Connection}

/-- Whether the connection is registered after a message, given whether it was before. -/
def told (c : Connection) (registered : Bool) : RouterMessage → Bool
  | .data _ => registered
  | .register d => registered || decide (d = c)
  | .deregister d => registered && decide (d ≠ c)

theorem packets_append (registered : Bool) (first second : List RouterMessage) :
    c.packets registered (first ++ second)
      = c.packets registered first ++ c.packets (first.foldl c.told registered) second := by
  induction first generalizing registered with
  | nil => rfl
  | cons m rest ih =>
    cases m with
    | data handled =>
      rw [List.cons_append, packets, packets, ih, List.append_assoc, List.foldl_cons, told]
    | register d => exact ih _
    | deregister d => exact ih _

/-- As long as nobody deregisters it, a connection that is registered gets every packet. -/
theorem packets_of_registered {messages : List RouterMessage} (h : .deregister c ∉ messages) :
    c.packets true messages = messages.flatMap RouterMessage.packets := by
  induction messages with
  | nil => rfl
  | cons m rest ih =>
    rw [List.mem_cons, not_or] at h
    rw [List.flatMap_cons, ← ih h.2]
    cases m with
    | data handled => rfl
    | register d => rfl
    | deregister d =>
      have hne : d ≠ c := fun heq ↦ h.1 (heq ▸ rfl)
      simp [packets, RouterMessage.packets, hne]

/-- Who has been registered and not deregistered is registered. -/
theorem foldl_told {messages : List RouterMessage} {registered : Bool}
    (hin : registered = true ∨ .register c ∈ messages) (hout : .deregister c ∉ messages) :
    messages.foldl c.told registered = true := by
  induction messages generalizing registered with
  | nil => simpa using hin
  | cons m rest ih =>
    rw [List.mem_cons, not_or] at hout
    rw [List.mem_cons] at hin
    refine ih ?_ hout.2
    cases m with
    | data handled => simpa [told] using hin
    | register d =>
      by_cases hd : d = c
      · exact .inl (by simp [told, hd])
      · simpa [told, hd, Ne.symm hd] using hin
    | deregister d =>
      have hne : d ≠ c := fun heq ↦ hout.1 (heq ▸ rfl)
      simpa [told, hne] using hin

theorem foldl_standing_moves (table : RouteTable) (m : RouterMessage) (registered : Bool) :
    (m.moves table).foldl c.standing registered = c.told registered m := by
  cases m with
  | data handled =>
    have hserves : ∀ moves : List RouterMove, (∀ move ∈ moves, ∃ p target, move = .serve p target) →
        moves.foldl c.standing registered = registered := by
      intro moves hmoves
      induction moves with
      | nil => rfl
      | cons move rest ih =>
        obtain ⟨p, target, rfl⟩ := hmoves move List.mem_cons_self
        exact ih fun other hother ↦ hmoves other (List.mem_cons_of_mem _ hother)
    refine hserves _ fun move hmove ↦ ?_
    simp only [RouterMessage.moves, List.mem_flatMap, List.mem_map] at hmove
    obtain ⟨p, -, target, -, rfl⟩ := hmove
    exact ⟨p, target, rfl⟩
  | register d => rfl
  | deregister d => rfl

/-- Losses tell the router nothing. -/
theorem foldl_standing_of_handles {table : RouteTable} {messages : List RouterMessage}
    {moves : List RouterMove} (h : Handles table messages moves) (registered : Bool) :
    moves.foldl c.standing registered = messages.foldl c.told registered := by
  have hown : (moves.filter (!·.isLost)).foldl c.standing registered
      = moves.foldl c.standing registered := by
    clear h
    induction moves generalizing registered with
    | nil => rfl
    | cons m rest ih =>
      cases m with
      | lost id => exact ih registered
      | _ => exact ih _
  rw [← hown, h]
  clear h hown
  induction messages generalizing registered with
  | nil => rfl
  | cons m rest ih =>
    rw [List.flatMap_cons, List.foldl_append, foldl_standing_moves, ih, List.foldl_cons]

end Connection

namespace RouterRun

/-- Until it is lost, the router knows whether a connection is registered. -/
theorem Tracks.reaches {c : Connection} {registered : Bool} {run last : RouterRun}
    {moves : List RouterMove} (hrun : run.Reaches moves last) (h : run.Tracks c registered)
    (hsole : c.Sole moves) (halive : .lost c.id ∉ moves) :
    last.Tracks c (moves.foldl c.standing registered) := by
  induction hrun generalizing registered with
  | nil => exact h
  | alike halike _ ih => exact ih (h.alike halike) hsole halive
  | @cons run last m rest hrest ih =>
    rw [List.mem_cons, not_or] at halive
    have hmove := h.move (Ne.symm halive.1) fun d hd ↦ hsole d (hd ▸ List.mem_cons_self)
    exact ih hmove hsole.of_cons halive.2

end RouterRun

namespace Relay

variable {config : Config} {r r' r₁ r₂ : Relay} {c c' c₁ c₂ : Running}

/-! ## Courses -/

/-- What the router will hand to a connection when it takes the letters there are. -/
def coming (r : Relay) (c : Running) : List Bytes :=
  (c.connection.packets (r.exchange.router.Registered c.connection) r.awaited).flatMap
    (c.connection.renderings r.exchange.router.table)

/-- What a connection has been handed, and what is on its way to it. -/
def course (r : Relay) (c : Running) : List Bytes := r.exchange.deliveredTo c.id ++ r.coming c

namespace Ledger

theorem registered_iff (h : r.Ledger) (hc : r.connection? c.id = some c) (hopen : c.isOpen = true) :
    r.exchange.router.Registered c.connection ↔
      r.handled.foldl c.connection.told false = true := by
  obtain ⟨moves, hreaches, hhandles, halive⟩ := h.routed_of_isOpen hc hopen
  have htracks := (RouterRun.tracks_start c.connection .standard).reaches hreaches
    (h.sole hc hhandles) halive
  rw [Connection.foldl_standing_of_handles hhandles] at htracks
  exact htracks.mem_iff

/-- **How far the router has got makes no difference to a course.** -/
theorem course_eq (h : r.Ledger) (hc : r.connection? c.id = some c) (hopen : c.isOpen = true) :
    r.course c
      = (c.connection.packets false r.messages).flatMap (c.connection.renderings .standard) := by
  have hregistered : decide (r.exchange.router.Registered c.connection)
      = r.handled.foldl c.connection.told false := by
    rw [Bool.eq_iff_iff, decide_eq_true_iff]
    exact h.registered_iff hc hopen
  rw [course, coming, h.deliveredTo_eq hc hopen, hregistered, h.table, ← List.flatMap_append,
    ← Connection.packets_append, handled_append_awaited]

/-- What is said about a connection is said by it. -/
theorem mem_postedBy (h : r.Ledger) (hc : r.connection? c.id = some c) {m : RouterMessage}
    (hm : m ∈ r.messages) (hsubject : m.subject = some c.connection) : m ∈ r.postedBy c.id := by
  obtain ⟨letter, hletter, rfl⟩ := List.mem_map.1 hm
  rcases h.subjects letter hletter _ hsubject with ⟨hsender, -⟩ | ⟨-, file, hfile, heq⟩
  · exact List.mem_map.2 ⟨letter, List.mem_filter.2 ⟨hletter, decide_eq_true hsender⟩, rfl⟩
  · have hnone := (h.files file hfile).2
    rw [heq] at hnone
    cases hnone.symm.trans hc

end Ledger

theorem Reached.not_deregistered (h : Reached config r) (hc : r.connection? c.id = some c)
    (hphase : c.phase = .running) : .deregister c.connection ∉ r.messages := fun hm ↦
  ((h.history hc).registered hphase).2 (h.ledger.mem_postedBy hc hm rfl)

theorem Reached.told (h : Reached config r) (hc : r.connection? c.id = some c)
    (hphase : c.phase = .running) : r.messages.foldl c.connection.told false = true := by
  refine Connection.foldl_told (.inr ?_) (h.not_deregistered hc hphase)
  obtain ⟨letter, hletter, heq⟩ := List.mem_map.1 ((h.history hc).registered hphase).1
  rw [← heq]
  exact List.mem_map_of_mem (List.mem_filter.1 hletter).1

/-! ## From one relay to a later one -/

/-- What becomes of a connection: it stays what it is, and does not come back. -/
structure Kept (c c' : Running) : Prop where
  spec_eq : c'.spec = c.spec
  closed : c.isOpen = false → c'.isOpen = false
  begun : c.hasBegun = true → c'.hasBegun = true

theorem Kept.refl (c : Running) : Kept c c := ⟨rfl, id, id⟩

theorem Kept.trans {c c' c'' : Running} (h : Kept c c') (h' : Kept c' c'') : Kept c c'' :=
  ⟨h'.spec_eq.trans h.spec_eq, h'.closed ∘ h.closed, h'.begun ∘ h.begun⟩

theorem kept_of_act {messages : List RouterMessage} (hc : r.connection? c.id = some c)
    (hact : c.Act (r.queue c) messages c') {id : ConnectionId} {d : Running}
    (hd : r.connection? id = some d) :
    ∃ d', ((r.post (some c.id) messages).update c').connection? id = some d' ∧ Kept d d' := by
  rw [connection?_act hc hact]
  by_cases hid : id = c.id
  · rw [hid, hc] at hd
    rw [← Option.some.inj hd]
    exact ⟨c', if_pos hid, hact.same.2, hact.closed, hact.begun⟩
  · exact ⟨d, by rw [if_neg hid, hd], .refl d⟩

theorem Change.kept (h : r.Change r') {id : ConnectionId} (hc : r.connection? id = some c) :
    ∃ c', r'.connection? id = some c' ∧ Kept c c' := by
  cases h with
  | aside h =>
    rw [connection?, h.connections]
    exact ⟨c, hc, .refl c⟩
  | comes h => exact ⟨c, connection?_create_of_some hc _, .refl c⟩
  | links hl hphase => exact ⟨c, connection?_create_of_some hc _, .refl c⟩
  | acts hd hact hopen => exact kept_of_act hd hact hc
  | ends hd hact hclosed => exact kept_of_act hd hact hc
  | _ => exact ⟨c, hc, .refl c⟩

theorem Changes.kept (h : r₁.Changes r₂) {id : ConnectionId} (hc : r₁.connection? id = some c) :
    ∃ c', r₂.connection? id = some c' ∧ Kept c c' := by
  induction h with
  | refl => exact ⟨c, hc, .refl c⟩
  | tail _ hchange ih =>
    obtain ⟨c', hc', hkept⟩ := ih
    obtain ⟨c'', hc'', hkept'⟩ := hchange.kept hc'
    exact ⟨c'', hc'', hkept.trans hkept'⟩

/-- A connection of the earlier relay and what it is in the later one. -/
theorem Changes.kept_of (h : r₁.Changes r₂) {id : ConnectionId} (hc₁ : r₁.connection? id = some c₁)
    (hc₂ : r₂.connection? id = some c₂) : Kept c₁ c₂ := by
  obtain ⟨c, hc, hkept⟩ := h.kept hc₁
  rwa [Option.some.inj (hc₂.symm.trans hc)]

theorem isOpen_of_posts {queue : List Bytes} {messages : List RouterMessage}
    (h : c.Act queue messages c') (hposts : messages ≠ []) : c.isOpen = true := by
  cases h with
  | begins due hphase => rw [Running.isOpen, hphase]
  | passes now due hfree hitem => exact isOpen_of_isFree hfree
  | takesLine now errand hfree hitem => exact isOpen_of_isFree hfree
  | answers now due hphase herrand => rw [Running.isOpen, hphase]
  | ends said hopen hsaid => exact hopen
  | _ => exact absurd rfl hposts

/-- What may be posted now: a connection posts while it is open, and the relay itself says what the
monitor has to say. -/
def Permits (r : Relay) (letter : Letter) : Prop :=
  match letter.sender with
  | some id => ∃ c, r.connection? id = some c ∧ c.isOpen = true
  | none => ∀ p ∈ letter.message.packets, p.kind = .status ∨ p.kind = .heartbeat

theorem permits_of_act {messages : List RouterMessage} (hc : r.connection? c.id = some c)
    (hact : c.Act (r.queue c) messages c') :
    ∀ letter ∈ messages.map (Letter.mk (some c.id)), r.Permits letter := by
  intro letter hletter
  obtain ⟨m, hm, rfl⟩ := List.mem_map.1 hletter
  exact ⟨c, hc, isOpen_of_posts hact (List.ne_nil_of_mem hm)⟩

theorem permits_bulletins (bulletins : List Bulletin) :
    ∀ letter ∈ (bulletins.map fun b ↦ RouterMessage.data (b.packets r.stamp)).map (Letter.mk none),
      r.Permits letter := by
  intro letter hletter
  obtain ⟨m, hm, rfl⟩ := List.mem_map.1 hletter
  obtain ⟨b, -, rfl⟩ := List.mem_map.1 hm
  rw [Permits]
  intro p hp
  cases b with
  | status state => exact .inl (Packet.kind_of_mem_split hp)
  | heartbeat => exact .inr (Packet.kind_of_mem_split hp)

theorem Change.posted (h : r.Change r') :
    ∃ new, r'.mail.posted = r.mail.posted ++ new ∧ ∀ letter ∈ new, r.Permits letter := by
  cases h with
  | aside h =>
    rw [h.mail]
    exact ⟨[], (List.append_nil _).symm, by simp⟩
  | opens file =>
    refine ⟨_, rfl, fun letter hletter ↦ ?_⟩
    obtain rfl := List.mem_singleton.1 hletter
    exact fun p hp ↦ absurd hp List.not_mem_nil
  | publishes bulletins => exact ⟨_, rfl, permits_bulletins bulletins⟩
  | acts hc hact hopen => exact ⟨_, rfl, permits_of_act hc hact⟩
  | ends hc hact hclosed => exact ⟨_, rfl, permits_of_act hc hact⟩
  | routes htake =>
    obtain ⟨-, rfl⟩ := Mailbox.take?_eq_some_iff.1 htake
    exact ⟨[], (List.append_nil _).symm, by simp⟩
  | _ => exact ⟨[], (List.append_nil _).symm, by simp⟩

/-- The packets of a letter are such as its sender may bring. -/
theorem Reached.brings (h : Reached config r) {letter : Letter} (hletter : letter ∈ r.mail.posted)
    {p : Packet} (hp : p ∈ letter.message.packets) :
    (letter.sender = none ∧ (p.kind = .status ∨ p.kind = .heartbeat)) ∨
      ∃ id c, letter.sender = some id ∧ r.connection? id = some c ∧
        c.spec.inbound.Brings p.kind := by
  rcases hsender : letter.sender with _ | id
  · -- What may be posted was decided when it was posted.
    refine .inl ⟨rfl, ?_⟩
    induction h with
    | start h => simp [h.mail_eq, Mailbox.empty] at hletter
    | change _ hchange ih =>
      obtain ⟨new, hnew, hpermits⟩ := hchange.posted
      rw [hnew] at hletter
      rcases List.mem_append.1 hletter with hold | hnew
      · exact ih hold
      · have hpermit := hpermits letter hnew
        rw [Permits, hsender] at hpermit
        exact hpermit p hp
  · obtain ⟨c, hc⟩ := Option.isSome_iff_exists.1 (h.ledger.senders letter hletter id hsender)
    refine .inr ⟨id, c, rfl, hc, (h.history hc).brings ?_⟩
    refine List.mem_flatMap.2 ⟨letter.message, List.mem_map.2 ⟨letter, ?_, rfl⟩, hp⟩
    exact List.mem_filter.2 ⟨hletter, decide_eq_true hsender⟩

/-- The letters that have been posted since. -/
def since (r₁ r₂ : Relay) : List Letter := r₂.mail.posted.drop r₁.mail.posted.length

theorem Changes.posted_eq (h : r₁.Changes r₂) :
    r₂.mail.posted = r₁.mail.posted ++ r₁.since r₂ := by
  have hprefix : r₁.mail.posted <+: r₂.mail.posted := by
    induction h with
    | refl => exact List.prefix_rfl
    | tail _ hchange ih =>
      obtain ⟨new, hnew, -⟩ := hchange.posted
      rw [hnew]
      exact ih.trans (List.prefix_append _ _)
  obtain ⟨new, hnew⟩ := hprefix
  rw [since, ← hnew, List.drop_left]

theorem Changes.mem_posted (h : r₁.Changes r₂) {letter : Letter} (hletter : letter ∈ r₁.since r₂) :
    letter ∈ r₂.mail.posted := by
  rw [h.posted_eq]
  exact List.mem_append_right _ hletter

theorem Changes.postedBy_eq (h : r₁.Changes r₂) (id : ConnectionId) :
    r₂.postedBy id
      = r₁.postedBy id ++ ((r₁.since r₂).filter (·.sender = some id)).map (·.message) := by
  rw [postedBy, h.posted_eq, List.filter_append, List.map_append, postedBy]

/-- The packets of several letters. -/
def packetsOf (letters : List Letter) : List Packet := letters.flatMap fun l ↦ l.message.packets

/-- Parts of letters that can be told to be from certain letters are the parts of those letters. -/
theorem filter_flatMap_of_iff {α : Type} {parts : Letter → List α} {p : α → Bool} {q : Letter → Bool}
    {letters : List Letter} (h : ∀ l ∈ letters, ∀ a ∈ parts l, p a = q l) :
    (letters.flatMap parts).filter p = (letters.filter q).flatMap parts := by
  induction letters with
  | nil => rfl
  | cons l rest ih =>
    have hl := h l List.mem_cons_self
    have hrest := ih fun other hother ↦ h other (List.mem_cons_of_mem l hother)
    rw [List.flatMap_cons, List.filter_append, hrest]
    by_cases hq : q l = true
    · have hall : (parts l).filter p = parts l := by
        rw [List.filter_eq_self]
        exact fun a ha ↦ (hl a ha).trans hq
      rw [List.filter_cons_of_pos hq, List.flatMap_cons, hall]
    · have hnone : (parts l).filter p = [] := by
        rw [List.filter_eq_nil_iff]
        intro a ha
        rwa [hl a ha]
      rw [List.filter_cons_of_neg hq, hnone, List.nil_append]

/-- **While a connection stays registered, its course grows by what is posted.** -/
theorem Reached.course_since (h : Reached config r₁) (hlater : r₁.Changes r₂)
    (hc₁ : r₁.connection? c₁.id = some c₁) (hphase₁ : c₁.phase = .running)
    (hc₂ : r₂.connection? c₁.id = some c₂) (hphase₂ : c₂.phase = .running) :
    r₂.course c₂ = r₁.course c₁
      ++ (packetsOf (r₁.since r₂)).flatMap (c₁.connection.renderings .standard) := by
  have h₂ := h.changes hlater
  have hid : c₂.id = c₁.id := id_of_connection? hc₂
  have hsame : c₂.connection = c₁.connection := by
    rw [Running.connection, Running.connection, hid, (hlater.kept_of hc₁ hc₂).spec_eq]
  rw [← hid] at hc₂
  -- It is registered at the first moment, and nothing that is posted later changes that.
  have hout := h₂.not_deregistered hc₂ hphase₂
  rw [messages, hlater.posted_eq, List.map_append, List.mem_append, not_or, hsame] at hout
  rw [h₂.ledger.course_eq hc₂ (by rw [Running.isOpen, hphase₂]), hsame,
    h.ledger.course_eq hc₁ (by rw [Running.isOpen, hphase₁]), messages, hlater.posted_eq,
    List.map_append, Connection.packets_append, ← messages, h.told hc₁ hphase₁,
    Connection.packets_of_registered hout.2, List.flatMap_append, List.flatMap_map]
  rfl

end Relay

end InstrumentRelay
