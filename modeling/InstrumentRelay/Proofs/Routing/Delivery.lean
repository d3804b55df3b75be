import InstrumentRelay.Proofs.Routing.Moves

/-!
# What a connection gets

What is handed to a connection is a matter between it and the packets: for each packet handled while
the connection is registered and its far end is there, one rendering for each target of the packet's
kind that names the connection's endpoint, in the order of the table. Other connections have no part
in it, nor has the order in which the router keeps them.

The history of one connection is read off the moves (`Connection.writes`), with a single bit of
state, whether it is registered. `Tracks` ties that bit to the router. The moves after the loss of
the connection are cut off beforehand (`Connection.lifetime`): the router may go on taking a lost
connection for registered until it next serves its endpoint, and nothing is to be said about that.
-/

namespace InstrumentRelay

namespace Connection

variable (c : Connection)

/-! ## The history of one connection -/

/-- Whether the connection is registered after a move, given whether it was before. -/
def standing (registered : Bool) : RouterMove → Bool
  | .register d => registered || decide (d = c)
  | .deregister d => registered && decide (d ≠ c)
  | .serve _ _ => registered
  | .lost _ => registered

/-- What the connection is to get from a move. -/
def gets (registered : Bool) : RouterMove → List Bytes
  | .serve p target =>
    if registered ∧ target.endpoint = c.endpoint then [p.render target.rendering] else []
  | _ => []

/-- What the connection is to get from several moves. -/
def writes (registered : Bool) : List RouterMove → List Bytes
  | [] => []
  | m :: rest => c.gets registered m ++ writes (c.standing registered m) rest

/-- The moves before the connection is lost. -/
def lifetime (moves : List RouterMove) : List RouterMove :=
  moves.takeWhile fun m ↦ decide (m ≠ .lost c.id)

/-- The packets that are handled while the connection is registered. -/
def packets (registered : Bool) : List RouterMessage → List Packet
  | [] => []
  | .register d :: rest => packets (registered || decide (d = c)) rest
  | .deregister d :: rest => packets (registered && decide (d ≠ c)) rest
  | .data handled :: rest => (if registered then handled else []) ++ packets registered rest

/-- The forms in which a packet reaches the connection, in the order of the table. -/
def renderings (table : RouteTable) (p : Packet) : List Bytes :=
  ((table.targetsFor p.kind).filter (·.endpoint = c.endpoint)).map fun target ↦
    p.render target.rendering

/-- The move is about the connection, or about packets for its endpoint. -/
def concerns : RouterMove → Bool
  | .register d => d = c
  | .deregister d => d = c
  | .serve _ target => target.endpoint = c.endpoint
  | .lost id => id = c.id

/-- The move asks for what is the case already. -/
def repeats (registered : Bool) : RouterMove → Prop
  | .register d => d = c ∧ registered = true
  | .deregister d => d = c ∧ registered = false
  | _ => False

/-- No other connection goes by the same number. -/
def Sole (moves : List RouterMove) : Prop := ∀ d, .register d ∈ moves → d.id = c.id → d = c

variable {c}

theorem lifetime_cons_of_ne {m : RouterMove} (h : m ≠ .lost c.id) (rest : List RouterMove) :
    c.lifetime (m :: rest) = m :: c.lifetime rest := by
  simp [lifetime, h]

theorem lifetime_cons_lost (rest : List RouterMove) : c.lifetime (.lost c.id :: rest) = [] := by
  simp [lifetime]

theorem Sole.of_cons {m : RouterMove} {rest : List RouterMove} (h : c.Sole (m :: rest)) :
    c.Sole rest := fun d hd ↦ h d (List.mem_cons_of_mem m hd)

/-! ## Moves that make no difference -/

/-- A move that gives the connection nothing and leaves it registered or not. -/
def Idle (c : Connection) (m : RouterMove) : Prop :=
  ∀ registered, c.gets registered m = [] ∧ c.standing registered m = registered

theorem idle_lost (id : ConnectionId) : c.Idle (.lost id) := fun _ ↦ ⟨rfl, rfl⟩

theorem idle_of_concerns {m : RouterMove} (h : c.concerns m = false) : c.Idle m := by
  intro registered
  cases m <;> simp_all [concerns, gets, standing]

theorem writes_filter {q : RouterMove → Bool} (h : ∀ m, q m = false → c.Idle m)
    (registered : Bool) (moves : List RouterMove) :
    c.writes registered (moves.filter q) = c.writes registered moves := by
  induction moves generalizing registered with
  | nil => rfl
  | cons m rest ih =>
    cases hq : q m with
    | true => rw [List.filter_cons_of_pos hq, writes, writes, ih]
    | false =>
      have hidle := h m hq registered
      rw [List.filter_cons_of_neg (by simp [hq]), writes, hidle.1, hidle.2, ih]
      rfl

theorem lifetime_filter_concerns (moves : List RouterMove) :
    c.lifetime (moves.filter c.concerns) = (c.lifetime moves).filter c.concerns := by
  induction moves with
  | nil => rfl
  | cons m rest ih =>
    by_cases hlost : m = .lost c.id
    · subst hlost
      rw [List.filter_cons_of_pos (by simp [concerns]), lifetime_cons_lost, lifetime_cons_lost]
      rfl
    · rw [lifetime_cons_of_ne hlost]
      cases hm : c.concerns m with
      | true => rw [List.filter_cons_of_pos hm, List.filter_cons_of_pos hm,
          lifetime_cons_of_ne hlost, ih]
      | false => rw [List.filter_cons_of_neg (by simp [hm]), List.filter_cons_of_neg (by simp [hm]),
          ih]

/-- To ask again for what is the case makes no difference. -/
theorem writes_lifetime_of_repeats {registered : Bool} {before : List RouterMove} {m : RouterMove}
    (after : List RouterMove) (h : c.repeats (before.foldl c.standing registered) m) :
    c.writes registered (c.lifetime (before ++ m :: after))
      = c.writes registered (c.lifetime (before ++ after)) := by
  induction before generalizing registered with
  | nil =>
    have hlost : m ≠ .lost c.id := by
      rintro rfl
      exact h
    have hsame : c.gets registered m = [] ∧ c.standing registered m = registered := by
      cases m <;> simp_all [repeats, gets, standing]
    rw [List.nil_append, lifetime_cons_of_ne hlost, writes, hsame.1, hsame.2]
    rfl
  | cons first rest ih =>
    by_cases hlost : first = .lost c.id
    · subst hlost
      rw [List.cons_append, List.cons_append, lifetime_cons_lost, lifetime_cons_lost]
    · rw [List.cons_append, List.cons_append, lifetime_cons_of_ne hlost,
        lifetime_cons_of_ne hlost, writes, writes, ih h]

/-! ## Packets -/

theorem writes_serves (registered : Bool) (p : Packet) (targets : List Target)
    (rest : List RouterMove) :
    c.writes registered (targets.map (.serve p) ++ rest)
      = (if registered then
          (targets.filter (·.endpoint = c.endpoint)).map fun target ↦ p.render target.rendering
        else []) ++ c.writes registered rest := by
  induction targets with
  | nil => simp
  | cons target others ih =>
    rw [List.map_cons, List.cons_append, writes, standing, ih]
    by_cases he : target.endpoint = c.endpoint <;> cases registered <;> simp [gets, he]

theorem writes_data (registered : Bool) (table : RouteTable) (handled : List Packet)
    (rest : List RouterMove) :
    c.writes registered ((RouterMessage.data handled).moves table ++ rest)
      = (if registered then handled.flatMap (c.renderings table) else [])
        ++ c.writes registered rest := by
  induction handled with
  | nil => simp [RouterMessage.moves]
  | cons p others ih =>
    rw [RouterMessage.moves] at ih
    rw [RouterMessage.moves, List.flatMap_cons, List.append_assoc, writes_serves, ih]
    cases registered <;> simp [renderings]

/-- A connection gets one rendering for each packet handled while it is registered, and for each
target of that packet. -/
theorem writes_moves (registered : Bool) (table : RouteTable) (messages : List RouterMessage) :
    c.writes registered (messages.flatMap (·.moves table))
      = (c.packets registered messages).flatMap (c.renderings table) := by
  induction messages generalizing registered with
  | nil => rfl
  | cons m rest ih =>
    rw [List.flatMap_cons]
    cases m with
    | data handled =>
      rw [writes_data, ih, packets, List.flatMap_append]
      cases registered <;> rfl
    | register d => exact ih _
    | deregister d => exact ih _

theorem writes_of_handles {table : RouteTable} {messages : List RouterMessage}
    {moves : List RouterMove} (h : Handles table messages moves) (registered : Bool) :
    c.writes registered moves = (c.packets registered messages).flatMap (c.renderings table) := by
  rw [← writes_moves, ← h]
  refine (writes_filter (fun m hm ↦ ?_) registered moves).symm
  cases m with
  | lost id => exact idle_lost id
  | _ => exact Bool.noConfusion hm

end Connection

namespace RouterRun

/-! ## The router knows who is registered -/

/-- The router takes the connection for registered exactly if it is, and its far end is there. -/
structure Tracks (c : Connection) (registered : Bool) (run : RouterRun) : Prop where
  /-- No endpoint has a connection twice. -/
  nodup : ∀ e, (run.router.members.get e).Nodup
  /-- Under its own endpoint. -/
  mem_iff : c.id ∈ run.router.members.get c.endpoint ↔ registered = true
  /-- And under no other. -/
  not_mem : ∀ e, e ≠ c.endpoint → c.id ∉ run.router.members.get e
  /-- Its far end is there. -/
  alive : c.id ∉ run.lost

theorem tracks_start (c : Connection) (table : RouteTable) : (start table).Tracks c false := by
  refine ⟨fun e ↦ ?_, ?_, fun e _ ↦ ?_, ?_⟩ <;> simp [start, Router.start]

theorem Tracks.alike {c : Connection} {registered : Bool} {run run' : RouterRun}
    (h : run.Tracks c registered) (halike : run.Alike run') : run'.Tracks c registered where
  nodup e := (halike.members e).nodup_iff.1 (h.nodup e)
  mem_iff := (halike.members c.endpoint).mem_iff.symm.trans h.mem_iff
  not_mem e he := fun hid ↦ h.not_mem e he ((halike.members e).mem_iff.2 hid)
  alive := halike.lost ▸ h.alive

theorem Tracks.move_register {c : Connection} {registered : Bool} {run : RouterRun}
    (h : run.Tracks c registered) {d : Connection} (hd : d.id = c.id → d = c) :
    (run.move (.register d)).Tracks c (c.standing registered (.register d)) where
  nodup e := Router.nodup_register (h.nodup e) d
  mem_iff := by
    simp only [move, Router.mem_register, h.mem_iff, Connection.standing, Bool.or_eq_true,
      decide_eq_true_eq]
    refine or_congr_right ⟨fun hid ↦ hd hid.2.symm, ?_⟩
    rintro rfl
    exact ⟨rfl, rfl⟩
  not_mem e he := by
    simp only [move, Router.mem_register]
    rintro (hid | ⟨rfl, hid⟩)
    · exact h.not_mem e he hid
    · exact he (congrArg Connection.endpoint (hd hid.symm))
  alive := h.alive

theorem Tracks.move_deregister {c : Connection} {registered : Bool} {run : RouterRun}
    (h : run.Tracks c registered) (d : Connection) :
    (run.move (.deregister d)).Tracks c (c.standing registered (.deregister d)) where
  nodup e := Router.nodup_deregister (h.nodup e) d
  mem_iff := by
    simp only [move, Router.mem_deregister, h.mem_iff, Connection.standing, Bool.and_eq_true,
      decide_eq_true_eq]
    refine and_congr_right fun _ ↦ not_congr ⟨fun hd ↦ ?_, ?_⟩
    · cases d
      cases c
      simp_all
    · rintro rfl
      exact ⟨rfl, rfl⟩
  not_mem e he := fun hid ↦ h.not_mem e he (Router.mem_deregister.1 hid).1
  alive := h.alive

theorem Tracks.move_serve {c : Connection} {registered : Bool} {run : RouterRun}
    (h : run.Tracks c registered) (p : Packet) (target : Target) :
    (run.move (.serve p target)).Tracks c registered where
  nodup e := Router.nodup_serve (h.nodup e)
  mem_iff := by
    have hopen : run.isOpen c.id = true := by simpa [isOpen] using h.alive
    refine Iff.trans ?_ h.mem_iff
    exact Router.mem_serve.trans (and_iff_left fun _ ↦ hopen)
  not_mem e he := fun hid ↦ h.not_mem e he (Router.mem_serve.1 hid).1
  alive := h.alive

theorem Tracks.move_lost {c : Connection} {registered : Bool} {run : RouterRun}
    (h : run.Tracks c registered) {id : ConnectionId} (hid : id ≠ c.id) :
    (run.move (.lost id)).Tracks c registered where
  nodup := h.nodup
  mem_iff := h.mem_iff
  not_mem := h.not_mem
  alive := by
    rw [move, List.mem_cons, not_or]
    exact ⟨hid.symm, h.alive⟩

/-- Before its loss, every move leaves the router knowing whether the connection is registered. -/
theorem Tracks.move {c : Connection} {registered : Bool} {run : RouterRun}
    (h : run.Tracks c registered) {m : RouterMove} (hlost : m ≠ .lost c.id)
    (hsole : ∀ d, m = .register d → d.id = c.id → d = c) :
    (run.move m).Tracks c (c.standing registered m) := by
  cases m with
  | register d => exact h.move_register (hsole d rfl)
  | deregister d => exact h.move_deregister d
  | serve p target => exact h.move_serve p target
  | lost id => exact h.move_lost fun hid ↦ hlost (hid ▸ rfl)

/-- Before its loss, the connection is handed what it is to get. -/
theorem Tracks.deliveredTo_move {c : Connection} {registered : Bool} {run : RouterRun}
    (h : run.Tracks c registered) (m : RouterMove) :
    (run.move m).deliveredTo c.id = run.deliveredTo c.id ++ c.gets registered m := by
  cases m with
  | register d => exact (List.append_nil _).symm
  | deregister d => exact (List.append_nil _).symm
  | lost id => exact (List.append_nil _).symm
  | serve p target =>
    have hopen : run.isOpen c.id = true := by simpa [isOpen] using h.alive
    have hmem : c.id ∈ run.router.members.get target.endpoint ↔
        registered = true ∧ target.endpoint = c.endpoint := by
      by_cases he : target.endpoint = c.endpoint
      · rw [he, h.mem_iff]
        exact (and_iff_left rfl).symm
      · exact iff_of_false (h.not_mem _ he) fun hr ↦ he hr.2
    have hserve := bytesTo_serve run.isOpen p c.id (h.nodup target.endpoint)
    simp only [hmem, hopen, and_true] at hserve
    exact (bytesTo_append c.id _ _).trans (congrArg _ hserve)

/-- A connection that is lost is handed nothing more. -/
theorem deliveredTo_move_of_lost {id : ConnectionId} {run : RouterRun} (h : id ∈ run.lost)
    (m : RouterMove) :
    id ∈ (run.move m).lost ∧ (run.move m).deliveredTo id = run.deliveredTo id := by
  cases m with
  | register d => exact ⟨h, rfl⟩
  | deregister d => exact ⟨h, rfl⟩
  | lost other => exact ⟨List.mem_cons_of_mem other h, rfl⟩
  | serve p target =>
    refine ⟨h, ?_⟩
    have hclosed : run.isOpen id = false := by simpa [isOpen] using h
    have hnone := bytesTo_serve_of_closed p run.router target hclosed
    rw [move, deliveredTo, handOver, ← bytesTo, bytesTo_append, hnone, List.append_nil]
    rfl

theorem deliveredTo_of_lost {id : ConnectionId} {run last : RouterRun} {moves : List RouterMove}
    (hrun : run.Reaches moves last) (h : id ∈ run.lost) :
    last.deliveredTo id = run.deliveredTo id := by
  induction hrun with
  | nil => rfl
  | @cons run last m rest _ ih =>
    obtain ⟨hlost, hsame⟩ := deliveredTo_move_of_lost h m
    exact (ih hlost).trans hsame
  | @alike run run' last moves halike _ ih =>
    refine (ih (halike.lost ▸ h)).trans ?_
    rw [deliveredTo, ← halike.deliveries]
    rfl

/-! ## Who the router takes for registered -/

/-- Whoever the router takes for registered after a move was registered before or is by the move. -/
theorem standing_of_mem_move {run : RouterRun} {m : RouterMove} {e : Endpoint} {id : ConnectionId}
    {registered : Bool} (h : id ∈ (run.move m).router.members.get e)
    (hbefore : id ∈ run.router.members.get e → registered = true) :
    Connection.standing ⟨id, e⟩ registered m = true := by
  cases m with
  | register d =>
    rw [Connection.standing, Bool.or_eq_true, decide_eq_true_eq]
    rcases Router.mem_register.1 h with hold | ⟨rfl, rfl⟩
    · exact .inl (hbefore hold)
    · exact .inr rfl
  | deregister d =>
    obtain ⟨hold, hother⟩ := Router.mem_deregister.1 h
    rw [Connection.standing, Bool.and_eq_true, decide_eq_true_eq]
    refine ⟨hbefore hold, ?_⟩
    rintro rfl
    exact hother ⟨rfl, rfl⟩
  | serve p target => exact hbefore (Router.mem_serve.1 h).1
  | lost other => exact hbefore h

/-- **Whoever the router takes for registered is registered**, though perhaps lost. -/
theorem standing_of_mem {run last : RouterRun} {moves : List RouterMove}
    (hrun : run.Reaches moves last) {e : Endpoint} {id : ConnectionId} {registered : Bool}
    (hbefore : id ∈ run.router.members.get e → registered = true)
    (h : id ∈ last.router.members.get e) :
    moves.foldl (Connection.standing ⟨id, e⟩) registered = true := by
  induction hrun generalizing registered with
  | nil => exact hbefore h
  | alike halike _ ih => exact ih (fun hid ↦ hbefore ((halike.members e).mem_iff.2 hid)) h
  | cons _ ih => exact ih (fun hid ↦ standing_of_mem_move hid hbefore) h

theorem nodup_members {run last : RouterRun} {moves : List RouterMove}
    (hrun : run.Reaches moves last) {e : Endpoint} (h : (run.router.members.get e).Nodup) :
    (last.router.members.get e).Nodup := by
  induction hrun with
  | nil => exact h
  | alike halike _ ih => exact ih ((halike.members e).nodup_iff.1 h)
  | @cons run last m rest _ ih =>
    refine ih ?_
    cases m with
    | register d => exact Router.nodup_register h d
    | deregister d => exact Router.nodup_deregister h d
    | serve p target => exact Router.nodup_serve h
    | lost id => exact h

/-! ## Whole runs -/

/-- **A connection gets what its own history says.** -/
theorem deliveredTo_of_reaches {c : Connection} {registered : Bool} {run last : RouterRun}
    {moves : List RouterMove} (hrun : run.Reaches moves last) (h : run.Tracks c registered)
    (hsole : c.Sole moves) :
    last.deliveredTo c.id = run.deliveredTo c.id ++ c.writes registered (c.lifetime moves) := by
  induction hrun generalizing registered with
  | nil => exact (List.append_nil _).symm
  | @alike run run' last moves halike _ ih =>
    rw [ih (h.alike halike) hsole, deliveredTo, ← halike.deliveries]
    rfl
  | @cons run last m rest hrest ih =>
    by_cases hlost : m = .lost c.id
    · subst hlost
      rw [deliveredTo_of_lost hrest List.mem_cons_self, Connection.lifetime_cons_lost]
      exact (List.append_nil _).symm
    · have hmove := h.move hlost fun d hd ↦ hsole d (hd ▸ List.mem_cons_self)
      rw [ih hmove hsole.of_cons, h.deliveredTo_move, Connection.lifetime_cons_of_ne hlost,
        Connection.writes, List.append_assoc]

theorem deliveredTo_of_start {table : RouteTable} {moves : List RouterMove} {run : RouterRun}
    (hrun : (start table).Reaches moves run) {c : Connection} (hsole : c.Sole moves) :
    run.deliveredTo c.id = c.writes false (c.lifetime moves) :=
  deliveredTo_of_reaches hrun (tracks_start c table) hsole

/-- **A connection gets what its own history says, and nothing else.** Whatever other connections do
and in whatever order they are kept, it is handed what its moves up to its loss give it. Of packets
that are handled in full that is each rendering of each of them, in order. Runs that agree on the
moves that concern the connection hand it the same, and so do runs that differ in a registration of
what is registered already, or in a deregistration of what is not. -/
theorem deliveredTo_exact {table : RouteTable} {moves : List RouterMove} {run : RouterRun}
    (hrun : (start table).Reaches moves run) {c : Connection} (hsole : c.Sole moves) :
    run.deliveredTo c.id = c.writes false (c.lifetime moves) ∧
      (∀ messages, Handles table messages (c.lifetime moves) →
        run.deliveredTo c.id = (c.packets false messages).flatMap (c.renderings table)) ∧
      (∀ moves' run', (start table).Reaches moves' run' → c.Sole moves' →
        moves'.filter c.concerns = moves.filter c.concerns →
          run'.deliveredTo c.id = run.deliveredTo c.id) ∧
      (∀ before m after run', moves = before ++ m :: after →
        c.repeats (before.foldl c.standing false) m → (start table).Reaches (before ++ after) run' →
          run'.deliveredTo c.id = run.deliveredTo c.id) := by
  have hdelivered := deliveredTo_of_start hrun hsole
  refine ⟨hdelivered, ?_, ?_, ?_⟩
  · intro messages hmessages
    rw [hdelivered, Connection.writes_of_handles hmessages]
  · intro moves' run' hrun' hsole' hsame
    -- The other moves change nothing, on either side.
    have hidle : ∀ m, c.concerns m = false → c.Idle m := fun m ↦ Connection.idle_of_concerns
    rw [hdelivered, deliveredTo_of_start hrun' hsole', ← Connection.writes_filter hidle,
      ← Connection.writes_filter hidle false (c.lifetime moves),
      ← Connection.lifetime_filter_concerns, ← Connection.lifetime_filter_concerns, hsame]
  · rintro before m after run' rfl hrepeats hrun'
    have hsole' : c.Sole (before ++ after) := by
      intro d hd
      refine hsole d ?_
      rcases List.mem_append.1 hd with hbefore | hafter
      · exact List.mem_append_left _ hbefore
      · exact List.mem_append_right _ (List.mem_cons_of_mem m hafter)
    rw [hdelivered, deliveredTo_of_start hrun' hsole',
      Connection.writes_lifetime_of_repeats after hrepeats]

/-- Two greetings reach a driver that registers twice, although another one is lost in between. -/
theorem deliveredTo_rawDriver_beside_lost :
    let table := RouteTable.ofRoutes [⟨.all, .rawDriver, .payload⟩]
    let greeting : Packet := ⟨.fromInstrument, ⟨0⟩, [0x68, 0x69], by decide⟩
    let c : Connection := ⟨⟨0⟩, .rawDriver⟩
    let d : Connection := ⟨⟨1⟩, .rawDriver⟩
    let moves := [.register d, .register c, .serve greeting ⟨.rawDriver, .payload⟩, .lost d.id,
      .register c, .serve greeting ⟨.rawDriver, .payload⟩]
    (start table).Reaches moves (moves.foldl move (start table)) ∧ c.Sole moves ∧
      Handles table [.register d, .register c, .data [greeting], .register c, .data [greeting]]
        (c.lifetime moves) ∧
      (moves.foldl move (start table)).deliveredTo c.id = [greeting.payload, greeting.payload] := by
  intro table greeting c d moves
  have hrun := reaches_foldl (start table) moves
  have hsole : c.Sole moves := by
    simp [Connection.Sole, moves, c, d]
  have hhandles : Handles table
      [.register d, .register c, .data [greeting], .register c, .data [greeting]]
      (c.lifetime moves) := by decide
  exact ⟨hrun, hsole, hhandles, (deliveredTo_exact hrun hsole).2.1 _ hhandles⟩

end RouterRun

end InstrumentRelay
