import Mathlib.Algebra.GroupWithZero.Nat
import InstrumentRelay.Proofs.Routing.Counting

/-!
# What the reports add up to

The counters of a router are cleared with every report, and a report is published only if there are
counters for drivers at that moment. They appear with the first thing that is counted, so a report
that is not published has nothing to tell, and what is cleared with it is zero. That is all it takes
for the accounts to balance: whenever reports are made, what they say and what is counted since the
last one is what has been counted in all.

What has been counted in all is read off the moves and the deliveries here, not off the counters.
So is the number of connections in a report. A connection counts as registered from its registration
until it is deregistered or until something is handed to its endpoint while its far end is gone
(`Connection.countedAfter`).

Reports may come between any two moves of the router, so also while a message is handled, and the
connections may be lost and be kept in any order, as in `InstrumentRelay.Proofs.Routing.Moves`. The
order is an event of the run here, since the counters have to be kept along.
-/

namespace InstrumentRelay

/-- What can happen to a router, move by move. -/
inductive RouterTurn where
  /-- A move is made. -/
  | move (m : RouterMove)
  /-- The connections of an endpoint are kept in another order. -/
  | rearrange (e : Endpoint) (ids : List ConnectionId)
  /-- The traffic is reported. -/
  | report (refdes : String)
  deriving DecidableEq

namespace RouterTurn

/-- The move that a turn makes, if it makes one. -/
def move? : RouterTurn → Option RouterMove
  | move m => some m
  | _ => none

/-- The length of the frame that is routed to drivers. -/
def bytesForDrivers : RouterTurn → Nat
  | move (.serve p target) => if target.endpoint = .driver then p.frameSize else 0
  | _ => 0

/-- A driver is registered. -/
def addsDriver : RouterTurn → Bool
  | move (.register c) => c.endpoint = .driver
  | _ => false

end RouterTurn

/-- An event as turns. -/
def RouterEvent.turns (table : RouteTable) : RouterEvent → List RouterTurn
  | message m => (m.moves table).map .move
  | lost id => [.move (.lost id)]
  | report refdes => [.report refdes]

namespace RouterRun

/-- One turn. An order that is not one of the connections is none. -/
def turn (run : RouterRun) : RouterTurn → RouterRun
  | .move m => run.move m
  | .rearrange e ids =>
    if ids.Perm (run.router.members.get e) then
      { run with router :=
        { run.router with members := run.router.members.modify e fun _ ↦ ids } }
    else run
  | .report refdes => run.step (.report refdes)

/-- One turn after the other. -/
def play (run : RouterRun) (turns : List RouterTurn) : RouterRun := turns.foldl turn run

/-- The lengths of the frames that a turn writes to drivers, one for each delivery. -/
def written (run : RouterRun) (t : RouterTurn) : Nat :=
  t.bytesForDrivers * ((run.turn t).deliveries.length - run.deliveries.length)

/-- The lengths of the frames that several turns write to drivers. -/
def bytesWritten (run : RouterRun) : List RouterTurn → Nat
  | [] => 0
  | t :: rest => run.written t + (run.turn t).bytesWritten rest

theorem play_map_move (run : RouterRun) (moves : List RouterMove) :
    run.play (moves.map .move) = moves.foldl move run := by
  rw [play, List.foldl_map]
  rfl

/-- The run that is made is made of turns. -/
theorem runAll_eq_play (run : RouterRun) (events : List RouterEvent) :
    run.runAll events = run.play (events.flatMap (·.turns run.router.table)) := by
  induction events generalizing run with
  | nil => rfl
  | cons e rest ih =>
    have hrest := ih (run.step e)
    rw [table_step] at hrest
    have hfirst : run.step e = run.play (e.turns run.router.table) := by
      cases e with
      | message m => rw [step_message, RouterEvent.turns, play_map_move]
      | lost id => rfl
      | report refdes => rfl
    rw [List.flatMap_cons, play, List.foldl_append]
    change (run.step e).runAll rest = (run.play (e.turns run.router.table)).play _
    rw [← hfirst, hrest]

/-! ## What is counted -/

section Counting

variable (run : RouterRun)

theorem bytesForDrivers_move (m : RouterMove) :
    (RouterTurn.move m).bytesForDrivers = ((m.served .driver).map (·.1.frameSize)).sum := by
  cases m with
  | serve p target =>
    rw [RouterTurn.bytesForDrivers, RouterMove.served]
    split <;> rfl
  | register c | deregister c | lost id => rfl

/-- What is written to drivers is what their writings come to. -/
theorem written_move (m : RouterMove) :
    run.written (.move m) = ((run.writesTo .driver m).map (·.packet.frameSize)).sum := by
  have hmade : (run.turn (.move m)).deliveries.length - run.deliveries.length
      = (run.writes m).length := by
    rw [turn, deliveries_move, List.length_append, Nat.add_sub_cancel_left, List.length_map]
  rw [written, hmade]
  cases m with
  | serve p target =>
    rw [writesTo_serve, writes_serve, RouterTurn.bytesForDrivers]
    by_cases he : target.endpoint = .driver
    · simp [he, Function.comp_def, Nat.mul_comm]
    · simp [he]
  | register c | deregister c | lost id => rfl

/-- A move adds to the counters of drivers what it routes and writes to them. -/
theorem counters_move (m : RouterMove) :
    ((run.move m).router.traffic.get .driver).bytesIn
        = (run.router.traffic.get .driver).bytesIn + (RouterTurn.move m).bytesForDrivers ∧
      ((run.move m).router.traffic.get .driver).bytesOut
        = (run.router.traffic.get .driver).bytesOut + run.written (.move m) ∧
      ((run.move m).router.traffic.get .driver).adds
        = (run.router.traffic.get .driver).adds + (RouterTurn.move m).addsDriver.toNat := by
  obtain ⟨⟨-, hin⟩, -, hout⟩ := run.traffic_move .driver m
  have hadds : (RouterTurn.move m).addsDriver = m.adds .driver := by cases m <;> rfl
  rw [bytesForDrivers_move, written_move, hadds]
  exact ⟨hin, hout, run.adds_move .driver m⟩

theorem reports_move (m : RouterMove) : (run.move m).reports = run.reports := by
  cases m <;> rfl

theorem turn_rearrange (e : Endpoint) (ids : List ConnectionId) :
    ∃ members, run.turn (.rearrange e ids)
      = { run with router := { run.router with members := members } } := by
  rw [turn]
  split
  · exact ⟨_, rfl⟩
  · exact ⟨run.router.members, rfl⟩

theorem perm_rearrange (e e' : Endpoint) (ids : List ConnectionId) :
    ((run.turn (.rearrange e ids)).router.members.get e').Perm (run.router.members.get e') := by
  rw [turn]
  split
  case isTrue hperm =>
    rw [PerEndpoint.get_modify]
    split
    case isTrue he => exact he ▸ hperm
    case isFalse => exact .refl _
  case isFalse => exact .refl _

variable (said : TrafficReport → Nat) (counted : Counters → Nat)

/-- What reports have said, and what is counted since the last one. -/
def balance : Nat := (run.reports.map said).sum + counted (run.router.traffic.get .driver)

/-- A report moves what is counted to what is said, if there is anything. -/
theorem balance_report (refdes : String) (hzero : counted {} = 0)
    (hsaid : ∀ n connections,
      said ⟨refdes, n.bytesIn, n.bytesOut, n.adds, connections⟩ = counted n) :
    (run.turn (.report refdes)).balance said counted = run.balance said counted := by
  have hcleared : counted ((run.turn (.report refdes)).router.traffic.get .driver) = 0 := hzero
  rw [balance, balance, hcleared]
  simp only [turn, step, Router.report, Traffic.get]
  cases run.router.traffic.get? .driver with
  | none => simp [hzero]
  | some n => simp [hsaid]

theorem balance_of_counted {run' : RouterRun} {gain : Nat} (hreports : run'.reports = run.reports)
    (hcounted : counted (run'.router.traffic.get .driver)
      = counted (run.router.traffic.get .driver) + gain) :
    run'.balance said counted = run.balance said counted + gain := by
  rw [balance, balance, hreports, hcounted, Nat.add_assoc]

/-- **The accounts balance in every turn.** -/
theorem balance_turn (t : RouterTurn) :
    (run.turn t).balance (·.bytesIn) (·.bytesIn)
        = run.balance (·.bytesIn) (·.bytesIn) + t.bytesForDrivers ∧
      (run.turn t).balance (·.bytesOut) (·.bytesOut)
        = run.balance (·.bytesOut) (·.bytesOut) + run.written t ∧
      (run.turn t).balance (·.adds) (·.adds)
        = run.balance (·.adds) (·.adds) + t.addsDriver.toNat := by
  cases t with
  | move m =>
    obtain ⟨hin, hout, hadds⟩ := run.counters_move m
    have hreports := run.reports_move m
    exact ⟨run.balance_of_counted _ _ hreports hin, run.balance_of_counted _ _ hreports hout,
      run.balance_of_counted _ _ hreports hadds⟩
  | rearrange e ids =>
    have hnone : run.written (.rearrange e ids) = 0 := Nat.zero_mul _
    rw [hnone]
    obtain ⟨members, hmembers⟩ := run.turn_rearrange e ids
    rw [hmembers]
    exact ⟨rfl, rfl, rfl⟩
  | report refdes =>
    have hnone : run.written (.report refdes) = 0 := Nat.zero_mul _
    rw [hnone]
    exact ⟨run.balance_report _ _ refdes rfl fun _ _ ↦ rfl,
      run.balance_report _ _ refdes rfl fun _ _ ↦ rfl,
      run.balance_report _ _ refdes rfl fun _ _ ↦ rfl⟩

theorem balance_play (turns : List RouterTurn) :
    (run.play turns).balance (·.bytesIn) (·.bytesIn)
        = run.balance (·.bytesIn) (·.bytesIn) + (turns.map RouterTurn.bytesForDrivers).sum ∧
      (run.play turns).balance (·.bytesOut) (·.bytesOut)
        = run.balance (·.bytesOut) (·.bytesOut) + run.bytesWritten turns ∧
      (run.play turns).balance (·.adds) (·.adds)
        = run.balance (·.adds) (·.adds) + turns.countP RouterTurn.addsDriver := by
  induction turns generalizing run with
  | nil => exact ⟨rfl, rfl, rfl⟩
  | cons t rest ih =>
    obtain ⟨hin, hout, hadds⟩ := run.balance_turn t
    obtain ⟨ihin, ihout, ihadds⟩ := ih (run.turn t)
    rw [hin] at ihin
    rw [hout] at ihout
    rw [hadds] at ihadds
    refine ⟨ihin.trans ?_, ihout.trans ?_, ihadds.trans ?_⟩
    · rw [List.map_cons, List.sum_cons, Nat.add_assoc]
    · rw [bytesWritten, Nat.add_assoc]
    · rw [List.countP_cons, Nat.add_assoc, Nat.add_comm (List.countP _ _)]
      cases t.addsDriver <;> rfl

end Counting

/-- Only routes have been counted before anything happens. -/
theorem counters_start (table : RouteTable) (e : Endpoint) :
    ∃ n, (start table).router.traffic.get e = { routes := n } := by
  have hgo (es : List Endpoint) (t : Traffic) (h : ∃ n, t.get e = { routes := n }) :
      ∃ n, (es.foldl (fun t e ↦ if table.added.get e = 0 then t
        else t.count e fun c ↦ { c with routes := table.added.get e }) t).get e
          = { routes := n } := by
    induction es generalizing t with
    | nil => exact h
    | cons e' es ih =>
      refine ih _ ?_
      dsimp only
      split
      · exact h
      · obtain ⟨n, hn⟩ := h
        rw [Traffic.get_count, hn]
        split
        · exact ⟨_, rfl⟩
        · exact ⟨n, rfl⟩
  exact hgo Endpoint.all .empty ⟨0, Traffic.get_empty e⟩

theorem balance_start (table : RouteTable) (said : TrafficReport → Nat) {counted : Counters → Nat}
    (h : ∀ n, counted { routes := n } = 0) : (start table).balance said counted = 0 := by
  obtain ⟨n, hn⟩ := counters_start table .driver
  rw [balance, hn, h n]
  rfl

end RouterRun

/-! ## Who is registered when -/

namespace Connection

/-- What the history of a connection comes to. -/
structure Record where
  /-- It counts as registered. -/
  counted : Bool
  /-- Its far end has gone. -/
  gone : Bool

variable (c : Connection)

/-- What a turn does to the record of a connection. -/
def follow (record : Record) : RouterTurn → Record
  | .move (.register d) => { record with counted := record.counted || decide (d = c) }
  | .move (.deregister d) => { record with counted := record.counted && decide (d ≠ c) }
  | .move (.serve _ target) =>
    { record with
      counted := record.counted && !(record.gone && decide (target.endpoint = c.endpoint)) }
  | .move (.lost id) => { record with gone := record.gone || decide (id = c.id) }
  | .rearrange _ _ | .report _ => record

/-- The connection counts as registered after these turns. -/
def countedAfter (turns : List RouterTurn) : Bool := (turns.foldl c.follow ⟨false, false⟩).counted

theorem eq_iff {c d : Connection} : d = c ↔ d.endpoint = c.endpoint ∧ c.id = d.id := by
  cases c
  cases d
  simp only [mk.injEq]
  exact and_comm.trans (and_congr_right' eq_comm)

end Connection

namespace RouterRun

/-- The router has the record of a connection, and has no connection twice. -/
structure Keeps (c : Connection) (record : Connection.Record) (run : RouterRun) : Prop where
  /-- No endpoint has a connection twice. -/
  nodup : ∀ e, (run.router.members.get e).Nodup
  /-- It is among the connections of its endpoint as long as it counts. -/
  mem_iff : c.id ∈ run.router.members.get c.endpoint ↔ record.counted = true
  /-- It is lost if its far end has gone. -/
  lost_iff : c.id ∈ run.lost ↔ record.gone = true

variable {c : Connection} {record : Connection.Record} {run : RouterRun}

theorem keeps_start (c : Connection) (table : RouteTable) :
    (start table).Keeps c ⟨false, false⟩ := by
  refine ⟨fun e ↦ ?_, ?_, ?_⟩ <;> simp [start, Router.start]

theorem Keeps.move (h : run.Keeps c record) (m : RouterMove) :
    (run.move m).Keeps c (c.follow record (.move m)) := by
  cases m with
  | register d =>
    refine ⟨fun e ↦ Router.nodup_register (h.nodup e) d, ?_, h.lost_iff⟩
    rw [RouterRun.move, Router.mem_register, h.mem_iff, ← Connection.eq_iff]
    simp only [Connection.follow, Bool.or_eq_true, decide_eq_true_eq]
  | deregister d =>
    refine ⟨fun e ↦ Router.nodup_deregister (h.nodup e) d, ?_, h.lost_iff⟩
    rw [RouterRun.move, Router.mem_deregister, h.mem_iff, ← Connection.eq_iff]
    simp only [Connection.follow, Bool.and_eq_true, decide_eq_true_eq, ne_eq]
  | serve p target =>
    refine ⟨fun e ↦ Router.nodup_serve (h.nodup e), ?_, h.lost_iff⟩
    have hopen : run.isOpen c.id = true ↔ record.gone = false := by
      rw [isOpen, decide_eq_true_eq, h.lost_iff, Bool.not_eq_true]
    refine Router.mem_serve.trans ?_
    rw [h.mem_iff, hopen]
    simp only [Connection.follow, Bool.and_eq_true, Bool.not_eq_true', Bool.and_eq_false_iff,
      decide_eq_false_iff_not]
    exact and_congr_right fun _ ↦ Decidable.imp_iff_not_or.trans or_comm
  | lost id =>
    refine ⟨h.nodup, h.mem_iff, ?_⟩
    rw [RouterRun.move, List.mem_cons, h.lost_iff]
    simp only [Connection.follow, Bool.or_eq_true, decide_eq_true_eq]
    exact or_comm.trans (or_congr_right eq_comm)

theorem Keeps.turn (h : run.Keeps c record) (t : RouterTurn) :
    (run.turn t).Keeps c (c.follow record t) := by
  cases t with
  | move m => exact h.move m
  | report refdes => exact ⟨h.nodup, h.mem_iff, h.lost_iff⟩
  | rearrange e ids =>
    have hperm (e' : Endpoint) := run.perm_rearrange e e' ids
    obtain ⟨members, hmembers⟩ := run.turn_rearrange e ids
    refine ⟨fun e' ↦ (hperm e').nodup_iff.2 (h.nodup e'),
      (hperm c.endpoint).mem_iff.trans h.mem_iff, ?_⟩
    rw [hmembers]
    exact h.lost_iff

theorem keeps_play (c : Connection) (table : RouteTable) (turns : List RouterTurn) :
    ((start table).play turns).Keeps c (turns.foldl c.follow ⟨false, false⟩) := by
  have hgo (run : RouterRun) (record : Connection.Record) (h : run.Keeps c record) :
      (run.play turns).Keeps c (turns.foldl c.follow record) := by
    induction turns generalizing run record with
    | nil => exact h
    | cons t rest ih => exact ih _ _ (h.turn t)
  exact hgo _ _ (keeps_start c table)

/-- The connections of an endpoint are the ones that count as registered, each once. -/
theorem mem_members_play (table : RouteTable) (turns : List RouterTurn) (e : Endpoint)
    (id : ConnectionId) :
    id ∈ ((start table).play turns).router.members.get e ↔
      Connection.countedAfter ⟨id, e⟩ turns = true :=
  (keeps_play ⟨id, e⟩ table turns).mem_iff

theorem nodup_members_play (table : RouteTable) (turns : List RouterTurn) (e : Endpoint) :
    (((start table).play turns).router.members.get e).Nodup :=
  (keeps_play ⟨⟨0⟩, e⟩ table turns).nodup e

/-! ## What a report leaves alone -/

/-- The same connections in the same order, and the same deliveries. -/
structure Matches (run run' : RouterRun) : Prop where
  /-- The connections of each endpoint are the same. -/
  members : run.router.members = run'.router.members
  /-- The same connections are lost. -/
  lost : run.lost = run'.lost
  /-- The same has been handed over. -/
  deliveries : run.deliveries = run'.deliveries

theorem matches_report (run : RouterRun) (refdes : String) :
    (run.turn (.report refdes)).Matches run := ⟨rfl, rfl, rfl⟩

theorem Matches.turn {run run' : RouterRun} (h : run.Matches run') (t : RouterTurn) :
    (run.turn t).Matches (run'.turn t) := by
  have hregistered (c : Connection) : run.router.Registered c ↔ run'.router.Registered c := by
    rw [Router.Registered, Router.Registered, h.members]
  cases t with
  | report refdes => exact ⟨h.members, h.lost, h.deliveries⟩
  | rearrange e ids =>
    simp only [RouterRun.turn, h.members]
    split
    · exact ⟨rfl, h.lost, h.deliveries⟩
    · exact h
  | move m =>
    cases m with
    | register c =>
      refine ⟨?_, h.lost, h.deliveries⟩
      simp only [RouterRun.turn, RouterRun.move, Router.register, h.members]
    | deregister c =>
      refine ⟨?_, h.lost, h.deliveries⟩
      simp only [RouterRun.turn, RouterRun.move, Router.deregister, hregistered]
      split
      · rw [h.members]
      · exact h.members
    | serve p target =>
      have hopen : run.isOpen = run'.isOpen := by
        funext id
        rw [isOpen, isOpen, h.lost]
      refine ⟨?_, h.lost, ?_⟩
      · simp only [RouterRun.turn, RouterRun.move, handOver, Router.serve, h.members, hopen]
      · simp only [RouterRun.turn, RouterRun.move, handOver, Router.serve, h.members, hopen,
          h.deliveries]
    | lost id => exact ⟨h.members, congrArg (id :: ·) h.lost, h.deliveries⟩

theorem Matches.play {run run' : RouterRun} (h : run.Matches run') (turns : List RouterTurn) :
    (run.play turns).Matches (run'.play turns) := by
  induction turns generalizing run run' with
  | nil => exact h
  | cons t rest ih => exact ih (h.turn t)

/-! ## The accounts of a run -/

theorem connections_of_report {r : Router} {refdes : String} {report : TrafficReport}
    (h : (r.report refdes).2 = some report) (e : Endpoint) :
    report.connections.get e = (r.members.get e).length := by
  rw [Router.report] at h
  obtain ⟨n, -, rfl⟩ := Option.map_eq_some_iff.1 h
  simp [PerEndpoint.get]

/-- What a turn publishes, if anything, gives the connections of each endpoint that count as
registered at that moment. -/
theorem published_of_turn (table : RouteTable) (turns : List RouterTurn) (t : RouterTurn) :
    let run := (start table).play turns
    (run.turn t).reports = run.reports ∨
      ∃ refdes report, t = .report refdes ∧ (run.turn t).reports = run.reports ++ [report] ∧
        ∀ e, ∃ ids : List ConnectionId, ids.Nodup ∧
          (∀ id, id ∈ ids ↔ Connection.countedAfter ⟨id, e⟩ turns = true) ∧
          report.connections.get e = ids.length := by
  intro run
  cases t with
  | move m => exact .inl (run.reports_move m)
  | rearrange e ids =>
    obtain ⟨members, hmembers⟩ := run.turn_rearrange e ids
    exact .inl (by rw [hmembers])
  | report refdes =>
    have hreports : (run.turn (.report refdes)).reports
        = run.reports ++ (run.router.report refdes).2.toList := rfl
    cases hmade : (run.router.report refdes).2 with
    | none => exact .inl (by rw [hreports, hmade, Option.toList_none, List.append_nil])
    | some report =>
      rw [hmade, Option.toList_some] at hreports
      exact .inr ⟨refdes, report, rfl, hreports, fun e ↦ ⟨run.router.members.get e,
        nodup_members_play table turns e, mem_members_play table turns e,
        connections_of_report hmade e⟩⟩

/-- **The accounts balance, and the census is right.** At any moment of any run, what the reports so
far have said of the drivers' bytes and registrations, and what is counted since, is what has been
routed, written and registered in all. Whatever is published then gives for each endpoint how many
connections are registered. And a report makes no difference to anyone: from then on the
connections and the deliveries are the same as if it had not been made. -/
theorem reports_balance (table : RouteTable) (turns : List RouterTurn) :
    let run := (start table).play turns
    ((run.reports.map (·.bytesIn)).sum + (run.router.traffic.get .driver).bytesIn
          = (turns.map RouterTurn.bytesForDrivers).sum ∧
        (run.reports.map (·.bytesOut)).sum + (run.router.traffic.get .driver).bytesOut
          = (start table).bytesWritten turns ∧
        (run.reports.map (·.adds)).sum + (run.router.traffic.get .driver).adds
          = turns.countP RouterTurn.addsDriver) ∧
      (∀ t, (run.turn t).reports = run.reports ∨
        ∃ refdes report, t = .report refdes ∧ (run.turn t).reports = run.reports ++ [report] ∧
          ∀ e, ∃ ids : List ConnectionId, ids.Nodup ∧
            (∀ id, id ∈ ids ↔ Connection.countedAfter ⟨id, e⟩ turns = true) ∧
            report.connections.get e = ids.length) ∧
      ∀ refdes later, ((run.turn (.report refdes)).play later).Matches (run.play later) := by
  intro run
  obtain ⟨hin, hout, hadds⟩ := (start table).balance_play turns
  rw [balance_start table _ fun _ ↦ rfl, Nat.zero_add] at hin hout hadds
  exact ⟨⟨hin, hout, hadds⟩, published_of_turn table turns,
    fun refdes later ↦ (matches_report run refdes).play later⟩

end RouterRun

end InstrumentRelay
