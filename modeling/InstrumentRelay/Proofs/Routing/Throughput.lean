import InstrumentRelay.Proofs.Routing.Accounts

/-!
# What is counted from one report to the next

A report clears all counters, so what they say afterwards is about the turns since. There are two
sides to it, and neither is read off the counters here. On the way in, the messages that are handled
say which packets meet which targets (`dispatches`). On the way out, what is handed over says what
was written, to which connection, and what packet it renders (`writings`); a connection whose far
end is gone is handed nothing.

`Counters.Measures` says that counters agree with such a record. The first traffic agrees with the
empty one, and so does the traffic after a report (`BeginsInterval`); every move that adds to the
counters adds the same to the record (`Counters.Measures.move`). Reports stand only at the ends of
an interval, and the order in which connections are kept is not counted.
-/

namespace InstrumentRelay

namespace RouterTurn

/-- The turn is a report. -/
def isReport : RouterTurn → Bool
  | report _ => true
  | _ => false

end RouterTurn

/-! ## The way in -/

/-- The packets that messages bring, each with every target of its kind that is of this endpoint. -/
def dispatches (table : RouteTable) (e : Endpoint) (messages : List RouterMessage) :
    List (Packet × Target) :=
  (messages.flatMap RouterMessage.packets).flatMap fun p ↦
    ((table.targetsFor p.kind).filter (·.endpoint = e)).map (p, ·)

/-- What the moves of one message serve to an endpoint. -/
theorem flatMap_served_moves (table : RouteTable) (e : Endpoint) (m : RouterMessage) :
    (m.moves table).flatMap (·.served e) = m.packets.flatMap fun p ↦
      ((table.targetsFor p.kind).filter (·.endpoint = e)).map (p, ·) := by
  have htargets (p : Packet) (targets : List Target) :
      (targets.map (RouterMove.serve p)).flatMap (·.served e)
        = (targets.filter (·.endpoint = e)).map (p, ·) := by
    induction targets with
    | nil => rfl
    | cons target rest ih =>
      rw [List.map_cons, List.flatMap_cons, ih, RouterMove.served]
      by_cases he : target.endpoint = e
      · simp [he]
      · simp [he]
  cases m with
  | data packets =>
    rw [RouterMessage.moves, List.flatMap_assoc]
    exact List.flatMap_congr fun p _ ↦ htargets p _
  | register c | deregister c => rfl

/-- Messages that are handled in full are served in full, whatever is lost in between. -/
theorem Handles.flatMap_served {table : RouteTable} {messages : List RouterMessage}
    {moves : List RouterMove} (h : Handles table messages moves) (e : Endpoint) :
    moves.flatMap (·.served e) = dispatches table e messages := by
  rw [h.flatMap_eq fun _ ↦ rfl, dispatches, List.flatMap_assoc]
  exact List.flatMap_congr fun m _ ↦ flatMap_served_moves table e m

/-! ## The way out -/

namespace RouterRun

variable (run : RouterRun)

/-- What a turn hands over. Only moves hand anything over. -/
def writesOf : RouterTurn → List Writing
  | .move m => run.writes m
  | .rearrange _ _ | .report _ => []

/-- What several turns hand over, in order. -/
def writings (run : RouterRun) : List RouterTurn → List Writing
  | [] => []
  | t :: rest => run.writesOf t ++ (run.turn t).writings rest

theorem deliveries_turn (t : RouterTurn) :
    (run.turn t).deliveries = run.deliveries ++ (run.writesOf t).map Writing.delivery := by
  cases t with
  | move m => exact run.deliveries_move m
  | rearrange e ids =>
    obtain ⟨members, hmembers⟩ := run.turn_rearrange e ids
    rw [hmembers]
    exact (List.append_nil _).symm
  | report refdes => exact (List.append_nil _).symm

/-- What is written is what is handed over, no more and no less. -/
theorem deliveries_play (turns : List RouterTurn) :
    (run.play turns).deliveries = run.deliveries ++ (run.writings turns).map Writing.delivery := by
  induction turns generalizing run with
  | nil => exact (List.append_nil _).symm
  | cons t rest ih =>
    have hrest := ih (run.turn t)
    rw [deliveries_turn, List.append_assoc, ← List.map_append] at hrest
    exact hrest

/-- Each writing is made while a packet is handed to the connections of a target, and the connection
is one of them at that moment and has not been lost. -/
theorem of_mem_writings {turns : List RouterTurn} {w : Writing} (h : w ∈ run.writings turns) :
    ∃ before after,
      turns = before ++ .move (.serve w.packet ⟨w.receiver.endpoint, w.rendering⟩) :: after ∧
        (run.play before).router.Registered w.receiver ∧
          w.receiver.id ∉ (run.play before).lost := by
  induction turns generalizing run with
  | nil => cases h
  | cons t rest ih =>
    rcases List.mem_append.1 h with hnow | hlater
    · cases t with
      | move m =>
        obtain ⟨rfl, hregistered, hopen⟩ := run.of_mem_writes hnow
        exact ⟨[], rest, rfl, hregistered, hopen⟩
      | rearrange e ids | report refdes => cases hnow
    · obtain ⟨before, after, rfl, hat⟩ := ih (run.turn t) hlater
      exact ⟨t :: before, after, rfl, hat⟩

end RouterRun

/-! ## Counters and records -/

/-- The counters of an endpoint agree with what came in for it and with what was written to it. -/
structure Counters.Measures (counted : Counters) (asked : List (Packet × Target))
    (done : List Writing) : Prop where
  /-- A packet counts once for each target. -/
  packetsIn : counted.packetsIn = asked.length
  /-- So does the length of its frame. -/
  bytesIn : counted.bytesIn = (asked.map (·.1.frameSize)).sum
  /-- A packet counts once for each time it is written. -/
  packetsOut : counted.packetsOut = done.length
  /-- So does the length of its frame, in whatever form it is written. -/
  bytesOut : counted.bytesOut = (done.map (·.packet.frameSize)).sum

namespace Counters

variable {run : RouterRun} {e : Endpoint} {asked : List (Packet × Target)} {done : List Writing}

/-- **What a move adds to the counters it adds to the record.** -/
theorem Measures.move (h : (run.router.traffic.get e).Measures asked done) (m : RouterMove) :
    ((run.move m).router.traffic.get e).Measures (asked ++ m.served e)
      (done ++ run.writesTo e m) := by
  obtain ⟨⟨hpin, hbin⟩, hpout, hbout⟩ := run.traffic_move e m
  constructor
  · rw [hpin, h.packetsIn, List.length_append]
  · rw [hbin, h.bytesIn, List.map_append, List.sum_append]
  · rw [hpout, h.packetsOut, List.length_append]
  · rw [hbout, h.bytesOut, List.map_append, List.sum_append]

theorem Measures.play (h : (run.router.traffic.get e).Measures asked done)
    {turns : List RouterTurn} (hquiet : ∀ t ∈ turns, t.isReport = false) :
    ((run.play turns).router.traffic.get e).Measures
      (asked ++ (turns.filterMap RouterTurn.move?).flatMap (·.served e))
      (done ++ (run.writings turns).filter (·.receiver.endpoint = e)) := by
  induction turns generalizing run asked done with
  | nil =>
    rw [RouterRun.writings, List.filter_nil, List.filterMap_nil, List.flatMap_nil, List.append_nil,
      List.append_nil]
    exact h
  | cons t rest ih =>
    have hrest : ∀ t ∈ rest, t.isReport = false := fun t ht ↦ hquiet t (List.mem_cons_of_mem _ ht)
    cases t with
    | move m =>
      have hdone := ih (h.move m) hrest
      rw [List.append_assoc, List.append_assoc] at hdone
      rw [RouterRun.writings, RouterRun.writesOf, List.filter_append]
      exact hdone
    | rearrange e' ids =>
      obtain ⟨members, hmembers⟩ := run.turn_rearrange e' ids
      refine ih ?_ hrest
      rw [hmembers]
      exact h
    | report refdes => exact absurd (hquiet _ List.mem_cons_self) Bool.noConfusion

end Counters

namespace RouterRun

/-- Nothing but routes has been counted: the router has been started, or it has just reported. -/
inductive BeginsInterval (table : RouteTable) : RouterRun → Prop
  /-- The router has been started. -/
  | started : BeginsInterval table (start table)
  /-- The router has run for a while, and has reported. -/
  | reported (turns : List RouterTurn) (refdes : String) :
    BeginsInterval table ((start table).play (turns ++ [.report refdes]))

theorem BeginsInterval.measures {table : RouteTable} {run : RouterRun}
    (h : BeginsInterval table run) (e : Endpoint) :
    (run.router.traffic.get e).Measures [] [] := by
  cases h with
  | started =>
    obtain ⟨n, hn⟩ := counters_start table e
    rw [hn]
    exact ⟨rfl, rfl, rfl, rfl⟩
  | reported turns refdes =>
    have hcleared : ((start table).play (turns ++ [.report refdes])).router.traffic = .empty := by
      rw [play, List.foldl_append]
      rfl
    rw [hcleared, Traffic.get_empty]
    exact ⟨rfl, rfl, rfl, rfl⟩

/-- **The counters agree with what came in and with what was handed over.** From the start or from a
report on, whatever messages are handled and whatever connections are lost meanwhile, the counters
of every endpoint say how many packets met how many of its targets and how many pieces were written
to its connections, and how long the frames of these packets are, up to the next report. What was
written is what was handed over since, and all of it went to connections that were registered and
whose far end was there; handing a packet to a lost connection adds nothing. -/
theorem traffic_measured {table : RouteTable} {begun : RouterRun}
    (hbegun : BeginsInterval table begun) {turns : List RouterTurn}
    (hquiet : ∀ t ∈ turns, t.isReport = false) {messages : List RouterMessage}
    (hmessages : Handles table messages (turns.filterMap RouterTurn.move?)) :
    let run := begun.play turns
    let written := begun.writings turns
    (∀ e, (run.router.traffic.get e).Measures (dispatches table e messages)
        (written.filter (·.receiver.endpoint = e))) ∧
      run.deliveries = begun.deliveries ++ written.map Writing.delivery ∧
      ∀ w ∈ written, ∃ before after,
        turns = before ++ .move (.serve w.packet ⟨w.receiver.endpoint, w.rendering⟩) :: after ∧
          (begun.play before).router.Registered w.receiver ∧
            w.receiver.id ∉ (begun.play before).lost := by
  refine ⟨?_, deliveries_play begun turns, fun w hw ↦ begun.of_mem_writings hw⟩
  intro e
  have hmeasured := (hbegun.measures e).play hquiet
  rw [hmessages.flatMap_served e] at hmeasured
  exact hmeasured

/-- After a report, a greeting meets two targets of the drivers. One of the two drivers has been
lost, so it comes in twice and is written twice. -/
theorem traffic_measured_beside_lost :
    let table := RouteTable.ofRoutes [⟨.all, .driver, .frame⟩, ⟨.all, .driver, .payload⟩]
    let greeting : Packet := ⟨.fromInstrument, ⟨0⟩, [0x68, 0x69], by decide⟩
    let begun := (start table).play
      ([.move (.register ⟨⟨0⟩, .driver⟩), .move (.register ⟨⟨1⟩, .driver⟩)] ++ [.report "CTDBP"])
    let turns : List RouterTurn := [.move (.lost ⟨1⟩), .move (.serve greeting ⟨.driver, .frame⟩),
      .move (.serve greeting ⟨.driver, .payload⟩)]
    let counted := (begun.play turns).router.traffic.get .driver
    BeginsInterval table begun ∧ (∀ t ∈ turns, t.isReport = false) ∧
      Handles table [.data [greeting]] (turns.filterMap RouterTurn.move?) ∧
      (counted.packetsIn = 2 ∧ counted.bytesIn = 36) ∧ counted.packetsOut = 2 ∧
        counted.bytesOut = 36 := by
  intro table greeting begun turns counted
  have hbegun : BeginsInterval table begun := .reported _ _
  have hquiet : ∀ t ∈ turns, t.isReport = false := by decide
  have hmessages : Handles table [.data [greeting]] (turns.filterMap RouterTurn.move?) := by decide
  have hcounted := (traffic_measured hbegun hquiet hmessages).1 .driver
  exact ⟨hbegun, hquiet, hmessages, ⟨hcounted.packetsIn.trans (by decide),
    hcounted.bytesIn.trans (by decide)⟩, hcounted.packetsOut.trans (by decide),
    hcounted.bytesOut.trans (by decide)⟩

end RouterRun

end InstrumentRelay
