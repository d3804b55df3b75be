import InstrumentRelay.Proofs.Routing.Accounts

/-!
# As many as came and have not gone

A connection leaves the registry in two ways, which may both be about the same connection: it is
deregistered, or it is found to be lost while something is handed over. Either counts as a removal
only if the connection is there. So over all intervals from the start, registrations minus removals
should be the number of connections, and this fails for one reason only: a connection that is
registered while it is registered already is counted and makes no difference (`registry_play`).

`RegistersAfresh` excludes that. It is enough that no connection is registered twice
(`registersAfresh_of_nodup`).

The counters are cleared with every report. `intervals` keeps what they said before.
-/

namespace InstrumentRelay

/-- The connections that a move registers, one or none. -/
def RouterMove.registers : RouterMove → List Connection
  | register c => [c]
  | _ => []

namespace RouterRun

variable (run : RouterRun)

/-- What has been counted in each interval, the one that is not over being the last. -/
def intervals (run : RouterRun) : List RouterTurn → List Traffic
  | [] => [run.router.traffic]
  | .report refdes :: rest =>
    run.router.traffic :: (run.turn (.report refdes)).intervals rest
  | .move m :: rest => (run.move m).intervals rest
  | .rearrange e ids :: rest => (run.turn (.rearrange e ids)).intervals rest

/-- What has been counted for an endpoint in all intervals. -/
def total (counted : Counters → Nat) (e : Endpoint) (turns : List RouterTurn) : Nat :=
  ((run.intervals turns).map fun t ↦ counted (t.get e)).sum

/-- How often a connection of the endpoint is registered while it is registered. -/
def repeated (run : RouterRun) (e : Endpoint) : List RouterTurn → Nat
  | [] => 0
  | .move m :: rest => (run.repeats e m).toNat + (run.move m).repeated e rest
  | t :: rest => (run.turn t).repeated e rest

/-- No connection is registered while it is registered. -/
def RegistersAfresh (turns : List RouterTurn) : Prop :=
  ∀ before c after, turns = before ++ .move (.register c) :: after →
    ¬(run.play before).router.Registered c

/-! ## The balance -/

theorem nodup_move {e : Endpoint} {run : RouterRun} (h : (run.router.members.get e).Nodup)
    (m : RouterMove) : ((run.move m).router.members.get e).Nodup := by
  cases m with
  | register c => exact Router.nodup_register h c
  | deregister c => exact Router.nodup_deregister h c
  | serve p target => exact Router.nodup_serve h
  | lost id => exact h

/-- **Registrations and removals are what the registry has gained**, as far as no connection was
registered again. -/
theorem registry_play {e : Endpoint} {run : RouterRun} (h : (run.router.members.get e).Nodup)
    (turns : List RouterTurn) :
    run.total (·.adds) e turns + (run.router.traffic.get e).removes
        + (run.router.members.get e).length
      = (run.router.traffic.get e).adds + run.total (·.removes) e turns
        + ((run.play turns).router.members.get e).length + run.repeated e turns := by
  induction turns generalizing run with
  | nil =>
    simp only [total, intervals, repeated, play, List.foldl_nil, List.map_cons,
      List.map_nil, List.sum_singleton]
    omega
  | cons t rest ih =>
    cases t with
    | move m =>
      have hnow := run.registry_move h m
      have hlater := ih (nodup_move h m)
      change (run.move m).total (·.adds) e rest + _ + _ = _ + (run.move m).total (·.removes) e rest
        + (((run.move m).play rest).router.members.get e).length
        + ((run.repeats e m).toNat + (run.move m).repeated e rest)
      omega
    | rearrange e' ids =>
      obtain ⟨members, hmembers⟩ := run.turn_rearrange e' ids
      have hperm := run.perm_rearrange e' e ids
      have hlater := ih (hperm.nodup_iff.2 h)
      have htraffic : (run.turn (.rearrange e' ids)).router.traffic = run.router.traffic := by
        rw [hmembers]
      rw [htraffic, hperm.length_eq] at hlater
      exact hlater
    | report refdes =>
      have hnodup : ((run.turn (.report refdes)).router.members.get e).Nodup := h
      have hlater := ih hnodup
      have hsame : (run.turn (.report refdes)).router.members = run.router.members := rfl
      have hcleared : (run.turn (.report refdes)).router.traffic.get e = {} := Traffic.get_empty e
      rw [hsame, hcleared] at hlater
      simp only [total, intervals, List.map_cons, List.sum_cons] at hlater ⊢
      change _ = _ + (((run.turn (.report refdes)).play rest).router.members.get e).length
        + (run.turn (.report refdes)).repeated e rest
      omega

theorem RegistersAfresh.of_cons {run : RouterRun} {t : RouterTurn} {rest : List RouterTurn}
    (h : run.RegistersAfresh (t :: rest)) : (run.turn t).RegistersAfresh rest := by
  rintro before c after rfl
  exact h (t :: before) c after rfl

theorem RegistersAfresh.repeated_eq_zero {run : RouterRun} {turns : List RouterTurn}
    (h : run.RegistersAfresh turns) (e : Endpoint) : run.repeated e turns = 0 := by
  induction turns generalizing run with
  | nil => rfl
  | cons t rest ih =>
    have hrest := ih h.of_cons
    cases t with
    | rearrange e' ids | report refdes => exact hrest
    | move m =>
      have hnot : run.repeats e m = false := by
        cases m with
        | register c => exact decide_eq_false fun hc ↦ h [] c rest rfl hc.2
        | deregister c | serve p target | lost id => rfl
      rw [repeated, hnot, Bool.toNat_false, Nat.zero_add]
      exact hrest

/-- From the start, registrations are removals and the connections that are left. -/
theorem RegistersAfresh.total_adds_eq {table : RouteTable} {turns : List RouterTurn}
    (h : (start table).RegistersAfresh turns) (e : Endpoint) :
    (start table).total (·.adds) e turns = (start table).total (·.removes) e turns
      + (((start table).play turns).router.members.get e).length := by
  have hempty : (start table).router.members.get e = [] := PerEndpoint.get_replicate [] e
  have hnodup : ((start table).router.members.get e).Nodup := hempty ▸ List.nodup_nil
  have hbalance := registry_play hnodup turns
  obtain ⟨n, hn⟩ := counters_start table e
  rw [hn, hempty, h.repeated_eq_zero e] at hbalance
  simpa using hbalance

end RouterRun

/-! ## Who is registered once is registered afresh -/

/-- Whoever counts as registered has been registered. -/
theorem Connection.register_of_countedAfter {c : Connection} {turns : List RouterTurn}
    (h : c.countedAfter turns = true) : .move (.register c) ∈ turns := by
  -- The induction needs any record to begin with: the first turn may have changed it.
  have hgo : ∀ record, (turns.foldl c.follow record).counted = true →
      record.counted = true ∨ .move (.register c) ∈ turns := by
    clear h
    induction turns with
    | nil => exact fun _ h ↦ .inl h
    | cons t rest ih =>
      intro record h
      rcases ih _ h with hnow | hlater
      · cases t with
        | report refdes | rearrange e ids => exact .inl hnow
        | move m =>
          cases m with
          | register d =>
            rcases Bool.or_eq_true_iff.1 hnow with hbefore | hd
            · exact .inl hbefore
            · rw [of_decide_eq_true hd]
              exact .inr List.mem_cons_self
          | deregister d => exact .inl (Bool.and_eq_true_iff.1 hnow).1
          | serve p target => exact .inl (Bool.and_eq_true_iff.1 hnow).1
          | lost id => exact .inl hnow
      · exact .inr (List.mem_cons_of_mem t hlater)
  exact (hgo _ h).resolve_left Bool.false_ne_true

namespace RouterRun

theorem registersAfresh_of_nodup {table : RouteTable} {turns : List RouterTurn}
    (h : ((turns.filterMap RouterTurn.move?).flatMap RouterMove.registers).Nodup) :
    (start table).RegistersAfresh turns := by
  rintro before c after rfl hregistered
  have hbefore : RouterTurn.move (.register c) ∈ before := Connection.register_of_countedAfter
    ((mem_members_play table before c.endpoint c.id).1 hregistered)
  have hmem : c ∈ (before.filterMap RouterTurn.move?).flatMap RouterMove.registers :=
    List.mem_flatMap.2
      ⟨.register c, List.mem_filterMap.2 ⟨_, hbefore, rfl⟩, List.mem_singleton_self c⟩
  rw [List.filterMap_append, List.flatMap_append] at h
  exact (List.nodup_append.1 h).2.2 c hmem c List.mem_cons_self rfl

end RouterRun

end InstrumentRelay
