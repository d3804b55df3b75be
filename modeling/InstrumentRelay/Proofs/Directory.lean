import Mathlib.Algebra.GroupWithZero.Nat
import Mathlib.Data.Nat.Find
import Mathlib.Logic.Function.Iterate
import InstrumentRelay.Directory

/-!
# Announcing to a directory that refuses

What a directory answers may depend on everything it has been asked before, so a directory is a
function of its calls (`Directory`). `Announcing` is the announcer together with these calls and the
time that has passed: a call takes no time, and after a refusal the announcer waits.

All that happens between two acceptances is told by one number, how often the service was refused
(`iterate_ask_of_refused`). If each service is accepted after finitely many refusals, these numbers
give the whole course: the calls, how many there are, and how long it takes
(`exists_iterate_ask`, by induction on the services). No announcer waits for longer than
`Duration.longestWait`, though, and so an interval beyond that does not count in full
(`announced_before_retry`).
-/

namespace InstrumentRelay

/-- A call to a directory: the service that it was asked to accept, and whether it did. -/
structure DirectoryCall where
  /-- The service. -/
  service : Service
  /-- The answer. -/
  accepted : Bool
  deriving DecidableEq, Repr

/-- A directory: whether it accepts a service, after these calls. -/
abbrev Directory := List DirectoryCall → Service → Bool

/-- An announcer at work. -/
structure Announcing where
  /-- How far it has got. -/
  announcer : Announcer
  /-- The calls it has made, in order. -/
  calls : List DirectoryCall
  /-- The time that has passed, in nanoseconds. -/
  clock : Nat
  deriving DecidableEq

namespace Announcer

variable {a : Announcer} {service : Service} {rest : List Service}

theorem attempt_of_done (h : a.waiting = []) (accepts : Bool) : a.attempt accepts = a := by
  rw [attempt, h]

theorem attempt_of_refused (h : a.waiting = service :: rest) : a.attempt false =
    { a with attempts := a.attempts + 1, refusals := a.refusals + 1 } := by
  rw [attempt, h]
  rfl

theorem attempt_of_accepted (h : a.waiting = service :: rest) : a.attempt true =
    { a with
      waiting := rest, accepted := a.accepted ++ [service], attempts := a.attempts + 1 } := by
  rw [attempt, h]
  rfl

theorem hear_append (a : Announcer) (first second : List Bool) :
    a.hear (first ++ second) = (a.hear first).hear second :=
  List.foldl_append

/-- Each acceptance is one of the first service that is waiting. -/
theorem accepted_hear (a : Announcer) (answers : List Bool) :
    (a.hear answers).accepted = a.accepted ++ a.waiting.take (answers.count true) := by
  induction answers generalizing a with
  | nil => exact (List.append_nil _).symm
  | cons answer answers ih =>
    refine (ih (a.attempt answer)).trans ?_
    rcases hwaiting : a.waiting with _ | ⟨service, rest⟩
    · rw [attempt_of_done hwaiting, hwaiting, List.take_nil, List.take_nil]
    · cases answer with
      | false =>
        rw [attempt_of_refused hwaiting, hwaiting, List.count_cons_of_ne Bool.false_ne_true]
      | true =>
        rw [attempt_of_accepted hwaiting, List.count_cons_self, List.take_succ_cons,
          List.append_assoc, List.singleton_append]

end Announcer

namespace Announcing

/-- Nothing has been announced yet. -/
def start (services : List Service) : Announcing := ⟨.start services, [], 0⟩

/-- The directory is asked about the first service that is waiting. If it refuses, the announcer
waits before it goes on. -/
def ask (directory : Directory) (retry : Duration) (a : Announcing) : Announcing :=
  match a.announcer.waiting with
  | [] => a
  | service :: _ =>
    let accepted := directory a.calls service
    { announcer := a.announcer.attempt accepted
      calls := a.calls ++ [⟨service, accepted⟩]
      clock := if accepted then a.clock else a.clock + retry.wait.nanos }

/-- The directory has been asked so many times, or until nothing was left to ask. -/
def after (directory : Directory) (retry : Duration) (services : List Service) (n : Nat) :
    Announcing :=
  (ask directory retry)^[n] (start services)

/-- From here on, each service is accepted after finitely many refusals: whenever one is the first
that is waiting, some number of refusals makes the directory accept it. -/
def AcceptsEach (directory : Directory) (retry : Duration) (a : Announcing) : Prop :=
  ∀ n service rest, ((ask directory retry)^[n] a).announcer.waiting = service :: rest →
    ∃ k, directory (((ask directory retry)^[n] a).calls ++ List.replicate k ⟨service, false⟩)
      service = true

/-- The calls about a service that is refused so many times and then accepted. -/
def callsFor (service : Service) (refusals : Nat) : List DirectoryCall :=
  List.replicate refusals ⟨service, false⟩ ++ [⟨service, true⟩]

/-- The calls about these services, one service after the other. -/
def callsForAll (services : List Service) (refusals : List Nat) : List DirectoryCall :=
  (services.zip refusals).flatMap fun (service, k) ↦ callsFor service k

variable {directory : Directory} {retry : Duration} {a : Announcing} {service : Service}
  {services rest : List Service} {n : Nat}

/-! ## One service -/

theorem ask_of_done (h : a.announcer.waiting = []) : a.ask directory retry = a := by
  rw [ask, h]

theorem iterate_ask_of_done (h : a.announcer.waiting = []) (n : Nat) :
    (ask directory retry)^[n] a = a :=
  Function.iterate_fixed (ask_of_done h) n

/-- Once nothing is left to announce, nothing changes any more. -/
theorem after_of_done {m : Nat} (h : (after directory retry services m).announcer.isDone = true)
    (hle : m ≤ n) : after directory retry services n = after directory retry services m := by
  obtain ⟨j, rfl⟩ := Nat.exists_eq_add_of_le' hle
  rw [after, Function.iterate_add_apply, ← after]
  exact iterate_ask_of_done (List.isEmpty_iff.1 h) j

/-- The service that is waiting has been refused so many times. -/
def refuse (retry : Duration) (service : Service) (k : Nat) (a : Announcing) : Announcing where
  announcer := { a.announcer with
    attempts := a.announcer.attempts + k
    refusals := a.announcer.refusals + k }
  calls := a.calls ++ List.replicate k ⟨service, false⟩
  clock := a.clock + k * retry.wait.nanos

/-- The service that is waiting has been accepted. -/
def accept (service : Service) (rest : List Service) (a : Announcing) : Announcing where
  announcer := { a.announcer with
    waiting := rest
    accepted := a.announcer.accepted ++ [service]
    attempts := a.announcer.attempts + 1 }
  calls := a.calls ++ [⟨service, true⟩]
  clock := a.clock

theorem ask_of_refused (hwaiting : a.announcer.waiting = service :: rest)
    (h : directory a.calls service = false) :
    a.ask directory retry = a.refuse retry service 1 := by
  rw [ask, hwaiting]
  simp only [h, Announcer.attempt_of_refused hwaiting, refuse, List.replicate_one, Nat.one_mul]
  rfl

theorem ask_of_accepted (hwaiting : a.announcer.waiting = service :: rest)
    (h : directory a.calls service = true) : a.ask directory retry = a.accept service rest := by
  rw [ask, hwaiting]
  simp only [h, Announcer.attempt_of_accepted hwaiting, accept]
  rfl

theorem refuse_refuse (retry : Duration) (service : Service) (j k : Nat) (a : Announcing) :
    (a.refuse retry service j).refuse retry service k = a.refuse retry service (j + k) := by
  simp only [refuse, List.append_assoc, List.replicate_append_replicate, Nat.add_assoc, Nat.add_mul]

/-- As long as a service is refused, nothing else happens. -/
theorem iterate_ask_of_refused (hwaiting : a.announcer.waiting = service :: rest) {k : Nat}
    (h : ∀ j < k, directory (a.calls ++ List.replicate j ⟨service, false⟩) service = false) :
    (ask directory retry)^[k] a = a.refuse retry service k := by
  induction k with
  | zero => simp [refuse]
  | succ k ih =>
    rw [Function.iterate_succ_apply', ih fun j hj ↦ h j (Nat.lt_succ_of_lt hj), ← refuse_refuse]
    have hstill : (a.refuse retry service k).announcer.waiting = service :: rest := hwaiting
    exact ask_of_refused hstill (h k (Nat.lt_succ_self k))

/-- A service that is accepted at some time is refused up to then, and all that while it is the one
that is waiting. -/
theorem exists_accept (hwaiting : a.announcer.waiting = service :: rest)
    (h : a.AcceptsEach directory retry) :
    ∃ k, (ask directory retry)^[k + 1] a = (a.refuse retry service k).accept service rest ∧
      ∀ m ≤ k, ((ask directory retry)^[m] a).announcer.waiting = service :: rest := by
  have hfinite := h 0 service rest hwaiting
  have hrefused (m : Nat) (hm : m ≤ Nat.find hfinite) :
      (ask directory retry)^[m] a = a.refuse retry service m :=
    iterate_ask_of_refused hwaiting fun j hj ↦
      Bool.eq_false_iff.2 (Nat.find_min hfinite (Nat.lt_of_lt_of_le hj hm))
  refine ⟨Nat.find hfinite, ?_, fun m hm ↦ ?_⟩
  · rw [Function.iterate_succ_apply', hrefused _ (Nat.le_refl _)]
    exact ask_of_accepted hwaiting (Nat.find_spec hfinite)
  · rw [hrefused m hm]
    exact hwaiting

/-! ## All services -/

theorem AcceptsEach.iterate (h : a.AcceptsEach directory retry) (n : Nat) :
    ((ask directory retry)^[n] a).AcceptsEach directory retry := by
  intro m service rest hwaiting
  rw [← Function.iterate_add_apply] at hwaiting ⊢
  exact h (m + n) service rest hwaiting

theorem callsForAll_cons (service : Service) (rest : List Service) (k : Nat) (refusals : List Nat) :
    callsForAll (service :: rest) (k :: refusals)
      = callsFor service k ++ callsForAll rest refusals := rfl

/-- All services that are waiting have been accepted, each after so many refusals. -/
def acceptAll (retry : Duration) (services : List Service) (refusals : List Nat) (a : Announcing) :
    Announcing where
  announcer :=
    { waiting := []
      accepted := a.announcer.accepted ++ services
      attempts := a.announcer.attempts + (services.length + refusals.sum)
      refusals := a.announcer.refusals + refusals.sum }
  calls := a.calls ++ callsForAll services refusals
  clock := a.clock + refusals.sum * retry.wait.nanos

theorem acceptAll_nil (hwaiting : a.announcer.waiting = []) : a.acceptAll retry [] [] = a := by
  obtain ⟨⟨waiting, accepted, attempts, refusals⟩, calls, clock⟩ := a
  obtain rfl : waiting = [] := hwaiting
  simp [acceptAll, callsForAll]

theorem acceptAll_cons (retry : Duration) (service : Service) (rest : List Service) (k : Nat)
    (refusals : List Nat) (a : Announcing) :
    ((a.refuse retry service k).accept service rest).acceptAll retry rest refusals
      = a.acceptAll retry (service :: rest) (k :: refusals) := by
  simp only [acceptAll, accept, refuse, callsForAll_cons, callsFor, List.append_assoc,
    List.cons_append, List.nil_append, List.length_cons, List.sum_cons, Nat.add_mul, Nat.add_assoc,
    mk.injEq, Announcer.mk.injEq, true_and, and_true]
  omega

/-- If each service is accepted after finitely many refusals, the announcing comes to its end with
the last acceptance, and not before. -/
theorem exists_iterate_ask (h : a.AcceptsEach directory retry) :
    ∃ refusals : List Nat, refusals.length = a.announcer.waiting.length ∧
      (ask directory retry)^[a.announcer.waiting.length + refusals.sum] a
        = a.acceptAll retry a.announcer.waiting refusals ∧
      ∀ m < a.announcer.waiting.length + refusals.sum,
        ((ask directory retry)^[m] a).announcer.waiting ≠ [] := by
  generalize hwaiting : a.announcer.waiting = services
  induction services generalizing a with
  | nil => exact ⟨[], rfl, (acceptAll_nil hwaiting).symm, fun m hm ↦ absurd hm (Nat.not_lt_zero m)⟩
  | cons service rest ih =>
    -- The first service takes `k + 1` calls, and the others begin where it has been accepted.
    obtain ⟨k, haccept, hbefore⟩ := exists_accept hwaiting h
    have hnext := h.iterate (k + 1)
    rw [haccept] at hnext
    obtain ⟨refusals, hlength, hend, hlater⟩ := ih hnext rfl
    rw [← haccept] at hend hlater
    have hsteps : (service :: rest).length + (k :: refusals).sum
        = rest.length + refusals.sum + (k + 1) := by
      rw [List.length_cons, List.sum_cons]
      omega
    refine ⟨k :: refusals, by rw [List.length_cons, hlength, List.length_cons], ?_, fun m hm ↦ ?_⟩
    · rw [hsteps, Function.iterate_add_apply, hend, haccept, acceptAll_cons]
    · by_cases hfirst : m ≤ k
      · rw [hbefore m hfirst]
        exact List.cons_ne_nil _ _
      · obtain ⟨j, rfl⟩ := Nat.exists_eq_add_of_lt (Nat.lt_of_not_le hfirst)
        have hj := hlater j (by omega)
        rwa [← Function.iterate_add_apply, show j + (k + 1) = k + j + 1 by omega] at hj

theorem announcer_ask (directory : Directory) (retry : Duration) (a : Announcing) :
    ∃ answers : List Bool, (a.ask directory retry).announcer = a.announcer.hear answers ∧
      (a.ask directory retry).calls.map (·.accepted) = a.calls.map (·.accepted) ++ answers := by
  unfold ask
  split
  case h_1 hnone => exact ⟨[], rfl, (List.append_nil _).symm⟩
  case h_2 service rest hsome => exact ⟨[directory a.calls service], rfl, List.map_append⟩

/-- The announcer has heard the answers that the directory has given. -/
theorem announcer_after (directory : Directory) (retry : Duration) (services : List Service)
    (n : Nat) :
    (after directory retry services n).announcer
      = (Announcer.start services).hear
        ((after directory retry services n).calls.map (·.accepted)) := by
  induction n with
  | zero => rfl
  | succ n ih =>
    rw [after, Function.iterate_succ_apply', ← after]
    obtain ⟨answers, hannouncer, hcalls⟩ :=
      announcer_ask directory retry (after directory retry services n)
    rw [hannouncer, hcalls, ih, Announcer.hear_append]

theorem length_callsForAll {refusals : List Nat} (h : refusals.length = services.length) :
    (callsForAll services refusals).length = services.length + refusals.sum := by
  induction services generalizing refusals with
  | nil =>
    rw [List.eq_nil_of_length_eq_zero h]
    rfl
  | cons service rest ih =>
    obtain ⟨k, refusals, rfl⟩ := List.exists_cons_of_length_eq_add_one h
    rw [callsForAll_cons, List.length_append, ih (Nat.succ.inj h), callsFor, List.length_append,
      List.length_replicate, List.length_singleton, List.length_cons, List.sum_cons]
    omega

/-- **Every service is announced, in order and once.** Take any services, and a directory that
accepts each of them after finitely many refusals, whatever else its answers depend on. Then the
announcing comes to its end, with all services accepted in the order in which they were given. The
calls are those about the first service, refused some number of times and then accepted, then those
about the second one, and so on; so there are as many calls as services and refusals together. It
takes one wait for each refusal. A wait is as long as the retry interval, and thirty years if that
is longer. -/
theorem announced_in_order (directory : Directory) (retry : Duration) (services : List Service)
    (h : (start services).AcceptsEach directory retry) :
    ∃ refusals : List Nat, refusals.length = services.length ∧
      let n := services.length + refusals.sum
      let last := after directory retry services n
      last.announcer.isDone = true ∧
      (∀ m < n, ¬(after directory retry services m).announcer.isDone = true) ∧
      (∀ m, n ≤ m → after directory retry services m = last) ∧
      last.announcer = (Announcer.start services).hear (last.calls.map (·.accepted)) ∧
      last.announcer.accepted = services ∧ last.calls = callsForAll services refusals ∧
      last.calls.length = n ∧ last.announcer.attempts = n ∧
      last.announcer.refusals = refusals.sum ∧ last.announcer.waited retry = last.clock ∧
      last.clock = refusals.sum * min retry.nanos Duration.longestWait.nanos ∧
      (retry.nanos ≤ Duration.longestWait.nanos → last.clock = refusals.sum * retry.nanos) := by
  obtain ⟨refusals, hlength, hend, hbefore⟩ := exists_iterate_ask h
  change refusals.length = services.length at hlength
  have hlast : after directory retry services (services.length + refusals.sum)
      = (start services).acceptAll retry services refusals := hend
  have hcalls : ((start services).acceptAll retry services refusals).calls
      = callsForAll services refusals := List.nil_append _
  have hclock : ((start services).acceptAll retry services refusals).clock
      = refusals.sum * min retry.nanos Duration.longestWait.nanos := by
    rw [acceptAll, Duration.wait, Duration.nanos_min]
    exact Nat.zero_add _
  have hdone : (after directory retry services
      (services.length + refusals.sum)).announcer.isDone = true := by
    rw [hlast]
    rfl
  refine ⟨refusals, hlength, hdone, fun m hm ↦ ?_, fun m ↦ after_of_done hdone,
    announcer_after _ _ _ _, ?_, ?_, ?_, ?_, ?_, ?_, ?_, fun hretry ↦ ?_⟩
  · rw [Announcer.isDone, List.isEmpty_iff]
    exact hbefore m hm
  · rw [hlast]
    rfl
  · rw [hlast, hcalls]
  · rw [hlast, hcalls, length_callsForAll hlength]
  · rw [hlast]
    exact Nat.zero_add _
  · rw [hlast]
    exact Nat.zero_add _
  · rw [hlast, Announcer.waited, acceptAll]
    exact (congrArg (· * _) (Nat.zero_add _)).trans (Nat.zero_add _).symm
  · rw [hlast, hclock]
  · rw [hlast, hclock, Nat.min_eq_left hretry]

/-- A directory that is out of reach for two calls, and two services: twice ten seconds. -/
theorem announced_after_two_refusals :
    let directory : Directory := fun calls _ ↦ 2 ≤ calls.length
    let services : List Service :=
      [.describe "port-agent" "X" 1 30, .describe "sniff-port-agent" "X" 2 30]
    (start services).AcceptsEach directory (.ofSeconds 10) ∧
      ∃ n, (after directory (.ofSeconds 10) services n).announcer.accepted = services ∧
        (after directory (.ofSeconds 10) services n).calls.length = 4 ∧
        (after directory (.ofSeconds 10) services n).clock = 20000000000 := by
  intro directory services
  have haccepts : (start services).AcceptsEach directory (.ofSeconds 10) := by
    intro n service rest _
    exact ⟨2, by simp [directory]⟩
  obtain ⟨refusals, hlength, hdone, hbefore, hstays, -, haccepted, -, hcalls, -, -, -, -, hclock⟩ :=
    announced_in_order directory (.ofSeconds 10) services haccepts
  have hthird : ¬(after directory (.ofSeconds 10) services 3).announcer.isDone = true := by decide
  have hfourth : (after directory (.ofSeconds 10) services 4).announcer.isDone = true := by decide
  have hcount : services.length + refusals.sum = 4 := by
    refine Nat.le_antisymm (Nat.le_of_not_lt fun hlt ↦ hbefore 4 hlt hfourth) ?_
    refine Nat.lt_of_not_le fun hle ↦ hthird ?_
    rw [hstays 3 hle]
    exact hdone
  have hsum : refusals.sum = 2 := Nat.add_left_cancel hcount
  refine ⟨haccepts, _, haccepted, hcalls.trans hcount, ?_⟩
  rw [hclock (by decide), hsum]
  rfl

/-! ## Waits that are cut short -/

/-- A directory that refuses the first call, and a retry interval one millisecond beyond the longest
wait: the announcing comes to its end before one retry interval has passed. -/
theorem announced_before_retry :
    let directory : Directory := fun calls _ ↦ calls ≠ []
    let retry : Duration := .ofMillis 946080000001
    let services : List Service := [.describe "port-agent" "X" 1 30]
    (start services).AcceptsEach directory retry ∧
      (∃ n, (after directory retry services n).announcer.isDone = true) ∧
      ¬∃ n, (after directory retry services n).announcer.isDone = true ∧
        (after directory retry services n).clock
          = (after directory retry services n).announcer.refusals * retry.nanos := by
  intro directory retry services
  have htwo : (after directory retry services 2).announcer.isDone = true := by decide
  refine ⟨fun n service rest _ ↦ ⟨1, by simp [directory]⟩, ⟨2, htwo⟩, ?_⟩
  rintro ⟨n, hdone, hclock⟩
  rcases n with _ | _ | n
  · exact absurd hdone (by decide)
  · exact absurd hdone (by decide)
  · rw [after_of_done htwo (Nat.le_add_left 2 n)] at hclock
    exact absurd hclock (by decide)

end Announcing

end InstrumentRelay
