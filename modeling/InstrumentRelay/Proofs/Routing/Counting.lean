import Mathlib.Algebra.BigOperators.Group.List.Basic
import Mathlib.Algebra.GroupWithZero.Nat
import InstrumentRelay.Proofs.Routing.Moves

/-!
# What a move counts

Each move of a router changes the counters of one endpoint at most, and what it adds can be told
without looking at them: how many packets it serves to the endpoint and how long their frames are,
how many pieces it hands over there and how long the frames behind these are (`traffic_move`), and
by how much the number of connections grows or shrinks (`registry_move`).

What is handed over does not show where it came from. A `Writing` is a piece that was handed over
together with the packet that it renders, the form, and the connection in its role; without these it
is the delivery again (`deliveries_move`).
-/

namespace InstrumentRelay

/-- A piece that was handed to a connection, with the packet that it renders. -/
structure Writing where
  /-- The packet. -/
  packet : Packet
  /-- The form in which it was handed over. -/
  rendering : Rendering
  /-- The connection. -/
  receiver : Connection
  deriving DecidableEq

/-- The piece alone. -/
def Writing.delivery (w : Writing) : Delivery := ⟨w.receiver.id, w.packet.render w.rendering⟩

/-- The packet that a move serves to the endpoint, and the target by which it does. -/
def RouterMove.served (e : Endpoint) : RouterMove → List (Packet × Target)
  | serve p target => if target.endpoint = e then [(p, target)] else []
  | _ => []

/-- The move registers a connection under the endpoint. -/
def RouterMove.adds (e : Endpoint) : RouterMove → Bool
  | register c => c.endpoint = e
  | _ => false

namespace RouterRun

variable (run : RouterRun)

/-- What a move hands over. -/
def writes : RouterMove → List Writing
  | .serve p target =>
    ((run.move (.serve p target)).deliveries.drop run.deliveries.length).map fun d ↦
      ⟨p, target.rendering, ⟨d.receiver, target.endpoint⟩⟩
  | _ => []

/-- What a move hands over to the connections of an endpoint. -/
def writesTo (e : Endpoint) (m : RouterMove) : List Writing :=
  (run.writes m).filter (·.receiver.endpoint = e)

theorem writes_serve (p : Packet) (target : Target) :
    run.writes (.serve p target)
      = ((run.router.members.get target.endpoint).filter run.isOpen).map fun id ↦
        ⟨p, target.rendering, ⟨id, target.endpoint⟩⟩ := by
  rw [writes, move, handOver, List.drop_left, serve_snd, List.map_map]
  rfl

theorem writesTo_serve (p : Packet) (target : Target) (e : Endpoint) :
    run.writesTo e (.serve p target)
      = if target.endpoint = e then run.writes (.serve p target) else [] := by
  rw [writesTo, writes_serve]
  split
  case isTrue he =>
    rw [List.filter_eq_self]
    intro w hw
    obtain ⟨id, -, rfl⟩ := List.mem_map.1 hw
    exact decide_eq_true he
  case isFalse he =>
    rw [List.filter_eq_nil_iff]
    intro w hw
    obtain ⟨id, -, rfl⟩ := List.mem_map.1 hw
    exact fun h ↦ he (of_decide_eq_true h)

/-- **What is handed over is what is written**, without the packets that it came from. -/
theorem deliveries_move (m : RouterMove) :
    (run.move m).deliveries = run.deliveries ++ (run.writes m).map Writing.delivery := by
  cases m with
  | serve p target =>
    rw [writes_serve, List.map_map, move, handOver, serve_snd]
    rfl
  | register c | deregister c | lost id => exact (List.append_nil _).symm

/-- What is written goes to a connection that is registered and whose far end is there. -/
theorem of_mem_writes {m : RouterMove} {w : Writing} (h : w ∈ run.writes m) :
    m = .serve w.packet ⟨w.receiver.endpoint, w.rendering⟩ ∧ run.router.Registered w.receiver ∧
      w.receiver.id ∉ run.lost := by
  cases m with
  | serve p target =>
    rw [writes_serve] at h
    obtain ⟨id, hid, rfl⟩ := List.mem_map.1 h
    obtain ⟨hmem, hopen⟩ := List.mem_filter.1 hid
    exact ⟨rfl, hmem, of_decide_eq_true hopen⟩
  | register c | deregister c | lost id => cases h

/-! ## Packets and bytes -/

/-- **The counters of an endpoint grow by what is served and what is written to it.** -/
theorem traffic_move (e : Endpoint) (m : RouterMove) :
    (((run.move m).router.traffic.get e).packetsIn
          = (run.router.traffic.get e).packetsIn + (m.served e).length ∧
        ((run.move m).router.traffic.get e).bytesIn
          = (run.router.traffic.get e).bytesIn + ((m.served e).map (·.1.frameSize)).sum) ∧
      ((run.move m).router.traffic.get e).packetsOut
          = (run.router.traffic.get e).packetsOut + (run.writesTo e m).length ∧
        ((run.move m).router.traffic.get e).bytesOut
          = (run.router.traffic.get e).bytesOut
            + ((run.writesTo e m).map (·.packet.frameSize)).sum := by
  cases m with
  | serve p target =>
    rw [writesTo_serve, writes_serve]
    simp only [move, handOver, Router.serve, Traffic.get_count, RouterMove.served]
    by_cases he : target.endpoint = e
    · simp [he, Function.comp_def]
    · simp [he]
  | register c =>
    simp only [move, Router.register, Traffic.get_count]
    split <;> exact ⟨⟨rfl, rfl⟩, rfl, rfl⟩
  | deregister c =>
    simp only [move, Router.deregister]
    split
    · rw [Traffic.get_count]
      split <;> exact ⟨⟨rfl, rfl⟩, rfl, rfl⟩
    · exact ⟨⟨rfl, rfl⟩, rfl, rfl⟩
  | lost id => exact ⟨⟨rfl, rfl⟩, rfl, rfl⟩

/-! ## Connections -/

theorem adds_move (e : Endpoint) (m : RouterMove) :
    ((run.move m).router.traffic.get e).adds
      = (run.router.traffic.get e).adds + (m.adds e).toNat := by
  cases m with
  | serve p target =>
    simp only [move, handOver, Router.serve, Traffic.get_count]
    split <;> rfl
  | register c =>
    simp only [move, Router.register, Traffic.get_count, RouterMove.adds]
    by_cases he : c.endpoint = e
    · simp [he]
    · simp [he]
  | deregister c =>
    simp only [move, Router.deregister]
    split
    · rw [Traffic.get_count]
      split <;> rfl
    · rfl
  | lost id => rfl

/-- The move registers a connection of the endpoint that is registered already. -/
def repeats (e : Endpoint) : RouterMove → Bool
  | .register c => c.endpoint = e ∧ run.router.Registered c
  | _ => false

/-- **A connection more is one added, and a connection less is one removed.** Only a connection that
is registered again is added and makes no difference. -/
theorem registry_move {e : Endpoint} (h : (run.router.members.get e).Nodup) (m : RouterMove) :
    ((run.move m).router.traffic.get e).adds + (run.router.traffic.get e).removes
        + (run.router.members.get e).length
      = (run.router.traffic.get e).adds + ((run.move m).router.traffic.get e).removes
        + ((run.move m).router.members.get e).length + (run.repeats e m).toNat := by
  cases m with
  | serve p target =>
    simp only [move, handOver, Router.serve, Traffic.get_count, PerEndpoint.get_modify, repeats,
      Bool.toNat_false]
    by_cases he : target.endpoint = e
    · subst he
      have hle := List.length_filter_le run.isOpen (run.router.members.get target.endpoint)
      simp only [if_true]
      omega
    · simp [he]
  | register c =>
    simp only [move, Router.register, Traffic.get_count, PerEndpoint.get_modify, repeats]
    by_cases he : c.endpoint = e
    · subst he
      by_cases hc : c.id ∈ run.router.members.get c.endpoint
      · simp only [hc, Router.Registered, and_self, if_true, decide_true, Bool.toNat_true]
        omega
      · simp only [hc, Router.Registered, and_false, if_true, if_false, List.length_append,
          List.length_singleton, decide_false, Bool.toNat_false]
        omega
    · simp [he]
  | deregister c =>
    simp only [move, Router.deregister, repeats, Bool.toNat_false]
    split
    case isTrue hc =>
      simp only [Traffic.get_count, PerEndpoint.get_modify]
      by_cases he : c.endpoint = e
      · subst he
        have hmem : c.id ∈ run.router.members.get c.endpoint := hc
        have herase : (run.router.members.get c.endpoint).filter (· ≠ c.id)
            = (run.router.members.get c.endpoint).erase c.id := by
          rw [h.erase_eq_filter]
          exact List.filter_congr fun id _ ↦
            Bool.eq_iff_iff.2 (decide_eq_true_iff.trans bne_iff_ne.symm)
        have hlength := List.length_erase_add_one hmem
        rw [if_pos rfl, if_pos rfl, herase]
        dsimp only
        omega
      · simp [he]
    case isFalse => rfl
  | lost id => rfl

end RouterRun

end InstrumentRelay
