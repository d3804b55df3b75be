import InstrumentRelay.Routing.Router

/-!
# Who is registered

What each operation of the router does to the connections of each endpoint, and what serving a
target hands to a single connection. An endpoint has no connection twice, so a connection is visited
once for each target, and gets the packet once in the form of that target.
-/

namespace InstrumentRelay

namespace Router

theorem mem_register {r : Router} {c : Connection} {e : Endpoint} {id : ConnectionId} :
    id ∈ (r.register c).members.get e ↔
      id ∈ r.members.get e ∨ (c.endpoint = e ∧ id = c.id) := by
  simp only [register, PerEndpoint.get_modify]
  by_cases he : c.endpoint = e
  · subst he
    by_cases hc : c.id ∈ r.members.get c.endpoint
    · simp only [hc, if_true, true_and]
      refine ⟨.inl, ?_⟩
      rintro (hid | rfl)
      · exact hid
      · exact hc
    · simp [hc]
  · simp [he]

theorem nodup_register {r : Router} {e : Endpoint} (h : (r.members.get e).Nodup) (c : Connection) :
    ((r.register c).members.get e).Nodup := by
  simp only [register, PerEndpoint.get_modify]
  by_cases he : c.endpoint = e
  · subst he
    by_cases hc : c.id ∈ r.members.get c.endpoint
    · simpa [hc] using h
    · simp only [hc, if_true, if_false]
      exact List.nodup_append.2 ⟨h, by simp, fun a ha b hb ↦ by
        rw [List.mem_singleton.1 hb]
        exact fun hab ↦ hc (hab ▸ ha)⟩
  · simpa [he] using h

theorem mem_deregister {r : Router} {c : Connection} {e : Endpoint} {id : ConnectionId} :
    id ∈ (r.deregister c).members.get e ↔
      id ∈ r.members.get e ∧ ¬(c.endpoint = e ∧ id = c.id) := by
  unfold deregister
  split
  case isTrue hc =>
    rw [PerEndpoint.get_modify]
    by_cases he : c.endpoint = e <;> simp [he]
  case isFalse hc =>
    constructor
    · intro hid
      refine ⟨hid, ?_⟩
      rintro ⟨rfl, rfl⟩
      exact hc hid
    · exact And.left

theorem nodup_deregister {r : Router} {e : Endpoint} (h : (r.members.get e).Nodup)
    (c : Connection) : ((r.deregister c).members.get e).Nodup := by
  unfold deregister
  split
  · rw [PerEndpoint.get_modify]
    split
    · exact h.filter _
    · exact h
  · exact h

theorem mem_serve {isOpen : ConnectionId → Bool} {p : Packet} {r : Router} {target : Target}
    {e : Endpoint} {id : ConnectionId} :
    id ∈ (r.serve isOpen p target).1.members.get e ↔
      id ∈ r.members.get e ∧ (target.endpoint = e → isOpen id = true) := by
  simp only [serve, PerEndpoint.get_modify]
  by_cases he : target.endpoint = e <;> simp [he]

theorem nodup_serve {isOpen : ConnectionId → Bool} {p : Packet} {r : Router} {target : Target}
    {e : Endpoint} (h : (r.members.get e).Nodup) :
    ((r.serve isOpen p target).1.members.get e).Nodup := by
  simp only [serve, PerEndpoint.get_modify]
  split
  · exact h.filter _
  · exact h

end Router

/-! ## What is handed to one connection -/

/-- The bytes handed to this connection, in order. -/
def bytesTo (id : ConnectionId) (deliveries : List Delivery) : List Bytes :=
  (deliveries.filter (·.receiver = id)).map (·.bytes)

theorem bytesTo_append (id : ConnectionId) (first second : List Delivery) :
    bytesTo id (first ++ second) = bytesTo id first ++ bytesTo id second := by
  simp [bytesTo]

theorem bytesTo_map_of_notMem {id : ConnectionId} (bytes : Bytes) {receivers : List ConnectionId}
    (h : id ∉ receivers) :
    bytesTo id (receivers.map fun receiver ↦ ⟨receiver, bytes⟩) = [] := by
  rw [bytesTo, List.map_eq_nil_iff, List.filter_eq_nil_iff]
  intro delivery hdelivery hid
  obtain ⟨receiver, hreceiver, rfl⟩ := List.mem_map.1 hdelivery
  exact h (of_decide_eq_true hid ▸ hreceiver)

theorem bytesTo_map (id : ConnectionId) (bytes : Bytes) {receivers : List ConnectionId}
    (h : receivers.Nodup) :
    bytesTo id (receivers.map fun receiver ↦ ⟨receiver, bytes⟩)
      = if id ∈ receivers then [bytes] else [] := by
  induction receivers with
  | nil => rfl
  | cons receiver rest ih =>
    rw [List.nodup_cons] at h
    rw [List.map_cons, ← List.singleton_append, bytesTo_append]
    by_cases hid : id = receiver
    · subst hid
      rw [bytesTo_map_of_notMem bytes h.1, if_pos List.mem_cons_self]
      simp [bytesTo]
    · rw [ih h.2]
      simp [bytesTo, hid, Ne.symm hid]

/-- What serving a target hands over. -/
theorem serve_snd (isOpen : ConnectionId → Bool) (p : Packet) (r : Router) (target : Target) :
    (r.serve isOpen p target).2
      = ((r.members.get target.endpoint).filter isOpen).map fun receiver ↦
        ⟨receiver, p.render target.rendering⟩ := rfl

/-- A connection gets a packet from a target if it is among those of the target's endpoint and its
far end is still there. -/
theorem bytesTo_serve (isOpen : ConnectionId → Bool) (p : Packet) {r : Router} {target : Target}
    (id : ConnectionId) (h : (r.members.get target.endpoint).Nodup) :
    bytesTo id (r.serve isOpen p target).2
      = if id ∈ r.members.get target.endpoint ∧ isOpen id = true then [p.render target.rendering]
        else [] := by
  rw [serve_snd, bytesTo_map id _ (h.filter isOpen)]
  simp only [List.mem_filter]

theorem bytesTo_serve_of_closed {isOpen : ConnectionId → Bool} (p : Packet) (r : Router)
    (target : Target) {id : ConnectionId} (h : isOpen id = false) :
    bytesTo id (r.serve isOpen p target).2 = [] := by
  rw [serve_snd]
  refine bytesTo_map_of_notMem _ fun hid ↦ ?_
  rw [(List.mem_filter.1 hid).2] at h
  exact Bool.noConfusion h

end InstrumentRelay
