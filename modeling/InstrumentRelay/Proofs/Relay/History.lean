import InstrumentRelay.Proofs.Merge
import InstrumentRelay.Proofs.Packet.Split
import InstrumentRelay.Proofs.Relay.Ledger
import InstrumentRelay.Proofs.Stream.FrameReader

/-!
# The history of a connection

Seen from a connection, a relay is two sequences: what the router hands to it, and what it posts.
`Running.History` is all that can have happened to a connection between the two. Every connection of
a relay that can be reached has a history (`Relay.Reached.history`), so what is shown by induction
on histories holds of every connection, and the rest of the relay need not be looked at again.

## Reading

What a connection has posted, together with what is still in its reader, is everything that it has
received: as payloads where bytes are wrapped (`History.wraps`), as the packets of the stream where
frames are read (`History.reads`).

## Writing

What a connection has written is its greeting and then what was handed to it, piece by piece
(`History.copies`). A connection that takes lines has two sources, what is handed to it and its own
answers, and what it has written is a merge of them (`History.merges`).
-/

namespace InstrumentRelay

/-- The packets that come of bytes that are read in this way. -/
def Inbound.Brings : Inbound → PacketKind → Prop
  | bytes kind, k => k = kind
  | frames, _ => True
  | lines, k => k ∈ [.command, .status, .config, .auxCommand, .fault]

theorem Reply.kind_of_mem_packets {r : Reply} {now : Timestamp} {p : Packet}
    (h : p ∈ r.packets now) : p.kind = r.kind :=
  Packet.kind_of_mem_split h

theorem Reply.brings (r : Reply) : Inbound.lines.Brings r.kind := by
  cases r <;> simp [Inbound.Brings, kind]

/-! ## Taking an item -/

namespace Input

/-- What becomes of the bytes in this reader. -/
def inbound : Input → Inbound
  | bytes r => .bytes r.kind
  | frames _ => .frames
  | lines _ => .lines

/-- What has arrived and not been used yet. -/
def held : Input → Bytes
  | bytes r => r.buffer
  | frames r => r.buffer
  | lines r => r.buffer

/-- How an item can be taken, from a stream that goes on or has ended. -/
inductive Takes (now : Timestamp) : Input → Item → Input → Prop
  | bytes (r : RawReader) :
    Takes now (.bytes r) (.packets (Packet.split r.kind now r.buffer))
      (.bytes { r with buffer := [] })
  | frames {r r' : FrameReader} {p : Packet} (h : r.next = (some p, r')) :
    Takes now (.frames r) (.packets [p]) (.frames r')
  | lines (r r' : LineReader) (line : Bytes) : Takes now (.lines r) (.line line) (.lines r')

theorem takes_of_next {now : Timestamp} {input input' : Input} {item : Item}
    (h : input.next now = .ok (some item, input')) : Takes now input item input' := by
  cases input with
  | bytes r =>
    simp only [next, RawReader.next] at h
    split at h
    · cases h
    · cases h
      exact .bytes r
  | frames r =>
    rcases hnext : r.next with ⟨_ | p, r'⟩ <;> simp only [next, hnext] at h <;> cases h
    exact .frames hnext
  | lines r =>
    rcases hnext : r.next with e | ⟨_ | line, r'⟩ <;> simp only [next, hnext] at h <;> cases h
    exact .lines r r' line

theorem takes_of_finish {now : Timestamp} {input input' : Input} {item : Item}
    (h : input.finish now = .ok (some item, input')) : Takes now input item input' := by
  cases input with
  | bytes r => exact takes_of_next h
  | frames r =>
    rcases hnext : r.next with ⟨_ | p, r'⟩ <;>
      simp only [finish, FrameReader.finish, hnext] at h <;> cases h
    exact .frames hnext
  | lines r =>
    rcases hnext : r.finish with e | ⟨_ | line, r'⟩ <;> simp only [finish, hnext] at h <;> cases h
    exact .lines r r' line

theorem Takes.inbound_eq {now : Timestamp} {input input' : Input} {item : Item}
    (h : Takes now input item input') : input'.inbound = input.inbound := by
  cases h <;> rfl

theorem Takes.inbound_of_line {now : Timestamp} {input input' : Input} {line : Bytes}
    (h : Takes now input (.line line) input') : input.inbound = .lines := by
  cases h
  rfl

theorem Takes.inbound_of_packets {now : Timestamp} {input input' : Input} {packets : List Packet}
    (h : Takes now input (.packets packets) input') : input.inbound ≠ .lines := by
  cases h <;> simp [inbound]

theorem Takes.brings {now : Timestamp} {input input' : Input} {packets : List Packet}
    (h : Takes now input (.packets packets) input') {p : Packet} (hp : p ∈ packets) :
    input.inbound.Brings p.kind := by
  cases h with
  | bytes r => exact Packet.kind_of_mem_split hp
  | frames hnext => trivial

theorem Takes.join_eq {now : Timestamp} {input input' : Input} {packets : List Packet}
    {kind : PacketKind} (h : Takes now input (.packets packets) input')
    (hinput : input.inbound = .bytes kind) :
    Packet.join packets = input.held ∧ input'.held = [] := by
  cases h with
  | bytes r => exact ⟨Packet.join_split _ _ _, rfl⟩
  | frames hnext => cases hinput

theorem held_feed (input : Input) (bytes : Bytes) :
    (input.feed bytes).held = input.held ++ bytes := by
  cases input <;> rfl

theorem inbound_feed (input : Input) (bytes : Bytes) : (input.feed bytes).inbound = input.inbound := by
  cases input <;> rfl

theorem inbound_start (inbound : Inbound) : (start inbound).inbound = inbound := by
  cases inbound <;> rfl

end Input

namespace Running

theorem takes_of_item {c : Running} {now : Timestamp} {item : Item} {input : Input}
    (h : c.item now = .ok (some item, input)) : c.input.Takes now item input := by
  rw [Running.item] at h
  split at h
  · exact Input.takes_of_finish h
  · exact Input.takes_of_next h

/-! ## Histories -/

/-- What can have happened to a connection, given what was handed to it and what it has posted. -/
inductive History : List Bytes → List RouterMessage → Running → Prop
  /-- It is new. -/
  | made (delivered : List Bytes) (id : ConnectionId) (spec : ConnectionSpec) :
    History delivered [] { id := id, spec := spec }
  /-- More is handed to it. -/
  | handed {delivered : List Bytes} {posted : List RouterMessage} {c : Running}
    (h : History delivered posted c) (more : List Bytes) : History (delivered ++ more) posted c
  /-- It does something. -/
  | acts {delivered : List Bytes} {posted messages : List RouterMessage} {c c' : Running}
    (h : History delivered posted c) (hact : c.Act (delivered.drop c.sent) messages c') :
    History delivered (posted ++ messages) c'

namespace History

variable {delivered : List Bytes} {posted : List RouterMessage} {c : Running}

theorem inbound_input (h : c.History delivered posted) : c.input.inbound = c.spec.inbound := by
  induction h with
  | made delivered id spec => exact Input.inbound_start spec.inbound
  | handed h more ih => exact ih
  | acts h hact ih =>
    cases hact with
    | receives bytes hfree hwaits => exact (Input.inbound_feed _ _).trans ih
    | passes now due hfree hitem => exact (takes_of_item hitem).inbound_eq.trans ih
    | takesLine now errand hfree hitem => exact (takes_of_item hitem).inbound_eq.trans ih
    | _ => exact ih

/-- Only a connection that takes lines is ever busy. -/
theorem errand_eq_none (h : c.History delivered posted) (hspec : c.spec.inbound ≠ .lines) :
    c.errand = none := by
  induction h with
  | made delivered id spec => rfl
  | handed h more ih => exact ih hspec
  | acts h hact ih =>
    have hinput := h.inbound_input
    cases hact with
    | takesLine now errand hfree hitem =>
      rw [(takes_of_item hitem).inbound_of_line] at hinput
      exact absurd hinput.symm hspec
    | turns errand' herrand =>
      rw [ih hspec] at herrand
      cases herrand
    | answers now due hphase herrand => rfl
    | ends said hopen hsaid => rfl
    | _ => exact ih hspec

/-- Before it begins, a connection has posted and written nothing. -/
theorem of_not_begun (h : c.History delivered posted) (hbegun : c.hasBegun = false) :
    posted = [] ∧ c.sent = 0 ∧ c.written = [] ∧ c.errand = none := by
  induction h with
  | made delivered id spec => exact ⟨rfl, rfl, rfl, rfl⟩
  | handed h more ih => exact ih hbegun
  | @acts delivered posted messages c c' h hact ih =>
    cases hact with
    | turns errand' herrand =>
      rw [(ih hbegun).2.2.2] at herrand
      cases herrand
    | ends said hopen hsaid =>
      -- There is nothing to deregister and no answer that could be cut off.
      obtain ⟨rfl, hsent, hwritten, herrand⟩ := ih hbegun
      have hphase : c.phase ≠ .running := by
        intro hphase
        simp [hasBegun, hphase] at hbegun
      obtain rfl := hsaid.eq_nil herrand
      refine ⟨?_, hsent, ?_, rfl⟩
      · rw [if_neg hphase]
        rfl
      · rw [hwritten]
        rfl
    | _ => simp_all [hasBegun, isFree]

/-- A connection that runs has been registered and not deregistered. -/
theorem registered (h : c.History delivered posted) (hphase : c.phase = .running) :
    .register c.connection ∈ posted ∧ .deregister c.connection ∉ posted := by
  induction h with
  | made delivered id spec => cases hphase
  | handed h more ih => exact ih hphase
  | acts h hact ih =>
    rw [hact.connection_eq]
    cases hact with
    | begins due hstarting =>
      obtain ⟨rfl, -⟩ := h.of_not_begun (by rw [hasBegun, hstarting])
      simp
    | ends said hopen hsaid => cases hphase
    | _ => simpa using ih hphase

/-! ### Reading -/

/-- What a connection posts is of the kinds that it may bring. -/
theorem brings (h : c.History delivered posted) {p : Packet}
    (hp : p ∈ posted.flatMap RouterMessage.packets) : c.spec.inbound.Brings p.kind := by
  induction h with
  | made delivered id spec => cases hp
  | handed h more ih => exact ih hp
  | @acts delivered posted messages c c' h hact ih =>
    rw [hact.same.2]
    rw [List.flatMap_append] at hp
    rcases List.mem_append.1 hp with hold | hnew
    · exact ih hold
    · cases hact with
      | passes now due hfree hitem =>
        rw [← h.inbound_input]
        exact (takes_of_item hitem).brings (by simpa [RouterMessage.packets] using hnew)
      | takesLine now errand hfree hitem =>
        rw [← h.inbound_input, (takes_of_item hitem).inbound_of_line]
        have hkind : p.kind = .command :=
          Packet.kind_of_mem_split (by simpa [RouterMessage.packets] using hnew)
        simp [Inbound.Brings, hkind]
      | @answers reply now due hphase herrand =>
        have hlines : c.spec.inbound = .lines := by
          refine Decidable.byContradiction fun hspec ↦ ?_
          rw [h.errand_eq_none hspec] at herrand
          cases herrand
        have hkind : p.kind = reply.kind :=
          Reply.kind_of_mem_packets (by simpa [RouterMessage.packets] using hnew)
        rw [hlines, hkind]
        exact reply.brings
      | ends said hopen hsaid => split at hnew <;> simp [RouterMessage.packets] at hnew
      | _ => simp [RouterMessage.packets] at hnew

/-- Where bytes are wrapped, all that was received has been posted or is held. -/
theorem wraps {kind : PacketKind} (h : c.History delivered posted)
    (hspec : c.spec.inbound = .bytes kind) :
    c.received = Packet.join (posted.flatMap RouterMessage.packets) ++ c.input.held := by
  induction h with
  | made delivered id spec =>
    rw [show spec.inbound = .bytes kind from hspec]
    rfl
  | handed h more ih => exact ih hspec
  | @acts delivered posted messages c c' h hact ih =>
    rw [hact.same.2] at hspec
    have hinput := h.inbound_input
    rw [hspec] at hinput
    have herrand := h.errand_eq_none (by simp [hspec])
    have hnow := ih hspec
    rw [List.flatMap_append]
    cases hact with
    | receives bytes hfree hwaits =>
      rw [Input.held_feed, hnow]
      simp
    | passes now due hfree hitem =>
      obtain ⟨hjoin, hheld⟩ := (takes_of_item hitem).join_eq hinput
      rw [hheld, hnow, ← hjoin]
      simp [Packet.join, RouterMessage.packets]
    | takesLine now errand hfree hitem =>
      rw [(takes_of_item hitem).inbound_of_line] at hinput
      cases hinput
    | answers now due hphase hanswering =>
      rw [herrand] at hanswering
      cases hanswering
    | ends said hopen hsaid =>
      rw [hnow]
      split <;> simp [RouterMessage.packets]
    | _ => simpa [RouterMessage.packets] using hnow

/-- Where frames are read, the packets of all that was received have been posted or will be found in
what is held. -/
theorem reads (h : c.History delivered posted) (hspec : c.spec.inbound = .frames) :
    ∃ reader, c.input = .frames reader ∧
      (FrameReader.empty.feed c.received).drain
        = (posted.flatMap RouterMessage.packets ++ reader.drain.1, reader.drain.2) := by
  induction h with
  | made delivered id spec =>
    refine ⟨.empty, ?_, ?_⟩
    · rw [show spec.inbound = .frames from hspec]
      rfl
    · rfl
  | handed h more ih => exact ih hspec
  | @acts delivered posted messages c c' h hact ih =>
    rw [hact.same.2] at hspec
    have herrand := h.errand_eq_none (by simp [hspec])
    obtain ⟨reader, hinput, hdrain⟩ := ih hspec
    rw [List.flatMap_append]
    cases hact with
    | receives bytes hfree hwaits =>
      -- To read with more bytes is to read what is there first.
      refine ⟨reader.feed bytes, ?_, ?_⟩
      · rw [hinput]
        rfl
      · rw [FrameReader.feed_append, FrameReader.drain_feed, hdrain, FrameReader.drain_feed reader]
        simp
    | passes now due hfree hitem =>
      have htakes := takes_of_item hitem
      rw [hinput] at htakes
      cases htakes with
      | frames hnext =>
        refine ⟨_, rfl, ?_⟩
        rw [hdrain, FrameReader.drain_of_next_eq_some hnext]
        simp [RouterMessage.packets]
    | takesLine now errand hfree hitem =>
      have htakes := takes_of_item hitem
      rw [hinput] at htakes
      cases htakes
    | answers now due hphase hanswering =>
      rw [herrand] at hanswering
      cases hanswering
    | ends said hopen hsaid =>
      refine ⟨reader, hinput, ?_⟩
      rw [hdrain]
      split <;> simp [RouterMessage.packets]
    | _ =>
      refine ⟨reader, hinput, ?_⟩
      simpa [RouterMessage.packets] using hdrain

/-! ### Writing -/

/-- A connection does not write what it has not been handed. -/
theorem sent_le (h : c.History delivered posted) : c.sent ≤ delivered.length := by
  induction h with
  | made delivered id spec => exact Nat.zero_le _
  | handed h more ih =>
    rw [List.length_append]
    exact Nat.le_add_right_of_le ih
  | acts h hact ih =>
    cases hact with
    | writes due hfree hqueue =>
      have hlength := congrArg List.length hqueue
      rw [List.length_drop, List.length_cons] at hlength
      simp only
      omega
    | _ => exact ih

theorem take_succ_of_drop {piece : Bytes} {rest : List Bytes} {n : Nat}
    (h : delivered.drop n = piece :: rest) : delivered.take (n + 1) = delivered.take n ++ [piece] := by
  rw [List.take_add_one, ← List.head?_drop, h]
  rfl

/-- What a connection that takes no lines has written is its greeting, and what it was handed. -/
theorem copies (h : c.History delivered posted) (hspec : c.spec.inbound ≠ .lines) :
    c.written
      = (if c.hasBegun then c.spec.greeting.toList else []) ++ delivered.take c.sent := by
  induction h with
  | made delivered id spec => rfl
  | handed h more ih => rw [ih hspec, List.take_append_of_le_length h.sent_le]
  | @acts delivered posted messages c c' h hact ih =>
    rw [hact.same.2] at hspec
    have herrand := h.errand_eq_none hspec
    have hnow := ih hspec
    cases hact with
    | begins due hstarting =>
      obtain ⟨-, hsent, hwritten, -⟩ := h.of_not_begun (by rw [hasBegun, hstarting])
      simp [hasBegun, hsent, hwritten]
    | answers now due hphase hanswering =>
      rw [herrand] at hanswering
      cases hanswering
    | @writes piece rest due hfree hqueue =>
      change c.written ++ [piece] = _ ++ delivered.take (c.sent + 1)
      rw [hnow, take_succ_of_drop hqueue, List.append_assoc]
      rfl
    | ends said hopen hsaid =>
      obtain rfl := hsaid.eq_nil herrand
      exact (List.append_nil _).trans hnow
    | _ => exact hnow

/-- The answers among what a connection has posted. -/
def answers (posted : List RouterMessage) : List Packet :=
  (posted.flatMap RouterMessage.packets).filter (·.kind ≠ .command)

theorem answers_append (posted posted' : List RouterMessage) :
    answers (posted ++ posted') = answers posted ++ answers posted' := by
  rw [answers, List.flatMap_append, List.filter_append, answers, answers]

theorem answers_register (d : Connection) : answers [.register d] = [] := rfl

theorem answers_line (now : Timestamp) (line : Bytes) :
    answers [.data (Packet.split .command now line)] = [] := by
  rw [answers, List.filter_eq_nil_iff]
  intro p hp
  have hkind : p.kind = .command :=
    Packet.kind_of_mem_split (by simpa [RouterMessage.packets] using hp)
  simp [hkind]

theorem answers_reply (reply : Reply) (now : Timestamp) :
    answers [.data (reply.packets now)] = reply.packets now := by
  rw [answers, List.flatMap_singleton, RouterMessage.packets, List.filter_eq_self]
  intro p hp
  rw [Reply.kind_of_mem_packets hp]
  cases reply <;> rfl

end History

/-- Where the pieces come from that a connection writes. -/
inductive Source where
  /-- From the router. -/
  | router
  /-- From the connection itself. -/
  | itself
  deriving DecidableEq, Repr

/-- What there is from each source. -/
def Source.parts {α : Type} (fromRouter fromItself : List α) : Source → List α
  | router => fromRouter
  | itself => fromItself

namespace History

variable {delivered : List Bytes} {posted : List RouterMessage} {c : Running}

/-- What a connection that takes lines has written is a merge of what it was handed and of its
answers. An answer that was cut off by the end of the connection has not been posted. -/
theorem merges (h : c.History delivered posted) (hspec : c.spec.inbound = .lines)
    (hgreeting : c.spec.greeting = none) :
    ∃ cut : List Packet, (c.isOpen = true → cut = []) ∧
      IsMerge c.written
        (Source.parts (delivered.take c.sent) ((answers posted ++ cut).map Packet.frame)) := by
  induction h with
  | made delivered id spec =>
    refine ⟨[], fun _ ↦ rfl, IsMerge.nil.of_eq fun i ↦ ?_⟩
    cases i <;> rfl
  | handed h more ih =>
    obtain ⟨cut, hcut, hmerge⟩ := ih hspec hgreeting
    refine ⟨cut, hcut, hmerge.of_eq fun i ↦ ?_⟩
    cases i with
    | router => exact (List.take_append_of_le_length h.sent_le).symm
    | itself => rfl
  | @acts delivered posted messages c c' h hact ih =>
    rw [hact.same.2] at hspec hgreeting
    have hinput := h.inbound_input
    rw [hspec] at hinput
    obtain ⟨cut, hcut, hmerge⟩ := ih hspec hgreeting
    rw [answers_append]
    cases hact with
    | begins due hstarting =>
      refine ⟨cut, fun _ ↦ hcut (by rw [isOpen, hstarting]), ?_⟩
      rw [hgreeting, Option.toList_none, List.append_nil, answers_register, List.append_nil]
      exact hmerge
    | passes now due hfree hitem => exact absurd hinput (takes_of_item hitem).inbound_of_packets
    | takesLine now errand hfree hitem =>
      rw [answers_line, List.append_nil]
      exact ⟨cut, hcut, hmerge⟩
    | @answers reply now due hphase herrand =>
      have hopen : c.isOpen = true := by rw [isOpen, hphase]
      obtain rfl := hcut hopen
      rw [answers_reply]
      refine ⟨[], fun _ ↦ rfl, ?_⟩
      refine (hmerge.append (.single Source.itself _)).of_eq fun i ↦ ?_
      cases i <;> simp [Source.parts]
    | @writes piece rest due hfree hqueue =>
      refine ⟨cut, hcut, (hmerge.append (.single Source.router _)).of_eq fun i ↦ ?_⟩
      cases i with
      | router => exact (take_succ_of_drop hqueue).symm
      | itself => simp [Source.parts, answers]
    | ends said hopen hsaid =>
      -- What it was saying has been written and will not be posted.
      obtain rfl := hcut hopen
      refine ⟨said, fun hnow ↦ Bool.noConfusion hnow, ?_⟩
      refine (hmerge.append (.single Source.itself _)).of_eq fun i ↦ ?_
      have hnone : answers (if c.phase = .running then [.deregister c.connection] else []) = [] := by
        split <;> rfl
      cases i <;> simp [Source.parts, hnone]
    | _ =>
      rw [show answers [] = [] from rfl, List.append_nil]
      exact ⟨cut, hcut, hmerge⟩

end History

end Running

/-! ## The histories of a relay -/

theorem RouterRun.exists_deliveredTo_step (run : RouterRun) (e : RouterEvent) (id : ConnectionId) :
    ∃ more, (run.step e).deliveredTo id = run.deliveredTo id ++ more := by
  cases e with
  | message m => exact ⟨_, bytesTo_append id run.deliveries _⟩
  | lost other => exact ⟨[], (List.append_nil _).symm⟩
  | report refdes => exact ⟨[], (List.append_nil _).symm⟩

namespace Relay

/-- What a connection has posted. -/
def postedBy (r : Relay) (id : ConnectionId) : List RouterMessage :=
  (r.mail.posted.filter (·.sender = some id)).map (·.message)

variable {r r' : Relay}

theorem postedBy_post (r : Relay) (sender : Option ConnectionId) (messages : List RouterMessage)
    (id : ConnectionId) :
    (r.post sender messages).postedBy id
      = r.postedBy id ++ if sender = some id then messages else [] := by
  rw [postedBy, post, Mailbox.post, List.filter_append, List.map_append, postedBy]
  by_cases h : sender = some id <;> simp [List.filter_map, Function.comp_def, h]

/-- Who does not exist has posted nothing. -/
theorem Ledger.postedBy_eq_nil (h : r.Ledger) {id : ConnectionId} (hid : r.connection? id = none) :
    r.postedBy id = [] := by
  rw [postedBy, List.map_eq_nil_iff, List.filter_eq_nil_iff]
  intro letter hletter hsender
  have hsome := h.senders letter hletter id (of_decide_eq_true hsender)
  rw [hid] at hsome
  cases hsome

/-- Every connection has a history. -/
def Recorded (r : Relay) : Prop :=
  ∀ id c, r.connection? id = some c → c.History (r.exchange.deliveredTo id) (r.postedBy id)

namespace Recorded

theorem create (h : r.Recorded) (hledger : r.Ledger) (spec : ConnectionSpec) :
    (r.create spec).2.Recorded := by
  intro id c hc
  rw [connection?_create] at hc
  by_cases hid : id = ⟨r.identities⟩
  · subst hid
    rw [hledger.connection?_next, Option.none_or, if_pos rfl] at hc
    obtain rfl := Option.some.inj hc
    have hposted : (r.create spec).2.postedBy ⟨r.identities⟩ = [] :=
      hledger.postedBy_eq_nil hledger.connection?_next
    rw [hposted]
    exact .made _ _ _
  · rw [if_neg hid, Option.or_none] at hc
    exact h id c hc

theorem act (h : r.Recorded) {c c' : Running} {messages : List RouterMessage}
    (hc : r.connection? c.id = some c) (hact : c.Act (r.queue c) messages c') :
    ((r.post (some c.id) messages).update c').Recorded := by
  intro id d hd
  have hposted : ((r.post (some c.id) messages).update c').postedBy id
      = r.postedBy id ++ if some c.id = some id then messages else [] := postedBy_post r _ _ id
  rw [hposted]
  rw [connection?_act hc hact] at hd
  by_cases hid : id = c.id
  · subst hid
    rw [if_pos rfl] at hd ⊢
    obtain rfl := Option.some.inj hd
    exact .acts (h c.id c hc) hact
  · rw [if_neg hid] at hd
    rw [if_neg fun heq ↦ hid (Option.some.inj heq).symm, List.append_nil]
    exact h id d hd

/-- What the router does is seen by a connection only as more that is handed to it. -/
theorem step (h : r.Recorded) (e : RouterEvent) (hconnections : r'.connections = r.connections)
    (hposted : r'.mail.posted = r.mail.posted) (hexchange : r'.exchange = r.exchange.step e) :
    r'.Recorded := by
  intro id c hc
  rw [connection?, hconnections] at hc
  obtain ⟨more, hmore⟩ := r.exchange.exists_deliveredTo_step e id
  rw [postedBy, hposted, hexchange, hmore]
  exact .handed (h id c hc) more

/-- Letters of the relay itself are not seen by connections. -/
theorem post_none (h : r.Recorded) (messages : List RouterMessage) :
    (r.post none messages).Recorded := by
  intro id c hc
  have hother : none ≠ some id := by simp
  rw [postedBy_post, if_neg hother, List.append_nil]
  exact h id c hc

end Recorded

theorem Change.recorded (h : r.Change r') (hledger : r.Ledger) (hrecorded : r.Recorded) :
    r'.Recorded := by
  cases h with
  | aside h =>
    intro id c hc
    rw [connection?, h.connections] at hc
    rw [h.exchange, postedBy, h.mail]
    exact hrecorded id c hc
  | opens file => exact hrecorded.post_none _
  | comes h => exact hrecorded.create hledger _
  | links hl hphase => exact hrecorded.create hledger _
  | acts hc hact hopen => exact hrecorded.act hc hact
  | ends hc hact hclosed => exact (hrecorded.act hc hact).step (.lost _) rfl rfl rfl
  | publishes bulletins => exact hrecorded.post_none _
  | routes htake =>
    obtain ⟨-, rfl⟩ := Mailbox.take?_eq_some_iff.1 htake
    exact hrecorded.step (.message _) rfl rfl rfl
  | reports refdes => exact hrecorded.step (.report refdes) rfl rfl rfl
  | loses hany => exact hrecorded.step (.lost _) rfl rfl rfl

/-- **Every connection of a relay that can be reached has a history.** -/
theorem Reached.history {config : Config} (h : Reached config r) {id : ConnectionId} {c : Running}
    (hc : r.connection? id = some c) : c.History (r.exchange.deliveredTo id) (r.postedBy id) := by
  have hrecorded : r.Recorded := by
    clear hc
    induction h with
    | start h =>
      intro id c hc
      rw [h.connection?] at hc
      cases hc
    | change h hchange ih => exact hchange.recorded h.ledger ih
  exact hrecorded id c hc

end Relay

end InstrumentRelay
