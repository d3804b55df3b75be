/-!
# Packet kinds

What a packet is for, and where its payload came from. A kind has a code on the wire and a label
in the text log; `PacketKind.all` lists the kinds in the order of their codes.
-/

namespace InstrumentRelay

/-- The kinds of packets. -/
inductive PacketKind where
  /-- Of unknown origin, such as what an observer writes. -/
  | unknown
  /-- Read from the instrument. -/
  | fromInstrument
  /-- Written by a driver, for the instrument. -/
  | fromDriver
  /-- A line received on the command port. -/
  | command
  /-- Whether the instrument is connected. -/
  | status
  /-- A command that went wrong. -/
  | fault
  /-- The configuration, or the version. -/
  | config
  /-- A command for the auxiliary link. -/
  | auxCommand
  /-- What the auxiliary link answered. -/
  | auxResponse
  /-- A sign of life, at regular intervals. -/
  | heartbeat
  /-- Instrument data that was pickled before it got here. -/
  | pickled
  deriving DecidableEq, Repr, Inhabited

namespace PacketKind

/-- Every kind, in the order of the codes. -/
def all : List PacketKind :=
  [unknown, fromInstrument, fromDriver, command, status, fault, config, auxCommand, auxResponse,
    heartbeat, pickled]

/-- The code on the wire. -/
def code : PacketKind → UInt8
  | unknown => 0
  | fromInstrument => 1
  | fromDriver => 2
  | command => 3
  | status => 4
  | fault => 5
  | config => 6
  | auxCommand => 7
  | auxResponse => 8
  | heartbeat => 9
  | pickled => 10

/-- The kind with this code. -/
def ofCode? (code : UInt8) : Option PacketKind := all[code.toNat]?

/-- The name in the text log. -/
def label : PacketKind → String
  | unknown => "UNKNOWN"
  | fromInstrument => "DATA_FROM_INSTRUMENT"
  | fromDriver => "DATA_FROM_DRIVER"
  | command => "PORT_AGENT_COMMAND"
  | status => "PORT_AGENT_STATUS"
  | fault => "PORT_AGENT_FAULT"
  | config => "PORT_AGENT_CONFIG"
  | auxCommand => "DIGI_CMD"
  | auxResponse => "DIGI_RSP"
  | heartbeat => "PORT_AGENT_HEARTBEAT"
  | pickled => "PICKLED_FROM_INSTRUMENT"

@[simp] theorem mem_all (k : PacketKind) : k ∈ all := by cases k <;> decide

theorem ofCode?_code (k : PacketKind) : ofCode? k.code = some k := by cases k <;> rfl

theorem ofCode?_eq_some_iff {c : UInt8} {k : PacketKind} : ofCode? c = some k ↔ c = k.code := by
  constructor
  · intro h
    have hc : c.toNat < all.length := by
      rcases Nat.lt_or_ge c.toNat all.length with hlt | hge
      · exact hlt
      · simp [ofCode?, List.getElem?_eq_none hge] at h
    have hall : ∀ n : Fin 11, all[n.val]? = some k → n.val = k.code.toNat := by
      cases k <;> decide
    exact UInt8.toNat.inj (hall ⟨c.toNat, hc⟩ h)
  · rintro rfl
    exact ofCode?_code k

end PacketKind

end InstrumentRelay
