import InstrumentRelay.Packet.Basic

/-!
# The text log

One line for each packet: its kind, its time to the microsecond, the length of the payload, and the
payload itself. Payload bytes that are not printable ASCII are escaped, and so is the backslash, so
that a line never contains a second line end and the payload can be told from the text around it.
-/

namespace InstrumentRelay

/-- A hexadecimal digit, in lower case. -/
def hexDigit (n : Nat) : Char := Nat.digitChar (n % 16)

/-- A payload byte as it stands in a log line. -/
def logEscape (b : UInt8) : List Char :=
  if b = 0x0a then ['\\', 'n']
  else if b = 0x0d then ['\\', 'r']
  else if b = 0x09 then ['\\', 't']
  else if b = 0x5c then ['\\', '\\']
  else if 0x20 ≤ b ∧ b ≤ 0x7e then [Char.ofNat b.toNat]
  else ['\\', 'x', hexDigit (b.toNat / 16), hexDigit b.toNat]

namespace Packet

/-- The line that describes the packet, line end included. -/
def logLine (p : Packet) : List Char :=
  "<packet type=\"".toList ++ p.kind.label.toList ++ "\" time=\"".toList ++ p.stamp.text
    ++ "\" length=\"".toList ++ Nat.toDigits 10 p.payload.length ++ "\">".toList
    ++ p.payload.flatMap logEscape ++ "</packet>\n".toList

/-- The line as it is written to files and observers. Every character of it is ASCII, and stands
for one byte. -/
def logBytes (p : Packet) : Bytes := p.logLine.map Char.toUInt8

end Packet

end InstrumentRelay
