/-!
# JSON text

The values the relay shows as JSON, and their compact form: no blanks, members in the order given,
numbers as plain integers of any size. In a string the quote, the backslash and the controls are
escaped and everything else stands for itself.
-/

namespace InstrumentRelay

/-- A JSON value, as far as it is needed here. -/
inductive Json where
  /-- No value. -/
  | null
  /-- A whole number. -/
  | number (n : Nat)
  /-- A string. -/
  | text (s : String)
  /-- An array. -/
  | array (items : List Json)
  /-- An object, with its members in order. -/
  | object (members : List (String × Json))

namespace Json

/-- A character of a string. -/
def escape (c : Char) : List Char :=
  if c = '"' then ['\\', '"']
  else if c = '\\' then ['\\', '\\']
  else if c = '\n' then ['\\', 'n']
  else if c = '\r' then ['\\', 'r']
  else if c = '\t' then ['\\', 't']
  else if c = '\x08' then ['\\', 'b']
  else if c = '\x0c' then ['\\', 'f']
  else if c.val < 0x20 then
    ['\\', 'u', '0', '0', Nat.digitChar (c.toNat / 16), Nat.digitChar (c.toNat % 16)]
  else [c]

/-- A string in its quotes. -/
def quote (s : String) : String := "\"" ++ String.ofList (s.toList.flatMap escape) ++ "\""

/-- The compact form. -/
def compact : Json → String
  | null => "null"
  | number n => toString n
  | text s => quote s
  | array items => "[" ++ ",".intercalate (items.attach.map fun ⟨v, _⟩ ↦ compact v) ++ "]"
  | object members =>
    "\x7b" ++ ",".intercalate
        (members.attach.map fun ⟨m, _⟩ ↦ quote m.1 ++ ":" ++ compact m.2) ++ "\x7d"
decreasing_by
  · rename_i h
    have := List.sizeOf_lt_of_mem h
    simp only [array.sizeOf_spec]
    omega
  · rename_i h
    have := List.sizeOf_lt_of_mem h
    have : sizeOf m.2 < sizeOf m := by
      obtain ⟨name, value⟩ := m
      simp only [Prod.mk.sizeOf_spec]
      omega
    simp only [object.sizeOf_spec]
    omega

/-- A number that may be absent. -/
def optionalNumber : Option Nat → Json
  | none => null
  | some n => number n

/-- A string that may be absent. -/
def optionalText : Option String → Json
  | none => null
  | some s => text s

end Json

end InstrumentRelay
