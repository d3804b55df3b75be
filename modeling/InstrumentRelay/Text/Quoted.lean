import InstrumentRelay.Text.Hidden

/-!
# Quoted text

Names that come from outside are shown between double quotes, with escapes for what would not be
seen or would end the quotation. Two forms are in use: messages leave an apostrophe alone, the
configuration file escapes it too.
-/

namespace InstrumentRelay

namespace Quoted

/-- A character in braces after `\u`, in hexadecimal without leading zeros. -/
def codePoint (c : Char) : List Char :=
  ['\\', 'u', '\x7b'] ++ Nat.toDigits 16 c.toNat ++ ['\x7d']

/-- A character between double quotes. -/
def escape (apostrophe : Bool) (c : Char) : List Char :=
  if c = '\x00' then ['\\', '0']
  else if c = '\t' then ['\\', 't']
  else if c = '\r' then ['\\', 'r']
  else if c = '\n' then ['\\', 'n']
  else if c = '\\' then ['\\', '\\']
  else if c = '"' then ['\\', '"']
  else if c = '\'' then if apostrophe then ['\\', '\''] else ['\'']
  else if isHidden c then codePoint c
  else [c]

/-- A text between double quotes. -/
def encode (apostrophe : Bool) (text : List Char) : List Char :=
  '"' :: text.flatMap (escape apostrophe) ++ ['"']

end Quoted

/-- A text as messages show it: in double quotes, with apostrophes as they are. -/
def quoted (text : String) : String := String.ofList (Quoted.encode false text.toList)

end InstrumentRelay
