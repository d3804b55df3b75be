/-!
# The lexical level of RON

RON is the notation of the configuration file. Here are its blanks and comments, identifiers,
numbers and strings. A reader takes what it reads off the front of the text and gives it with the
rest, or nothing if the text does not begin with it.

Identifiers are ASCII. Where an identifier ends, none of the characters may follow that would make
it a raw identifier, which has to be marked by `r#`.
-/

namespace InstrumentRelay

namespace Ron

/-! ## Character classes -/

/-- Blanks between the parts of a text. -/
def isSpace (c : Char) : Bool := c == ' ' || c == '\n' || c == '\r' || c == '\t'

/-- Begins an identifier. -/
def beginsName (c : Char) : Bool := c.isAlpha || c == '_'

/-- Continues an identifier. -/
def continuesName (c : Char) : Bool := c.isAlphanum || c == '_'

/-- Belongs to a raw identifier. -/
def continuesRawName (c : Char) : Bool := continuesName c || c == '.' || c == '+' || c == '-'

/-- Belongs to a whole number in some base. -/
def isWholeChar (c : Char) : Bool :=
  c.isDigit || ('a' ≤ c && c ≤ 'f') || ('A' ≤ c && c ≤ 'F') || c == '_'

/-- Belongs to a number with decimals or an exponent. -/
def isDecimalChar (c : Char) : Bool :=
  c.isDigit || c == '.' || c == 'E' || c == 'e' || c == '+' || c == '-' || c == '_'

/-- The value of a hexadecimal digit, in either case. -/
def hexValue? (c : Char) : Option Nat :=
  if c.isDigit then some (c.toNat - '0'.toNat)
  else if 'a' ≤ c ∧ c ≤ 'f' then some (c.toNat - 'a'.toNat + 10)
  else if 'A' ≤ c ∧ c ≤ 'F' then some (c.toNat - 'A'.toNat + 10)
  else none

/-! ## Blanks and comments -/

/-- Where in a stretch of blanks the reader is. -/
inductive Blank where
  /-- Between comments. -/
  | outside
  /-- In a comment that ends with the line. -/
  | line
  /-- In comments that are open to this depth, not counting the outermost. -/
  | block (depth : Nat)

/-- The text after blanks and comments. A comment that is not closed is an error. -/
def skipBlanks : Blank → List Char → Option (List Char)
  | .outside, '/' :: '/' :: rest => skipBlanks .line rest
  | .outside, '/' :: '*' :: rest => skipBlanks (.block 0) rest
  | .outside, c :: rest =>
    if isSpace c then skipBlanks .outside rest
    else if c = '/' then none
    else some (c :: rest)
  | .outside, [] => some []
  | .line, c :: rest => if c = '\n' then skipBlanks .outside rest else skipBlanks .line rest
  | .line, [] => some []
  | .block depth, '/' :: '*' :: rest => skipBlanks (.block (depth + 1)) rest
  | .block 0, '*' :: '/' :: rest => skipBlanks .outside rest
  | .block (depth + 1), '*' :: '/' :: rest => skipBlanks (.block depth) rest
  | .block depth, _ :: rest => skipBlanks (.block depth) rest
  | .block _, [] => none

/-- The text after blanks and comments. -/
def blanks (text : List Char) : Option (List Char) := skipBlanks .outside text

/-! ## Symbols and identifiers -/

/-- The text after the given symbol. -/
def symbol? (s : String) (text : List Char) : Option (List Char) :=
  if s.toList.isPrefixOf text then some (text.drop s.length) else none

/-- The text after the given word, which no character of an identifier follows. -/
def word? (s : String) (text : List Char) : Option (List Char) := do
  let rest ← symbol? s text
  if rest.head?.any continuesName then none else some rest

/-- The text after a comma and the blanks around it, and whether there was one. -/
def comma (text : List Char) : Option (Bool × List Char) := do
  match ← blanks text with
  | ',' :: rest => return (true, ← blanks rest)
  | rest => return (false, rest)

/-- A plain identifier, which must not go on as a raw one. -/
def plainName? (text : List Char) : Option (String × List Char) :=
  let name := text.takeWhile continuesName
  let raw := text.takeWhile continuesRawName
  if raw.length > name.length then none
  else some (String.ofList name, text.dropWhile continuesName)

/-- An identifier. A raw string is none. -/
def name? : List Char → Option (String × List Char)
  | 'r' :: '"' :: _ => none
  | 'r' :: '#' :: rest =>
    if rest.head?.any continuesRawName then
      some (String.ofList (rest.takeWhile continuesRawName), rest.dropWhile continuesRawName)
    else none
  | ['r'] => none
  | c :: rest => if beginsName c then plainName? (c :: rest) else none
  | [] => none

/-! ## Numbers -/

/-- The number written by these digits, between which underscores may stand. -/
def digitsValue? (base : Nat) (digits : List Char) : Option Nat :=
  digits.foldlM (fun n c ↦
    if c = '_' then some n
    else do
      let d ← hexValue? c
      if d < base then some (n * base + d) else none) 0

/-- The base that the text announces, ten if it announces none, and the text after that. -/
def base : List Char → Nat × List Char
  | '0' :: 'x' :: rest => (16, rest)
  | '0' :: 'b' :: rest => (2, rest)
  | '0' :: 'o' :: rest => (8, rest)
  | text => (10, text)

/-- A whole number below `limit`. -/
def whole? (limit : Nat) (text : List Char) : Option (Nat × List Char) := do
  let (base, text) := base text
  let digits := text.takeWhile isWholeChar
  if digits.isEmpty || digits.head? == some '_' then none
  let n ← digitsValue? base digits
  if n < limit then some (n, text.dropWhile isWholeChar) else none

/-- Whether the characters are a decimal number: a sign, digits with a point among them, and an
exponent, of which only one digit is required. -/
def isDecimal (chars : List Char) : Bool :=
  let unsigned := match chars with
    | '+' :: rest => rest
    | '-' :: rest => rest
    | rest => rest
  let whole := unsigned.takeWhile Char.isDigit
  let afterWhole := unsigned.dropWhile Char.isDigit
  let (part, afterPart) := match afterWhole with
    | '.' :: rest => (rest.takeWhile Char.isDigit, rest.dropWhile Char.isDigit)
    | rest => ([], rest)
  let exponentOk := match afterPart with
    | [] => true
    | c :: rest =>
      (c == 'e' || c == 'E') &&
        let digits := match rest with
          | '+' :: rest => rest
          | '-' :: rest => rest
          | rest => rest
        !digits.isEmpty && digits.all Char.isDigit
  !(whole.isEmpty && part.isEmpty) && exponentOk

/-- The text after a decimal number or one of the words for an infinite or undefined one. -/
def decimal (text : List Char) : Option (List Char) :=
  match ["inf", "+inf", "-inf", "NaN", "+NaN", "-NaN"].findSome? (word? · text) with
  | some rest => some rest
  | none =>
    let chars := text.takeWhile isDecimalChar
    if chars.contains '_' || !isDecimal chars then none
    else some (text.dropWhile isDecimalChar)

/-- The text after a number of any form. -/
def number (text : List Char) : Option (List Char) :=
  let unsigned := match text with
    | '+' :: rest => rest
    | '-' :: rest => rest
    | rest => rest
  let isDecimalNumber :=
    (unsigned.takeWhile isDecimalChar).length > (unsigned.takeWhile isWholeChar).length
  if isDecimalNumber then decimal text
  else
    let limit := if text.head? == some '-' then UInt64.size / 2 + 1 else
      if text.head? == some '+' then UInt64.size / 2 else UInt64.size
    match whole? limit unsigned with
    | some (_, rest) => some rest
    | none => decimal text

/-! ## Strings -/

/-- The digits of an escape in braces, at most `room` more, after `count` digits of value `n`. -/
def codePoint? (n count : Nat) : Nat → List Char → Option (Char × List Char)
  | _, '\x7d' :: rest =>
    if count = 0 then none else if n.isValidChar then some (Char.ofNat n, rest) else none
  | room + 1, c :: rest => do codePoint? (n * 16 + (← hexValue? c)) (count + 1) room rest
  | _, _ => none

/-- The character that the escape after a backslash stands for. -/
def escape? : List Char → Option (Char × List Char)
  | '\'' :: rest => some ('\'', rest)
  | '"' :: rest => some ('"', rest)
  | '\\' :: rest => some ('\\', rest)
  | 'n' :: rest => some ('\n', rest)
  | 'r' :: rest => some ('\r', rest)
  | 't' :: rest => some ('\t', rest)
  | '0' :: rest => some ('\x00', rest)
  | 'x' :: h :: l :: rest => do
    some (Char.ofNat ((← hexValue? h) * 16 + (← hexValue? l)), rest)
  | 'u' :: '\x7b' :: rest => codePoint? 0 0 6 rest
  | _ => none

theorem length_codePoint? {n count room : Nat} {c : Char} {text rest : List Char}
    (h : codePoint? n count room text = some (c, rest)) : rest.length < text.length := by
  fun_induction codePoint? n count room text with
  | case1 => simp at h
  | case2 =>
    simp only [Option.some.injEq, Prod.mk.injEq] at h
    simp [h.2]
  | case3 => simp at h
  | case4 _ _ _ _ _ _ ih =>
    simp only [Option.bind_eq_bind, Option.bind_eq_some_iff] at h
    obtain ⟨d, -, h⟩ := h
    have := ih d h
    simp only [List.length_cons]
    omega
  | case5 => simp at h

theorem length_escape? {c : Char} {text rest : List Char} (h : escape? text = some (c, rest)) :
    rest.length < text.length := by
  unfold escape? at h
  split at h
  case h_8 =>
    simp only [Option.bind_eq_bind, Option.bind_eq_some_iff, Option.some.injEq,
      Prod.mk.injEq] at h
    obtain ⟨_, -, _, -, -, rfl⟩ := h
    simp only [List.length_cons]
    omega
  case h_9 =>
    have := length_codePoint? h
    simp only [List.length_cons]
    omega
  case h_10 => simp at h
  all_goals
    simp only [Option.some.injEq, Prod.mk.injEq] at h
    simp [← h.2]

/-- The rest of a string in double quotes, after the characters in `found` (last first). -/
def closeString (found : List Char) : List Char → Option (List Char × List Char)
  | [] => none
  | c :: rest =>
    if c = '"' then some (found.reverse, rest)
    else if c = '\\' then
      match h : escape? rest with
      | none => none
      | some (e, rest') =>
        have : rest'.length < rest.length + 1 := Nat.lt_succ_of_lt (length_escape? h)
        closeString (e :: found) rest'
    else closeString (c :: found) rest
termination_by text => text.length

/-- The rest of a raw string, which ends at `close`, after the characters in `found` (last
first). -/
def closeRaw (close : List Char) (found : List Char) : List Char → Option (List Char × List Char)
  | [] => none
  | c :: rest =>
    if close.isPrefixOf (c :: rest) then some (found.reverse, (c :: rest).drop close.length)
    else closeRaw close (c :: found) rest

/-- A string, in double quotes with escapes or raw. -/
def string? : List Char → Option (List Char × List Char)
  | '"' :: rest => closeString [] rest
  | 'r' :: rest =>
    let hashes := rest.takeWhile (· == '#')
    match rest.dropWhile (· == '#') with
    | '"' :: body => closeRaw ('"' :: hashes) [] body
    | _ => none
  | _ => none

/-- The text after a character in single quotes. -/
def character : List Char → Option (List Char)
  | '\'' :: '\\' :: rest => do
    let (_, rest) ← escape? rest
    symbol? "'" rest
  | '\'' :: c :: '\'' :: rest => if c = '\'' then none else some rest
  | _ => none

end Ron

end InstrumentRelay
