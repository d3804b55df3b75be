import InstrumentRelay.Ron.Value

/-!
# Reading RON

A text is read for a purpose: the reader of a record knows which members it may have and what each
of them has to be. Members it does not know are passed over, whatever their value is, but no member
may come twice. Text that is not what the reader wants is refused without a reason; the only answer
to such a configuration is that it could not be read.

Nesting is bounded. A reader has a budget, from which every level takes its share, so reading ends
on every text, and a text nested too deeply is refused.
-/

namespace InstrumentRelay

namespace Ron

/-- Reads a value off the front of a text, within a budget for nesting. -/
abbrev Reader (α : Type) := Nat → List Char → Option (α × List Char)

/-- How deeply a text may be nested. -/
def nestingLimit : Nat := 128

/-- One level further down. -/
def nested {α : Type} (reader : Reader α) : Reader α
  | 0, _ => none
  | budget + 1, text => reader budget text

/-! ## Passing over a value -/

/-- What stands between a pair of brackets. -/
inductive Contents where
  /-- Values. -/
  | values
  /-- Values, each after a key and a colon. -/
  | entries
  /-- Values, each after a name and a colon. -/
  | members

/-- What follows an opening parenthesis: values, or members if a name and a colon come first. -/
def parenthesized? (text : List Char) : Option Contents := do
  match name? (← blanks text) with
  | none => return .values
  | some (_, rest) =>
    match ← blanks rest with
    | ':' :: _ => return .members
    | _ :: _ => return .values
    | [] => none

/-- Whether another item comes before `close`. Without a comma in front there may be none. -/
def another? (close : Char) (comma : Bool) (text : List Char) : Option (Bool × List Char) := do
  match ← blanks text with
  | [] => none
  | c :: rest =>
    if comma then return (c ≠ close, c :: rest)
    else if c = close then return (false, c :: rest)
    else none

/-- The text after a colon and blanks. -/
def colon? (text : List Char) : Option (List Char) := do
  match ← blanks text with
  | ':' :: rest => blanks rest
  | _ => none

mutual

/-- The text after a value of any form. -/
def skip (budget : Nat) (text : List Char) : Option (List Char) :=
  match (word? "true" text).or (word? "false" text) with
  | some rest => some rest
  | none =>
    match word? "Some" text with
    | some rest =>
      match budget with
      | 0 => none
      | budget + 1 => do
        let rest ← blanks rest
        match rest with
        | '(' :: inner => do
          let rest ← skip budget (← blanks inner)
          let (_, rest) ← comma rest
          symbol? ")" rest
        | rest => skip budget rest
    | none =>
      match ((word? "None" text).or (symbol? "()" text)).or
          ((word? "inf" text).or (word? "NaN" text)) with
      | some rest => some rest
      | none =>
        match name? text with
        | some (_, rest) => do
          match ← blanks rest with
          | '(' :: inner => skipBracket budget (← parenthesized? inner) ')' inner
          | rest => some rest
        | none =>
          match text with
          | '(' :: inner => do skipBracket budget (← parenthesized? inner) ')' inner
          | '[' :: inner => skipBracket budget .values ']' inner
          | '\x7b' :: inner => skipBracket budget .entries '\x7d' inner
          | '.' :: _ => decimal text
          | '"' :: _ => (string? text).map (·.2)
          | 'r' :: _ => (string? text).map (·.2)
          | '\'' :: _ => character text
          | c :: _ => if c.isDigit || c == '+' || c == '-' then number text else none
          | [] => none
termination_by (budget, 1, 0)

/-- The text after the closing bracket of what has just been opened. -/
def skipBracket (budget : Nat) (contents : Contents) (close : Char) (text : List Char) :
    Option (List Char) :=
  match budget with
  | 0 => none
  | budget + 1 => skipItems budget contents close true text.length text
termination_by (budget, 0, 0)

/-- The text after the closing bracket, with at most `fuel` more items before it. -/
def skipItems (budget : Nat) (contents : Contents) (close : Char) (hadComma : Bool) (fuel : Nat)
    (text : List Char) : Option (List Char) := do
  let (more, text) ← another? close hadComma text
  if !more then some (text.drop 1)
  else
    match fuel, budget with
    | 0, _ => none
    | _, 0 => none
    | fuel + 1, below + 1 =>
      let rest ← match contents with
        | .values => skip below text
        | .entries => do skip below (← colon? (← skip below text))
        | .members => do
          let (_, rest) ← name? text
          skip below (← colon? rest)
      let (hadComma, rest) ← comma rest
      skipItems (below + 1) contents close hadComma fuel rest
termination_by (budget, 2, fuel)

end

/-! ## Readers -/

/-- A whole number below the limit. -/
def wholeReader (limit : Nat) : Reader Value := fun _ text ↦
  (whole? limit text).map fun r ↦ (.number r.1, r.2)

/-- A string. -/
def textReader : Reader Value := fun _ text ↦
  (string? text).map fun r ↦ (.text (String.ofList r.1), r.2)

/-- An optional value. A value that is present may stand by itself. Where the value may be left out,
nothing has to stand between a `Some` and what follows it. -/
def optionalReader (reader : Reader Value) : Reader Value := fun budget text ↦
  match symbol? "None" text with
  | some rest => some (.absent, rest)
  | none =>
    match symbol? "Some" text with
    | none => do
      let (value, rest) ← nested reader budget text
      return (.present value, rest)
    | some rest => do
      match ← blanks rest with
      | '(' :: inner => do
        let (value, rest) ← nested reader budget (← blanks inner)
        let (_, rest) ← comma rest
        return (.present value, ← symbol? ")" rest)
      | rest => do
        let (value, rest) ← nested reader budget rest
        return (.present value, rest)

/-- The members up to the closing parenthesis, after those already found (last first), with at most
`fuel` more to come. -/
def readMembers (known : String → Option (Reader Value)) (budget : Nat)
    (found : List (String × Value)) (hadComma : Bool) (fuel : Nat) (text : List Char) :
    Option (List (String × Value) × List Char) := do
  let (more, text) ← another? ')' hadComma text
  if !more then some (found.reverse, text.drop 1)
  else
    match fuel with
    | 0 => none
    | fuel + 1 =>
      if budget = 0 then none
      else
        let (name, rest) ← name? text
        let rest ← colon? rest
        match known name with
        | none => do
          let (hadComma, rest) ← comma (← nested (fun b t ↦ (skip b t).map ((), ·)) budget rest).2
          readMembers known budget found hadComma fuel rest
        | some reader =>
          if (found.lookup name).isSome then none
          else do
            let (value, rest) ← nested reader budget rest
            let (hadComma, rest) ← comma rest
            readMembers known budget ((name, value) :: found) hadComma fuel rest

/-- The members in parentheses. -/
def membersReader (known : String → Option (Reader Value)) : Reader (List (String × Value)) :=
  fun budget text ↦
    match text with
    | '(' :: inner => nested (fun b t ↦ readMembers known b [] true t.length t) budget inner
    | _ => none

/-- The text after an identifier, which has to be this one. -/
def named? (name : String) (text : List Char) : Option (List Char) := do
  let (found, rest) ← name? text
  if found = name then some rest else none

/-- A record, which may begin with its name. -/
def recordReader (name : String) (known : String → Option (Reader Value)) : Reader Value :=
  fun budget text ↦ do
    let rest ← if text.head?.any continuesName then named? name text else some text
    let (members, rest) ← membersReader known budget (← blanks rest)
    return (.record "" members, rest)

/-- One of several variants: a name, and the members that go with it if there are any. -/
def variantReader (variants : String → Option (Option (String → Option (Reader Value)))) :
    Reader Value := nested fun budget text ↦ do
  let (name, rest) ← name? (← blanks text)
  match ← variants name with
  | none => if budget = 0 then none else return (.symbol name, rest)
  | some known =>
    let (members, rest) ← membersReader known budget (← blanks rest)
    return (.record name members, rest)

/-! ## Whole texts -/

/-- The text after one announcement of features, if it begins with one. Every feature there is to
announce is on already. -/
def announcement? (text : List Char) : Option (Option (List Char)) :=
  match text with
  | '#' :: rest => do
    let rest ← symbol? "!" (← blanks rest)
    let rest ← symbol? "[" (← blanks rest)
    let rest ← symbol? "enable" (← blanks rest)
    let rest ← symbol? "(" (← blanks rest)
    let rest ← features rest.length (← blanks rest)
    let rest ← symbol? ")" (← blanks rest)
    let rest ← symbol? "]" (← blanks rest)
    return some rest
  | _ => some none
where
  /-- The text after a list of features, at most `fuel` of them. -/
  features : Nat → List Char → Option (List Char)
    | 0, _ => none
    | fuel + 1, text => do
      let (name, rest) ← name? text
      if ["unwrap_newtypes", "implicit_some", "unwrap_variant_newtypes"].contains name then
        let (hadComma, rest) ← comma rest
        if rest.head?.any continuesName then
          if hadComma then features fuel rest else none
        else some rest
      else none

/-- The text after all announcements, at most `fuel` of them. -/
def skipAnnouncements : Nat → List Char → Option (List Char)
  | 0, _ => none
  | fuel + 1, text => do
    match ← announcement? text with
    | none => some text
    | some rest => skipAnnouncements fuel (← blanks rest)

/-- What a reader makes of a whole text, in which nothing but blanks follows the value. -/
def readAll (reader : Reader Value) (text : List Char) : Option Value := do
  let start ← skipAnnouncements (text.length + 1) (← blanks text)
  let (value, rest) ← reader nestingLimit start
  if (← blanks rest).isEmpty then some value else none

end Ron

end InstrumentRelay
