/-!
# Command line forms

A form describes the arguments that a command takes: options, which may stand anywhere, operands,
which come in a fixed order, and the commands that may follow it. `CommandForm.relay` is the form of
the relay's own command line.

A value is checked against the form of its place (`ValueForm.check`). Numbers may have a sign, as
long as they are in range.
-/

namespace InstrumentRelay

/-- Why arguments are not acted upon. Asking for help is among the reasons. -/
inductive UsageError where
  /-- Help was asked for. -/
  | help
  /-- The version was asked for. -/
  | version
  /-- Nothing was said where a command is needed, so help is shown. -/
  | helpInstead
  /-- There is no such option, or no room for another operand. -/
  | unknownArgument
  /-- There is no such command. -/
  | unknownCommand
  /-- An option that takes no value was given one. -/
  | unexpectedValue
  /-- A value is missing, or empty where it may not be. -/
  | noValue
  /-- A value is not of the form it should have. -/
  | badValue
  /-- An option was given twice. -/
  | repeated
  /-- A command is needed after the options. -/
  | noCommand
  /-- Operands are missing. -/
  | missingOperand
  deriving DecidableEq, Repr

/-! ## Values -/

/-- What a value has to look like. -/
inductive ValueForm where
  /-- Any text. -/
  | text
  /-- A path, which is not empty. -/
  | path
  /-- A port number. -/
  | port
  /-- A number of seconds. -/
  | seconds
  deriving DecidableEq, Repr

/-- The value of an argument. -/
inductive ArgumentValue where
  /-- A text. -/
  | text (s : String)
  /-- A number, or how often something was said. -/
  | number (n : Nat)
  deriving DecidableEq, Repr

/-- The number that these decimal digits write, of which there is at least one. -/
def digits? (digits : List Char) : Option Nat :=
  if digits ≠ [] ∧ digits.all Char.isDigit then
    some (digits.foldl (fun n c ↦ n * 10 + (c.toNat - 48)) 0)
  else none

/-- A port number. A minus sign is allowed, but leaves nothing but zero in range. -/
def portNumber? (s : String) : Option Nat :=
  match s.toList with
  | '-' :: digits => (digits? digits).filter (· = 0)
  | '+' :: digits => (digits? digits).filter (· < UInt16.size)
  | digits => (digits? digits).filter (· < UInt16.size)

/-- A number of sixty-four bits, without a minus sign. -/
def longNumber? (s : String) : Option Nat :=
  match s.toList with
  | '+' :: digits => (digits? digits).filter (· < UInt64.size)
  | digits => (digits? digits).filter (· < UInt64.size)

/-- The value that a text has in a place of this form. -/
def ValueForm.check (f : ValueForm) (s : String) : Except UsageError ArgumentValue :=
  match f with
  | text => .ok (.text s)
  | path => if s = "" then .error .noValue else .ok (.text s)
  | port =>
    match portNumber? s with
    | some n => .ok (.number n)
    | none => .error .badValue
  | seconds =>
    match longNumber? s with
    | some n => .ok (.number n)
    | none => .error .badValue

/-! ## Commands -/

/-- What an option does. -/
inductive OptionUse where
  /-- Asks for help. -/
  | help
  /-- Asks for the version. -/
  | version
  /-- Counts how often it is said. -/
  | tally
  /-- Says something once. -/
  | mark
  /-- Takes a value. -/
  | value (form : ValueForm)
  deriving DecidableEq, Repr

/-- An option, written `--name` or by a single letter after a hyphen. -/
structure OptionForm where
  /-- The name. -/
  name : String
  /-- The letter. -/
  letter : Option Char := none
  /-- What it does. -/
  use : OptionUse
  deriving DecidableEq, Repr

/-- A place for a value, with a name. -/
structure Place where
  /-- The name. -/
  name : String
  /-- What the value has to look like. -/
  form : ValueForm
  deriving DecidableEq, Repr

/-- What a command takes. Without commands to follow it is complete when every operand is there;
otherwise one of the commands has to follow, and it takes no operands. -/
inductive CommandForm where
  /-- A command by its name, its options, its operands and the commands that may follow. -/
  | mk (name : String) (options : List OptionForm) (operands : List Place)
    (commands : List CommandForm)

namespace CommandForm

/-- The name of the command. -/
def name : CommandForm → String
  | mk n _ _ _ => n

/-- The options. -/
def options : CommandForm → List OptionForm
  | mk _ o _ _ => o

/-- The operands. -/
def operands : CommandForm → List Place
  | mk _ _ p _ => p

/-- The commands that may follow. -/
def commands : CommandForm → List CommandForm
  | mk _ _ _ c => c

/-- The name under which help on a command can be asked for. -/
def helpName : String := "help"

/-- Asking for help on a command, itself a command where commands may follow. -/
def helpForm : CommandForm := mk helpName [] [] []

/-- The command of this name that may follow, help included. -/
def command? (f : CommandForm) (name : String) : Option CommandForm :=
  match f.commands with
  | [] => none
  | commands => (commands ++ [helpForm]).find? (·.name == name)

/-- Each name is a command that may follow the one before. -/
def hasPath (f : CommandForm) : List String → Bool
  | [] => true
  | name :: rest =>
    match f.command? name with
    | none => false
    | some g => g.hasPath rest

/-- The option of this name. -/
def option? (f : CommandForm) (name : String) : Option OptionForm :=
  f.options.find? (·.name == name)

/-- The option of this letter. -/
def letter? (f : CommandForm) (letter : Char) : Option OptionForm :=
  f.options.find? (·.letter == some letter)

/-! ## The command line of the relay -/

/-- The options that are understood everywhere. -/
def everywhere : List OptionForm := [
  { name := "log-dir", use := .value .path },
  { name := "verbose", letter := some 'v', use := .tally },
  { name := "help", letter := some 'h', use := .help }]

/-- How long the announced services count as healthy. -/
def ttlOption : OptionForm := { name := "ttl", use := .value .seconds }

/-- The command line of the relay. -/
def relay : CommandForm :=
  mk "" ({ name := "version", letter := some 'V', use := .version } :: everywhere) [] [
    mk "run" everywhere [⟨"config", .path⟩] [],
    mk "tcp" (ttlOption :: everywhere)
      [⟨"instaddr", .text⟩, ⟨"instport", .port⟩, ⟨"refdes", .text⟩] [],
    mk "rsn" (ttlOption :: { name := "on-demand", use := .mark } :: everywhere)
      [⟨"instaddr", .text⟩, ⟨"instport", .port⟩, ⟨"digiport", .port⟩, ⟨"refdes", .text⟩] [],
    mk "botpt" (ttlOption :: everywhere)
      [⟨"instaddr", .text⟩, ⟨"rxport", .port⟩, ⟨"txport", .port⟩, ⟨"refdes", .text⟩] [],
    mk "examples" everywhere [] [mk "config" everywhere [] []]]

end CommandForm

end InstrumentRelay
