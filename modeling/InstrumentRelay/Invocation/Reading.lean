import InstrumentRelay.Invocation.Form

/-!
# Reading arguments by a form

Arguments are read from left to right. What an argument is depends on what came before: the value
of an option that waits for one, the name of a command that follows, an option, or an operand. A
value is not checked when it is met but when the next thing is settled, so that of two faults the
one further left is not always the one reported: an option that does not exist is reported even if
the value before it is bad.

After two hyphens everything is an operand, also what looks like an option.
-/

namespace InstrumentRelay

/-- How far the arguments of one command have been read. -/
structure Progress where
  /-- What has been said, by the names of options and operands. -/
  settled : List (String × ArgumentValue)
  /-- An option or operand whose value has not been checked, or has not even come. -/
  pending : Option (Place × Option String)
  /-- The pending option waits for its value. -/
  awaiting : Bool
  /-- Two hyphens have been met. -/
  trailing : Bool
  /-- The operands still to come. -/
  operands : List Place
  deriving DecidableEq, Repr

/-- What was said, command after command. -/
abbrev Said := List (String × List (String × ArgumentValue))

namespace Progress

/-- Nothing has been read. -/
def start (f : CommandForm) : Progress := ⟨[], none, false, false, f.operands⟩

/-- Checks the value that is pending. -/
def settle (p : Progress) : Except UsageError Progress :=
  match p.pending with
  | none => .ok p
  | some (_, none) => .error .noValue
  | some (place, some value) =>
    if (p.settled.lookup place.name).isSome then .error .repeated
    else
      match place.form.check value with
      | .error e => .error e
      | .ok v => .ok { p with settled := p.settled ++ [(place.name, v)], pending := none }

/-- A value for an option or operand, to be checked later. -/
def expect (p : Progress) (place : Place) (value : Option String) : Except UsageError Progress := do
  let p ← p.settle
  return { p with pending := some (place, value), awaiting := value.isNone }

/-- Counts one more use of an option. -/
def tally (p : Progress) (name : String) : Progress :=
  match p.settled.lookup name with
  | some (.number n) =>
    { p with
      settled := p.settled.map fun s ↦ if s.1 = name then (name, .number (min (n + 1) 255)) else s }
  | _ => { p with settled := p.settled ++ [(name, .number 1)] }

/-- An option, with the value attached to it if there is one. -/
def takeOption (p : Progress) (o : OptionForm) (attached : Option String) :
    Except UsageError Progress :=
  match o.use, attached with
  | .value form, some value => do
    let p ← p.expect ⟨o.name, form⟩ (some value)
    p.settle
  | .value form, none => p.expect ⟨o.name, form⟩ none
  | _, some _ => .error .unexpectedValue
  | .help, none => do
    let _ ← p.settle
    .error .help
  | .version, none => do
    let _ ← p.settle
    .error .version
  | .tally, none => do
    let p ← p.settle
    return { p.tally o.name with awaiting := false }
  | .mark, none => do
    let p ← p.settle
    if (p.settled.lookup o.name).isSome then .error .repeated
    else
      return { p with settled := p.settled ++ [(o.name, .number 1)], awaiting := false }

/-- Options by their letters. None of them takes a value. -/
def takeLetters (f : CommandForm) (p : Progress) : List Char → Except UsageError Progress
  | [] => .ok p
  | c :: rest =>
    match f.letter? c with
    | none => .error .unknownArgument
    | some o => do
      let p ← p.takeOption o none
      takeLetters f p rest

/-- An option by its name, with a value after an equals sign or without one. -/
def takeNamed (f : CommandForm) (p : Progress) (written : List Char) :
    Except UsageError Progress :=
  let name := written.takeWhile (· ≠ '=')
  let attached :=
    match written.dropWhile (· ≠ '=') with
    | [] => none
    | _ :: value => some (String.ofList value)
  match f.option? (String.ofList name) with
  | none => .error .unknownArgument
  | some o => p.takeOption o attached

/-- An operand. -/
def takeOperand (f : CommandForm) (p : Progress) (arg : String) : Except UsageError Progress :=
  match p.operands with
  | place :: rest => do
    let p ← p.expect place (some arg)
    return { p with operands := rest }
  | [] =>
    if f.commands.isEmpty ∨ (p.trailing ∧ (f.command? arg).isSome) then .error .unknownArgument
    else .error .unknownCommand

/-- An argument that is not the name of a command that follows. -/
def take (f : CommandForm) (p : Progress) (arg : String) : Except UsageError Progress :=
  if p.trailing then takeOperand f p arg
  else
    match arg.toList with
    | ['-', '-'] => .ok { p with trailing := true }
    | '-' :: '-' :: written => takeNamed f p written
    | '-' :: c :: rest => takeLetters f p (c :: rest)
    | _ =>
      match p.awaiting, p.pending with
      | true, some (place, _) => .ok { p with pending := some (place, some arg), awaiting := false }
      | _, _ => takeOperand f p arg

/-- What was said, once there are no more arguments. -/
def finish (f : CommandForm) (p : Progress) : Except UsageError Said := do
  let p ← p.settle
  if f.commands.isEmpty then
    if p.operands.isEmpty then return [(f.name, p.settled)] else .error .missingOperand
  else if p.settled.isEmpty then .error .helpInstead
  else .error .noCommand

/-- The name of a command that may follow, if the argument is one here. -/
def following? (f : CommandForm) (p : Progress) (arg : String) : Option CommandForm :=
  if p.trailing ∨ p.awaiting then none else f.command? arg

/-- Reads the rest of the arguments. -/
def read (f : CommandForm) (p : Progress) : List String → Except UsageError Said
  | [] => p.finish f
  | arg :: rest =>
    match p.following? f arg with
    | none => do
      let p ← p.take f arg
      read f p rest
    | some g =>
      if g.name = CommandForm.helpName then
        if f.hasPath rest then .error .help else .error .unknownCommand
      else do
        let inner ← read g (start g) rest
        let p ← p.settle
        return (f.name, p.settled) :: inner

end Progress

/-- What arguments of a given form say. -/
def CommandForm.read (f : CommandForm) (arguments : List String) : Except UsageError Said :=
  (Progress.start f).read f arguments

end InstrumentRelay
