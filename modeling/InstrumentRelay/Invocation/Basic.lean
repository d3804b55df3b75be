import InstrumentRelay.Config.Text
import InstrumentRelay.Error
import InstrumentRelay.Invocation.Reading
import InstrumentRelay.Text.Utf8

/-!
# What the relay is asked to do

The arguments of the relay, understood: which task, and with which configuration. A configuration
comes from a file, or it is put together from the arguments themselves. An option that is understood
everywhere may be given more than once, at most once to each command; the one given to the innermost
command counts.
-/

namespace InstrumentRelay

/-- What there is to do. -/
inductive Task where
  /-- Serve the instrument that a configuration file describes. -/
  | run (path : String)
  /-- Serve an instrument that the arguments describe. -/
  | serve (instrument : Instrument) (refdes : String) (ttlSecs : UInt64)
  /-- Show a configuration to begin with. -/
  | sample
  deriving DecidableEq, Repr

/-- The name of the command for the task. -/
def Task.name : Task → String
  | run _ => "run"
  | serve instrument _ _ => instrument.name
  | sample => "examples"

/-- How much is logged. -/
inductive Detail where
  /-- What matters. -/
  | info
  /-- What helps to find a fault. -/
  | debug
  /-- Everything. -/
  | trace
  deriving DecidableEq, Repr

/-- The name of the level. -/
def Detail.label : Detail → String
  | info => "INFO"
  | debug => "DEBUG"
  | trace => "TRACE"

/-- What the relay is asked to do. -/
structure Invocation where
  /-- The task. -/
  task : Task
  /-- How often more output was asked for, up to 255 times. -/
  verbosity : Nat
  /-- The directory for log files. -/
  logDir : Option String
  deriving DecidableEq, Repr

namespace Invocation

/-- The text that was said in a place. -/
def text? (values : List (String × ArgumentValue)) (name : String) : Option String :=
  match values.lookup name with
  | some (.text s) => some s
  | _ => none

/-- The number that was said in a place. -/
def number? (values : List (String × ArgumentValue)) (name : String) : Option Nat :=
  match values.lookup name with
  | some (.number n) => some n
  | _ => none

/-- The time for which services count as healthy, thirty seconds unless something else was said. -/
def ttl (values : List (String × ArgumentValue)) : UInt64 :=
  ((number? values "ttl").getD 30).toUInt64

/-- The task that a command stands for. -/
def task? (command : String) (values : List (String × ArgumentValue)) : Option Task := do
  match command with
  | "run" => return .run (← text? values "config")
  | "tcp" =>
    let instrument :=
      .tcp (← text? values "instaddr") (← number? values "instport").toUInt16
    return .serve instrument (← text? values "refdes") (ttl values)
  | "rsn" =>
    let aux := if (values.lookup "on-demand").isSome then .onDemand else .persistent
    let instrument :=
      .rsn (← text? values "instaddr") (← number? values "instport").toUInt16
        (← number? values "digiport").toUInt16 aux
    return .serve instrument (← text? values "refdes") (ttl values)
  | "botpt" =>
    let instrument :=
      .botpt (← text? values "instaddr") (← number? values "rxport").toUInt16
        (← number? values "txport").toUInt16
    return .serve instrument (← text? values "refdes") (ttl values)
  | "config" => return .sample
  | _ => none

/-- What was said to the innermost command that says anything about it. -/
def innermost? {α : Type} (get? : List (String × ArgumentValue) → Option α) (said : Said) :
    Option α :=
  said.reverse.findSome? fun s ↦ get? s.2

/-- What the relay is asked to do by what was said. -/
def ofSaid? (said : Said) : Option Invocation := do
  let (command, values) ← said.getLast?
  return {
    task := ← task? command values
    verbosity := (innermost? (number? · "verbose") said).getD 0
    logDir := innermost? (text? · "log-dir") said }

/-- What the relay is asked to do by its arguments. -/
def ofArguments (arguments : List String) : Except UsageError Invocation := do
  let said ← CommandForm.relay.read arguments
  match ofSaid? said with
  | some invocation => return invocation
  | none => .error .noCommand

/-- How much is logged. -/
def detail (i : Invocation) : Detail :=
  match i.verbosity with
  | 0 => .info
  | 1 => .debug
  | _ => .trace

/-- The configuration to run with, if there is something to run. It takes what came of reading the
configuration file, which matters only if the task names one. -/
def config? (i : Invocation) (file : Except RelayError Bytes) : Except RelayError (Option Config) :=
  match i.task with
  | .sample => .ok none
  | .run _ => do
    let bytes ← file
    match Utf8.strict? bytes with
    | none => .error (.io .invalidData "stream did not contain valid UTF-8")
    | some text =>
      match Config.parse? text with
      | none => .error (.ofConfig .unreadable)
      | some config =>
        return some { config with logDir := i.logDir <|> config.logDir }
  | .serve instrument refdes ttlSecs =>
    .ok (some { refdes := refdes, instrument := instrument, timing := { ttlSecs := ttlSecs },
                logDir := i.logDir })

end Invocation

end InstrumentRelay
