import InstrumentRelay.Command.Reply
import InstrumentRelay.Invocation.Basic

/-!
# The command line

Reads the arguments, and the configuration file if they name one, and says what has come of it: a
configuration to begin with, a configuration that works, as one line of JSON, or what is wrong. It
decides nothing: the arguments are read by `Invocation.ofArguments`, and the configuration is
resolved and checked by `Invocation.config?` and `Config.check`.
-/

namespace InstrumentRelay

/-- How the relay is called. -/
def usageText : String := "\n".intercalate [
  "usage: [--log-dir DIR] [-v]... COMMAND",
  "commands:",
  "  run CONFIG",
  "  tcp INSTADDR INSTPORT REFDES [--ttl SECONDS]",
  "  rsn INSTADDR INSTPORT DIGIPORT REFDES [--ttl SECONDS] [--on-demand]",
  "  botpt INSTADDR RXPORT TXPORT REFDES [--ttl SECONDS]",
  "  examples config"]

/-- The complaint in words. -/
def UsageError.message : UsageError → String
  | help => usageText
  | version => relayVersion
  | helpInstead => usageText
  | unknownArgument => "unknown argument"
  | unknownCommand => "unknown command"
  | unexpectedValue => "this option takes no value"
  | noValue => "a value is missing"
  | badValue => "a value is not of the right form"
  | repeated => "an option is given twice"
  | noCommand => "a command is missing"
  | missingOperand => "an operand is missing"

/-- Help and the version are answers, everything else is a complaint. -/
def UsageError.exitCode : UsageError → UInt32
  | help => 0
  | version => 0
  | _ => 2

/-- Reads the configuration file, if the task names one. -/
def readConfiguration (task : Task) : IO (Except RelayError Bytes) := do
  match task with
  | .run path =>
    try
      return .ok (← IO.FS.readBinFile path).toList
    catch e =>
      return .error (.io .other (toString e))
  | _ => return .error (.io .notFound "no configuration file is named")

/-- Says what has come of the arguments. -/
def runCommandLine (arguments : List String) : IO UInt32 := do
  match Invocation.ofArguments arguments with
  | .error e =>
    if e.exitCode = 0 then IO.println e.message else IO.eprintln e.message
    return e.exitCode
  | .ok invocation =>
    match invocation.config? (← readConfiguration invocation.task) with
    | .error e =>
      IO.eprintln e.message
      return 1
    | .ok none =>
      IO.println Config.sample.pretty
      return 0
    | .ok (some config) =>
      match config.check with
      | .error e =>
        IO.eprintln (RelayError.ofConfig e).message
        return 1
      | .ok () =>
        IO.println config.toJson.compact
        return 0

end InstrumentRelay

/-- The program. -/
def main (arguments : List String) : IO UInt32 := InstrumentRelay.runCommandLine arguments
