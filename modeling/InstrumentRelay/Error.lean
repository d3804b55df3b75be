import InstrumentRelay.Config.Check
import InstrumentRelay.Text.Quoted

/-!
# What can go wrong

Problems of the relay as a whole, by their cause, and how each is put into words. Where the words
come from elsewhere, from the operating system or from a service directory, they are part of the
cause.
-/

namespace InstrumentRelay

/-- What kind of trouble with a file or a connection. -/
inductive IoKind where
  /-- There is no such file. -/
  | notFound
  /-- Something of another kind is in the way. -/
  | alreadyExists
  /-- A directory stands where a file is needed. -/
  | isDirectory
  /-- A file stands where a directory is needed. -/
  | notADirectory
  /-- No name or path can be this long. -/
  | invalidFilename
  /-- No name or path can hold this character. -/
  | invalidInput
  /-- The bytes are not of the form they should have. -/
  | invalidData
  /-- The other end refuses. -/
  | connectionRefused
  /-- The other end gave up. -/
  | connectionAborted
  /-- Anything else. -/
  | other
  deriving DecidableEq, Repr

/-- A problem of the relay. -/
inductive RelayError where
  /-- Trouble with a file or a connection. -/
  | io (kind : IoKind) (text : String)
  /-- The configuration describes no working relay. -/
  | badConfig (problem : String)
  /-- A port could not be served. -/
  | bind (port : UInt16) (problem : String)
  /-- The directory could not be reached, or refused. -/
  | directory (problem : String)
  /-- A log file could not be opened. -/
  | logFile (folder problem : String)
  /-- A connection was not made in time. -/
  | connectTimeout (after : Duration) (target : String)
  /-- Something was written to a connection whose owner has gone. -/
  | connectionClosed (name : String)
  /-- The monitor has stopped. -/
  | monitorGone
  /-- The router has stopped. -/
  | routerGone
  /-- A part of the relay broke down. -/
  | partFailed (problem : String)
  deriving DecidableEq, Repr

namespace RelayError

/-- The problem in words. -/
def message : RelayError → String
  | io _ text => text
  | badConfig problem => "The configuration is not valid. Problem: `" ++ problem ++ "`"
  | bind port problem =>
    "Could not bind port " ++ toString port.toNat ++ ". Problem: " ++ problem
  | directory problem => "Service directory problem: " ++ problem
  | logFile folder problem =>
    "Could not open log file in " ++ quoted folder ++ ". Problem: " ++ problem
  | connectTimeout after target =>
    "Timed out after " ++ after.text ++ " connecting to " ++ target
  | connectionClosed name => "The connection `" ++ name ++ "` is closed"
  | monitorGone => "The agent is not running"
  | routerGone => "The router is not running"
  | partFailed problem => "Task failed: " ++ problem

/-- What is wrong with the configuration, if that is the problem. -/
def configProblem? : RelayError → Option String
  | badConfig problem => some problem
  | _ => none

/-- A problem with the configuration as a problem of the relay. -/
def ofConfig (e : ConfigError) : RelayError := badConfig e.message

end RelayError

end InstrumentRelay
