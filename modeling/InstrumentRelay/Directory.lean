import InstrumentRelay.Time.Duration

/-!
# Announcing the services

Each port the relay serves is announced in a directory of services. The directory may refuse, or be
out of reach; the announcer then waits and tries the same service again, and does not go on to the
next one before this one has been accepted. So the directory's answers decide everything: a `true`
accepts the service that is being announced, a `false` costs one waiting time.
-/

namespace InstrumentRelay

/-- A service as the directory knows it. -/
structure Service where
  /-- Tells services apart: the name and the reference designator. -/
  id : String
  /-- What kind of service it is. -/
  name : String
  /-- The port it is served on. -/
  port : UInt16
  /-- How many seconds it counts as healthy without being refreshed. -/
  ttlSecs : UInt64
  /-- The reference designator. -/
  tags : List String
  deriving DecidableEq, Repr

/-- The service of this name for an instrument. -/
def Service.describe (name refdes : String) (port : UInt16) (ttlSecs : UInt64) : Service where
  id := name ++ "-" ++ refdes
  name := name
  port := port
  ttlSecs := ttlSecs
  tags := [refdes]

/-- How far the announcing has got. -/
structure Announcer where
  /-- The services still to be accepted. -/
  waiting : List Service
  /-- The services that have been accepted, in order. -/
  accepted : List Service
  /-- How many times the directory has been asked. -/
  attempts : Nat
  /-- How many times it has refused. -/
  refusals : Nat
  deriving DecidableEq, Repr

namespace Announcer

/-- Nothing has been announced yet. -/
def start (services : List Service) : Announcer := ⟨services, [], 0, 0⟩

/-- Nothing is left to announce. -/
def isDone (a : Announcer) : Bool := a.waiting.isEmpty

/-- The directory is asked about the first service that is waiting, and answers. -/
def attempt (a : Announcer) (accepts : Bool) : Announcer :=
  match a.waiting with
  | [] => a
  | service :: rest =>
    if accepts then
      { a with
        waiting := rest, accepted := a.accepted ++ [service], attempts := a.attempts + 1 }
    else { a with attempts := a.attempts + 1, refusals := a.refusals + 1 }

/-- The directory is asked until its answers run out. -/
def hear (a : Announcer) (answers : List Bool) : Announcer := answers.foldl attempt a

/-- Everything is accepted from now on. -/
def finish (a : Announcer) : Announcer := a.hear (a.waiting.map fun _ ↦ true)

/-- How long the announcing has waited altogether, in nanoseconds. -/
def waited (a : Announcer) (retry : Duration) : Nat := a.refusals * retry.wait.nanos

end Announcer

end InstrumentRelay
