import InstrumentRelay.Bytes

/-!
# Log files

A log file is written for one day. Its name says what is logged, on which day, and in which form,
with dots between; parts that are empty are left out, dot and all.
-/

namespace InstrumentRelay

/-- A log file. -/
structure LogFile where
  /-- What is logged. -/
  subject : String
  /-- The day. -/
  day : String
  /-- In which form. -/
  form : String
  /-- What has been written. -/
  content : Bytes := []
  deriving DecidableEq, Repr

namespace LogFile

/-- The name of the file. -/
def name (f : LogFile) : String :=
  ".".intercalate ([f.subject, f.day, f.form].filter (· ≠ ""))

/-- More is written. -/
def write (f : LogFile) (bytes : Bytes) : LogFile := { f with content := f.content ++ bytes }

end LogFile

end InstrumentRelay
