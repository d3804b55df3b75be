import InstrumentRelay.Bytes

/-!
# The words of a command line

A line on the command port is a sequence of words separated by blanks. A word that does not begin
with a double quote is taken as it stands. A word that does runs to the next double quote that is
not escaped, may contain blanks, and has to be followed by a blank or by the end of the line. Inside
the quotes a backslash introduces an escape: for itself, for the quote, for the line feed, the
carriage return and the tab, or for any byte by two hexadecimal digits.

A line that is not of this form is refused, with the position of the first word that goes wrong.
-/

namespace InstrumentRelay

/-- Why a line is not a sequence of words. Positions count bytes from the start of the line. -/
inductive WordError where
  /-- The quote opened here is never closed. -/
  | unclosed (opened : Nat)
  /-- The backslash here does not introduce an escape. -/
  | badEscape (position : Nat)
  /-- The byte here follows a closing quote and is no blank. -/
  | unseparated (position : Nat)
  deriving DecidableEq, Repr

/-- The error in words. -/
def WordError.message : WordError → String
  | unclosed opened => "unterminated quote starting at byte " ++ toString opened
  | badEscape position => "bad escape sequence at byte " ++ toString position
  | unseparated position => "missing whitespace after closing quote at byte " ++ toString position

namespace Words

/-- The double quote. -/
def quoteMark : UInt8 := 0x22

/-- The backslash. -/
def backslash : UInt8 := 0x5c

/-- The byte that the escape after a backslash stands for, how many bytes the escape has, and what
follows it. -/
def escape? : Bytes → Option (UInt8 × Nat × Bytes)
  | [] => none
  | c :: rest =>
    if c = quoteMark then some (quoteMark, 1, rest)
    else if c = backslash then some (backslash, 1, rest)
    else if c = 0x6e then some (0x0a, 1, rest)
    else if c = 0x72 then some (0x0d, 1, rest)
    else if c = 0x74 then some (0x09, 1, rest)
    else if c = 0x78 then
      match rest with
      | high :: low :: rest =>
        match Bytes.hexValue? high, Bytes.hexValue? low with
        | some h, some l => some (h * 16 + l, 3, rest)
        | _, _ => none
      | _ => none
    else none

theorem length_escape? {after rest : Bytes} {b : UInt8} {used : Nat}
    (h : escape? after = some (b, used, rest)) : used + rest.length = after.length := by
  unfold escape? at h
  split at h
  · simp at h
  · rename_i c tail
    split at h
    · simp only [Option.some.injEq, Prod.mk.injEq] at h
      obtain ⟨-, rfl, rfl⟩ := h
      exact Nat.add_comm ..
    split at h
    · simp only [Option.some.injEq, Prod.mk.injEq] at h
      obtain ⟨-, rfl, rfl⟩ := h
      exact Nat.add_comm ..
    split at h
    · simp only [Option.some.injEq, Prod.mk.injEq] at h
      obtain ⟨-, rfl, rfl⟩ := h
      exact Nat.add_comm ..
    split at h
    · simp only [Option.some.injEq, Prod.mk.injEq] at h
      obtain ⟨-, rfl, rfl⟩ := h
      exact Nat.add_comm ..
    split at h
    · simp only [Option.some.injEq, Prod.mk.injEq] at h
      obtain ⟨-, rfl, rfl⟩ := h
      exact Nat.add_comm ..
    split at h
    · split at h
      · split at h
        · simp only [Option.some.injEq, Prod.mk.injEq] at h
          obtain ⟨-, rfl, rfl⟩ := h
          simp only [List.length_cons]
          omega
        · simp at h
      · simp at h
    · simp at h

/-- The bytes of a quoted word after those in `found` (last first), the position after its closing
quote, and what follows. The quote was opened at `opened`, and `position` is where the rest
begins. -/
def closeQuote (opened position : Nat) (found : Bytes) :
    Bytes → Except WordError (Bytes × Nat × Bytes)
  | [] => .error (.unclosed opened)
  | c :: rest =>
    if c = quoteMark then .ok (found.reverse, position + 1, rest)
    else if c = backslash then
      match h : escape? rest with
      | none => .error (.badEscape position)
      | some (b, used, rest') =>
        have : rest'.length < rest.length + 1 := by
          have := length_escape? h
          omega
        closeQuote opened (position + 1 + used) (b :: found) rest'
    else closeQuote opened (position + 1) (c :: found) rest
termination_by line => line.length

theorem length_closeQuote {opened position after : Nat} {found line word rest : Bytes}
    (h : closeQuote opened position found line = .ok (word, after, rest)) :
    rest.length < line.length := by
  fun_induction closeQuote opened position found line with
  | case1 => simp at h
  | case2 =>
    simp only [Except.ok.injEq, Prod.mk.injEq] at h
    simp [h.2.2]
  | case3 => simp at h
  | case4 _ _ _ _ _ _ _ _ hlt ih =>
    have := ih h
    simp only [List.length_cons]
    omega
  | case5 _ _ _ _ _ _ ih =>
    have := ih h
    simp only [List.length_cons]
    omega

/-- The words of the rest of a line, which begins at `position`, after those in `found` (last
first). -/
def from? (position : Nat) (found : List Bytes) :
    Bytes → Except WordError (List Bytes)
  | [] => .ok found.reverse
  | c :: rest =>
    if Bytes.isBlank c then from? (position + 1) found rest
    else if c = quoteMark then
      match h : closeQuote position (position + 1) [] rest with
      | .error e => .error e
      | .ok (word, after, rest') =>
        have : rest'.length < rest.length + 1 := Nat.lt_succ_of_lt (length_closeQuote h)
        if rest'.head?.all Bytes.isBlank then from? after (word :: found) rest'
        else .error (.unseparated after)
    else
      let tail := rest.takeWhile (!Bytes.isBlank ·)
      have : (rest.dropWhile (!Bytes.isBlank ·)).length < rest.length + 1 :=
        Nat.lt_succ_of_le (List.dropWhile_sublist _).length_le
      from? (position + 1 + tail.length) ((c :: tail) :: found)
        (rest.dropWhile (!Bytes.isBlank ·))
termination_by line => line.length

/-- The words of a line. -/
def ofLine (line : Bytes) : Except WordError (List Bytes) := from? 0 [] line

end Words

end InstrumentRelay
