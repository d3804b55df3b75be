import InstrumentRelay.Bytes

/-!
# Bytes as text

Reading UTF-8. `Utf8.step` takes the first character off a byte string, or, where none begins, the
longest run of bytes that could have begun one. Strict reading refuses such a run; lenient reading
puts the replacement character in its place, one for each run.
-/

namespace InstrumentRelay

namespace Utf8

/-- The byte can continue a character: its two high bits are 10. -/
def isContinuation (b : UInt8) : Bool := 0x80 ≤ b && b ≤ 0xbf

/-- The second byte a character of three bytes may have, given its first. It may not encode what
fits in two bytes, nor a surrogate. -/
def secondOfThree (first b : UInt8) : Bool :=
  if first = 0xe0 then 0xa0 ≤ b && b ≤ 0xbf
  else if first = 0xed then 0x80 ≤ b && b ≤ 0x9f
  else isContinuation b

/-- The second byte a character of four bytes may have, given its first. It may not encode what
fits in three bytes, nor lie beyond the last code point. -/
def secondOfFour (first b : UInt8) : Bool :=
  if first = 0xf0 then 0x90 ≤ b && b ≤ 0xbf
  else if first = 0xf4 then 0x80 ≤ b && b ≤ 0x8f
  else isContinuation b

/-- The character with this lead and these continuation bytes. -/
def assemble (lead : Nat) (rest : Bytes) : Char :=
  Char.ofNat (rest.foldl (fun n b ↦ n * 64 + b.toNat % 64) lead)

/-- The character at the front of `first :: rest` and what follows it; or no character, and what
follows the bytes that could have begun one. -/
def step (first : UInt8) (rest : Bytes) : Option Char × Bytes :=
  if first < 0x80 then (some (Char.ofNat first.toNat), rest)
  else if 0xc2 ≤ first ∧ first ≤ 0xdf then
    match rest with
    | b :: tail =>
      if isContinuation b then (some (assemble (first.toNat % 32) [b]), tail) else (none, rest)
    | [] => (none, [])
  else if 0xe0 ≤ first ∧ first ≤ 0xef then
    match rest with
    | b :: tail =>
      if secondOfThree first b then
        match tail with
        | c :: tail' =>
          if isContinuation c then (some (assemble (first.toNat % 16) [b, c]), tail')
          else (none, tail)
        | [] => (none, [])
      else (none, rest)
    | [] => (none, [])
  else if 0xf0 ≤ first ∧ first ≤ 0xf4 then
    match rest with
    | b :: tail =>
      if secondOfFour first b then
        match tail with
        | c :: tail' =>
          if isContinuation c then
            match tail' with
            | d :: tail'' =>
              if isContinuation d then (some (assemble (first.toNat % 8) [b, c, d]), tail'')
              else (none, tail')
            | [] => (none, [])
          else (none, tail)
        | [] => (none, [])
      else (none, rest)
    | [] => (none, [])
  else (none, rest)

theorem length_step_le (first : UInt8) (rest : Bytes) :
    (step first rest).2.length ≤ rest.length := by
  unfold step
  repeat' split
  all_goals simp only [List.length_cons, List.length_nil]
  all_goals omega

/-- Every character, and nothing in the place of bytes that are none. -/
def runs (found : List (Option Char)) : Bytes → List (Option Char)
  | [] => found.reverse
  | first :: rest =>
    have : (step first rest).2.length < rest.length + 1 :=
      Nat.lt_succ_of_le (length_step_le first rest)
    runs ((step first rest).1 :: found) (step first rest).2
termination_by bytes => bytes.length

/-- The text, with the replacement character for each run of bytes that is no character. -/
def lenient (bytes : Bytes) : String :=
  String.ofList ((runs [] bytes).map (·.getD '\uFFFD'))

/-- The text, if all of it is characters. -/
def strict? (bytes : Bytes) : Option String :=
  ((runs [] bytes).mapM id).map String.ofList

end Utf8

end InstrumentRelay
