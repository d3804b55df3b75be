/-!
# Blank text

The characters with the Unicode property `White_Space`, and what is left of a text without them at
its ends. A name that consists of nothing else is no name.
-/

namespace InstrumentRelay

/-- The character has the property `White_Space`. -/
def isBlankChar (c : Char) : Bool :=
  let n := c.toNat
  (0x09 ≤ n && n ≤ 0x0d) || n == 0x20 || n == 0x85 || n == 0xa0 || n == 0x1680
    || (0x2000 ≤ n && n ≤ 0x200a) || n == 0x2028 || n == 0x2029 || n == 0x202f || n == 0x205f
    || n == 0x3000

/-- There is nothing in the text but white space. -/
def isBlankText (text : String) : Bool := text.toList.all isBlankChar

theorem isBlankText_iff (text : String) :
    isBlankText text = true ↔ ∀ c ∈ text.toList, isBlankChar c = true := by
  simp [isBlankText]

end InstrumentRelay
