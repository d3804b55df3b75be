import InstrumentRelay.Ron.Lexical
import InstrumentRelay.Text.Quoted

/-!
# RON values

The values a configuration is made of: whole numbers, strings, names standing for themselves,
optional values, and records, which may carry the name of a variant in front. The indented form of a
value puts each member of a record on a line of its own, with a comma after it. A value that is
present is written like the value itself; only absence has a word of its own.
-/

namespace InstrumentRelay

namespace Ron

/-- A value of the configuration notation. -/
inductive Value where
  /-- A whole number. -/
  | number (n : Nat)
  /-- A string. -/
  | text (s : String)
  /-- A name without members. -/
  | symbol (name : String)
  /-- An optional value that is absent. -/
  | absent
  /-- An optional value that is present. -/
  | present (value : Value)
  /-- Named members, after a name of their own, which may be empty. -/
  | record (name : String) (members : List (String × Value))

/-- So many steps of indentation. -/
def indentation (depth : Nat) : String := String.ofList (List.replicate (4 * depth) ' ')

/-- The indented form, at this depth of nesting. -/
def Value.indented (depth : Nat) : Value → String
  | number n => toString n
  | text s => String.ofList (Quoted.encode true s.toList)
  | symbol name => name
  | absent => "None"
  | present value => indented depth value
  | record name members =>
    name ++ "(\n"
      ++ String.join (members.attach.map fun ⟨m, _⟩ ↦
          indentation (depth + 1) ++ m.1 ++ ": " ++ indented (depth + 1) m.2 ++ ",\n")
      ++ indentation depth ++ ")"
termination_by value => sizeOf value
decreasing_by
  · simp only [present.sizeOf_spec]
    omega
  · rename_i h
    have := List.sizeOf_lt_of_mem h
    have : sizeOf m.2 < sizeOf m := by
      obtain ⟨name, value⟩ := m
      simp only [Prod.mk.sizeOf_spec]
      omega
    simp only [record.sizeOf_spec]
    omega

end Ron

end InstrumentRelay
