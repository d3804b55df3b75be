import Mathlib.Data.List.Induction
import Mathlib.Data.List.Nodup
import Mathlib.Tactic.SplitIfs
import InstrumentRelay.Command.Catalogue
import InstrumentRelay.Proofs.Packet.LogLine
import InstrumentRelay.Text.Utf8

/-!
# Names of commands

Lenient reading turns different byte strings into the same text, since the replacement character
stands for everything that is no text. A text of printable ASCII is an exception: whatever takes
several bytes lies beyond ASCII, and so does the replacement character, so that such a text is read
from its own bytes and from no others (`Utf8.lenient_eq_iff`).

The names of commands are of this kind. A catalogue has no name twice, so a line names at most one
command, and it does so exactly if its first word is the bytes of that command's name
(`Instrument.find?_lenient_eq_some_iff`).
-/

namespace InstrumentRelay

namespace Utf8

variable {first b : UInt8} {rest bytes : Bytes}

/-! ## One character -/

theorem isContinuation_iff : isContinuation b = true ↔ 0x80 ≤ b.toNat ∧ b.toNat ≤ 0xbf := by
  simp [isContinuation, UInt8.le_iff_toNat_le]

/-- Three bytes encode neither what fits in two nor a surrogate. -/
theorem code_of_secondOfThree (hfirst : 0xe0 ≤ first.toNat ∧ first.toNat ≤ 0xef)
    (h : secondOfThree first b = true) :
    0x20 ≤ first.toNat % 16 * 64 + b.toNat % 64 ∧
      (first.toNat % 16 * 64 + b.toNat % 64 < 0x360 ∨
        0x380 ≤ first.toNat % 16 * 64 + b.toNat % 64) := by
  unfold secondOfThree at h
  split_ifs at h with he0 hed
  · have hlead : first.toNat = 0xe0 := congrArg UInt8.toNat he0
    have hsecond : 0xa0 ≤ b.toNat ∧ b.toNat ≤ 0xbf := by simpa [UInt8.le_iff_toNat_le] using h
    omega
  · have hlead : first.toNat = 0xed := congrArg UInt8.toNat hed
    have hsecond : 0x80 ≤ b.toNat ∧ b.toNat ≤ 0x9f := by simpa [UInt8.le_iff_toNat_le] using h
    omega
  · have hne0 : first.toNat ≠ 0xe0 := fun heq ↦ he0 (UInt8.toNat.inj heq)
    have hned : first.toNat ≠ 0xed := fun heq ↦ hed (UInt8.toNat.inj heq)
    have hsecond := isContinuation_iff.1 h
    omega

/-- Four bytes encode neither what fits in three nor what lies beyond the last code point. -/
theorem code_of_secondOfFour (hfirst : 0xf0 ≤ first.toNat ∧ first.toNat ≤ 0xf4)
    (h : secondOfFour first b = true) :
    0x10 ≤ first.toNat % 8 * 64 + b.toNat % 64 ∧
      first.toNat % 8 * 64 + b.toNat % 64 < 0x110 := by
  unfold secondOfFour at h
  split_ifs at h with hf0 hf4
  · have hlead : first.toNat = 0xf0 := congrArg UInt8.toNat hf0
    have hsecond : 0x90 ≤ b.toNat ∧ b.toNat ≤ 0xbf := by simpa [UInt8.le_iff_toNat_le] using h
    omega
  · have hlead : first.toNat = 0xf4 := congrArg UInt8.toNat hf4
    have hsecond : 0x80 ≤ b.toNat ∧ b.toNat ≤ 0x8f := by simpa [UInt8.le_iff_toNat_le] using h
    omega
  · have hne0 : first.toNat ≠ 0xf0 := fun heq ↦ hf0 (UInt8.toNat.inj heq)
    have hne4 : first.toNat ≠ 0xf4 := fun heq ↦ hf4 (UInt8.toNat.inj heq)
    have hsecond := isContinuation_iff.1 h
    omega

/-- A code point beyond ASCII is a character beyond ASCII. What is no code point would be the first
of all characters. -/
theorem le_toNat_ofNat {n : Nat} (hle : 0x80 ≤ n)
    (hvalid : n < 0xd800 ∨ (0xdfff < n ∧ n < 0x110000)) : 0x80 ≤ (Char.ofNat n).toNat := by
  rw [Char.ofNat, dif_pos hvalid]
  exact hle

theorem step_of_lt (h : first < 0x80) (rest : Bytes) :
    step first rest = (some (Char.ofNat first.toNat), rest) := if_pos h

/-- **What does not begin with an ASCII byte is not read as an ASCII character.** -/
theorem le_toNat_step (h : ¬first < 0x80) (rest : Bytes) :
    0x80 ≤ ((step first rest).1.getD '\uFFFD').toNat := by
  have hnone : 0x80 ≤ ((none : Option Char).getD '\uFFFD').toNat := by decide
  unfold step
  rw [if_neg h]
  repeat' split
  all_goals try exact hnone
  · rename_i hfirst _ b _ hb
    simp only [UInt8.le_iff_toNat_le, UInt8.reduceToNat] at hfirst
    have hcode := isContinuation_iff.1 hb
    exact le_toNat_ofNat (by simp only [List.foldl]; omega) (by simp only [List.foldl]; omega)
  · rename_i hfirst _ b hb _ c _ hc
    simp only [UInt8.le_iff_toNat_le, UInt8.reduceToNat] at hfirst
    have hcode := code_of_secondOfThree hfirst hb
    have hlast := isContinuation_iff.1 hc
    exact le_toNat_ofNat (by simp only [List.foldl]; omega) (by simp only [List.foldl]; omega)
  · rename_i hfirst _ b hb _ c hc _ d _ hd
    simp only [UInt8.le_iff_toNat_le, UInt8.reduceToNat] at hfirst
    have hcode := code_of_secondOfFour hfirst hb
    exact le_toNat_ofNat (by simp only [List.foldl]; omega) (by simp only [List.foldl]; omega)

/-! ## Whole texts -/

theorem runs_eq_append (found : List (Option Char)) (bytes : Bytes) :
    runs found bytes = found.reverse ++ runs [] bytes := by
  induction hlength : bytes.length using Nat.strongRecOn generalizing found bytes with
  | ind length ih =>
    cases bytes with
    | nil => rw [runs, runs, List.reverse_nil, List.append_nil]
    | cons first rest =>
      have hlt : (step first rest).2.length < length := by
        rw [← hlength]
        exact Nat.lt_succ_of_le (length_step_le first rest)
      rw [runs, runs, ih _ hlt _ _ rfl, ih _ hlt [_] _ rfl]
      simp

/-- The characters that are read. -/
def lenientChars (bytes : Bytes) : List Char := (runs [] bytes).map (·.getD '\uFFFD')

theorem lenientChars_nil : lenientChars [] = [] := by rw [lenientChars, runs]; rfl

theorem lenientChars_cons (first : UInt8) (rest : Bytes) :
    lenientChars (first :: rest)
      = (step first rest).1.getD '\uFFFD' :: lenientChars (step first rest).2 := by
  rw [lenientChars, runs, runs_eq_append]
  rfl

theorem lenientChars_eq_iff {cs : List Char} (h : ∀ c ∈ cs, isPrintable c = true) :
    lenientChars bytes = cs ↔ bytes = cs.map Char.toUInt8 := by
  induction cs generalizing bytes with
  | nil =>
    cases bytes with
    | nil => simp [lenientChars_nil]
    | cons first rest => simp [lenientChars_cons]
  | cons c cs ih =>
    rw [List.forall_mem_cons] at h
    have hc : c.toNat ≤ 0x7e := (of_decide_eq_true h.1).2
    have hbyte := toNat_toUInt8_of_isPrintable h.1
    cases bytes with
    | nil => simp [lenientChars_nil]
    | cons first rest =>
      rw [lenientChars_cons, List.map_cons, List.cons.injEq, List.cons.injEq]
      by_cases hfirst : first < 0x80
      · rw [step_of_lt hfirst, ih h.2, Option.getD_some]
        refine and_congr_left fun _ ↦ ⟨?_, ?_⟩
        · rintro rfl
          exact (toUInt8_ofNat first).symm
        · rintro rfl
          exact ofNat_toUInt8_of_isPrintable h.1
      · have hread := le_toNat_step hfirst rest
        constructor
        · rintro ⟨hhead, -⟩
          rw [hhead] at hread
          omega
        · rintro ⟨rfl, -⟩
          rw [UInt8.lt_iff_toNat_lt, hbyte] at hfirst
          exact absurd (Nat.lt_succ_of_le (Nat.le_trans hc (by decide))) hfirst

/-- **Printable ASCII is read from its own bytes only.** -/
theorem lenient_eq_iff {name : String} (h : ∀ c ∈ name.toList, isPrintable c = true) :
    lenient bytes = name ↔ bytes = Bytes.ofText name := by
  have htext : Bytes.ofText name = name.toList.map Char.toUInt8 := by
    rw [Bytes.ofText, List.map_eq_flatMap]
    exact List.flatMap_congr fun c hc ↦ utf8EncodeChar_of_isPrintable (h c hc)
  have hchars : lenient bytes = String.ofList (lenientChars bytes) := rfl
  rw [htext, ← lenientChars_eq_iff h, hchars]
  constructor
  · rintro rfl
    exact String.toList_ofList.symm
  · intro hread
    rw [hread, String.ofList_toList]

end Utf8

/-! ## Catalogues -/

namespace Catalogue

/-- Commands with different names are all registered, the last one first. -/
theorem commands_ofCommands {commands : List Command} (h : (commands.map (·.name)).Nodup) :
    (ofCommands commands).commands = commands.reverse := by
  induction commands using List.reverseRecOn with
  | nil => rfl
  | append_singleton commands command ih =>
    rw [List.map_append, List.map_singleton, List.nodup_append] at h
    obtain ⟨hnodup, -, hfresh⟩ := h
    have hkept : commands.reverse.filter (·.name ≠ command.name) = commands.reverse := by
      rw [List.filter_eq_self]
      intro other hother
      have hname := List.mem_map_of_mem (f := (·.name)) (List.mem_reverse.1 hother)
      exact decide_eq_true (hfresh _ hname _ (List.mem_singleton_self _))
    rw [ofCommands, List.foldl_append, ← ofCommands, List.foldl_cons, List.foldl_nil, register,
      ih hnodup, hkept, List.reverse_append, List.reverse_singleton, List.singleton_append]

theorem of_find?_eq_some {c : Catalogue} {name : String} {command : Command}
    (h : c.find? name = some command) : command ∈ c.commands ∧ command.name = name := by
  have hname := List.find?_some h
  exact ⟨List.mem_of_find?_eq_some h, of_decide_eq_true hname⟩

theorem find?_eq_some_iff {c : Catalogue} (h : (c.commands.map (·.name)).Nodup) {name : String}
    {command : Command} :
    c.find? name = some command ↔ command ∈ c.commands ∧ command.name = name := by
  refine ⟨of_find?_eq_some, ?_⟩
  rintro ⟨hmem, rfl⟩
  obtain ⟨other, hother⟩ : ∃ other, c.find? command.name = some other :=
    Option.isSome_iff_exists.1 (List.find?_isSome.2 ⟨command, hmem, decide_eq_true rfl⟩)
  obtain ⟨hfound, hname⟩ := of_find?_eq_some hother
  rw [hother, List.inj_on_of_nodup_map h hfound hmem hname]

end Catalogue

namespace Instrument

/-- The commands that can be given to a relay for this instrument, in the order of their
registration. -/
def commands (i : Instrument) : List Command :=
  basicCommands ++ i.vendorCommands.map fun name ↦ ⟨name, .forward⟩

/-- No two commands have the same name. -/
theorem nodup_names (i : Instrument) : (i.commands.map (·.name)).Nodup := by
  cases i <;> simp only [commands, vendorCommands] <;> decide

variable {i : Instrument} {command : Command}

theorem isPrintable_of_mem_commands (h : command ∈ i.commands) :
    ∀ c ∈ command.name.toList, isPrintable c = true := by
  have hall : ∀ command ∈ i.commands, command.name.toList.all isPrintable = true := by
    cases i <;> simp only [commands, vendorCommands] <;> decide +kernel
  exact List.all_eq_true.1 (hall command h)

theorem commands_catalogue (i : Instrument) : i.catalogue.commands = i.commands.reverse :=
  Catalogue.commands_ofCommands i.nodup_names

/-- **A word names a command exactly if it is the bytes of its name.** -/
theorem find?_lenient_eq_some_iff {first : Bytes} :
    i.catalogue.find? (Utf8.lenient first) = some command ↔
      command ∈ i.commands ∧ first = Bytes.ofText command.name := by
  have hnodup : (i.catalogue.commands.map (·.name)).Nodup := by
    rw [commands_catalogue, List.map_reverse, List.nodup_reverse]
    exact i.nodup_names
  rw [Catalogue.find?_eq_some_iff hnodup, commands_catalogue, List.mem_reverse]
  refine and_congr_right fun hmem ↦ ?_
  rw [← Utf8.lenient_eq_iff (isPrintable_of_mem_commands hmem), eq_comm]

end Instrument

end InstrumentRelay
