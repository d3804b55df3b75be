import InstrumentRelay.Command.Reply
import InstrumentRelay.Proofs.Command.Spelling

/-!
# Passing a command on

A command for the auxiliary link is passed on as its name and its arguments, with a space before
each argument and a line feed at the end. The arguments are written as they are meant and not as
they were typed, so what was quoted or escaped on the way in stands there bare.

Two things depend on the arguments. Words that need no quotes are read back from the line as they
were (`Words.line_auxLine`). And what is passed on is a single line as long as there is no line feed
in an argument (`isLine_auxLine_iff`); what stands behind one begins another line, and it can be
anything (`ended_auxLine_of_feed`).
-/

namespace InstrumentRelay

/-! ## Words without quotes -/

namespace Words

/-- A word that needs no quotes. -/
structure IsBare (word : Bytes) : Prop where
  /-- It is not empty. -/
  ne_nil : word ≠ []
  /-- There is no blank in it. -/
  notBlank : ∀ b ∈ word, ¬Bytes.isBlank b
  /-- It does not begin with a quote. -/
  head?_ne : word.head? ≠ some quoteMark

theorem isBare_iff {word : Bytes} :
    IsBare word ↔
      word ≠ [] ∧ word.all (!Bytes.isBlank ·) = true ∧ word.head? ≠ some quoteMark := by
  rw [List.all_eq_true]
  constructor
  · exact fun h ↦ ⟨h.ne_nil, fun b hb ↦ by simpa using h.notBlank b hb, h.head?_ne⟩
  · exact fun h ↦ ⟨h.1, fun b hb ↦ by simpa using h.2.1 b hb, h.2.2⟩

instance (word : Bytes) : Decidable (IsBare word) := decidable_of_iff' _ isBare_iff

theorem IsBare.word {word : Bytes} (h : IsBare word) : Word word word := by
  obtain ⟨c, text, rfl⟩ := List.exists_cons_of_ne_nil h.ne_nil
  exact .bare (fun hc ↦ h.head?_ne (congrArg some hc)) h.notBlank

/-- The line that passes a command on consists of its name and the arguments, if none of them needs
quotes. -/
theorem line_auxLine {name : String} {arguments : List Bytes}
    (h : ∀ word ∈ Bytes.ofText name :: arguments, IsBare word) :
    Line (auxLine name arguments) (Bytes.ofText name :: arguments) := by
  have harguments (words : List Bytes) (hwords : ∀ word ∈ words, IsBare word) :
      let rest := words.flatMap (0x20 :: ·) ++ [0x0a]
      Parted rest ∧ Line rest words := by
    have hspace : Bytes.isBlank 0x20 := by decide
    have hfeed : Bytes.isBlank 0x0a := by decide
    induction words with
    | nil => exact ⟨by simpa [Parted] using hfeed, .gap (List.forall_mem_singleton.2 hfeed)⟩
    | cons word words ih =>
      rw [List.forall_mem_cons] at hwords
      obtain ⟨hparted, hline⟩ := ih hwords.2
      rw [List.flatMap_cons, List.cons_append, List.cons_append, List.append_assoc]
      exact ⟨by simpa [Parted] using hspace,
        .cons_blank hspace (hline.append_word hwords.1.word hparted)⟩
  rw [List.forall_mem_cons] at h
  obtain ⟨hparted, hline⟩ := harguments arguments h.2
  rw [auxLine, List.append_assoc]
  exact hline.append_word h.1.word hparted

/-- No argument on this line has a line feed in it. -/
def StaysOnLine (line : Bytes) : Prop :=
  ∀ arguments ∈ ((ofLine line).toOption.map List.tail), ∀ argument ∈ arguments, 0x0a ∉ argument

instance (line : Bytes) : Decidable (StaysOnLine line) := by
  unfold StaysOnLine
  infer_instance

theorem StaysOnLine.feed_notMem {line first argument : Bytes} {arguments : List Bytes}
    (h : StaysOnLine line) (hwords : ofLine line = .ok (first :: arguments))
    (hargument : argument ∈ arguments) : 0x0a ∉ argument :=
  h arguments (by rw [hwords]; rfl) argument hargument

end Words

/-! ## One line or several -/

/-- A line, its line feed included. -/
def IsLine (bytes : Bytes) : Prop := ∃ text, bytes = text ++ [0x0a] ∧ 0x0a ∉ text

/-- The line that passes a command on, without its line feed. -/
def auxText (name : String) (arguments : List Bytes) : Bytes :=
  Bytes.ofText name ++ arguments.flatMap (0x20 :: ·)

theorem isLine_append_singleton {text : Bytes} : IsLine (text ++ [0x0a]) ↔ 0x0a ∉ text := by
  constructor
  · rintro ⟨text', heq, hfeed⟩
    rwa [List.append_cancel_right heq]
  · exact fun h ↦ ⟨text, rfl, h⟩

section

variable {i : Instrument} {name : String} {arguments : List Bytes}

theorem Instrument.feed_notMem_ofText (h : name ∈ i.vendorCommands) :
    0x0a ∉ Bytes.ofText name := by
  have hall : ∀ name ∈ i.vendorCommands, 0x0a ∉ Bytes.ofText name := by
    cases i <;> simp only [vendorCommands] <;> decide +kernel
  exact hall name h

theorem feed_notMem_auxText_iff (h : name ∈ i.vendorCommands) :
    0x0a ∉ auxText name arguments ↔ ∀ argument ∈ arguments, 0x0a ∉ argument := by
  have hspace : (0x0a : UInt8) ≠ 0x20 := by decide
  simp [auxText, i.feed_notMem_ofText h, hspace]

/-- **A command is passed on as one line exactly if no argument has a line feed in it.** -/
theorem isLine_auxLine_iff (h : name ∈ i.vendorCommands) :
    IsLine (auxLine name arguments) ↔ ∀ argument ∈ arguments, 0x0a ∉ argument := by
  have hline : auxLine name arguments = auxText name arguments ++ [0x0a] := rfl
  rw [hline, isLine_append_singleton, feed_notMem_auxText_iff h]

theorem ended_auxLine (h : name ∈ i.vendorCommands)
    (harguments : ∀ argument ∈ arguments, 0x0a ∉ argument) (rest : Bytes) :
    ended 0x0a (auxLine name arguments ++ rest) = auxText name arguments :: ended 0x0a rest ∧
      unended 0x0a (auxLine name arguments ++ rest) = unended 0x0a rest := by
  have hfeed := (feed_notMem_auxText_iff h).2 harguments
  have hline : auxLine name arguments ++ rest = auxText name arguments ++ 0x0a :: rest := by
    rw [auxLine, ← auxText, List.append_assoc, List.singleton_append]
  rw [hline]
  exact ⟨ended_append hfeed rest, unended_append hfeed rest⟩

/-- What stands behind a line feed in an argument is a line of its own. -/
theorem ended_auxLine_of_feed (h : name ∈ i.vendorCommands) {text : Bytes} (htext : 0x0a ∉ text) :
    ended 0x0a (auxLine name [0x0a :: text]) = [Bytes.ofText name ++ [0x20], text] := by
  have hline : auxLine name [0x0a :: text]
      = (Bytes.ofText name ++ [0x20]) ++ 0x0a :: (text ++ 0x0a :: []) := by
    simp [auxLine]
  have hfirst : 0x0a ∉ Bytes.ofText name ++ [0x20] := by
    have hspace : (0x0a : UInt8) ∉ [0x20] := by decide
    rw [List.mem_append, not_or]
    exact ⟨i.feed_notMem_ofText h, hspace⟩
  rw [hline, ended_append hfirst, ended_append htext, ended_of_notMem List.not_mem_nil]

end

end InstrumentRelay
