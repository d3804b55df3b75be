import Mathlib.Data.List.TakeWhile
import Mathlib.Tactic.SplitIfs
import InstrumentRelay.Command.Words

/-!
# The language of command lines

What a line says is written down here as a grammar, without a reader: the digits, the escapes, the
text between quotes, the words and the blanks around them, each as a relation between what is
written and what it stands for. Beside it stands what can be wrong with a line, again as a relation:
a line that goes well up to a word that begins with a quote, and what the first fault of that word
is.

The reader is compared with it in two steps. Wherever the grammar recognises the beginning of a
line, the reader passes over exactly that (`closeQuote_append`, `from?_append`), whatever comes
behind. And every line is either in the language or wrong in one of the ways listed
(`line_or_wrong`). So the reader's answer is read off the line in each case, and `ofLine_exact` says
so in both directions.
-/

namespace InstrumentRelay

namespace Words

/-! ## The grammar -/

/-- A hexadecimal digit and what it counts. -/
inductive HexDigit : UInt8 → Nat → Prop
  | decimal {d : UInt8} {n : Nat} (hn : n < 10) (hd : d.toNat = 0x30 + n) : HexDigit d n
  | lower {d : UInt8} {n : Nat} (hn : n < 6) (hd : d.toNat = 0x61 + n) : HexDigit d (10 + n)
  | upper {d : UInt8} {n : Nat} (hn : n < 6) (hd : d.toNat = 0x41 + n) : HexDigit d (10 + n)

/-- What may stand behind a backslash between quotes, and the byte it makes. -/
inductive Escape : Bytes → UInt8 → Prop
  | quoteMark : Escape [quoteMark] quoteMark
  | backslash : Escape [backslash] backslash
  | lineFeed : Escape [0x6e] 0x0a
  | carriageReturn : Escape [0x72] 0x0d
  | tab : Escape [0x74] 0x09
  | hex {high low b : UInt8} {h l : Nat} (hhigh : HexDigit high h) (hlow : HexDigit low l)
      (hb : b.toNat = 16 * h + l) : Escape [0x78, high, low] b

/-- A text between quotes and the bytes it stands for. -/
inductive Quoted : Bytes → Bytes → Prop
  | nil : Quoted [] []
  | plain {c : UInt8} {text bytes : Bytes} (hquote : c ≠ Words.quoteMark)
      (hbackslash : c ≠ Words.backslash) (h : Quoted text bytes) : Quoted (c :: text) (c :: bytes)
  | escape {code text bytes : Bytes} {b : UInt8} (hcode : Escape code b) (h : Quoted text bytes) :
      Quoted (Words.backslash :: (code ++ text)) (b :: bytes)

/-- A word as it is written and as it is meant. -/
inductive Word : Bytes → Bytes → Prop
  | bare {c : UInt8} {text : Bytes} (hquote : c ≠ quoteMark)
      (h : ∀ b ∈ c :: text, ¬Bytes.isBlank b) : Word (c :: text) (c :: text)
  | quoted {text bytes : Bytes} (h : Quoted text bytes) :
      Word (quoteMark :: (text ++ [quoteMark])) bytes

/-- A word may end before this. -/
def Parted (rest : Bytes) : Prop := ∀ b ∈ rest.head?, Bytes.isBlank b

/-- A line and its words. -/
inductive Line : Bytes → List Bytes → Prop
  | gap {gap : Bytes} (hgap : ∀ b ∈ gap, Bytes.isBlank b) : Line gap []
  | word {gap text word rest : Bytes} {words : List Bytes} (hgap : ∀ b ∈ gap, Bytes.isBlank b)
      (hword : Word text word) (hrest : Parted rest) (h : Line rest words) :
      Line (gap ++ (text ++ rest)) (word :: words)

/-- What goes wrong in the word that begins here, at `position`. -/
inductive Fault (position : Nat) : Bytes → WordError → Prop
  | unclosed {text bytes : Bytes} (h : Quoted text bytes) :
      Fault position (quoteMark :: text) (.unclosed position)
  | badEscape {text bytes after : Bytes} (h : Quoted text bytes)
      (hcode : ∀ code b, Escape code b → ¬code <+: after) :
      Fault position (quoteMark :: (text ++ backslash :: after))
        (.badEscape (position + 1 + text.length))
  | unseparated {text bytes rest : Bytes} (h : Quoted text bytes) (hrest : ¬Parted rest) :
      Fault position (quoteMark :: (text ++ quoteMark :: rest))
        (.unseparated (position + 1 + text.length + 1))

/-- A line that begins at `position` and goes well up to a word that does not, which begins the line
or follows a blank. -/
def Wrong (position : Nat) (line : Bytes) (e : WordError) : Prop :=
  ∃ before words rest, line = before ++ rest ∧ Line before words ∧
    (∀ b ∈ before.getLast?, Bytes.isBlank b) ∧ Fault (position + before.length) rest e

/-! ## Escapes -/

/-- The three ranges of digits, and what is taken off in each. -/
theorem hexValue?_map_toNat (d : UInt8) :
    (Bytes.hexValue? d).map UInt8.toNat =
      if 0x30 ≤ d.toNat ∧ d.toNat ≤ 0x39 then some (d.toNat - 0x30)
      else if 0x61 ≤ d.toNat ∧ d.toNat ≤ 0x66 then some (d.toNat - 0x61 + 10)
      else if 0x41 ≤ d.toNat ∧ d.toNat ≤ 0x46 then some (d.toNat - 0x41 + 10)
      else none := by
  have hall : ∀ n : Fin 256, (Bytes.hexValue? (UInt8.ofFin n)).map UInt8.toNat =
      if 0x30 ≤ n.val ∧ n.val ≤ 0x39 then some (n.val - 0x30)
      else if 0x61 ≤ n.val ∧ n.val ≤ 0x66 then some (n.val - 0x61 + 10)
      else if 0x41 ≤ n.val ∧ n.val ≤ 0x46 then some (n.val - 0x41 + 10)
      else none := by decide +kernel
  exact hall d.toFin

theorem hexValue?_eq_some_iff {d v : UInt8} :
    Bytes.hexValue? d = some v ↔ HexDigit d v.toNat := by
  have hv : Bytes.hexValue? d = some v ↔ (Bytes.hexValue? d).map UInt8.toNat = some v.toNat := by
    rw [← Option.map_some, (Option.map_injective fun _ _ ↦ UInt8.toNat.inj).eq_iff]
  rw [hv, hexValue?_map_toNat]
  constructor
  · intro h
    split at h
    · have h := Option.some.inj h
      exact .decimal (by omega) (by omega)
    split at h
    · rw [← Option.some.inj h, Nat.add_comm]
      exact .lower (by omega) (by omega)
    split at h
    · rw [← Option.some.inj h, Nat.add_comm]
      exact .upper (by omega) (by omega)
    · cases h
  · intro h
    generalize v.toNat = n at h
    cases h with
    | decimal hn hd => rw [if_pos (by omega), hd, Nat.add_sub_cancel_left]
    | lower hn hd =>
      rw [if_neg (by omega), if_pos (by omega), hd, Nat.add_sub_cancel_left, Nat.add_comm]
    | upper hn hd =>
      rw [if_neg (by omega), if_neg (by omega), if_pos (by omega), hd, Nat.add_sub_cancel_left,
        Nat.add_comm]

theorem HexDigit.lt {d : UInt8} {n : Nat} (h : HexDigit d n) : n < 16 := by
  cases h <;> omega

theorem HexDigit.exists_hexValue? {d : UInt8} {n : Nat} (h : HexDigit d n) :
    ∃ v, Bytes.hexValue? d = some v ∧ v.toNat = n := by
  have hn : n.toUInt8.toNat = n := UInt8.toNat_ofNat_of_lt' (Nat.lt_trans h.lt (by decide))
  exact ⟨n.toUInt8, hexValue?_eq_some_iff.2 (hn.symm ▸ h), hn⟩

/-- Two digits are below 256, so the byte they make is not cut. -/
theorem toNat_of_digits {high low h l : UInt8} (hhigh : HexDigit high h.toNat)
    (hlow : HexDigit low l.toNat) : (h * 16 + l).toNat = 16 * h.toNat + l.toNat := by
  have hh := hhigh.lt
  have hl := hlow.lt
  rw [UInt8.toNat_add, UInt8.toNat_mul]
  show (h.toNat * 16 % 256 + l.toNat) % 256 = _
  omega

theorem Escape.escape?_append {code : Bytes} {b : UInt8} (h : Escape code b) (rest : Bytes) :
    escape? (code ++ rest) = some (b, code.length, rest) := by
  cases h with
  | quoteMark => rfl
  | backslash => rfl
  | lineFeed => rfl
  | carriageReturn => rfl
  | tab => rfl
  | @hex high low _ h l hhigh hlow hb =>
    obtain ⟨h, hh, rfl⟩ := hhigh.exists_hexValue?
    obtain ⟨l, hl, rfl⟩ := hlow.exists_hexValue?
    have hbyte : h * 16 + l = b := UInt8.toNat.inj ((toNat_of_digits hhigh hlow).trans hb.symm)
    unfold escape?
    simp only [List.cons_append, List.nil_append, hh, hl, hbyte]
    rfl

theorem exists_escape {after rest : Bytes} {b : UInt8} {used : Nat}
    (h : escape? after = some (b, used, rest)) :
    ∃ code, Escape code b ∧ after = code ++ rest ∧ used = code.length := by
  cases after with
  | nil => cases h
  | cons c tail =>
    unfold escape? at h
    dsimp only at h
    split_ifs at h with hquote hbackslash hn hr ht hx
    · cases h
      exact ⟨[c], hquote ▸ .quoteMark, rfl, rfl⟩
    · cases h
      exact ⟨[c], hbackslash ▸ .backslash, rfl, rfl⟩
    · cases h
      exact ⟨[c], hn ▸ .lineFeed, rfl, rfl⟩
    · cases h
      exact ⟨[c], hr ▸ .carriageReturn, rfl, rfl⟩
    · cases h
      exact ⟨[c], ht ▸ .tab, rfl, rfl⟩
    · subst hx
      split at h
      · split at h
        · rename_i high low rest' _ _ h' l' hh hl
          cases h
          have hhigh := hexValue?_eq_some_iff.1 hh
          have hlow := hexValue?_eq_some_iff.1 hl
          exact ⟨[0x78, high, low], .hex hhigh hlow (toNat_of_digits hhigh hlow), rfl, rfl⟩
        · cases h
      · cases h

theorem escape?_eq_none_iff {after : Bytes} :
    escape? after = none ↔ ∀ code b, Escape code b → ¬code <+: after := by
  constructor
  · rintro h code b hcode ⟨rest, rfl⟩
    rw [hcode.escape?_append] at h
    cases h
  · intro h
    cases hafter : escape? after with
    | none => rfl
    | some x =>
      obtain ⟨b, used, rest⟩ := x
      obtain ⟨code, hcode, rfl, -⟩ := exists_escape hafter
      exact absurd (List.prefix_append code rest) (h code b hcode)

/-! ## Between quotes -/

/-- What is text between quotes is passed over, whatever comes behind it. -/
theorem closeQuote_append {text bytes : Bytes} (h : Quoted text bytes) (opened position : Nat)
    (found line : Bytes) :
    closeQuote opened position found (text ++ line)
      = closeQuote opened (position + text.length) (bytes.reverse ++ found) line := by
  induction h generalizing position found with
  | nil => rfl
  | @plain c text bytes hquote hbackslash h ih =>
    rw [List.cons_append, closeQuote, if_neg hquote, if_neg hbackslash, ih]
    simp only [List.reverse_cons, List.append_assoc, List.singleton_append, List.length_cons]
    rw [Nat.add_assoc, Nat.add_comm 1]
  | @escape code text bytes b hcode h ih =>
    have hread : escape? (code ++ (text ++ line)) = some (b, code.length, text ++ line) :=
      hcode.escape?_append _
    rw [List.cons_append, List.append_assoc, closeQuote, if_neg (by decide), if_pos rfl]
    split
    · rename_i hnone
      rw [hread] at hnone
      cases hnone
    · rename_i hsome
      rw [hread] at hsome
      cases hsome
      rw [ih]
      simp only [List.reverse_cons, List.append_assoc, List.singleton_append, List.length_cons,
        List.length_append]
      congr 1
      omega

theorem closeQuote_nil (opened position : Nat) (found : Bytes) :
    closeQuote opened position found [] = .error (.unclosed opened) := by
  rw [closeQuote]

theorem closeQuote_quoteMark (opened position : Nat) (found rest : Bytes) :
    closeQuote opened position found (quoteMark :: rest)
      = .ok (found.reverse, position + 1, rest) := by
  rw [closeQuote, if_pos rfl]

theorem closeQuote_backslash (opened position : Nat) (found : Bytes) {after : Bytes}
    (h : ∀ code b, Escape code b → ¬code <+: after) :
    closeQuote opened position found (backslash :: after) = .error (.badEscape position) := by
  rw [closeQuote, if_neg (by decide), if_pos rfl]
  split
  · rfl
  · rename_i hsome
    rw [escape?_eq_none_iff.2 h] at hsome
    cases hsome

/-- Every line is text between quotes up to its end, a quote or a backslash that introduces
nothing. -/
theorem exists_quoted (line : Bytes) :
    ∃ text bytes rest, Quoted text bytes ∧ line = text ++ rest ∧
      (rest = [] ∨ (∃ behind, rest = quoteMark :: behind) ∨
        ∃ after, rest = backslash :: after ∧ ∀ code b, Escape code b → ¬code <+: after) := by
  induction hlength : line.length using Nat.strongRecOn generalizing line with
  | ind length ih =>
    cases line with
    | nil => exact ⟨[], [], [], .nil, rfl, .inl rfl⟩
    | cons c line =>
      rw [List.length_cons] at hlength
      by_cases hquote : c = quoteMark
      · exact ⟨[], [], c :: line, .nil, rfl, .inr (.inl ⟨line, by rw [hquote]⟩)⟩
      by_cases hbackslash : c = backslash
      · subst hbackslash
        cases hread : escape? line with
        | none =>
          exact ⟨[], [], backslash :: line, .nil, rfl,
            .inr (.inr ⟨line, rfl, escape?_eq_none_iff.1 hread⟩)⟩
        | some x =>
          obtain ⟨b, used, tail⟩ := x
          obtain ⟨code, hcode, rfl, -⟩ := exists_escape hread
          rw [List.length_append] at hlength
          obtain ⟨text, bytes, rest, htext, rfl, hrest⟩ := ih tail.length (by omega) tail rfl
          exact ⟨backslash :: (code ++ text), b :: bytes, rest, .escape hcode htext,
            by rw [List.cons_append, List.append_assoc], hrest⟩
      · obtain ⟨text, bytes, rest, htext, rfl, hrest⟩ := ih line.length (by omega) line rfl
        exact ⟨c :: text, c :: bytes, rest, .plain hquote hbackslash htext, rfl, hrest⟩

/-! ## Words and blanks -/

theorem from?_gap {gap : Bytes} (hgap : ∀ b ∈ gap, Bytes.isBlank b) (position : Nat)
    (found : List Bytes) (line : Bytes) :
    from? position found (gap ++ line) = from? (position + gap.length) found line := by
  induction gap generalizing position with
  | nil => rfl
  | cons c gap ih =>
    rw [List.forall_mem_cons] at hgap
    rw [List.cons_append, from?, if_pos hgap.1, ih hgap.2, List.length_cons, Nat.add_assoc,
      Nat.add_comm 1]

/-- A word stands where it ends at a blank or at the end of the line. -/
theorem takeWhile_append_of_parted {text rest : Bytes} (h : ∀ b ∈ text, ¬Bytes.isBlank b)
    (hrest : Parted rest) : (text ++ rest).takeWhile (!Bytes.isBlank ·) = text := by
  have hall : ∀ b ∈ text, (!Bytes.isBlank b) = true := fun b hb ↦ by simpa using h b hb
  rw [List.takeWhile_append_of_pos hall]
  cases rest with
  | nil => exact List.append_nil text
  | cons c rest =>
    have hc : Bytes.isBlank c := hrest c rfl
    rw [List.takeWhile_cons_of_neg (by simp [hc]), List.append_nil]

theorem dropWhile_append_of_parted {text rest : Bytes} (h : ∀ b ∈ text, ¬Bytes.isBlank b)
    (hrest : Parted rest) : (text ++ rest).dropWhile (!Bytes.isBlank ·) = rest := by
  have hsplit := List.takeWhile_append_dropWhile (p := (!Bytes.isBlank ·)) (l := text ++ rest)
  rw [takeWhile_append_of_parted h hrest] at hsplit
  exact List.append_cancel_left hsplit

theorem head?_all_iff {rest : Bytes} : rest.head?.all Bytes.isBlank ↔ Parted rest := by
  cases rest <;> simp [Parted]

section OpeningQuote

variable {position : Nat} {found : List Bytes} {text bytes line rest : Bytes}

theorem from?_of_closeQuote_eq_error {e : WordError}
    (h : closeQuote position (position + 1) [] line = .error e) :
    from? position found (quoteMark :: line) = .error e := by
  rw [from?, if_neg (by decide), if_pos rfl]
  split
  · rename_i herror
    rw [h] at herror
    cases herror
    rfl
  · rename_i hok
    rw [h] at hok
    cases hok

/-- Behind the closing quote the reader goes on if the word may end there. -/
theorem from?_of_quoted (h : Quoted text bytes) :
    from? position found (quoteMark :: (text ++ quoteMark :: rest))
      = if rest.head?.all Bytes.isBlank then
          from? (position + 1 + text.length + 1) (bytes :: found) rest
        else .error (.unseparated (position + 1 + text.length + 1)) := by
  have hclose : closeQuote position (position + 1) [] (text ++ quoteMark :: rest)
      = .ok (bytes, position + 1 + text.length + 1, rest) := by
    rw [closeQuote_append h, closeQuote_quoteMark, List.append_nil, List.reverse_reverse]
  rw [from?, if_neg (by decide), if_pos rfl]
  split
  · rename_i herror
    rw [hclose] at herror
    cases herror
  · rename_i hok
    rw [hclose] at hok
    cases hok
    rfl

end OpeningQuote

theorem from?_word {text word rest : Bytes} (hword : Word text word) (hrest : Parted rest)
    (position : Nat) (found : List Bytes) :
    from? position found (text ++ rest) = from? (position + text.length) (word :: found) rest := by
  cases hword with
  | @bare c text hquote h =>
    rw [List.forall_mem_cons] at h
    rw [List.cons_append, from?, if_neg h.1, if_neg hquote]
    dsimp only
    rw [takeWhile_append_of_parted h.2 hrest, dropWhile_append_of_parted h.2 hrest,
      List.length_cons, Nat.add_assoc, Nat.add_comm 1]
  | @quoted text _ h =>
    have hline : quoteMark :: (text ++ [quoteMark]) ++ rest
        = quoteMark :: (text ++ quoteMark :: rest) := by
      rw [List.cons_append, List.append_assoc, List.singleton_append]
    rw [hline, from?_of_quoted h, if_pos (head?_all_iff.2 hrest), List.length_cons,
      List.length_append, List.length_singleton]
    congr 1
    omega

theorem Word.exists_getLast? {text word : Bytes} (h : Word text word) :
    ∃ b, text.getLast? = some b ∧ ¬Bytes.isBlank b := by
  cases h with
  | @bare c text hquote h =>
    have hne : c :: text ≠ [] := List.cons_ne_nil c text
    exact ⟨_, List.getLast?_eq_some_getLast hne, h _ (List.getLast_mem hne)⟩
  | quoted h => exact ⟨quoteMark, by rw [← List.cons_append, List.getLast?_concat], by decide⟩

/-- What is a line by itself is passed over where no word runs on from it into what follows. -/
theorem from?_append {before rest : Bytes} {words : List Bytes} (h : Line before words)
    (hmeet : (∀ b ∈ before.getLast?, Bytes.isBlank b) ∨ Parted rest) (position : Nat)
    (found : List Bytes) :
    from? position found (before ++ rest)
      = from? (position + before.length) (words.reverse ++ found) rest := by
  induction h generalizing position found with
  | gap hgap => exact from?_gap hgap position found rest
  | @word gap text word tail words hgap hword htail h ih =>
    have hparted : Parted (tail ++ rest) := by
      cases tail with
      | cons c tail => exact htail
      | nil =>
        obtain hblank | hrest := hmeet
        · -- The word is the end of what stands before, and its last byte is no blank.
          obtain ⟨b, hlast, hb⟩ := hword.exists_getLast?
          refine absurd (hblank b ?_) hb
          rw [List.append_nil, List.getLast?_append, hlast]
          rfl
        · exact hrest
    have hmeet' : (∀ b ∈ tail.getLast?, Bytes.isBlank b) ∨ Parted rest := by
      refine hmeet.imp_left fun hblank b hb ↦ hblank b ?_
      rw [List.getLast?_append, List.getLast?_append, hb]
      rfl
    rw [List.append_assoc, List.append_assoc, from?_gap hgap, from?_word hword hparted, ih hmeet']
    simp only [List.reverse_cons, List.append_assoc, List.singleton_append, List.length_append]
    congr 1
    omega

theorem Fault.exists_cons {position : Nat} {rest : Bytes} {e : WordError}
    (h : Fault position rest e) : ∃ tail, rest = quoteMark :: tail := by
  cases h <;> exact ⟨_, rfl⟩

theorem Fault.from?_eq {position : Nat} {rest : Bytes} {e : WordError} (h : Fault position rest e)
    (found : List Bytes) : from? position found rest = .error e := by
  cases h with
  | @unclosed text _ h =>
    apply from?_of_closeQuote_eq_error
    rw [← List.append_nil text, closeQuote_append h, closeQuote_nil]
  | badEscape h hcode =>
    apply from?_of_closeQuote_eq_error
    rw [closeQuote_append h, closeQuote_backslash _ _ _ hcode]
  | unseparated h hrest => rw [from?_of_quoted h, if_neg (mt head?_all_iff.1 hrest)]

/-! ## Every line -/

theorem word_takeWhile {c : UInt8} (line : Bytes) (hquote : c ≠ quoteMark)
    (hblank : ¬Bytes.isBlank c) :
    Word (c :: line.takeWhile (!Bytes.isBlank ·)) (c :: line.takeWhile (!Bytes.isBlank ·)) := by
  refine .bare hquote (List.forall_mem_cons.2 ⟨hblank, fun b hb ↦ ?_⟩)
  simpa using List.mem_takeWhile_imp hb

theorem parted_dropWhile (line : Bytes) : Parted (line.dropWhile (!Bytes.isBlank ·)) := by
  intro b hb
  have hhead := List.head?_dropWhile_not (!Bytes.isBlank ·) line
  rw [Option.mem_def.1 hb] at hhead
  simpa using hhead

section Prepend

variable {line text word : Bytes} {words : List Bytes} {position : Nat} {e : WordError} {c : UInt8}

theorem Line.nil : Line [] [] := .gap (List.forall_mem_nil _)

theorem Line.cons_blank (hc : Bytes.isBlank c) (h : Line line words) : Line (c :: line) words := by
  cases h with
  | gap hgap => exact .gap (List.forall_mem_cons.2 ⟨hc, hgap⟩)
  | word hgap hword hrest h => exact .word (List.forall_mem_cons.2 ⟨hc, hgap⟩) hword hrest h

theorem Wrong.cons_blank (hc : Bytes.isBlank c) (h : Wrong (position + 1) line e) :
    Wrong position (c :: line) e := by
  obtain ⟨before, words, rest, rfl, hbefore, hlast, hfault⟩ := h
  refine ⟨c :: before, words, rest, rfl, hbefore.cons_blank hc, ?_, ?_⟩
  · rw [List.getLast?_cons]
    cases hb : before.getLast? with
    | none => simpa using hc
    | some b => simpa using hlast b hb
  · rwa [List.length_cons, Nat.add_comm before.length, ← Nat.add_assoc]

theorem Line.append_word (hword : Word text word) (hrest : Parted line) (h : Line line words) :
    Line (text ++ line) (word :: words) :=
  List.nil_append (text ++ line) ▸
    .word (List.forall_mem_nil _) hword hrest h

theorem Wrong.append_word (hword : Word text word) (hparted : Parted line)
    (h : Wrong (position + text.length) line e) : Wrong position (text ++ line) e := by
  obtain ⟨before, words, rest, rfl, hbefore, hlast, hfault⟩ := h
  -- Something stands between the two words, since the second begins with a quote.
  cases before with
  | nil =>
    obtain ⟨tail, rfl⟩ := hfault.exists_cons
    exact absurd (hparted quoteMark rfl) (by decide)
  | cons c before =>
    refine ⟨text ++ c :: before, word :: words, rest, (List.append_assoc ..).symm,
      hbefore.append_word hword hparted, ?_, ?_⟩
    · rwa [List.getLast?_append, Option.or_of_isSome (by simp)]
    · rwa [List.length_append, ← Nat.add_assoc]

theorem Fault.wrong (h : Fault position line e) : Wrong position line e :=
  ⟨[], [], line, rfl, .nil, fun _ hb ↦ absurd hb (Option.not_mem_none _), h⟩

end Prepend

/-- There is no third kind of line. -/
theorem line_or_wrong (position : Nat) (line : Bytes) :
    (∃ words, Line line words) ∨ ∃ e, Wrong position line e := by
  induction hlength : line.length using Nat.strongRecOn generalizing position line with
  | ind length ih =>
    -- What a word leaves is decided already.
    have hgo {text word rest : Bytes} (hword : Word text word) (hrest : Parted rest)
        (hlt : rest.length < length) :
        (∃ words, Line (text ++ rest) words) ∨ ∃ e, Wrong position (text ++ rest) e := by
      obtain ⟨words, h⟩ | ⟨e, h⟩ := ih rest.length hlt (position + text.length) rest rfl
      · exact .inl ⟨_, h.append_word hword hrest⟩
      · exact .inr ⟨e, h.append_word hword hrest⟩
    cases line with
    | nil => exact .inl ⟨[], .nil⟩
    | cons c line =>
      rw [List.length_cons] at hlength
      by_cases hblank : Bytes.isBlank c
      · obtain ⟨words, h⟩ | ⟨e, h⟩ := ih line.length (by omega) (position + 1) line rfl
        · exact .inl ⟨words, h.cons_blank hblank⟩
        · exact .inr ⟨e, h.cons_blank hblank⟩
      by_cases hquote : c = quoteMark
      · subst hquote
        obtain ⟨text, bytes, rest, htext, rfl, hrest⟩ := exists_quoted line
        obtain rfl | ⟨rest, rfl⟩ | ⟨after, rfl, hcode⟩ := hrest
        · rw [List.append_nil]
          exact .inr ⟨_, (Fault.unclosed htext).wrong⟩
        · by_cases hparted : Parted rest
          · have hword := hgo (.quoted htext) hparted (by
              rw [← hlength, List.length_append, List.length_cons]
              omega)
            rwa [List.cons_append, List.append_assoc] at hword
          · exact .inr ⟨_, (Fault.unseparated htext hparted).wrong⟩
        · exact .inr ⟨_, (Fault.badEscape htext hcode).wrong⟩
      · have hrest := hgo (word_takeWhile line hquote hblank) (parted_dropWhile line) (by
          rw [← hlength]
          exact Nat.lt_succ_of_le (List.dropWhile_sublist _).length_le)
        rwa [List.cons_append, List.takeWhile_append_dropWhile] at hrest

/-- **The language of command lines.** The reader gives words exactly for the lines that the grammar
makes of them: words as they are written or in quotes, with blanks between them. For every other
line it gives the first fault there is, with its position, behind a beginning that is well
formed. -/
theorem ofLine_exact (line : Bytes) :
    (∀ words, ofLine line = .ok words ↔ Line line words) ∧
      ∀ e, ofLine line = .error e ↔ Wrong 0 line e := by
  have hok {words : List Bytes} (h : Line line words) : ofLine line = .ok words := by
    have hend : Parted [] := fun _ hb ↦ absurd hb (Option.not_mem_none _)
    have hall := from?_append h (.inr hend) 0 []
    rw [List.append_nil] at hall
    rw [ofLine, hall, from?, List.append_nil, List.reverse_reverse]
  have herror {e : WordError} (h : Wrong 0 line e) : ofLine line = .error e := by
    obtain ⟨before, words, rest, rfl, hbefore, hlast, hfault⟩ := h
    rw [ofLine, from?_append hbefore (.inl hlast)]
    exact hfault.from?_eq _
  constructor
  · refine fun words ↦ ⟨fun h ↦ ?_, hok⟩
    obtain ⟨words', hline⟩ | ⟨e, hwrong⟩ := line_or_wrong 0 line
    · rw [hok hline] at h
      cases h
      exact hline
    · rw [herror hwrong] at h
      cases h
  · refine fun e ↦ ⟨fun h ↦ ?_, herror⟩
    obtain ⟨words', hline⟩ | ⟨e', hwrong⟩ := line_or_wrong 0 line
    · rw [hok hline] at h
      cases h
    · rw [herror hwrong] at h
      cases h
      exact hwrong

end Words

end InstrumentRelay
