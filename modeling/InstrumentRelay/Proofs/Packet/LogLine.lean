import Mathlib.Data.List.Basic
import Mathlib.Data.List.TakeDrop
import InstrumentRelay.Packet.LogLine
import InstrumentRelay.Proofs.Command.Words
import InstrumentRelay.Proofs.Time.Calendar

/-!
# Reading the text log

Everything in a line of the text log can be read back: the kind, the microsecond and the payload
(`LogEntry`). The payload may contain anything, also what looks like the end of a line or like
another line, and a reader must not be misled by it. It is not, for two reasons. The three
attributes come before the payload and contain no quote mark, so their ends are the first quote
marks there are; and the closing tag is at the end of the line, so whatever stands between is the
payload. Escapes begin with a backslash, and a backslash in the payload is escaped itself, so that
every byte is found again (`unescape_logEscape`). They are escapes that the command line knows, too,
and are read in the same way.

A line end is not printable, so it stands at the end of a line and nowhere else, and the lines of
many packets can be told apart.
-/

namespace InstrumentRelay

/-- The microsecond in which a point in time falls, counted in the Unix era. -/
def UtcTime.microsecond (t : UtcTime) : Int := t.seconds * 1000000 + (t.nanos / 1000 : Nat)

/-- Points in time with the same microsecond are written in the same way. -/
theorem Timestamp.text_eq_of_microsecond_eq {s t : Timestamp}
    (h : s.toUtc.microsecond = t.toUtc.microsecond) : s.text = t.text := by
  have hs := s.nanos_lt
  have ht := t.nanos_lt
  simp only [UtcTime.microsecond, toUtc] at h
  have hseconds : s.seconds = t.seconds := by omega
  have hmicros : s.nanos / 1000 = t.nanos / 1000 := by omega
  rw [text, text, hseconds, hmicros]

/-- What a line of the text log tells. -/
structure LogEntry where
  /-- What the packet is for. -/
  kind : PacketKind
  /-- When it was made. -/
  microsecond : Int
  /-- What it carries. -/
  payload : Bytes
  deriving DecidableEq

/-- What the log is to tell about a packet. -/
def Packet.entry (p : Packet) : LogEntry := ⟨p.kind, p.stamp.toUtc.microsecond, p.payload⟩

/-- Printable ASCII, the blank included. -/
def isPrintable (c : Char) : Bool := 0x20 ≤ c.toNat ∧ c.toNat ≤ 0x7e

/-! ## Payloads -/

theorem hexDigit_spec (n : Nat) : Words.HexDigit (hexDigit n).toUInt8 (n % 16) := by
  have hall : ∀ m : Fin 16, (m.val < 10 ∧ (Nat.digitChar m).toUInt8.toNat = 0x30 + m.val) ∨
      (10 ≤ m.val ∧ (Nat.digitChar m).toUInt8.toNat = 0x61 + (m.val - 10)) := by decide
  rcases hall ⟨n % 16, Nat.mod_lt n (by decide)⟩ with ⟨hlt, hdigit⟩ | ⟨hle, hdigit⟩
  · exact .decimal hlt hdigit
  · have hlower := Words.HexDigit.lower (n := n % 16 - 10) (by omega) hdigit
    rwa [Nat.add_sub_cancel' hle] at hlower

theorem toUInt8_ofNat (b : UInt8) : (Char.ofNat b.toNat).toUInt8 = b := by
  have hall : ∀ n : Fin 256, (Char.ofNat n.val).toUInt8 = UInt8.ofFin n := by decide +kernel
  exact hall b.toFin

/-- A payload byte stands for itself, or it is written as an escape of the command line. -/
theorem logEscape_spec (b : UInt8) :
    (b ≠ Words.backslash ∧ (logEscape b).map Char.toUInt8 = [b]) ∨
      ∃ code, (logEscape b).map Char.toUInt8 = Words.backslash :: code ∧ Words.Escape code b := by
  unfold logEscape
  split_ifs with hfeed hreturn htab hbackslash hplain
  · exact .inr ⟨[0x6e], rfl, hfeed ▸ .lineFeed⟩
  · exact .inr ⟨[0x72], rfl, hreturn ▸ .carriageReturn⟩
  · exact .inr ⟨[0x74], rfl, htab ▸ .tab⟩
  · rw [hbackslash]
    exact .inr ⟨[0x5c], rfl, .backslash⟩
  · exact .inl ⟨hbackslash, congrArg ([·]) (toUInt8_ofNat b)⟩
  · refine .inr ⟨[0x78, (hexDigit (b.toNat / 16)).toUInt8, (hexDigit b.toNat).toUInt8], rfl,
      .hex (hexDigit_spec _) (hexDigit_spec _) ?_⟩
    have := b.toNat_lt
    omega

theorem all_isPrintable_logEscape (b : UInt8) : (logEscape b).all isPrintable = true := by
  have hall : ∀ n : Fin 256, (logEscape (UInt8.ofFin n)).all isPrintable = true := by
    decide +kernel
  exact hall b.toFin

/-- The bytes that an escaped payload stands for. -/
def unescape (text : Bytes) : Option Bytes :=
  match text with
  | [] => some []
  | c :: rest =>
    if c = Words.backslash then
      match h : Words.escape? rest with
      | none => none
      | some (b, used, rest') =>
        have : rest'.length < rest.length + 1 := by
          have := Words.length_escape? h
          omega
        (unescape rest').map (b :: ·)
    else (unescape rest).map (c :: ·)
termination_by text.length

theorem unescape_cons {c : UInt8} (h : c ≠ Words.backslash) (rest : Bytes) :
    unescape (c :: rest) = (unescape rest).map (c :: ·) := by
  rw [unescape, if_neg h]

theorem unescape_backslash {code : Bytes} {b : UInt8} (h : Words.Escape code b) (rest : Bytes) :
    unescape (Words.backslash :: (code ++ rest)) = (unescape rest).map (b :: ·) := by
  have hread := h.escape?_append rest
  rw [unescape, if_pos rfl]
  split
  case h_1 hnone =>
    rw [hread] at hnone
    cases hnone
  case h_2 hsome =>
    rw [hread] at hsome
    cases hsome
    rfl

/-- **Escapes are undone**, whatever the payload is. -/
theorem unescape_logEscape (payload : Bytes) :
    unescape ((payload.flatMap logEscape).map Char.toUInt8) = some payload := by
  induction payload with
  | nil =>
    rw [List.flatMap_nil, List.map_nil, unescape]
  | cons b rest ih =>
    rw [List.flatMap_cons, List.map_append]
    rcases logEscape_spec b with ⟨hplain, hb⟩ | ⟨code, hb, hcode⟩
    · rw [hb, List.singleton_append, unescape_cons hplain, ih, Option.map_some]
    · rw [hb, List.cons_append, unescape_backslash hcode, ih, Option.map_some]

/-! ## Lines -/

/-- The text up to the next quote mark, and the text behind it. -/
def untilQuote? (text : List Char) : Option (List Char × List Char) :=
  match text.span (· ≠ '"') with
  | (word, _ :: rest) => some (word, rest)
  | (_, []) => none

/-- The value of an attribute that begins in this way, and the text behind it. -/
def attribute? (opening : String) (text : List Char) : Option (List Char × List Char) :=
  (text.dropPrefix? opening.toList).bind untilQuote?

namespace LogEntry

/-- What a line tells, its end left out. The length is passed over. -/
def ofText? (text : List Char) : Option LogEntry := do
  let text ← text.dropPrefix? "<packet".toList
  let (label, text) ← attribute? " type=\"" text
  let (stamp, text) ← attribute? " time=\"" text
  let (_, text) ← attribute? " length=\"" text
  let text ← text.dropPrefix? ['>']
  let escaped ← text.dropSuffix? "</packet>".toList
  let kind ← PacketKind.all.find? (·.label.toList = label)
  let (seconds, micros) ← Calendar.ofStamp? stamp
  let payload ← unescape (escaped.map Char.toUInt8)
  return ⟨kind, ((seconds : Int) - Timestamp.eraOffset) * 1000000 + micros, payload⟩

/-- The same of a line as it is in the file. -/
def ofLine? (line : Bytes) : Option LogEntry := ofText? (line.map fun b ↦ Char.ofNat b.toNat)

end LogEntry

theorem untilQuote?_append {word : List Char} (h : '"' ∉ word) (rest : List Char) :
    untilQuote? (word ++ '"' :: rest) = some (word, rest) := by
  have hword : ∀ c ∈ word, decide (c ≠ '"') = true :=
    fun c hc ↦ decide_eq_true fun heq ↦ h (heq ▸ hc)
  have hspan : (word ++ '"' :: rest).span (· ≠ '"') = (word, '"' :: rest) := by
    rw [List.span_eq_takeWhile_dropWhile, List.takeWhile_append_of_pos hword,
      List.dropWhile_append_of_pos hword]
    simp
  rw [untilQuote?, hspan]

theorem dropPrefix?_append (front rest : List Char) :
    (front ++ rest).dropPrefix? front = some rest :=
  List.dropPrefix?_eq_some_iff.2 ⟨front, rfl, BEq.rfl⟩

theorem dropSuffix?_append (front rest : List Char) :
    (front ++ rest).dropSuffix? rest = some front :=
  List.dropSuffix?_eq_some_iff.2 ⟨rest, rfl, BEq.rfl⟩

/-- An attribute is read to its end if its value has no quote mark. -/
theorem attribute?_append (opening : String) {value : List Char} (h : '"' ∉ value)
    (rest : List Char) :
    attribute? opening (opening.toList ++ (value ++ '"' :: rest)) = some (value, rest) := by
  rw [attribute?, dropPrefix?_append, Option.bind_some, untilQuote?_append h]

namespace Packet

variable (p : Packet)

/-- The line that describes the packet, without its end. -/
def logText : List Char :=
  "<packet".toList ++ (" type=\"".toList ++ (p.kind.label.toList ++ '"' ::
    (" time=\"".toList ++ (p.stamp.text ++ '"' ::
      (" length=\"".toList ++ (Nat.toDigits 10 p.payload.length ++ '"' ::
        (['>'] ++ (p.payload.flatMap logEscape ++ "</packet>".toList))))))))

theorem logLine_eq : p.logLine = p.logText ++ ['\n'] := by
  have hopening : "<packet type=\"".toList = "<packet".toList ++ " type=\"".toList := by decide
  have htime : "\" time=\"".toList = '"' :: " time=\"".toList := by decide
  have hlength : "\" length=\"".toList = '"' :: " length=\"".toList := by decide
  have hend : "\">".toList = '"' :: ['>'] := by decide
  have hclosing : "</packet>\n".toList = "</packet>".toList ++ ['\n'] := by decide
  unfold logLine logText
  rw [hopening, htime, hlength, hend, hclosing]
  simp only [List.append_assoc, List.cons_append, List.nil_append]

/-- **A line tells what the log is to tell.** -/
theorem ofText?_logText : LogEntry.ofText? p.logText = some p.entry := by
  have hlabel : '"' ∉ p.kind.label.toList := by
    have hall : ∀ k ∈ PacketKind.all, '"' ∉ k.label.toList := by decide +kernel
    exact hall p.kind p.kind.mem_all
  have hkind : PacketKind.all.find? (·.label.toList = p.kind.label.toList) = some p.kind := by
    have hall : ∀ k ∈ PacketKind.all,
        PacketKind.all.find? (·.label.toList = k.label.toList) = some k := by decide +kernel
    exact hall p.kind p.kind.mem_all
  have hstamp : '"' ∉ p.stamp.text := Calendar.quote_notMem_stampText _ _
  have hlength : '"' ∉ Nat.toDigits 10 p.payload.length := fun h ↦
    absurd (Nat.isDigit_of_mem_toDigits (by decide) (by decide) h) (by decide)
  have htime : Calendar.ofStamp? p.stamp.text = some (p.stamp.seconds, p.stamp.nanos / 1000) :=
    Calendar.ofStamp?_stampText _ _
  unfold LogEntry.ofText? logText
  simp only [Option.bind_eq_bind, dropPrefix?_append, attribute?_append _ hlabel,
    attribute?_append _ hstamp, attribute?_append _ hlength, dropSuffix?_append, hkind, htime,
    unescape_logEscape, Option.bind_some]
  rfl

/-! ### Characters and bytes -/

theorem isPrintable_of_isDigit {c : Char} (h : c.isDigit = true) : isPrintable c = true := by
  obtain ⟨hlow, hhigh⟩ := Bool.and_eq_true_iff.1 h
  have hlow : '0'.toNat ≤ c.toNat := of_decide_eq_true hlow
  have hhigh : c.toNat ≤ '9'.toNat := of_decide_eq_true hhigh
  exact decide_eq_true ⟨Nat.le_trans (by decide) hlow, Nat.le_trans hhigh (by decide)⟩

/-- Everything in a line is printable, its end left out. -/
theorem all_isPrintable_logText : p.logText.all isPrintable = true := by
  have hlabel : p.kind.label.toList.all isPrintable = true := by
    have hall : ∀ k ∈ PacketKind.all, k.label.toList.all isPrintable = true := by decide +kernel
    exact hall p.kind p.kind.mem_all
  have hstamp : p.stamp.text.all isPrintable = true := by
    refine List.all_eq_true.2 fun c hc ↦ ?_
    rcases Calendar.mem_stampText hc with hdigit | hseparator
    · exact isPrintable_of_isDigit hdigit
    · have hall : ['-', 'T', ':', '.', 'Z'].all isPrintable = true := by decide
      exact List.all_eq_true.1 hall c hseparator
  have hlength : (Nat.toDigits 10 p.payload.length).all isPrintable = true :=
    List.all_eq_true.2 fun c hc ↦
      isPrintable_of_isDigit (Nat.isDigit_of_mem_toDigits (by decide) (by decide) hc)
  have hpayload : (p.payload.flatMap logEscape).all isPrintable = true := by
    rw [List.all_flatMap, List.all_eq_true]
    exact fun b _ ↦ all_isPrintable_logEscape b
  have hjoin {first second : List Char} (hfirst : first.all isPrintable = true)
      (hsecond : second.all isPrintable = true) : (first ++ second).all isPrintable = true := by
    rw [List.all_append, hfirst, hsecond]
    rfl
  have hattribute {opening value rest : List Char} (hopening : opening.all isPrintable = true)
      (hvalue : value.all isPrintable = true) (hrest : rest.all isPrintable = true) :
      (opening ++ (value ++ '"' :: rest)).all isPrintable = true :=
    hjoin hopening (hjoin hvalue hrest)
  exact hjoin (by decide +kernel) <|
    hattribute (by decide +kernel) hlabel <|
    hattribute (by decide +kernel) hstamp <|
    hattribute (by decide +kernel) hlength <|
    hjoin (by decide +kernel) (hjoin hpayload (by decide +kernel))

theorem isPrintable_of_mem_logText {c : Char} (h : c ∈ p.logText) : isPrintable c = true :=
  List.all_eq_true.1 p.all_isPrintable_logText c h

end Packet

/-! ### Bytes -/

section Ascii

variable {c : Char}

theorem toNat_toUInt8_of_isPrintable (h : isPrintable c = true) : c.toUInt8.toNat = c.toNat := by
  have hbyte : c.toUInt8.toNat = c.toNat % 256 := UInt32.toNat_toUInt8 c.val
  rw [hbyte, Nat.mod_eq_of_lt (Nat.lt_of_le_of_lt (of_decide_eq_true h).2 (by decide))]

theorem ofNat_toUInt8_of_isPrintable (h : isPrintable c = true) :
    Char.ofNat c.toUInt8.toNat = c := by
  rw [toNat_toUInt8_of_isPrintable h, Char.ofNat_toNat]

theorem utf8EncodeChar_of_isPrintable (h : isPrintable c = true) :
    String.utf8EncodeChar c = [c.toUInt8] :=
  String.utf8EncodeChar_eq_singleton
    (Char.utf8Size_eq_one_iff.2 (Nat.le_trans (of_decide_eq_true h).2 (by decide : 0x7e ≤ 127)))

end Ascii

namespace Packet

variable (p : Packet)

/-- The line as it is in the file, its end left out. -/
def logContent : Bytes := p.logText.map Char.toUInt8

theorem logBytes_eq : p.logBytes = p.logContent ++ [0x0a] := by
  rw [logBytes, logLine_eq, List.map_append]
  rfl

/-- A byte of the file is a character of the line. -/
theorem logBytes_eq_ofText : p.logBytes = Bytes.ofText (String.ofList p.logLine) := by
  have hone : ∀ c ∈ p.logLine, String.utf8EncodeChar c = [c.toUInt8] := by
    rw [logLine_eq]
    exact List.forall_mem_append.2
      ⟨fun c hc ↦ utf8EncodeChar_of_isPrintable (p.isPrintable_of_mem_logText hc),
        List.forall_mem_singleton.2 rfl⟩
  rw [Bytes.ofText, String.toList_ofList, List.flatMap_congr hone, logBytes, List.map_eq_flatMap]

theorem printable_of_mem_logContent {b : UInt8} (h : b ∈ p.logContent) : 0x20 ≤ b ∧ b ≤ 0x7e := by
  obtain ⟨c, hc, rfl⟩ := List.mem_map.1 h
  have hprintable := p.isPrintable_of_mem_logText hc
  rw [UInt8.le_iff_toNat_le, UInt8.le_iff_toNat_le, toNat_toUInt8_of_isPrintable hprintable]
  exact of_decide_eq_true hprintable

theorem lineEnd_notMem_logContent : 0x0a ∉ p.logContent := fun h ↦
  absurd (p.printable_of_mem_logContent h).1 (by decide)

theorem ofLine?_logContent : LogEntry.ofLine? p.logContent = some p.entry := by
  have hback : p.logContent.map (fun b ↦ Char.ofNat b.toNat) = p.logText := by
    rw [logContent, List.map_map]
    have hsame (c : Char) (hc : c ∈ p.logText) : Char.ofNat c.toUInt8.toNat = c :=
      ofNat_toUInt8_of_isPrintable (p.isPrintable_of_mem_logText hc)
    exact (List.map_congr_left hsame).trans (List.map_id' _)
  rw [LogEntry.ofLine?, hback, ofText?_logText]

/-! ## The log -/

variable {p}

theorem logBytes_eq_iff {q : Packet} : p.logBytes = q.logBytes ↔ p.entry = q.entry := by
  constructor
  · intro h
    rw [logBytes_eq, logBytes_eq] at h
    have hcontent : p.logContent = q.logContent := List.append_cancel_right h
    rw [← Option.some_inj, ← ofLine?_logContent, ← ofLine?_logContent, hcontent]
  · intro h
    rw [entry, entry, LogEntry.mk.injEq] at h
    obtain ⟨hkind, htime, hpayload⟩ := h
    have hline : p.logLine = q.logLine := by
      unfold logLine
      rw [hkind, hpayload, Timestamp.text_eq_of_microsecond_eq htime]
    rw [logBytes, hline, logBytes]

/-- The log falls apart at its line ends into one line for each packet. -/
theorem splitOn_logBytes (packets : List Packet) :
    (packets.flatMap logBytes).splitOn 0x0a = packets.map logContent ++ [[]] := by
  induction packets with
  | nil => rfl
  | cons p rest ih =>
    rw [List.flatMap_cons, logBytes_eq, List.append_assoc, List.singleton_append,
      List.splitOn_append_cons_self_of_not_mem p.lineEnd_notMem_logContent, ih, List.map_cons,
      List.cons_append]

/-- **The text log is faithful.** Two packets have the same line exactly if they are of the same
kind, carry the same payload, and were made in the same microsecond. A line is ASCII; its bytes are
printable up to the line end, which is the last one. So however many packets are logged, and
whatever they carry, the log falls apart at its line ends into one line for each of them, and from
each line the kind, the microsecond and the payload can be read. -/
theorem text_log_faithful :
    (∀ p q : Packet, p.logBytes = q.logBytes ↔
      p.kind = q.kind ∧ p.payload = q.payload ∧
        p.stamp.toUtc.microsecond = q.stamp.toUtc.microsecond) ∧
      (∀ p : Packet, p.logBytes = Bytes.ofText (String.ofList p.logLine) ∧
        ∃ line, p.logBytes = line ++ [0x0a] ∧ ∀ b ∈ line, 0x20 ≤ b ∧ b ≤ 0x7e) ∧
      ∀ packets : List Packet, ∃ lines, lines.length = packets.length ∧
        (packets.flatMap logBytes).splitOn 0x0a = lines ++ [[]] ∧
          lines.map LogEntry.ofLine? = packets.map fun p ↦ some p.entry := by
  refine ⟨fun p q ↦ ?_, fun p ↦ ?_, fun packets ↦ ?_⟩
  · rw [logBytes_eq_iff, entry, entry, LogEntry.mk.injEq]
    exact and_congr_right' and_comm
  · exact ⟨p.logBytes_eq_ofText, p.logContent, p.logBytes_eq,
      fun b hb ↦ p.printable_of_mem_logContent hb⟩
  · refine ⟨packets.map logContent, List.length_map _, splitOn_logBytes packets, ?_⟩
    rw [List.map_map]
    exact List.map_congr_left fun p _ ↦ p.ofLine?_logContent

/-- A packet whose payload is the end of a line, beside a packet without a payload. -/
theorem text_log_faithful_of_forged_end :
    let forged : Packet := ⟨.fromInstrument, ⟨0⟩,
      [0x3c, 0x2f, 0x70, 0x61, 0x63, 0x6b, 0x65, 0x74, 0x3e, 0x0a], by decide⟩
    let empty : Packet := ⟨.fromInstrument, ⟨0⟩, [], by decide⟩
    forged.logBytes ≠ empty.logBytes ∧
      ∃ lines, lines.length = 2 ∧
        ([forged, empty].flatMap logBytes).splitOn 0x0a = lines ++ [[]] ∧
          lines.map LogEntry.ofLine? = [some forged.entry, some empty.entry] := by
  intro forged empty
  refine ⟨fun hsame ↦ ?_, text_log_faithful.2.2 [forged, empty]⟩
  have hpayload : forged.payload = empty.payload := ((text_log_faithful.1 forged empty).1 hsame).2.1
  cases hpayload

end Packet

end InstrumentRelay
