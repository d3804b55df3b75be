import Mathlib.Data.Nat.Find
import InstrumentRelay.Proofs.Stream.Splitting

/-!
# When the limit on lines is noticed

A reader compares what it holds with its limit only when there is no delimiter in it. A line that is
too long is therefore given all the same if its delimiter comes with the read that makes it too long,
and is the end of the stream if it does not: it depends on how the stream is cut.

What does not depend on it is said with two views of what has arrived: the pieces that have ended
(`ended`), and what stands behind the last delimiter (`unended`). After each read, all ended pieces
have been given, and the reader gives up if the rest is longer than the limit (`readAll_of_gives_up`,
`readAll_of_goes_on`). A rest that is too long at the end of one read and ends in a later one is an
ended piece of the stream. So any two cuts of a stream give the same exactly if no ended piece of it
is longer than the limit, and then no line is either (`readAll_exact`).
-/

namespace InstrumentRelay

/-! ## What has ended and what has not -/

/-- The pieces of the stream that a delimiter ends. -/
def ended (delimiter : UInt8) (stream : Bytes) : List Bytes := (stream.splitOn delimiter).dropLast

/-- What stands behind the last delimiter. -/
def unended (delimiter : UInt8) (stream : Bytes) : Bytes :=
  (stream.splitOn delimiter).getLast (List.splitOn_ne_nil delimiter stream)

section

variable {delimiter : UInt8} {line rest tail : Bytes}

theorem ended_append (h : delimiter ∉ line) (rest : Bytes) :
    ended delimiter (line ++ delimiter :: rest) = line :: ended delimiter rest := by
  rw [ended, List.splitOn_append_cons_self_of_not_mem h,
    List.dropLast_cons_of_ne_nil (List.splitOn_ne_nil delimiter rest), ended]

theorem unended_append (h : delimiter ∉ line) (rest : Bytes) :
    unended delimiter (line ++ delimiter :: rest) = unended delimiter rest := by
  simp only [unended, List.splitOn_append_cons_self_of_not_mem h,
    List.getLast_cons (List.splitOn_ne_nil delimiter rest)]

theorem ended_of_notMem (h : delimiter ∉ tail) : ended delimiter tail = [] := by
  rw [ended, List.splitOn_eq_singleton h, List.dropLast_singleton]

theorem unended_of_notMem (h : delimiter ∉ tail) : unended delimiter tail = tail := by
  simp only [unended, List.splitOn_eq_singleton h, List.getLast_singleton]

/-- A stream is a piece that has not ended, or begins with one that has. -/
theorem byPieces (delimiter : UInt8) {motive : Bytes → Prop}
    (last : ∀ tail, delimiter ∉ tail → motive tail)
    (piece : ∀ line rest, delimiter ∉ line → motive rest → motive (line ++ delimiter :: rest))
    (stream : Bytes) : motive stream := by
  by_cases hmem : delimiter ∈ stream
  · obtain ⟨line, rest, hstream, hline⟩ := List.eq_append_cons_of_mem hmem
    have hshort : rest.length < stream.length := by
      rw [hstream, List.length_append, List.length_cons]
      omega
    rw [hstream]
    exact piece line rest hline (byPieces delimiter last piece rest)
  · exact last stream hmem
termination_by stream.length

theorem notMem_unended (delimiter : UInt8) (stream : Bytes) :
    delimiter ∉ unended delimiter stream := by
  induction stream using byPieces delimiter with
  | last tail h => rwa [unended_of_notMem h]
  | piece line rest h ih => rwa [unended_append h]

/-- What arrives goes on where the last piece has not ended. -/
theorem ended_append_eq (delimiter : UInt8) (stream more : Bytes) :
    ended delimiter (stream ++ more)
        = ended delimiter stream ++ ended delimiter (unended delimiter stream ++ more) ∧
      unended delimiter (stream ++ more) = unended delimiter (unended delimiter stream ++ more) := by
  induction stream using byPieces delimiter with
  | last tail h =>
    rw [ended_of_notMem h, unended_of_notMem h]
    exact ⟨rfl, rfl⟩
  | piece line rest h ih =>
    rw [List.append_assoc, List.cons_append, ended_append h, ended_append h, unended_append h,
      unended_append h, ih.1, ih.2]
    exact ⟨rfl, rfl⟩

/-- The same, from what was left of a stream on. -/
theorem ended_unended_append (delimiter : UInt8) (stream bytes more : Bytes) :
    ended delimiter (unended delimiter stream ++ (bytes ++ more))
      = ended delimiter (unended delimiter stream ++ bytes)
        ++ ended delimiter (unended delimiter (stream ++ bytes) ++ more) := by
  rw [← List.append_assoc, (ended_append_eq delimiter (unended delimiter stream ++ bytes) more).1,
    ← (ended_append_eq delimiter stream bytes).2]

/-- Either a delimiter comes with what arrives, and then the last piece ends, or it only gets
longer. -/
theorem ended_or_longer (delimiter : UInt8) (stream more : Bytes) :
    (∃ piece ∈ ended delimiter (stream ++ more), unended delimiter stream <+: piece) ∨
      ended delimiter (stream ++ more) = ended delimiter stream ∧
        unended delimiter (stream ++ more) = unended delimiter stream ++ more := by
  obtain ⟨hended, hunended⟩ := ended_append_eq delimiter stream more
  have hstream := notMem_unended delimiter stream
  by_cases hmore : delimiter ∈ more
  · obtain ⟨line, rest, rfl, hline⟩ := List.eq_append_cons_of_mem hmore
    have hpiece : delimiter ∉ unended delimiter stream ++ line := by
      rw [List.mem_append, not_or]
      exact ⟨hstream, hline⟩
    refine .inl ⟨unended delimiter stream ++ line, ?_, List.prefix_append _ _⟩
    rw [hended, ← List.append_assoc, ended_append hpiece]
    exact List.mem_append_right _ List.mem_cons_self
  · have hpiece : delimiter ∉ unended delimiter stream ++ more := by
      rw [List.mem_append, not_or]
      exact ⟨hstream, hmore⟩
    refine .inr ⟨?_, ?_⟩
    · rw [hended, ended_of_notMem hpiece, List.append_nil]
    · rw [hunended, unended_of_notMem hpiece]

/-- Before a piece ends, it has not ended. -/
theorem exists_before_of_mem_ended {stream piece : Bytes} (h : piece ∈ ended delimiter stream) :
    ∃ first second, first ++ second = stream ∧ unended delimiter first = piece ∧
      (ended delimiter first).length < (ended delimiter stream).length := by
  induction stream using byPieces delimiter with
  | last tail hmem =>
    rw [ended_of_notMem hmem] at h
    exact absurd h List.not_mem_nil
  | piece line rest hmem ih =>
    rw [ended_append hmem] at h
    rcases List.mem_cons.1 h with rfl | h
    · refine ⟨piece, delimiter :: rest, rfl, unended_of_notMem hmem, ?_⟩
      rw [ended_of_notMem hmem, ended_append hmem]
      exact Nat.zero_lt_succ _
    · obtain ⟨first, second, rfl, hunended, hlt⟩ := ih h
      refine ⟨line ++ delimiter :: first, second, by simp, ?_, ?_⟩
      · rw [unended_append hmem, hunended]
      · rw [ended_append hmem, ended_append hmem]
        exact Nat.succ_lt_succ hlt

end

theorem length_withoutReturn_le (line : Bytes) : (withoutReturn line).length ≤ line.length := by
  rw [withoutReturn]
  split
  · rw [List.length_dropLast]
    exact Nat.sub_le _ _
  · exact Nat.le_refl _

namespace LineReader

/-- The lines, and the reader after them unless the stream was given up. -/
def Drained.outcome (d : Drained) : List Bytes × Except LineTooLong LineReader :=
  (d.lines,
    match d.fault with
    | some e => .error e
    | none => .ok d.reader)

/-- Draining by the next line, without the reason why it comes to an end. -/
theorem drain_eq_of_next (r : LineReader) :
    r.drain =
      match r.next with
      | .error e => { lines := [], reader := r, fault := some e }
      | .ok (none, r') => { lines := [], reader := r' }
      | .ok (some line, r') => .cons line r'.drain := by
  rw [drain]
  split
  case h_1 hnext => rw [hnext]
  case h_2 hnext => rw [hnext]
  case h_3 hnext => simp only [hnext]

end LineReader

namespace LineScanner

/-! ## One read -/

section

variable {s s' : LineScanner} {line : Bytes}

theorem eq_of_toLineReader_eq (h : s.toLineReader = s'.toLineReader) (hcursor : s.cursor = s'.cursor) :
    s = s' := by
  obtain ⟨r, cursor, _, _⟩ := s
  obtain ⟨r', cursor', _, _⟩ := s'
  obtain rfl : r = r' := h
  obtain rfl : cursor = cursor' := hcursor
  rfl

theorem next_of_eq_append {rest : Bytes} (h : s.buffer = line ++ s.delimiter :: rest)
    (hline : s.delimiter ∉ line) :
    s.next = .ok (some (withoutReturn line), ofReader { s.toLineReader with buffer := rest }) := by
  have hreader := s.next_toLineReader
  rw [LineReader.next_of_eq_append h hline] at hreader
  -- After a line, nothing has been looked at.
  have hfresh {line' : Bytes} {s' : LineScanner} (hnext : s.next = .ok (some line', s')) :
      s' = ofReader s'.toLineReader := by
    unfold next at hnext
    split at hnext
    · simp only [Except.ok.injEq, Prod.mk.injEq] at hnext
      rw [← hnext.2]
      rfl
    · split at hnext <;> simp at hnext
  rcases hnext : s.next with e | ⟨_ | line', s'⟩ <;> rw [hnext] at hreader
  · cases hreader
  · cases hreader
  · obtain ⟨hline', hs'⟩ := Prod.mk.inj (Except.ok.inj hreader)
    rw [hfresh hnext, ← Option.some.inj hline', ← hs']

theorem next_of_notMem (h : s.delimiter ∉ s.unseen) :
    s.next = if s.limit < s.buffer.length then .error ⟨s.limit⟩ else .ok (none, s.seen h) := by
  rw [next]
  split
  case h_1 position hfound =>
    rw [List.idxOf?_eq_none_iff.2 h] at hfound
    cases hfound
  case h_2 => rfl

/-- Draining by the next line, without the reason why it comes to an end. -/
theorem drain_eq_of_next (s : LineScanner) :
    s.drain =
      match s.next with
      | .error e => ([], .error e)
      | .ok (none, s') => ([], .ok s')
      | .ok (some line, s') => (line :: s'.drain.1, s'.drain.2) := by
  rw [drain]
  split
  case h_1 hnext => rw [hnext]
  case h_2 hnext => rw [hnext]
  case h_3 hnext => simp only [hnext]

end

/-- What has arrived has been read, and the last piece of it has not ended. -/
def waiting (delimiter : UInt8) (limit : Nat) (stream : Bytes) : LineScanner where
  buffer := unended delimiter stream
  delimiter := delimiter
  limit := limit
  cursor := (unended delimiter stream).length
  cursor_le := Nat.le_refl _
  delimiter_notMem := by
    rw [List.take_length]
    exact notMem_unended delimiter stream

theorem waiting_congr {delimiter : UInt8} {stream other : Bytes} (limit : Nat)
    (h : unended delimiter stream = unended delimiter other) :
    waiting delimiter limit stream = waiting delimiter limit other :=
  eq_of_toLineReader_eq (by simp only [waiting, h]) (by simp only [waiting, h])

theorem start_eq_waiting (delimiter : UInt8) (limit : Nat) :
    start delimiter limit = waiting delimiter limit [] := rfl

/-- Draining gives every piece that has ended, and then the rest is compared with the limit. -/
theorem drain_eq (s : LineScanner) :
    s.drain = ((ended s.delimiter s.buffer).map withoutReturn,
      if s.limit < (unended s.delimiter s.buffer).length then .error ⟨s.limit⟩
      else .ok (waiting s.delimiter s.limit s.buffer)) := by
  generalize hd : s.delimiter = delimiter
  generalize hb : s.buffer = buffer
  induction buffer using byPieces delimiter generalizing s with
  | last tail htail =>
    subst hd hb
    have hnext := next_of_notMem (s := s) (by rwa [← s.delimiter_mem_iff])
    rw [ended_of_notMem htail, unended_of_notMem htail]
    split
    case isTrue hlong =>
      rw [drain_eq_of_next, hnext, if_pos hlong]
      rfl
    case isFalse hshort =>
      rw [drain_eq_of_next, hnext, if_neg hshort]
      have hreader : s.toLineReader = (waiting s.delimiter s.limit s.buffer).toLineReader := by
        simp only [waiting, unended_of_notMem htail]
      have hcursor : s.buffer.length = (waiting s.delimiter s.limit s.buffer).cursor := by
        simp only [waiting, unended_of_notMem htail]
      exact congrArg (fun s' ↦ ([], Except.ok s')) (eq_of_toLineReader_eq hreader hcursor)
  | piece line rest hline ih =>
    subst hd
    have hunended := unended_append hline rest
    rw [drain_eq_of_next, next_of_eq_append hb hline]
    dsimp only
    rw [ih (ofReader { s.toLineReader with buffer := rest }) rfl rfl, ended_append hline, hunended,
      List.map_cons, waiting_congr s.limit hunended]
    rfl

/-! ## All reads -/

/-- What the reader that has read the stream so far makes of one more read. -/
theorem drain_feed_waiting (delimiter : UInt8) (limit : Nat) (stream bytes : Bytes) :
    ((waiting delimiter limit stream).feed bytes).drain
      = ((ended delimiter (unended delimiter stream ++ bytes)).map withoutReturn,
        if limit < (unended delimiter (stream ++ bytes)).length then .error ⟨limit⟩
        else .ok (waiting delimiter limit (stream ++ bytes))) := by
  have hunended := (ended_append_eq delimiter stream bytes).2
  rw [drain_eq, hunended, waiting_congr limit hunended]
  rfl

/-- With these reads the rest becomes too long at the end of the `k`-th, and not before. -/
structure GivesUpAt (delimiter : UInt8) (limit : Nat) (cuts : List Bytes) (k : Nat) : Prop where
  tooLong : limit < (unended delimiter (cuts.take k).flatten).length
  first : ∀ j < k, (unended delimiter (cuts.take j).flatten).length ≤ limit

variable {delimiter : UInt8} {limit : Nat}

theorem readAll_waiting_cons_of_tooLong {stream bytes : Bytes} (rest : List Bytes)
    (h : limit < (unended delimiter (stream ++ bytes)).length) :
    (waiting delimiter limit stream).readAll (bytes :: rest)
      = ((ended delimiter (unended delimiter stream ++ bytes)).map withoutReturn,
        .error ⟨limit⟩) := by
  rw [readAll, drain_feed_waiting, if_pos h]

theorem readAll_waiting_cons {stream bytes : Bytes} {rest : List Bytes}
    (h : (unended delimiter (stream ++ bytes)).length ≤ limit) :
    (waiting delimiter limit stream).readAll (bytes :: rest)
      = ((ended delimiter (unended delimiter stream ++ bytes)).map withoutReturn
          ++ ((waiting delimiter limit (stream ++ bytes)).readAll rest).1,
        ((waiting delimiter limit (stream ++ bytes)).readAll rest).2) := by
  rw [readAll, drain_feed_waiting, if_neg (Nat.not_lt.2 h)]

/-- As long as no rest is too long, every piece that has ended is given. -/
theorem readAll_waiting_of_goes_on {stream : Bytes} {cuts : List Bytes}
    (h : ∀ k, (unended delimiter (stream ++ (cuts.take k).flatten)).length ≤ limit) :
    (waiting delimiter limit stream).readAll cuts
      = ((ended delimiter (unended delimiter stream ++ cuts.flatten)).map withoutReturn,
        .ok (waiting delimiter limit (stream ++ cuts.flatten))) := by
  induction cuts generalizing stream with
  | nil =>
    rw [readAll, List.flatten_nil, List.append_nil, List.append_nil,
      ended_of_notMem (notMem_unended delimiter stream)]
    rfl
  | cons bytes rest ih =>
    have hbytes : (unended delimiter (stream ++ bytes)).length ≤ limit := by
      have hone := h 1
      rwa [List.take_succ_cons, List.take_zero, List.flatten_singleton] at hone
    have hrest (k : Nat) :
        (unended delimiter (stream ++ bytes ++ (rest.take k).flatten)).length ≤ limit := by
      have hmore := h (k + 1)
      rwa [List.take_succ_cons, List.flatten_cons, ← List.append_assoc] at hmore
    rw [readAll_waiting_cons hbytes, ih hrest, List.flatten_cons, ended_unended_append,
      List.map_append, List.append_assoc]

/-- The reader gives up at the end of a read, with every piece given that has ended by then. -/
theorem readAll_waiting_of_gives_up {stream : Bytes} {cuts : List Bytes} {k : Nat}
    (hstream : (unended delimiter stream).length ≤ limit)
    (hlong : limit < (unended delimiter (stream ++ (cuts.take k).flatten)).length)
    (hfirst : ∀ j < k, (unended delimiter (stream ++ (cuts.take j).flatten)).length ≤ limit) :
    (waiting delimiter limit stream).readAll cuts
      = ((ended delimiter (unended delimiter stream ++ (cuts.take k).flatten)).map withoutReturn,
        .error ⟨limit⟩) := by
  induction cuts generalizing stream k with
  | nil =>
    rw [List.take_nil, List.flatten_nil, List.append_nil] at hlong
    omega
  | cons bytes rest ih =>
    rcases k with _ | k
    · rw [List.take_zero, List.flatten_nil, List.append_nil] at hlong
      omega
    simp only [List.take_succ_cons, List.flatten_cons] at hlong ⊢
    rcases k with _ | k
    · rw [List.take_zero, List.flatten_nil, List.append_nil] at hlong ⊢
      exact readAll_waiting_cons_of_tooLong rest hlong
    have hbytes : (unended delimiter (stream ++ bytes)).length ≤ limit := by
      have hone := hfirst 1 (by omega)
      rwa [List.take_succ_cons, List.take_zero, List.flatten_singleton] at hone
    have hrest : ∀ j < k + 1,
        (unended delimiter (stream ++ bytes ++ (rest.take j).flatten)).length ≤ limit := by
      intro j hj
      have hmore := hfirst (j + 1) (by omega)
      rwa [List.take_succ_cons, List.flatten_cons, ← List.append_assoc] at hmore
    rw [← List.append_assoc] at hlong
    rw [readAll_waiting_cons hbytes, ih hbytes hlong hrest, ended_unended_append, List.map_append]

theorem readAll_of_goes_on {cuts : List Bytes}
    (h : ∀ k, (unended delimiter (cuts.take k).flatten).length ≤ limit) :
    (start delimiter limit).readAll cuts
      = ((ended delimiter cuts.flatten).map withoutReturn,
        .ok (waiting delimiter limit cuts.flatten)) := by
  have hstart : ∀ k, (unended delimiter ([] ++ (cuts.take k).flatten)).length ≤ limit := h
  exact readAll_waiting_of_goes_on hstart

theorem readAll_of_gives_up {cuts : List Bytes} {k : Nat} (h : GivesUpAt delimiter limit cuts k) :
    (start delimiter limit).readAll cuts
      = ((ended delimiter (cuts.take k).flatten).map withoutReturn, .error ⟨limit⟩) := by
  have hstart : limit < (unended delimiter ([] ++ (cuts.take k).flatten)).length := h.tooLong
  exact readAll_waiting_of_gives_up (Nat.zero_le limit) hstart h.first

theorem goes_on_or_gives_up (delimiter : UInt8) (limit : Nat) (cuts : List Bytes) :
    (∀ k, (unended delimiter (cuts.take k).flatten).length ≤ limit) ∨
      ∃ k, GivesUpAt delimiter limit cuts k := by
  by_cases h : ∃ k, limit < (unended delimiter (cuts.take k).flatten).length
  · exact .inr ⟨Nat.find h, Nat.find_spec h, fun j hj ↦ Nat.le_of_not_lt (Nat.find_min h hj)⟩
  · exact .inl fun k ↦ Nat.le_of_not_lt fun hk ↦ h ⟨k, hk⟩

/-! ## Two cuts of one stream -/

/-- Where no ended piece is too long, what comes of the reads depends on the stream alone. -/
theorem readAll_eq_of_fits {cuts : List Bytes}
    (h : ∀ piece ∈ ended delimiter cuts.flatten, piece.length ≤ limit) :
    (start delimiter limit).readAll cuts = ((ended delimiter cuts.flatten).map withoutReturn,
      if limit < (unended delimiter cuts.flatten).length then .error ⟨limit⟩
      else .ok (waiting delimiter limit cuts.flatten)) := by
  rcases goes_on_or_gives_up delimiter limit cuts with hall | ⟨k, hk⟩
  · have hlast := hall cuts.length
    rw [List.take_length] at hlast
    rw [readAll_of_goes_on hall, if_neg (Nat.not_lt.2 hlast)]
  · have hlong := hk.tooLong
    have hstream : cuts.flatten = (cuts.take k).flatten ++ (cuts.drop k).flatten := by
      rw [← List.flatten_append, List.take_append_drop]
    -- What is too long at the end of a read does not end any more.
    rcases ended_or_longer delimiter (cuts.take k).flatten (cuts.drop k).flatten with
      ⟨piece, hpiece, hle⟩ | ⟨hended, hunended⟩
    · rw [hstream] at h
      have hshort := h piece hpiece
      have hlength := hle.length_le
      omega
    · have hlonger : limit < (unended delimiter cuts.flatten).length := by
        rw [hstream, hunended, List.length_append]
        omega
      rw [readAll_of_gives_up hk, if_pos hlonger, hstream, hended]

/-- Read at once, all ended pieces are given. -/
theorem readAll_singleton (delimiter : UInt8) (limit : Nat) (stream : Bytes) :
    ((start delimiter limit).readAll [stream]).1 = (ended delimiter stream).map withoutReturn := by
  rw [start_eq_waiting]
  by_cases hlong : limit < (unended delimiter stream).length
  · rw [readAll_waiting_cons_of_tooLong [] hlong]
    rfl
  · rw [readAll_waiting_cons (Nat.le_of_not_lt hlong), readAll, List.append_nil]
    rfl

/-- A piece that is too long is given when it comes with its delimiter, and not when it does not. -/
theorem exists_cuts_of_tooLong {stream piece : Bytes} (h : piece ∈ ended delimiter stream)
    (hlong : limit < piece.length) :
    ∃ cuts cuts', cuts.flatten = stream ∧ cuts'.flatten = stream ∧
      ((start delimiter limit).readAll cuts).1.length
        < ((start delimiter limit).readAll cuts').1.length := by
  obtain ⟨first, second, rfl, hpiece, hlt⟩ := exists_before_of_mem_ended h
  refine ⟨[first, second], [first ++ second], by simp, by simp, ?_⟩
  have hfirst : GivesUpAt delimiter limit [first, second] 1 := by
    refine ⟨?_, fun j hj ↦ ?_⟩
    · rw [List.take_succ_cons, List.take_zero, List.flatten_singleton, hpiece]
      exact hlong
    · obtain rfl : j = 0 := by omega
      exact Nat.zero_le _
  rw [readAll_of_gives_up hfirst, readAll_singleton, List.length_map, List.length_map]
  simpa using hlt

/-! ## Whether bytes are looked at once or again and again -/

theorem drain_toLineReader (s : LineScanner) :
    s.toLineReader.drain.outcome = (s.drain.1, s.drain.2.map toLineReader) := by
  fun_induction drain s with
  | case1 s e h =>
    have hreader := s.next_toLineReader
    rw [LineReader.drain_eq_of_next, hreader, h]
    rfl
  | case2 s s' h =>
    have hreader := s.next_toLineReader
    rw [LineReader.drain_eq_of_next, hreader, h]
    rfl
  | case3 s line s' h hlt ih =>
    have hreader := s.next_toLineReader
    rw [LineReader.drain_eq_of_next, hreader, h]
    obtain ⟨hlines, hlast⟩ := Prod.mk.inj ih
    exact Prod.ext (congrArg (line :: ·) hlines) hlast

theorem readAll_toLineReader (s : LineScanner) (cuts : List Bytes) :
    (s.toLineReader.readAll cuts).outcome
      = ((s.readAll cuts).1, (s.readAll cuts).2.map toLineReader) := by
  induction cuts generalizing s with
  | nil => rfl
  | cons bytes rest ih =>
    have hfirst : (s.toLineReader.feed bytes).drain.outcome = _ := (s.feed bytes).drain_toLineReader
    rw [LineReader.readAll, readAll]
    generalize (s.toLineReader.feed bytes).drain = first at hfirst ⊢
    generalize (s.feed bytes).drain = first' at hfirst ⊢
    obtain ⟨lines, r, fault⟩ := first
    obtain ⟨lines', e | s'⟩ := first'
    · -- Both give up.
      obtain ⟨rfl, hlast⟩ := Prod.mk.inj hfirst
      rcases fault with _ | e'
      · cases hlast
      · cases hlast
        rfl
    · -- Both go on.
      obtain ⟨rfl, hlast⟩ := Prod.mk.inj hfirst
      rcases fault with _ | e'
      · cases hlast
        obtain ⟨hlines, hrest⟩ := Prod.mk.inj (ih s')
        exact Prod.ext (congrArg (lines ++ ·) hlines) hrest
      · cases hlast

/-- **What the limit does**, for a reader of lines that begins with nothing. It gives up at the end of
the first read that leaves a rest that is too long; otherwise it goes on to the end. In both cases it
has given every piece that had ended. So what comes of a stream is the same for any two cuts of it if
no ended piece is longer than the limit, and then no line is longer, either. And if one is, there are
two cuts of which one gives fewer lines. A reader that looks for the delimiter in all it holds does the
same. -/
theorem readAll_exact (delimiter : UInt8) (limit : Nat) :
    (∀ cuts k, GivesUpAt delimiter limit cuts k →
      (start delimiter limit).readAll cuts
        = ((ended delimiter (cuts.take k).flatten).map withoutReturn, .error ⟨limit⟩)) ∧
    (∀ cuts, (∀ k, (unended delimiter (cuts.take k).flatten).length ≤ limit) →
      (start delimiter limit).readAll cuts
        = ((ended delimiter cuts.flatten).map withoutReturn,
          .ok (waiting delimiter limit cuts.flatten))) ∧
    (∀ stream, (∀ piece ∈ ended delimiter stream, piece.length ≤ limit) ↔
      ∀ cuts cuts', cuts.flatten = stream → cuts'.flatten = stream →
        (start delimiter limit).readAll cuts = (start delimiter limit).readAll cuts' ∧
          ∀ line ∈ ((start delimiter limit).readAll cuts).1, line.length ≤ limit) ∧
    (∀ stream, ∀ piece ∈ ended delimiter stream, limit < piece.length →
      ∃ cuts cuts', cuts.flatten = stream ∧ cuts'.flatten = stream ∧
        ((start delimiter limit).readAll cuts).1.length
          < ((start delimiter limit).readAll cuts').1.length) ∧
    ∀ cuts, ((⟨[], delimiter, limit⟩ : LineReader).readAll cuts).outcome
      = (((start delimiter limit).readAll cuts).1,
        ((start delimiter limit).readAll cuts).2.map toLineReader) := by
  refine ⟨fun cuts k ↦ readAll_of_gives_up, fun cuts ↦ readAll_of_goes_on, fun stream ↦ ⟨?_, ?_⟩,
    fun stream piece ↦ exists_cuts_of_tooLong, (start delimiter limit).readAll_toLineReader⟩
  · rintro hfits cuts cuts' rfl hsame
    have hcuts := readAll_eq_of_fits hfits
    refine ⟨?_, fun line hline ↦ ?_⟩
    · rw [hcuts, readAll_eq_of_fits (by rwa [hsame]), hsame]
    · rw [hcuts] at hline
      obtain ⟨piece, hpiece, rfl⟩ := List.mem_map.1 hline
      exact Nat.le_trans (length_withoutReturn_le piece) (hfits piece hpiece)
  · intro hsame piece hpiece
    by_contra hlong
    obtain ⟨cuts, cuts', hcuts, hcuts', hlt⟩ := exists_cuts_of_tooLong hpiece (Nat.lt_of_not_le hlong)
    rw [(hsame cuts cuts' hcuts hcuts').1] at hlt
    exact Nat.lt_irrefl _ hlt

/-- A line that fits comes in two reads, and what stands behind it is too long but has not ended: one
read or two, the line is given and the stream given up. -/
theorem readAll_of_fitting_line :
    let stream := Bytes.ofText "ok\r\nnot yet"
    (∀ piece ∈ ended 0x0A stream, piece.length ≤ 4) ∧
      [Bytes.ofText "ok\r", Bytes.ofText "\nnot yet"].flatten = stream ∧ [stream].flatten = stream ∧
      (start 0x0A 4).readAll [Bytes.ofText "ok\r", Bytes.ofText "\nnot yet"]
        = (start 0x0A 4).readAll [stream] ∧
      ∀ line ∈ ((start 0x0A 4).readAll [Bytes.ofText "ok\r", Bytes.ofText "\nnot yet"]).1,
        line.length ≤ 4 := by
  intro stream
  have hfits : ∀ piece ∈ ended 0x0A stream, piece.length ≤ 4 := by decide
  have hcuts : [Bytes.ofText "ok\r", Bytes.ofText "\nnot yet"].flatten = stream := by decide
  have hwhole : [stream].flatten = stream := List.flatten_singleton
  obtain ⟨-, -, hfitting, -⟩ := readAll_exact 0x0A 4
  exact ⟨hfits, hcuts, hwhole, (hfitting stream).1 hfits _ _ hcuts hwhole⟩

/-- A line of eight bytes under a limit of four: it is given if its delimiter comes with it, and ends
the stream if the delimiter comes later. -/
theorem overlong_line_in_one_read :
    [Bytes.ofText "too long\n"].flatten
        = [Bytes.ofText "too long", Bytes.ofText "\n"].flatten ∧
      (start 0x0A 4).readAll [Bytes.ofText "too long\n"]
        = ([Bytes.ofText "too long"], .ok (start 0x0A 4)) ∧
      (start 0x0A 4).readAll [Bytes.ofText "too long", Bytes.ofText "\n"] = ([], .error ⟨4⟩) ∧
      4 < (Bytes.ofText "too long").length := by
  refine ⟨by decide, ?_, ?_, by decide⟩
  · rw [start_eq_waiting, readAll_waiting_cons (by decide)]
    rfl
  · rw [start_eq_waiting, readAll_waiting_cons_of_tooLong _ (by decide)]
    rfl

end LineScanner

end InstrumentRelay
