import Mathlib.Data.List.DropRight
import Mathlib.Data.List.Nodup
import InstrumentRelay.Config.Check

/-!
# The rules for a configuration

A configuration works if it keeps six rules (`Config.Keeps`). They are checked one after the other
and the first that is broken is reported, so what a check says about its rules can be put together:
a check that goes on with another one says about the rules of both what it should, if each of them
does (`Config.Judges.andThen`). What is reported of a broken rule is `Config.Reports`; where several
fields may break it, all that do are named, in the order of their declaration.
-/

namespace InstrumentRelay

/-! ## Blank text -/

/-- The text without the white space at its ends. -/
def trimmed (text : String) : List Char :=
  (text.toList.dropWhile isBlankChar).rdropWhile isBlankChar

theorem trimmed_eq_nil_iff (text : String) : trimmed text = [] ↔ isBlankText text = true := by
  rw [trimmed, List.rdropWhile_eq_nil_iff, isBlankText_iff]
  constructor
  · intro hrest c hc
    rw [← List.takeWhile_append_dropWhile (p := isBlankChar) (l := text.toList)] at hc
    rcases List.mem_append.1 hc with hfront | hback
    · exact List.mem_takeWhile_imp hfront
    · exact hrest c hback
  · intro hall c hc
    exact hall c ((List.dropWhile_sublist _).subset hc)

namespace Config

/-! ## The rules -/

/-- A rule for configurations. -/
inductive Rule where
  /-- The reference designator is not blank. -/
  | refdes
  /-- The address of the instrument is not blank. -/
  | address
  /-- The ports of the instrument are given. -/
  | instrumentPorts
  /-- No two servers share a port. -/
  | serverPorts
  /-- The intervals are given. -/
  | timing
  /-- The target can be reached, and takes a link. -/
  | target
  deriving DecidableEq, Repr

/-- The rules, in the order in which they are checked. -/
def Rule.all : List Rule := [.refdes, .address, .instrumentPorts, .serverPorts, .timing, .target]

theorem Rule.mem_all (rule : Rule) : rule ∈ Rule.all := by
  cases rule <;> decide

/-- The ports that are asked for, in order. Zero asks for none in particular. -/
def portsAskedFor (servers : List (String × UInt16)) : List UInt16 :=
  (servers.map (·.2)).filter (· ≠ 0)

/-- The configuration keeps the rule. -/
def Keeps (c : Config) : Rule → Prop
  | .refdes => trimmed c.refdes ≠ []
  | .address => trimmed c.instrument.address ≠ []
  | .instrumentPorts => ∀ p ∈ c.instrument.ports, p.2 ≠ 0
  | .serverPorts => (portsAskedFor (servers c.ports)).Nodup
  | .timing => ∀ f ∈ c.timing.fields, f.2 ≠ 0
  | .target => ∀ t, c.targetConnections = some t → 1 ≤ t.toNat ∧ t.toNat ≤ c.instrument.linkCount

/-- The names of the fields that are zero, in the order in which the fields are declared. -/
structure NamesZeros {α : Type} [OfNat α 0] (fields : List (String × α)) (names : List String) :
    Prop where
  /-- They are in order, and none is named twice. -/
  inOrder : names.Sublist (fields.map (·.1))
  /-- They are those that are zero. -/
  mem_iff : ∀ f ∈ fields, f.1 ∈ names ↔ f.2 = 0

/-- What is reported when this rule is broken: the problem and its text. -/
inductive Reports (c : Config) : Rule → ConfigError → String → Prop where
  | refdes : c.Reports .refdes .blankRefdes
      ("The reference designator is empty. It names the agent's services and log files, "
        ++ "please set it.")
  | address : c.Reports .address .blankAddress "The instrument address is empty."
  | instrumentPorts {names : List String} (zeros : NamesZeros c.instrument.ports names) :
      c.Reports .instrumentPorts (.zeroPorts names)
        ("The instrument needs these ports set (non-zero): " ++ ", ".intercalate names)
  /-- The first server is named whose port another server before it has asked for. -/
  | serverPorts {before after : List (String × UInt16)} {server : String} {port : UInt16}
      (split : servers c.ports = before ++ (server, port) :: after)
      (taken : port ∈ portsAskedFor before) (first : (portsAskedFor before).Nodup) :
      c.Reports .serverPorts (.portTaken server port)
        ("The " ++ server ++ " port " ++ toString port.toNat
          ++ " is used for more than one server.")
  | timing {names : List String} (zeros : NamesZeros c.timing.fields names) :
      c.Reports .timing (.zeroIntervals names)
        ("Intervals must be non-zero, these are not: " ++ ", ".intercalate names)
  | target {t : UInt64} (wanted : c.targetConnections = some t) :
      c.Reports .target (.badTarget t.toNat c.instrument.name c.instrument.linkCount)
        ("target_connections is " ++ toString t.toNat ++ ", but the " ++ c.instrument.name
          ++ " topology opens " ++ toString c.instrument.linkCount
          ++ " instrument link(s). Use a value from 1 to " ++ toString c.instrument.linkCount
          ++ ".")

/-- What a check of these rules, in this order, is to say. -/
inductive Judges (c : Config) (rules : List Rule) : Except ConfigError Unit → Prop where
  /-- They are kept. -/
  | passes (kept : ∀ rule ∈ rules, c.Keeps rule) : c.Judges rules (.ok ())
  /-- One is broken, and all before it are kept. -/
  | fails {earlier later : List Rule} {rule : Rule} {e : ConfigError}
      (split : rules = earlier ++ rule :: later) (kept : ∀ r ∈ earlier, c.Keeps r)
      (broken : ¬c.Keeps rule) (reports : c.Reports rule e e.message) : c.Judges rules (.error e)

namespace Judges

variable {c : Config} {rules : List Rule} {outcome : Except ConfigError Unit}

theorem of_kept {rule : Rule} (h : c.Keeps rule) : c.Judges [rule] (.ok ()) :=
  .passes (List.forall_mem_singleton.2 h)

theorem of_broken {rule : Rule} {e : ConfigError} (h : ¬c.Keeps rule)
    (reports : c.Reports rule e e.message) : c.Judges [rule] (.error e) :=
  .fails (List.nil_append _).symm (List.forall_mem_nil _) h reports

/-- One check after another is a check of the rules of both. -/
theorem andThen {more : List Rule} {next : Except ConfigError Unit} (h : c.Judges rules outcome)
    (hnext : c.Judges more next) : c.Judges (rules ++ more) (outcome >>= fun _ ↦ next) := by
  cases h with
  | passes kept =>
    cases hnext with
    | passes keptNext => exact .passes (List.forall_mem_append.2 ⟨kept, keptNext⟩)
    | fails split keptNext broken reports =>
      exact .fails (by rw [split, List.append_assoc]) (List.forall_mem_append.2 ⟨kept, keptNext⟩)
        broken reports
  | fails split keptBefore broken reports =>
    exact .fails (by rw [split, List.append_assoc, List.cons_append]) keptBefore broken reports

theorem eq_ok_iff (h : c.Judges rules outcome) :
    outcome = .ok () ↔ ∀ rule ∈ rules, c.Keeps rule := by
  cases h with
  | passes kept => exact iff_of_true rfl kept
  | fails split keptBefore broken reports =>
    refine iff_of_false (by simp) fun hall ↦ broken (hall _ ?_)
    rw [split]
    exact List.mem_append_right _ List.mem_cons_self

end Judges

/-! ## Zeros -/

theorem namesZeros_zeros {α : Type} [DecidableEq α] [OfNat α 0] {fields : List (String × α)}
    (h : (fields.map (·.1)).Nodup) : NamesZeros fields (zeros fields) where
  inOrder := List.filter_sublist.map _
  mem_iff f hf := by
    rw [zeros, List.mem_map]
    constructor
    · rintro ⟨g, hg, hname⟩
      obtain ⟨hmem, hzero⟩ := List.mem_filter.1 hg
      rw [← List.inj_on_of_nodup_map h hmem hf hname]
      exact of_decide_eq_true hzero
    · intro hzero
      exact ⟨f, List.mem_filter.2 ⟨hf, decide_eq_true hzero⟩, rfl⟩

/-- If there are names, not all fields are given. -/
theorem exists_zero_of_zeros_ne_nil {α : Type} [DecidableEq α] [OfNat α 0]
    {fields : List (String × α)} (h : zeros fields ≠ []) : ¬∀ f ∈ fields, f.2 ≠ 0 :=
  fun hall ↦ h ((zeros_eq_nil_iff fields).2 hall)

/-! ## Servers -/

theorem portsAskedFor_cons_zero (server : String) (rest : List (String × UInt16)) :
    portsAskedFor ((server, 0) :: rest) = portsAskedFor rest := rfl

theorem portsAskedFor_cons {server : String} {port : UInt16} (h : port ≠ 0)
    (rest : List (String × UInt16)) :
    portsAskedFor ((server, port) :: rest) = port :: portsAskedFor rest := by
  exact List.filter_cons_of_pos (decide_eq_true h)

/-- No server wants a taken port if the ports asked for are all different and none is among those
already seen. -/
theorem firstTaken?_eq_none_iff (seen : List UInt16) (servers : List (String × UInt16)) :
    firstTaken? seen servers = none ↔
      (portsAskedFor servers).Nodup ∧ ∀ port ∈ portsAskedFor servers, port ∉ seen := by
  fun_induction firstTaken? seen servers with
  | case1 seen => simp [portsAskedFor]
  | case2 seen server rest ih => rw [portsAskedFor_cons_zero, ih]
  | case3 seen server port rest hne hmem =>
    rw [portsAskedFor_cons hne]
    exact iff_of_false (by simp) fun h ↦ h.2 port List.mem_cons_self hmem
  | case4 seen server port rest hne hmem ih =>
    rw [portsAskedFor_cons hne, ih, List.nodup_cons, List.forall_mem_cons]
    grind

/-- The server that is reported wants a port that has been seen or asked for before it, and no
server before it does. -/
theorem of_firstTaken?_eq_some {seen : List UInt16} {servers : List (String × UInt16)}
    {server : String} {port : UInt16} (h : firstTaken? seen servers = some (server, port)) :
    ∃ before after, servers = before ++ (server, port) :: after ∧
      (port ∈ seen ∨ port ∈ portsAskedFor before) ∧ firstTaken? seen before = none := by
  fun_induction firstTaken? seen servers with
  | case1 seen => cases h
  | case2 seen other rest ih =>
    obtain ⟨before, after, rfl, htaken, hfirst⟩ := ih h
    exact ⟨(other, 0) :: before, after, rfl, htaken, hfirst⟩
  | case3 seen other taken rest hne hmem =>
    cases h
    exact ⟨[], rest, rfl, .inl hmem, rfl⟩
  | case4 seen other free rest hne hmem ih =>
    obtain ⟨before, after, rfl, htaken, hfirst⟩ := ih h
    refine ⟨(other, free) :: before, after, rfl, ?_, ?_⟩
    · rw [portsAskedFor_cons hne, List.mem_cons]
      rw [List.mem_cons] at htaken
      tauto
    · rw [firstTaken?, if_neg hne, if_neg hmem, hfirst]

/-! ## The checks -/

variable (c : Config)

theorem judges_checkRefdes : c.Judges [.refdes] c.checkRefdes := by
  unfold checkRefdes
  split
  case isTrue hblank =>
    exact .of_broken (fun h ↦ h ((trimmed_eq_nil_iff _).2 hblank)) .refdes
  case isFalse hblank => exact .of_kept fun h ↦ hblank ((trimmed_eq_nil_iff _).1 h)

theorem judges_checkInstrument : c.Judges [.address, .instrumentPorts] c.checkInstrument := by
  have hnames : (c.instrument.ports.map (·.1)).Nodup := by
    cases c.instrument <;>
    · simp only [Instrument.ports, List.map_cons, List.map_nil]
      decide
  unfold checkInstrument
  split
  case isTrue hblank =>
    exact .fails (List.nil_append _).symm (List.forall_mem_nil _)
      (fun h ↦ h ((trimmed_eq_nil_iff _).2 hblank)) .address
  case isFalse hblank =>
    have haddress : c.Keeps .address := fun h ↦ hblank ((trimmed_eq_nil_iff _).1 h)
    refine Judges.andThen (.of_kept haddress) ?_
    split
    case h_1 hzeros => exact .of_kept ((zeros_eq_nil_iff _).1 hzeros)
    case h_2 hzeros =>
      exact .of_broken (exists_zero_of_zeros_ne_nil hzeros)
        (.instrumentPorts (namesZeros_zeros hnames))

theorem judges_checkServers : c.Judges [.serverPorts] c.checkServers := by
  have hkeeps : c.Keeps .serverPorts ↔ firstTaken? [] (servers c.ports) = none := by
    rw [firstTaken?_eq_none_iff, Keeps]
    simp
  unfold checkServers
  split
  case h_1 hnone => exact .of_kept (hkeeps.2 hnone)
  case h_2 server port hsome =>
    obtain ⟨before, after, hsplit, htaken, hfirst⟩ := of_firstTaken?_eq_some hsome
    refine .of_broken (fun h ↦ ?_) (.serverPorts hsplit ?_ ?_)
    · rw [hkeeps.1 h] at hsome
      cases hsome
    · exact htaken.resolve_left (List.not_mem_nil)
    · exact ((firstTaken?_eq_none_iff _ _).1 hfirst).1

theorem judges_checkTiming : c.Judges [.timing] c.checkTiming := by
  have hnames : (c.timing.fields.map (·.1)).Nodup := by
    simp only [Timing.fields, List.map_cons, List.map_nil]
    decide
  unfold checkTiming
  split
  case h_1 hzeros => exact .of_kept ((zeros_eq_nil_iff _).1 hzeros)
  case h_2 hzeros =>
    exact .of_broken (exists_zero_of_zeros_ne_nil hzeros) (.timing (namesZeros_zeros hnames))

theorem judges_checkTarget : c.Judges [.target] c.checkTarget := by
  unfold checkTarget
  split
  case h_1 hnone =>
    refine .of_kept fun t ht ↦ ?_
    rw [hnone] at ht
    cases ht
  case h_2 t hsome =>
    have hkeeps : c.Keeps .target ↔ 1 ≤ t.toNat ∧ t.toNat ≤ c.instrument.linkCount := by
      rw [Keeps, hsome]
      simp
    split
    case isTrue hbad => exact .of_broken (by rw [hkeeps]; omega) (.target hsome)
    case isFalse hbad => exact .of_kept (hkeeps.2 (by omega))

theorem judges_check : c.Judges Rule.all c.check :=
  (judges_checkRefdes c).andThen <| (judges_checkInstrument c).andThen <|
    (judges_checkServers c).andThen <| (judges_checkTiming c).andThen (judges_checkTarget c)

theorem target_of_keeps (h : c.Keeps .target) :
    1 ≤ c.target ∧ c.target ≤ c.instrument.linkCount := by
  unfold target
  split
  case h_1 t hsome => exact h t hsome
  case h_2 hnone => exact ⟨c.instrument.linkCount_pos, Nat.le_refl _⟩

/-- **A check passes exactly the configurations that keep every rule**, and those have a target of
at least one link and at most as many as there are. Of any other configuration the first rule that
it breaks is reported, and where zeros break it, those that are zero, in the order in which they are
declared. -/
theorem check_exact (c : Config) :
    (c.check = .ok () ↔ ∀ rule, c.Keeps rule) ∧
      (c.check = .ok () → 1 ≤ c.target ∧ c.target ≤ c.instrument.linkCount) ∧
      ∀ e, c.check = .error e → ∃ earlier rule later, Rule.all = earlier ++ rule :: later ∧
        (∀ r ∈ earlier, c.Keeps r) ∧ ¬c.Keeps rule ∧ c.Reports rule e e.message := by
  have hjudges := c.judges_check
  have hok : c.check = .ok () ↔ ∀ rule, c.Keeps rule :=
    hjudges.eq_ok_iff.trans ⟨fun h rule ↦ h rule rule.mem_all, fun h rule _ ↦ h rule⟩
  refine ⟨hok, fun h ↦ c.target_of_keeps (hok.1 h .target), fun e he ↦ ?_⟩
  rw [he] at hjudges
  cases hjudges with
  | fails split kept broken reports => exact ⟨_, _, _, split, kept, broken, reports⟩

/-- The sample, and the sample without two ports and an interval. -/
theorem check_exact_of_two_faults :
    let dark : Config := { sample with
      instrument := .botpt "10.31.8.7" 0 0
      timing := { statsSecs := 0 } }
    (sample.check = .ok () ∧ 1 ≤ sample.target ∧ sample.target ≤ 2) ∧
      dark.check = .error (.zeroPorts ["rx_port", "tx_port"]) ∧
      ∃ rule, ¬dark.Keeps rule ∧ dark.Reports rule (.zeroPorts ["rx_port", "tx_port"])
        "The instrument needs these ports set (non-zero): rx_port, tx_port" := by
  intro dark
  have hsample : sample.check = .ok () := by decide +kernel
  have hdark : dark.check = .error (.zeroPorts ["rx_port", "tx_port"]) := by decide +kernel
  have htext : (ConfigError.zeroPorts ["rx_port", "tx_port"]).message
      = "The instrument needs these ports set (non-zero): rx_port, tx_port" := by decide +kernel
  obtain ⟨-, rule, -, -, -, hbroken, hreports⟩ := (check_exact dark).2.2 _ hdark
  rw [htext] at hreports
  exact ⟨⟨hsample, (check_exact sample).2.1 hsample⟩, hdark, rule, hbroken, hreports⟩

end Config

end InstrumentRelay
