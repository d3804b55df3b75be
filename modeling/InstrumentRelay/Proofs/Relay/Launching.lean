import InstrumentRelay.Proofs.Directory
import InstrumentRelay.Proofs.Relay.Changes
import InstrumentRelay.Relay.Launch

/-!
# What a failed start leaves behind

Each step of a start (`Launch.Proceeds`) does some of what is left to do, so what the start will
come to does not change on the way (`Launch.comesTo_of_step`), however the parts are scheduled. And
as long as nobody is connected no part connects anyone, and the announcer has got exactly as far as
the directory's answers have brought it (`Relay.Unattached.of_step`, and `Launch.Sound` over a run).

So a start that fails has not touched the instrument. But the log files are opened when the
announcer is at work already, and nobody takes back what has been announced: a service may remain in
the directory although no relay comes of it (`Launch.announced_by_failed_start`). If the start fails
for any other reason, none does.
-/

namespace InstrumentRelay

namespace Startup

variable {config : Config} {host : Host} {first : ServerKind × UInt16}
  {wanted bound : List (ServerKind × UInt16)} {problem : String}

theorem bindAll_cons_of_ok {served : UInt16} (h : host.bind first.1 first.2 = .ok served) :
    bindAll host (first :: wanted) = (bindAll host wanted).map ((first.1, served) :: ·) := by
  rw [bindAll, h]
  cases bindAll host wanted <;> rfl

theorem bindAll_cons_of_error (h : host.bind first.1 first.2 = .error problem) :
    bindAll host (first :: wanted) = .error (.bind first.2 problem) := by
  rw [bindAll, h]

/-- If all ports are bound, the first one is and the others are. -/
theorem exists_of_bindAll_cons (h : bindAll host (first :: wanted) = .ok bound) :
    ∃ served others, host.bind first.1 first.2 = .ok served ∧
      bindAll host wanted = .ok others ∧ bound = (first.1, served) :: others := by
  cases hfirst : host.bind first.1 first.2 with
  | error problem =>
    rw [bindAll_cons_of_error hfirst] at h
    cases h
  | ok served =>
    rw [bindAll_cons_of_ok hfirst] at h
    cases hothers : bindAll host wanted with
    | error problem =>
      rw [hothers] at h
      cases h
    | ok others =>
      rw [hothers] at h
      cases h
      exact ⟨served, others, rfl, rfl, rfl⟩

theorem length_bindAll (h : bindAll host wanted = .ok bound) : bound.length = wanted.length := by
  induction wanted generalizing bound with
  | nil =>
    cases h
    rfl
  | cons first wanted ih =>
    obtain ⟨served, others, -, hothers, rfl⟩ := exists_of_bindAll_cons h
    rw [List.length_cons, ih hothers, List.length_cons]

/-- There is always something to announce. -/
theorem services_ne_nil (h : bindAll host config.ports.wanted = .ok bound) :
    services config bound ≠ [] := by
  refine List.ne_nil_of_length_pos ?_
  rw [services, List.length_map, length_bindAll h]
  exact Nat.succ_pos _

theorem openAll_cons_of_ok {folder : String} {form : Endpoint × String}
    (h : host.openLog folder (Launch.logFile config host form.2).name = .ok ())
    (forms : List (Endpoint × String)) :
    openAll host config folder (form :: forms)
      = (openAll host config folder forms).map
        ((form.1, Launch.logFile config host form.2) :: ·) := by
  rw [Launch.logFile] at h
  rw [openAll, h]
  cases openAll host config folder forms <;> rfl

theorem openAll_cons_of_error {folder : String} {form : Endpoint × String}
    (h : host.openLog folder (Launch.logFile config host form.2).name = .error problem)
    (forms : List (Endpoint × String)) :
    openAll host config folder (form :: forms) = .error (.logFile folder problem) := by
  rw [Launch.logFile] at h
  rw [openAll, h]

theorem openLogs_of_none (h : config.logDir = none) : openLogs host config = .ok [] := by
  rw [openLogs, h]

theorem openLogs_of_error {folder text : String} {kind : IoKind}
    (hdir : config.logDir = some folder) (h : host.makeFolder folder = .error (kind, text)) :
    openLogs host config = .error (.io kind text) := by
  simp only [openLogs, hdir, h]

theorem openLogs_of_ok {folder : String} (hdir : config.logDir = some folder)
    (h : host.makeFolder folder = .ok ()) :
    openLogs host config = openAll host config folder logForms := by
  simp only [openLogs, hdir, h]

theorem announcer_ofConfig (hcheck : config.check = .ok ())
    (hbound : bindAll host config.ports.wanted = .ok bound) (answers : List Bool) :
    (ofConfig config host answers).announcer
      = (Announcer.start (services config bound)).hear answers := by
  rw [ofConfig]
  split
  case h_1 problem hfails =>
    rw [hcheck] at hfails
    cases hfails
  case h_2 hvalid =>
    rw [hbound]
    dsimp only
    split <;> rfl

theorem accepted_ofConfig_nil (config : Config) (host : Host) :
    (ofConfig config host []).announcer.accepted = [] := by
  rw [ofConfig]
  split
  · rfl
  · split
    · rfl
    · dsimp only
      split <;> rfl

end Startup

namespace Launch

/-! ## Ways to proceed -/

/-- Every step that a start can take, with what decides for it. -/
inductive Proceeds {config : Config} (host : Host) : Launch config → Launch config → Prop where
  | invalid {problem : ConfigError} (h : config.check = .error problem) :
      Proceeds host checking (failed (.ofConfig problem) none)
  | valid (h : config.check = .ok ()) :
      Proceeds host checking (binding h [] config.ports.wanted)
  | taken {valid : config.check = .ok ()} {first : ServerKind × UInt16}
      {bound left : List (ServerKind × UInt16)} {problem : String}
      (h : host.bind first.1 first.2 = .error problem) :
      Proceeds host (binding valid bound (first :: left)) (failed (.bind first.2 problem) none)
  | binds {valid : config.check = .ok ()} {first : ServerKind × UInt16}
      {bound left : List (ServerKind × UInt16)} {served : UInt16}
      (h : host.bind first.1 first.2 = .ok served) :
      Proceeds host (binding valid bound (first :: left))
        (binding valid (bound ++ [(first.1, served)]) left)
  | staffs {valid : config.check = .ok ()} {bound : List (ServerKind × UInt16)} :
      Proceeds host (binding valid bound []) (logging (staff config valid bound))
  | logsNothing {parts : Relay} (hdir : config.logDir = none) :
      Proceeds host (logging parts) (up (connect config parts))
  | noFolder {parts : Relay} {folder text : String} {kind : IoKind}
      (hdir : config.logDir = some folder) (h : host.makeFolder folder = .error (kind, text)) :
      Proceeds host (logging parts) (failed (.io kind text) (some parts))
  | folder {parts : Relay} {folder : String} (hdir : config.logDir = some folder)
      (h : host.makeFolder folder = .ok ()) :
      Proceeds host (logging parts) (opening folder Startup.logForms parts)
  | noFile {parts : Relay} {folder problem : String} {first : Endpoint × String}
      {left : List (Endpoint × String)}
      (h : host.openLog folder (logFile config host first.2).name = .error problem) :
      Proceeds host (opening folder (first :: left) parts)
        (failed (.logFile folder problem) (some parts))
  | file {parts : Relay} {folder : String} {first : Endpoint × String}
      {left : List (Endpoint × String)}
      (h : host.openLog folder (logFile config host first.2).name = .ok ()) :
      Proceeds host (opening folder (first :: left) parts)
        (opening folder left (Startup.addFile parts (first.1, logFile config host first.2)))
  | logs {parts : Relay} {folder : String} :
      Proceeds host (opening folder [] parts) (up (connect config parts))

theorem proceeds_of_proceed {config : Config} {host : Host} {l l' : Launch config}
    (h : l.proceed host = some l') : Proceeds host l l' := by
  cases l with
  | checking =>
    rw [proceed] at h
    split at h
    case h_1 problem hcheck =>
      cases h
      exact .invalid hcheck
    case h_2 hcheck =>
      cases h
      exact .valid hcheck
  | binding valid bound left =>
    cases left with
    | nil =>
      cases h
      exact .staffs
    | cons first left =>
      rw [proceed] at h
      split at h
      case h_1 problem hbind =>
        cases h
        exact .taken hbind
      case h_2 served hbind =>
        cases h
        exact .binds hbind
  | logging parts =>
    rw [proceed] at h
    split at h
    case h_1 hdir =>
      cases h
      exact .logsNothing hdir
    case h_2 folder hdir =>
      split at h
      case h_1 kind text hfolder =>
        cases h
        exact .noFolder hdir hfolder
      case h_2 hfolder =>
        cases h
        exact .folder hdir hfolder
  | opening folder left parts =>
    cases left with
    | nil =>
      cases h
      exact .logs
    | cons first left =>
      rw [proceed] at h
      split at h
      case h_1 problem hopen =>
        cases h
        exact .noFile hopen
      case h_2 hopen =>
        cases h
        exact .file hopen
  | up relay => cases h
  | failed problem parts => cases h

/-! ## What a start comes to -/

/-- What is left to do will come to this. -/
def comesTo {config : Config} (host : Host) : Launch config → Except RelayError Unit
  | checking =>
    match config.check with
    | .error problem => .error (.ofConfig problem)
    | .ok () => do
      let _ ← Startup.bindAll host config.ports.wanted
      let _ ← Startup.openLogs host config
  | binding _ _ left => do
    let _ ← Startup.bindAll host left
    let _ ← Startup.openLogs host config
  | logging _ => do
    let _ ← Startup.openLogs host config
  | opening folder left _ => do
    let _ ← Startup.openAll host config folder left
  | up _ => .ok ()
  | failed problem _ => .error problem

section ComesTo

variable {config : Config} {host : Host} {l l' : Launch config} {e : LaunchEvent}
  {events : List LaunchEvent}

theorem comesTo_of_proceeds (h : Proceeds host l l') : l'.comesTo host = l.comesTo host := by
  cases h with
  | invalid hcheck => rw [comesTo, comesTo, hcheck]
  | valid hcheck => rw [comesTo, comesTo, hcheck]
  | taken hbind =>
    rw [comesTo, comesTo, Startup.bindAll_cons_of_error hbind]
    rfl
  | @binds _ _ _ left _ hbind =>
    rw [comesTo, comesTo, Startup.bindAll_cons_of_ok hbind]
    cases Startup.bindAll host left <;> rfl
  | staffs => rfl
  | logsNothing hdir =>
    rw [comesTo, comesTo, Startup.openLogs_of_none hdir]
    rfl
  | noFolder hdir hfolder =>
    rw [comesTo, comesTo, Startup.openLogs_of_error hdir hfolder]
    rfl
  | folder hdir hfolder => rw [comesTo, comesTo, Startup.openLogs_of_ok hdir hfolder]
  | noFile hopen =>
    rw [comesTo, comesTo, Startup.openAll_cons_of_error hopen]
    rfl
  | @file _ folder _ left hopen =>
    rw [comesTo, comesTo, Startup.openAll_cons_of_ok hopen]
    cases Startup.openAll host config folder left <;> rfl
  | logs => rfl

theorem comesTo_of_work {e : RelayEvent} (h : l.work e = some l') :
    l'.comesTo host = l.comesTo host := by
  cases l with
  | checking => cases h
  | binding valid bound left => cases h
  | logging r =>
    obtain ⟨r', -, rfl⟩ := Option.map_eq_some_iff.1 h
    rfl
  | opening folder left r =>
    obtain ⟨r', -, rfl⟩ := Option.map_eq_some_iff.1 h
    rfl
  | up r =>
    obtain ⟨r', -, rfl⟩ := Option.map_eq_some_iff.1 h
    rfl
  | failed problem r =>
    obtain ⟨r', -, rfl⟩ := Option.map_eq_some_iff.1 h
    rfl

/-- No step changes what the start comes to. -/
theorem comesTo_of_step (h : l.step host e = some l') : l'.comesTo host = l.comesTo host := by
  cases e with
  | proceeds => exact comesTo_of_proceeds (proceeds_of_proceed h)
  | part event => exact comesTo_of_work h

theorem comesTo_of_run (h : l.run host events = some l') : l'.comesTo host = l.comesTo host := by
  induction events generalizing l with
  | nil =>
    cases h
    rfl
  | cons e rest ih =>
    obtain ⟨mid, hstep, hrest⟩ := run_cons_eq_some_iff.1 h
    rw [ih hrest, comesTo_of_step hstep]

/-- It comes to the same as a start that is not taken apart, whatever the directory answers. -/
theorem comesTo_start (config : Config) (host : Host) (answers : List Bool) :
    (start config).comesTo host
      = (Startup.ofConfig config host answers).outcome.map fun _ ↦ () := by
  rw [start, comesTo, Startup.ofConfig]
  split
  case h_1 problem hcheck =>
    split
    case h_1 problem' hcheck' =>
      rw [hcheck] at hcheck'
      cases hcheck'
      rfl
    case h_2 hcheck' =>
      rw [hcheck] at hcheck'
      cases hcheck'
  case h_2 hcheck =>
    split
    case h_1 problem' hcheck' =>
      rw [hcheck] at hcheck'
      cases hcheck'
    case h_2 hcheck' =>
      cases Startup.bindAll host config.ports.wanted with
      | error problem => rfl
      | ok bound => cases Startup.openLogs host config <;> rfl

end ComesTo

end Launch

/-! ## Parts that nobody is connected to -/

namespace Relay

/-- Nobody is connected, and nothing is about to connect. -/
structure Unattached (r : Relay) : Prop where
  links : r.links = []
  connections : r.connections = []

/-- Where nobody is connected, only a visit connects someone, and only the directory's answers
change how far the announcing has got. -/
theorem Unattached.of_step {r r' : Relay} {e : RelayEvent} (h : r.Unattached)
    (hvisit : e.isVisit = false) (hstep : r.step e = some r') :
    r'.Unattached ∧ r'.announcer = r.announcer.hear e.answer?.toList := by
  have hconnection (id : ConnectionId) : r.connection? id = none := by
    rw [connection?, h.connections]
    rfl
  cases e with
  | elapse nanos stamp =>
    cases hstep
    exact ⟨⟨h.links, h.connections⟩, rfl⟩
  | visit server => cases hvisit
  -- These two concern something that is not there, and so they cannot happen.
  | connection id event =>
    rw [step, hconnection] at hstep
    cases hstep
  | link index event =>
    rw [step, h.links] at hstep
    cases hstep
  | routes =>
    obtain ⟨⟨letter, mail⟩, -, heq⟩ := Option.bind_eq_some_iff.1 hstep
    cases heq
    exact ⟨⟨h.links, h.connections⟩, rfl⟩
  | attends =>
    obtain ⟨⟨letter, notices⟩, -, heq⟩ := Option.bind_eq_some_iff.1 hstep
    cases heq
    cases letter with
    | notice notice => exact ⟨⟨h.links, h.connections⟩, rfl⟩
    | question asker =>
      -- Nobody is left to be answered.
      have hnone : ({ r with notices := notices } : Relay).connection? asker = none :=
        hconnection asker
      rw [attend, hnone]
      exact ⟨⟨h.links, h.connections⟩, rfl⟩
  | beats =>
    obtain ⟨⟨monitor, bulletins⟩, -, heq⟩ := Option.bind_eq_some_iff.1 hstep
    cases heq
    exact ⟨⟨h.links, h.connections⟩, rfl⟩
  | expires =>
    obtain ⟨⟨monitor, bulletins⟩, -, heq⟩ := Option.bind_eq_some_iff.1 hstep
    cases heq
    exact ⟨⟨h.links, h.connections⟩, rfl⟩
  | reports =>
    rw [step, Option.ite_none_right_eq_some] at hstep
    obtain ⟨-, heq⟩ := hstep
    cases heq
    exact ⟨⟨h.links, h.connections⟩, rfl⟩
  | announces accepted =>
    rw [step, Option.ite_none_right_eq_some] at hstep
    obtain ⟨-, heq⟩ := hstep
    cases heq
    exact ⟨⟨h.links, h.connections⟩, rfl⟩
  | fileFails id =>
    rw [step, Option.ite_none_right_eq_some] at hstep
    obtain ⟨-, heq⟩ := hstep
    cases heq
    exact ⟨⟨h.links, h.connections⟩, rfl⟩

end Relay

namespace Launch

/-! ## What holds on the way -/

/-- The parts that have been at work while the directory gave these answers. -/
structure Staffed (config : Config) (host : Host) (answers : List Bool) (r : Relay) : Prop where
  unattached : r.Unattached
  valid : config.check = .ok ()
  announcer : ∃ bound, Startup.bindAll host config.ports.wanted = .ok bound ∧
    r.announcer = (Announcer.start (Startup.services config bound)).hear answers

/-- How things are when the directory has given these answers: it is not asked before there are
parts, and these have nobody to serve before the relay is up. -/
def Sound {config : Config} (host : Host) (answers : List Bool) : Launch config → Prop
  | checking => answers = []
  | binding _ bound left => answers = [] ∧
    Startup.bindAll host config.ports.wanted = (Startup.bindAll host left).map (bound ++ ·)
  | logging parts => Staffed config host answers parts
  | opening _ _ parts => Staffed config host answers parts
  | up _ => True
  | failed _ none => answers = []
  | failed _ (some parts) => Staffed config host answers parts

section Sound

variable {config : Config} {host : Host} {answers : List Bool} {l l' : Launch config}
  {r r' : Relay} {e : LaunchEvent} {events : List LaunchEvent}

theorem staffed_staff (valid : config.check = .ok ()) {bound : List (ServerKind × UInt16)}
    (h : Startup.bindAll host config.ports.wanted = .ok bound) :
    Staffed config host [] (staff config valid bound) where
  unattached := ⟨rfl, rfl⟩
  valid := valid
  announcer := ⟨bound, h, rfl⟩

theorem Staffed.addFile (h : Staffed config host answers r) (file : Endpoint × LogFile) :
    Staffed config host answers (Startup.addFile r file) where
  unattached := ⟨h.unattached.links, h.unattached.connections⟩
  valid := h.valid
  announcer := h.announcer

theorem Staffed.of_stepClosed {event : RelayEvent} (h : Staffed config host answers r)
    (hstep : stepClosed r event = some r') :
    Staffed config host (answers ++ event.answer?.toList) r' := by
  rw [stepClosed, Option.ite_none_left_eq_some, Bool.not_eq_true] at hstep
  obtain ⟨hunattached, hannouncer⟩ := h.unattached.of_step hstep.1 hstep.2
  obtain ⟨bound, hbound, hheard⟩ := h.announcer
  exact ⟨hunattached, h.valid, bound, hbound, by rw [hannouncer, hheard, Announcer.hear_append]⟩

theorem Sound.of_proceeds (h : l.Sound host answers) (hstep : Proceeds host l l') :
    l'.Sound host answers := by
  cases hstep with
  | invalid hcheck => exact h
  | valid hcheck =>
    refine ⟨h, ?_⟩
    cases Startup.bindAll host config.ports.wanted <;> rfl
  | taken hbind => exact h.1
  | @binds _ first bound left served hbind =>
    refine ⟨h.1, ?_⟩
    rw [h.2, Startup.bindAll_cons_of_ok hbind]
    cases Startup.bindAll host left with
    | error problem => rfl
    | ok others => exact congrArg Except.ok (List.append_cons bound (first.1, served) others)
  | @staffs valid bound =>
    obtain ⟨rfl, hbound⟩ := h
    exact staffed_staff valid (hbound.trans (congrArg Except.ok (List.append_nil bound)))
  | logsNothing hdir => trivial
  | noFolder hdir hfolder => exact h
  | folder hdir hfolder => exact h
  | noFile hopen => exact h
  | file hopen => exact Staffed.addFile h _
  | logs => trivial

theorem Sound.of_work {event : RelayEvent} (h : l.Sound host answers)
    (hstep : l.work event = some l') : l'.Sound host (answers ++ event.answer?.toList) := by
  cases l with
  | checking => cases hstep
  | binding valid bound left => cases hstep
  | logging r =>
    obtain ⟨r', hr', rfl⟩ := Option.map_eq_some_iff.1 hstep
    exact Staffed.of_stepClosed h hr'
  | opening folder left r =>
    obtain ⟨r', hr', rfl⟩ := Option.map_eq_some_iff.1 hstep
    exact Staffed.of_stepClosed h hr'
  | up r =>
    obtain ⟨r', -, rfl⟩ := Option.map_eq_some_iff.1 hstep
    trivial
  | failed problem parts =>
    obtain ⟨r', hparts, rfl⟩ := Option.map_eq_some_iff.1 hstep
    obtain ⟨r, rfl, hr'⟩ := Option.bind_eq_some_iff.1 hparts
    exact Staffed.of_stepClosed h hr'

theorem Sound.of_step (h : l.Sound host answers) (hstep : l.step host e = some l') :
    l'.Sound host (answers ++ e.answer?.toList) := by
  cases e with
  | proceeds =>
    rw [LaunchEvent.answer?, Option.toList_none, List.append_nil]
    exact h.of_proceeds (proceeds_of_proceed hstep)
  | part event => exact h.of_work hstep

theorem Sound.of_run (h : l.Sound host answers) (hrun : l.run host events = some l') :
    l'.Sound host (answers ++ LaunchEvent.heard events) := by
  induction events generalizing l answers with
  | nil =>
    cases hrun
    rwa [LaunchEvent.heard, List.filterMap_nil, List.append_nil]
  | cons e rest ih =>
    obtain ⟨mid, hstep, hrest⟩ := run_cons_eq_some_iff.1 hrun
    rw [LaunchEvent.heard_cons, ← List.append_assoc]
    exact ih (h.of_step hstep) hrest

theorem sound_of_run (hrun : (start config).run host events = some l) :
    l.Sound host (LaunchEvent.heard events) := by
  have hstart : (start config).Sound host [] := rfl
  exact hstart.of_run hrun

theorem Sound.staffed (h : l.Sound host answers) (hup : ∀ relay, l ≠ up relay)
    (hparts : l.parts = some r) : Staffed config host answers r := by
  cases l with
  | checking => cases hparts
  | binding valid bound left => cases hparts
  | logging parts =>
    cases hparts
    exact h
  | opening folder left parts =>
    cases hparts
    exact h
  | up relay => exact absurd rfl (hup relay)
  | failed problem parts =>
    cases hparts
    exact h

/-- A relay that is up does not fail any more. -/
theorem exists_up_of_run (h : (up r : Launch config).run host events = some l) :
    ∃ relay, l = up relay := by
  induction events generalizing r with
  | nil =>
    cases h
    exact ⟨r, rfl⟩
  | cons e rest ih =>
    obtain ⟨mid, hstep, hrest⟩ := run_cons_eq_some_iff.1 h
    cases e with
    | proceeds => cases hstep
    | part event =>
      obtain ⟨r', -, rfl⟩ := Option.map_eq_some_iff.1 hstep
      exact ih hrest

end Sound

/-! ## What a start that fails leaves behind -/

section Failed

variable {config : Config} {host : Host} {answers : List Bool} {r : Relay} {problem : RelayError}
  {parts : Option Relay} {events : List LaunchEvent}

/-- The services are accepted in order, one for each time that the directory accepts. -/
theorem Staffed.accepted (h : Staffed config host answers r) : ∃ bound,
    Startup.bindAll host config.ports.wanted = .ok bound ∧
      r.announcer.accepted = (Startup.services config bound).take (answers.count true) := by
  obtain ⟨bound, hbound, hannouncer⟩ := h.announcer
  refine ⟨bound, hbound, ?_⟩
  rw [hannouncer, Announcer.accepted_hear, Announcer.start, List.nil_append]

theorem Staffed.accepted_eq_nil_iff (h : Staffed config host answers r) :
    r.announcer.accepted = [] ↔ true ∉ answers := by
  obtain ⟨bound, hbound, haccepted⟩ := h.accepted
  rw [haccepted, List.take_eq_nil_iff, or_iff_left (Startup.services_ne_nil hbound),
    List.count_eq_zero]

theorem Staffed.accepted_ofConfig (h : Staffed config host answers r) :
    r.announcer.accepted = (Startup.ofConfig config host answers).announcer.accepted := by
  obtain ⟨bound, hbound, hannouncer⟩ := h.announcer
  rw [Startup.announcer_ofConfig h.valid hbound, hannouncer]

theorem outcome_of_failed (h : (start config).run host events = some (failed problem parts))
    (answers : List Bool) : (Startup.ofConfig config host answers).outcome = .error problem := by
  have hcomes := (comesTo_of_run h).trans (comesTo_start config host answers)
  cases hstartup : (Startup.ofConfig config host answers).outcome with
  | error other =>
    rw [hstartup] at hcomes
    cases hcomes
    rfl
  | ok relay =>
    rw [hstartup] at hcomes
    cases hcomes

/-- At no time on the way to a failure has anyone been connected. -/
theorem unattached_of_failed (h : (start config).run host events = some (failed problem parts))
    {before : List LaunchEvent} (hbefore : before <+: events) {mid : Launch config}
    (hmid : (start config).run host before = some mid) (hparts : mid.parts = some r) :
    r.Unattached := by
  obtain ⟨after, rfl⟩ := hbefore
  rw [run_append, hmid] at h
  -- A relay that had been up would not have failed.
  have hup (relay : Relay) : mid ≠ up relay := by
    rintro rfl
    obtain ⟨relay', hfailed⟩ := exists_up_of_run h
    cases hfailed
  exact ((sound_of_run hmid).staffed hup hparts).unattached

/-- If something has been announced when the start fails, the log files are to blame. -/
theorem exists_of_announced (h : (start config).run host events = some (failed problem parts))
    (hregistered : (failed problem parts : Launch config).registered ≠ []) :
    config.check = .ok () ∧ (∃ bound, Startup.bindAll host config.ports.wanted = .ok bound) ∧
      Startup.openLogs host config = .error problem := by
  have hsound := sound_of_run h
  have hcomes := comesTo_of_run h
  cases parts with
  | none => exact absurd rfl hregistered
  | some r =>
    obtain ⟨bound, hbound, -⟩ := Staffed.announcer hsound
    refine ⟨hsound.valid, ⟨bound, hbound⟩, ?_⟩
    rw [start, comesTo, comesTo, hsound.valid, hbound] at hcomes
    cases hlogs : Startup.openLogs host config with
    | error other =>
      rw [hlogs] at hcomes
      cases hcomes
      rfl
    | ok files =>
      rw [hlogs] at hcomes
      cases hcomes

/-! ### A schedule in which the announcer comes first -/

theorem run_binding (valid : config.check = .ok ()) {left bound : List (ServerKind × UInt16)}
    (h : Startup.bindAll host left = .ok bound) (before : List (ServerKind × UInt16)) :
    (binding valid before left).run host (List.replicate left.length .proceeds)
      = some (binding valid (before ++ bound) []) := by
  induction left generalizing before bound with
  | nil =>
    cases h
    rw [List.append_nil]
    rfl
  | cons first left ih =>
    obtain ⟨served, others, hfirst, hothers, rfl⟩ := Startup.exists_of_bindAll_cons h
    have hstep : (binding valid before (first :: left)).step host .proceeds
        = some (binding valid (before ++ [(first.1, served)]) left) := by
      rw [step, proceed, hfirst]
    rw [List.length_cons, List.replicate_succ, run_cons_eq_some_iff]
    refine ⟨_, hstep, ?_⟩
    rw [ih hothers, List.append_assoc, List.singleton_append]

theorem run_to_logging (valid : config.check = .ok ()) {bound : List (ServerKind × UInt16)}
    (h : Startup.bindAll host config.ports.wanted = .ok bound) :
    (start config).run host (List.replicate (config.ports.wanted.length + 2) .proceeds)
      = some (logging (staff config valid bound)) := by
  have hcheck : (start config).step host .proceeds
      = some (binding valid [] config.ports.wanted) := by
    rw [start, step, proceed]
    split
    case h_1 problem hfails =>
      rw [valid] at hfails
      cases hfails
    case h_2 hvalid => rfl
  rw [List.replicate_succ, run_cons_eq_some_iff]
  refine ⟨_, hcheck, ?_⟩
  rw [List.replicate_succ', run_append, run_binding valid h]
  rfl

/-- The log files are opened, or one of them cannot be. -/
theorem exists_over_of_opening (config : Config) (host : Host) (folder : String)
    (left : List (Endpoint × String)) (r : Relay) :
    ∃ n l, (opening folder left r : Launch config).run host (List.replicate n .proceeds)
      = some l ∧ l.isOver = true := by
  induction left generalizing r with
  | nil => exact ⟨1, _, rfl, rfl⟩
  | cons first left ih =>
    have hstep : ∃ l, (opening folder (first :: left) r : Launch config).step host .proceeds
        = some l ∧ (l.isOver = true ∨ ∃ r', l = opening folder left r') := by
      rw [step, proceed]
      split
      · exact ⟨_, rfl, .inl rfl⟩
      · exact ⟨_, rfl, .inr ⟨_, rfl⟩⟩
    obtain ⟨l, hl, hover | ⟨r', rfl⟩⟩ := hstep
    · exact ⟨1, l, run_cons_eq_some_iff.2 ⟨l, hl, rfl⟩, hover⟩
    · obtain ⟨n, l, hrun, hover⟩ := ih r'
      refine ⟨n + 1, l, ?_, hover⟩
      rw [List.replicate_succ, run_cons_eq_some_iff]
      exact ⟨_, hl, hrun⟩

/-- When the ports are bound, some more steps finish the start. -/
theorem exists_over_of_logging (config : Config) (host : Host) (r : Relay) :
    ∃ n l, (logging r : Launch config).run host (List.replicate n .proceeds) = some l ∧
      l.isOver = true := by
  have hstep : ∃ l, (logging r : Launch config).step host .proceeds = some l ∧
      (l.isOver = true ∨ ∃ folder, l = opening folder Startup.logForms r) := by
    rw [step, proceed]
    split
    · exact ⟨_, rfl, .inl rfl⟩
    · split
      · exact ⟨_, rfl, .inl rfl⟩
      · exact ⟨_, rfl, .inr ⟨_, rfl⟩⟩
  obtain ⟨l, hl, hover | ⟨folder, rfl⟩⟩ := hstep
  · exact ⟨1, l, run_cons_eq_some_iff.2 ⟨l, hl, rfl⟩, hover⟩
  · obtain ⟨n, l, hrun, hover⟩ := exists_over_of_opening config host folder Startup.logForms r
    refine ⟨n + 1, l, ?_, hover⟩
    rw [List.replicate_succ, run_cons_eq_some_iff]
    exact ⟨_, hl, hrun⟩

theorem exists_announces (valid : config.check = .ok ()) {bound : List (ServerKind × UInt16)}
    (h : Startup.bindAll host config.ports.wanted = .ok bound) :
    ∃ r, (logging (staff config valid bound) : Launch config).step host (.part (.announces true))
      = some (logging r) := by
  have hasked : (staff config valid bound).announcer.isDone = false := by
    rw [Announcer.isDone, List.isEmpty_eq_false_iff]
    exact Startup.services_ne_nil h
  have hvisit : (RelayEvent.announces true).isVisit = false := rfl
  have hsome : (stepClosed (staff config valid bound) (.announces true)).isSome = true := by
    rw [stepClosed, hvisit, if_neg Bool.false_ne_true, Relay.step, hasked]
    rfl
  obtain ⟨r, hr⟩ := Option.isSome_iff_exists.1 hsome
  exact ⟨r, Option.map_eq_some_iff.2 ⟨r, hr, rfl⟩⟩

/-- If the log files are all that fails, the announcer may have been faster. -/
theorem exists_announced (valid : config.check = .ok ()) {bound : List (ServerKind × UInt16)}
    (hbound : Startup.bindAll host config.ports.wanted = .ok bound)
    (hlogs : Startup.openLogs host config = .error problem) :
    ∃ events parts, (start config).run host events = some (failed problem parts) ∧
      (failed problem parts : Launch config).registered ≠ [] := by
  obtain ⟨r, hannounces⟩ := exists_announces valid hbound
  obtain ⟨n, l, hrest, hover⟩ := exists_over_of_logging config host r
  -- The announcer is asked between the last port and the log files.
  have hrun : (start config).run host
      (List.replicate (config.ports.wanted.length + 2) .proceeds ++
        .part (.announces true) :: List.replicate n .proceeds) = some l := by
    rw [run_append, run_to_logging valid hbound]
    exact run_cons_eq_some_iff.2 ⟨_, hannounces, hrest⟩
  -- So it is over, and the only problem there is has stopped it.
  have hcomes : l.comesTo host = .error problem := by
    rw [comesTo_of_run hrest, comesTo, hlogs]
    rfl
  have hsound := sound_of_run hrun
  rw [LaunchEvent.heard_append, LaunchEvent.heard_proceeds, LaunchEvent.heard_cons,
    LaunchEvent.heard_proceeds] at hsound
  cases l with
  | checking => cases hover
  | binding valid before left => cases hover
  | logging parts => cases hover
  | opening folder left parts => cases hover
  | up relay => cases hcomes
  | failed _ parts =>
    cases hcomes
    cases parts with
    | none => cases hsound
    | some parts =>
      refine ⟨_, _, hrun, fun hnothing ↦ ?_⟩
      exact (Staffed.accepted_eq_nil_iff hsound).1 hnothing List.mem_cons_self

/-- **A start that fails has left the instrument alone, but not always the directory.** Take any
configuration, any machine, and any way in which the parts are scheduled. If the start fails, it
fails with the problem that stands in its way. Up to then, and for as long as parts go on after it,
no link has begun to connect and there has been no connection of any other kind. Of the services,
those remain announced that the directory has accepted: none if and only if it has accepted nothing.
And some way of scheduling leaves one announced if and only if the configuration is valid, all ports
can be bound, and it is the log files that cannot be opened. -/
theorem failed_start_exact (config : Config) (host : Host) :
    (∀ events problem parts, (start config).run host events = some (failed problem parts) →
      let heard := LaunchEvent.heard events
      let l : Launch config := failed problem parts
      (Startup.ofConfig config host heard).outcome = .error problem ∧
      (∀ before mid r, before <+: events → (start config).run host before = some mid →
        mid.parts = some r → r.links = [] ∧ r.connections = []) ∧
      l.registered = (Startup.ofConfig config host heard).announcer.accepted ∧
      (l.registered = [] ↔ true ∉ heard)) ∧
    ((∃ events problem parts, (start config).run host events = some (failed problem parts) ∧
        (failed problem parts : Launch config).registered ≠ []) ↔
      config.check = .ok () ∧
        (∃ bound, Startup.bindAll host config.ports.wanted = .ok bound) ∧
        ∃ problem, Startup.openLogs host config = .error problem) := by
  constructor
  · intro events problem parts hrun heard l
    refine ⟨outcome_of_failed hrun heard, fun before mid r hbefore hmid hparts ↦ ?_, ?_⟩
    · have hnobody := unattached_of_failed hrun hbefore hmid hparts
      exact ⟨hnobody.links, hnobody.connections⟩
    · have hsound : l.Sound host heard := sound_of_run hrun
      cases parts with
      | none =>
        have hheard : heard = [] := hsound
        rw [hheard, Startup.accepted_ofConfig_nil]
        exact ⟨rfl, iff_of_true rfl List.not_mem_nil⟩
      | some r => exact ⟨Staffed.accepted_ofConfig hsound, Staffed.accepted_eq_nil_iff hsound⟩
  · constructor
    · rintro ⟨events, problem, parts, hrun, hregistered⟩
      obtain ⟨hcheck, hbound, hlogs⟩ := exists_of_announced hrun hregistered
      exact ⟨hcheck, hbound, problem, hlogs⟩
    · rintro ⟨hcheck, ⟨bound, hbound⟩, problem, hlogs⟩
      obtain ⟨events, parts, hrun, hregistered⟩ := exists_announced hcheck hbound hlogs
      exact ⟨events, problem, parts, hrun, hregistered⟩

/-- Two ports can be bound and the third one cannot: nothing has been announced. -/
theorem nothing_announced_of_taken_port :
    let config : Config := { refdes := "X", instrument := .tcp "host" 2101, logDir := some "logs" }
    let host : Host := { Host.willing with
      bind := fun server port ↦ if server = .sniff then .error "in use" else .ok port }
    let l : Launch config := failed (.bind 0 "in use") none
    (start config).run host (List.replicate 4 .proceeds) = some l ∧
      (Startup.ofConfig config host []).outcome = .error (.bind 0 "in use") ∧
      l.registered = [] := by
  intro config host l
  have hrun : (start config).run host (List.replicate 4 .proceeds) = some l := by
    subst l host config
    rfl
  obtain ⟨houtcome, -, -, hnothing⟩ := (failed_start_exact config host).1 _ _ _ hrun
  exact ⟨hrun, houtcome, hnothing.2 List.not_mem_nil⟩

/-- The folder for the log files cannot be made, and the announcer has been faster than the
attempt to make it: the start fails, and a service stays announced. -/
theorem announced_by_failed_start :
    let config : Config := { refdes := "X", instrument := .tcp "host" 2101, logDir := some "logs" }
    let host : Host := { Host.willing with
      makeFolder := fun _ ↦ .error (.alreadyExists, "File exists") }
    let events : List LaunchEvent :=
      List.replicate 5 .proceeds ++ [.part (.announces true), .proceeds]
    ∃ parts, (start config).run host events
        = some (failed (.io .alreadyExists "File exists") parts) ∧
      (failed (.io .alreadyExists "File exists") parts : Launch config).registered
        = [.describe "port-agent" "X" 0 30] :=
  ⟨_, rfl, rfl⟩

end Failed

end Launch

end InstrumentRelay
