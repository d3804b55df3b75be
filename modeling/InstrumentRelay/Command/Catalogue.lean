import InstrumentRelay.Config.Basic

/-!
# Commands

A catalogue says which names are commands and what they do. Every relay can be asked for its state,
its configuration and its version; what else there is depends on the wiring of the instrument and is
passed on over the auxiliary link. A name is registered at most once, and the last registration
counts.
-/

namespace InstrumentRelay

/-- What a command does. -/
inductive CommandAction where
  /-- Says whether the instrument is connected. -/
  | state
  /-- Shows the configuration. -/
  | config
  /-- Says which version this is. -/
  | version
  /-- Passes the command on over the auxiliary link. -/
  | forward
  deriving DecidableEq, Repr

/-- A command that can be given. -/
structure Command where
  /-- The name, case and all. -/
  name : String
  /-- What it does. -/
  action : CommandAction
  deriving DecidableEq, Repr

/-- The commands that can be given, by their names. -/
structure Catalogue where
  /-- The commands, each name once. -/
  commands : List Command
  deriving DecidableEq, Repr

namespace Catalogue

/-- No commands. -/
def empty : Catalogue := ⟨[]⟩

/-- One more command, in place of any other of its name. -/
def register (c : Catalogue) (command : Command) : Catalogue :=
  ⟨command :: c.commands.filter (·.name ≠ command.name)⟩

/-- The command of this name. -/
def find? (c : Catalogue) (name : String) : Option Command :=
  c.commands.find? (·.name = name)

/-- The commands registered one after the other. -/
def ofCommands (commands : List Command) : Catalogue := commands.foldl register empty

theorem find?_register (c : Catalogue) (command : Command) (name : String) :
    (c.register command).find? name =
      if command.name = name then some command else c.find? name := by
  by_cases h : command.name = name
  · simp [register, find?, h]
  · simp only [register, find?, List.find?_cons, h, decide_false, if_false]
    rw [List.find?_filter]
    congr 1
    funext x
    by_cases hx : x.name = name
    · simp [hx, Ne.symm h]
    · simp [hx]

end Catalogue

/-- The commands that every relay has. -/
def basicCommands : List Command :=
  [⟨"get_state", .state⟩, ⟨"get_config", .config⟩, ⟨"get_version", .version⟩]

/-- The commands that can be given to a relay for this instrument. -/
def Instrument.catalogue (i : Instrument) : Catalogue :=
  .ofCommands (basicCommands ++ i.vendorCommands.map (⟨·, .forward⟩))

end InstrumentRelay
