import NetWarden.Format
import NetWarden.Text.Quoted

/-!
# Settings

What a command needs to know besides its arguments. Settings come in layers: what a file says, or
the defaults if there is no file; above it the environment, which may say whether runs are dry and
in which format reports are written; above that the flags of the command. Each layer decides field
by field, and a word of the environment that means nothing decides nothing.

Only the settings that remain are checked, so a file that a flag has replaced need not be there.
-/

namespace NetWarden

/-- What the environment says, each part as it is written there. -/
structure Environment where
  /-- The settings file. -/
  settingsPath : Option String := none
  /-- Whether runs are dry. -/
  dryRun : Option String := none
  /-- The format of reports. -/
  output : Option String := none
  /-- Which messages are logged, unless a flag says it. -/
  logLevel : Option String := none
  /-- The filter of messages, which goes before any level. -/
  logFilter : Option String := none
  /-- The directory of the user. -/
  home : Option String := none
deriving DecidableEq, Repr, Inhabited

/-- The settings. -/
structure Settings where
  /-- Whether actions are left out. -/
  isDryRun : Bool := false
  /-- The format of reports. -/
  output : Format := .json
  /-- The file with the inventory. -/
  inventory : Option String := none
  /-- Which messages are logged. -/
  logLevel : String := "info"
deriving DecidableEq, Repr, Inhabited

namespace Settings

/-- The fields of the record of settings. -/
def fieldNames : List String := ["dry_run", "output", "inventory", "log_level"]

/-- The record of settings. -/
def toJson (s : Settings) : Json :=
  .record [("dry_run", some (.bool s.isDryRun)), ("output", Json.text s.output.name),
    ("inventory", Json.optionalText s.inventory), ("log_level", Json.text s.logLevel)]

/-- The settings of a record. -/
def read? {σ : Type} [Source σ] (s : σ) : Option Settings := do
  let f ← Source.fields? fieldNames s
  let default : Settings := {}
  return {
    isDryRun := ← f.defaulted "dry_run" default.isDryRun
    output := ← f.defaulted "output" default.output
    inventory := ← f.optional "inventory"
    logLevel := ← f.defaulted "log_level" default.logLevel }

instance : Readable Settings := ⟨read?⟩

/-! ### Layers -/

/-- What a word of the environment says about a switch. -/
def switch? (s : String) : Option Bool :=
  let s := Text.lower s
  if ["true", "1", "yes", "on"].contains s then some true
  else if ["false", "0", "no", "off"].contains s then some false
  else none

/-- The settings below an environment. -/
def below (s : Settings) (e : Environment) : Settings :=
  { s with
    isDryRun := (e.dryRun.bind switch?).getD s.isDryRun
    output := (e.output.bind Format.ofText?).getD s.output }

/-- The flags of a command that go before settings. -/
structure Flags where
  /-- Another file with the inventory. -/
  inventory : Option String := none
  /-- Leaves out the actions, whatever the settings say. -/
  isDryRun : Bool := false
  /-- Another format. -/
  output : Option Format := none
deriving DecidableEq, Repr, Inhabited

/-- The settings below flags. -/
def belowFlags (s : Settings) (f : Flags) : Settings :=
  { s with
    inventory := f.inventory.or s.inventory
    isDryRun := s.isDryRun || f.isDryRun
    output := f.output.getD s.output }

/-! ### Checking -/

/-- The levels of messages. -/
def logLevels : List String := ["trace", "debug", "info", "warn", "error"]

/-- What may be wrong with settings. -/
inductive Fault where
  /-- The file with the inventory is not there. -/
  | noInventoryFile (path : String)
  /-- There is no such level of messages. -/
  | unknownLogLevel (level : String)
deriving DecidableEq, Repr

/-- What is wrong with settings, in words. -/
def Fault.message : Fault → String
  | .noInventoryFile path => "Inventory file not found: " ++ Text.quoted path
  | .unknownLogLevel level =>
    "Invalid log_level: '" ++ level ++ "'. Must be one of " ++ ", ".intercalate logLevels

/-- Checks settings, where it is known which files are there. The inventory is looked at first. -/
def check (isThere : String → Bool) (s : Settings) : Except Fault Unit :=
  match s.inventory.filter fun path ↦ !isThere path with
  | some path => .error (.noInventoryFile path)
  | none =>
    if logLevels.contains (Text.lower s.logLevel) then .ok ()
    else .error (.unknownLogLevel s.logLevel)

end Settings

end NetWarden
