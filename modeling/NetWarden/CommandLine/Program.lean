import NetWarden.CommandLine.LogFilter
import NetWarden.CommandLine.PolicyCommands

/-!
# The program

A call of the program from its arguments to its end. A call that asks for no command is told how to
ask for one, and ends with an exit code of its own if something is wrong with it. Before a command
is carried out, the filter of log messages must be one: it is taken from the environment if a filter
stands there, and else from the flags or the settings.
-/

namespace NetWarden.CommandLine

variable {m : Type → Type} [Monad m] [FileAccess m]

/-- The exit code of a call that cannot be read. -/
def usageExitCode : UInt8 := 2

/-- The name under which a command states its version. -/
def versionName (path : List String) : String := "-".intercalate (programName :: path)

/-- What a call looks like. -/
def usage (path : List String) : String :=
  "Usage: " ++ " ".intercalate (programName :: path) ++
    match grammar? path with
    | none => ""
    | some g =>
      String.join (g.allOptions.map fun o ↦
        " [--" ++ o.name ++ (if o.takes = .nothing then "" else " VALUE") ++ "]") ++
      (match g.operand with
        | some operand => " " ++ operand
        | none => "") ++
      (if g.commands.isEmpty then "" else " " ++ "|".intercalate g.commands)

/-- How a call ends that asks for no command. -/
def Refusal.ending (r : Refusal) : Ending :=
  match r.stop with
  | .help => .done (usage r.path ++ "\n") []
  | .version => .done (versionName r.path ++ " " ++ programVersion ++ "\n") []
  | .fault f =>
    { exitCode := usageExitCode, notes := ["error: " ++ f.message, "", usage r.path] }

/-- How a call ends that names no command. -/
def noCommand : Ending :=
  { exitCode := 1, notes := ["No command specified. Use --help for usage."] }

/-- What is wrong with a filter of messages, in words. -/
def LogFilterFault.chain : LogFilterFault → List String
  | malformed => ["invalid filter directive"]
  | unknownLevel =>
    let text :=
      "error parsing level filter: expected one of \"off\", \"error\", \"warn\", \"info\", " ++
        "\"debug\", \"trace\", or a number 0-5"
    [text, text]

/-- The level of messages: that of the flags or the environment, or else that of the settings; the
level by default if the settings cannot be read. -/
def logLevel (e : Environment) (i : Invocation) : m String := do
  match i.logLevel.or e.logLevel with
  | some level => return level
  | none =>
    match ← Settings.load e i.settingsPath with
    | .ok settings => return settings.logLevel
    | .error _ => return ({} : Settings).logLevel

/-- Whether the environment holds a filter of messages. -/
def hasLogFilter (e : Environment) : Bool :=
  match e.logFilter with
  | some text => (LogFilter.check text).toBool
  | none => false

/-- Why there is no filter of messages, if there is none. -/
def logFilterFailure? (e : Environment) (i : Invocation) : m (Option Failure) := do
  if hasLogFilter e then return none
  else
    match LogFilter.check (← logLevel e i) with
    | .ok () => return none
    | .error fault => return some (.ofChain "Failed to create log filter" fault.chain)

/-- Carries out a command. -/
def carryOutCommand (around : Surroundings) (e : Environment) (settingsPath : Option String) :
    Command → m Ending
  | .validatePolicies file => validatePolicies file
  | .runPolicies request => runPolicies around e settingsPath request
  | .showSettings places => showSettings e settingsPath places
  | .validateSettings file => validateSettings e (file.or settingsPath)
  | .generateSettings output isAnnotated => generateSettings output isAnnotated

/-- A call of the program. -/
def call (around : Surroundings) (e : Environment) (arguments : List String) : m Ending := do
  match Invocation.ofArguments arguments with
  | .error r => return r.ending
  | .ok i =>
    match ← logFilterFailure? e i with
    | some f => return .failed "" [] f
    | none =>
      match i.command with
      | none => return noCommand
      | some command => carryOutCommand around e i.settingsPath command

end NetWarden.CommandLine
