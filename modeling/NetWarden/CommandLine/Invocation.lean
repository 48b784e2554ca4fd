import NetWarden.CommandLine.Arguments
import NetWarden.Settings

/-!
# What a call of the program asks for

The commands of the program and what each of them takes. `Invocation.ofArguments` reads a whole
command line: the options that every command takes may stand at any level, and the innermost goes
before the others.
-/

namespace NetWarden.CommandLine

/-- What `policy run` is asked for. -/
structure RunRequest where
  /-- The file with the policies. -/
  file : String
  /-- The file with the inventory. -/
  inventory : Option String := none
  /-- The name of the only policy to run. -/
  policy : Option String := none
  /-- Whether actions are left out. -/
  isDryRun : Bool := false
  /-- The format of the report, as it was given. -/
  output : Option String := none
  /-- The file to which the inventory is written after the run. -/
  saveInventory : Option String := none
deriving DecidableEq, Repr

/-- A command. -/
inductive Command where
  /-- Checks policies. -/
  | validatePolicies (file : String)
  /-- Runs policies. -/
  | runPolicies (request : RunRequest)
  /-- Shows the settings, and on demand the places where they are looked for. -/
  | showSettings (places : Bool)
  /-- Checks settings. -/
  | validateSettings (file : Option String)
  /-- Writes a settings file to start from. -/
  | generateSettings (output : String) (isAnnotated : Bool)
deriving DecidableEq, Repr

/-- What a call of the program asks for. -/
structure Invocation where
  /-- The settings file that is named. -/
  settingsPath : Option String := none
  /-- Which messages are to be logged. -/
  logLevel : Option String := none
  /-- The command, if there is one. -/
  command : Option Command := none
deriving DecidableEq, Repr

/-- Why a call asks for no command: the command at which its reading ended, and how. -/
structure Refusal where
  /-- The names of the commands, from the program downwards. -/
  path : List String
  /-- How the reading ended. -/
  stop : Stop
deriving DecidableEq, Repr

/-! ### The commands and their options -/

/-- The name of the program. -/
def programName : String := "vpcc"

/-- The version of the program. -/
def programVersion : String := "0.3.0-pre-alpha"

/-- The options that every command takes. -/
def sharedOptions : List Opt :=
  [{ name := "config", letter := some 'c', takes := .path },
    { name := "log-level", takes := .text }]

/-- The command that asks for help. -/
def helpCommand : String := "help"

/-- What a command with the given path takes, if there is such a command. -/
def grammar? : List String → Option Grammar
  | [] => some { options := sharedOptions, commands := ["policy", "config", helpCommand] }
  | ["policy"] => some { options := sharedOptions, commands := ["validate", "run", helpCommand] }
  | ["policy", "validate"] => some { options := sharedOptions, operand := some "POLICY" }
  | ["policy", "run"] => some {
      options := sharedOptions ++
        [{ name := "inventory", letter := some 'i', takes := .path },
          { name := "policy", letter := some 'p', takes := .text },
          { name := "dry-run" },
          { name := "output", letter := some 'o', takes := .text },
          { name := "save-inventory", takes := .path }]
      operand := some "POLICY" }
  | ["config"] =>
    some { options := sharedOptions, commands := ["show", "validate", "generate", helpCommand] }
  | ["config", "show"] => some { options := sharedOptions ++ [{ name := "paths" }] }
  | ["config", "validate"] => some { options := sharedOptions, operand := some "FILE" }
  | ["config", "generate"] => some {
      options := sharedOptions ++
        [{ name := "output", letter := some 'o', takes := .path }, { name := "examples" }] }
  | _ => none

/-! ### Reading a command line -/

/-- Help on a command below the one with the given path, if all names lead to a command. -/
def helpOn (path : List String) : List String → Stop
  | [] => .help
  | name :: names =>
    match grammar? path with
    | some g =>
      if g.commands.contains name then
        if name = helpCommand then
          match names with
          | [] => .help
          | other :: _ => .fault (.unexpected other)
        else helpOn (path ++ [name]) names
      else .fault (.unexpected name)
    | none => .fault (.unexpected name)

/-- What was given at each level of a command line, with the path of the command there. -/
def levels : Nat → List String → List String → Except Refusal (List (List String × Given))
  | 0, path, _ => .error ⟨path, .fault .noCommand⟩
  | depth + 1, path, arguments => do
    match grammar? path with
    | none => throw ⟨path, .fault .noCommand⟩
    | some g =>
      let (given, below) ← (g.read arguments).mapError (Refusal.mk path)
      match below with
      | none => return [(path, given)]
      | some (name, arguments) =>
        if name = helpCommand then throw ⟨path, helpOn path arguments⟩
        else return (path, given) :: (← levels depth (path ++ [name]) arguments)

/-- The operand of a command that needs one. -/
def neededOperand (path : List String) (name : String) (g : Given) : Except Refusal String :=
  match g.operand with
  | some operand => .ok operand
  | none => .error ⟨path, .fault (.noOperand name)⟩

/-- The command with a path and what was given to it. -/
def Command.of (path : List String) (g : Given) : Except Refusal (Option Command) :=
  match path with
  | [] => .ok none
  | ["policy", "validate"] => do
    return some (.validatePolicies (← neededOperand path "POLICY" g))
  | ["policy", "run"] => do
    return some <| .runPolicies {
      file := ← neededOperand path "POLICY" g
      inventory := g.value? "inventory"
      policy := g.value? "policy"
      isDryRun := g.has "dry-run"
      output := g.value? "output"
      saveInventory := g.value? "save-inventory" }
  | ["config", "show"] => .ok (some (.showSettings (g.has "paths")))
  | ["config", "validate"] => .ok (some (.validateSettings g.operand))
  | ["config", "generate"] =>
    .ok <| some <|
      .generateSettings ((g.value? "output").getD "./vpcc-config.yaml") (g.has "examples")
  | _ => .error ⟨path, .fault .noCommand⟩

/-- The value of a shared option: the innermost one. -/
def innermost? (option : String) (gs : List (List String × Given)) : Option String :=
  gs.foldl (fun found g ↦ (g.2.value? option).or found) none

namespace Invocation

/-- What the arguments of a call ask for. No command lies more than two levels below the program. -/
def ofArguments (arguments : List String) : Except Refusal Invocation := do
  let given ← levels 3 [] arguments
  let command ← match given.getLast? with
    | some (path, g) => Command.of path g
    | none => .ok none
  return {
    settingsPath := innermost? "config" given
    logLevel := innermost? "log-level" given
    command }

end Invocation

end NetWarden.CommandLine
