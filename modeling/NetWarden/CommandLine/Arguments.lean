import NetWarden.Text.Split

/-!
# Reading arguments

The arguments of a command are its options, its operand and the name of a command below it, which
takes the arguments that follow. A `Grammar` says what a command takes; `Grammar.read` reads
arguments from left to right up to the end or to the name of a command below.

An option is written `--name value`, `--name=value`, `-n value`, `-nvalue` or `-n=value`. A value
that stands on its own must not look like an option; a lone dash does not. After `--` there are
operands only. An option may be given once. Whatever is wrong ends the reading, and so does a
request for help or for the version, whichever comes first.
-/

namespace NetWarden.CommandLine

/-- What an option takes. -/
inductive Takes where
  /-- Nothing: the option is a switch. -/
  | nothing
  /-- Any text. -/
  | text
  /-- The name of a file, which is never empty. -/
  | path
deriving DecidableEq, Repr

/-- An option of a command. -/
structure Opt where
  /-- The name, without the dashes. -/
  name : String
  /-- The letter that stands for the name. -/
  letter : Option Char := none
  /-- What the option takes. -/
  takes : Takes := .nothing
deriving DecidableEq, Repr

/-- What a command takes. -/
structure Grammar where
  /-- The options. -/
  options : List Opt
  /-- The name of the operand, which is a file, if the command takes one. -/
  operand : Option String := none
  /-- The names of the commands below it. -/
  commands : List String := []
deriving DecidableEq, Repr

/-- What is wrong with arguments. -/
inductive UsageFault where
  /-- Nothing of this form is taken. -/
  | unexpected (argument : String)
  /-- An option is given again. -/
  | repeated (option : String)
  /-- An option lacks its value. -/
  | noValue (option : String)
  /-- A switch is given a value. -/
  | needlessValue (option : String)
  /-- The name of a file is empty. -/
  | emptyPath (of : String)
  /-- The operand is missing. -/
  | noOperand (name : String)
  /-- The name of a command is missing. -/
  | noCommand
deriving DecidableEq, Repr

/-- What is wrong with arguments, in words. -/
def UsageFault.message : UsageFault → String
  | .unexpected argument => "unexpected argument '" ++ argument ++ "'"
  | .repeated option => "'--" ++ option ++ "' is given more than once"
  | .noValue option => "'--" ++ option ++ "' needs a value"
  | .needlessValue option => "'--" ++ option ++ "' takes no value"
  | .emptyPath of => "the file name of '" ++ of ++ "' is empty"
  | .noOperand name => "'" ++ name ++ "' is missing"
  | .noCommand => "a command is missing"

/-- Why arguments are read no further. -/
inductive Stop where
  /-- Help is asked for. -/
  | help
  /-- The version is asked for. -/
  | version
  /-- Something is wrong. -/
  | fault (f : UsageFault)
deriving DecidableEq, Repr

/-- What was given to a command. -/
structure Given where
  /-- The options with their values; a switch has an empty one. -/
  options : List (String × String) := []
  /-- The operand. -/
  operand : Option String := none
deriving DecidableEq, Repr

namespace Given

/-- The value of an option. -/
def value? (g : Given) (option : String) : Option String := g.options.lookup option

/-- Whether an option is given. -/
def has (g : Given) (option : String) : Bool := (g.value? option).isSome

end Given

/-- The option that asks for help. -/
def Opt.help : Opt := { name := "help", letter := some 'h' }

/-- The option that asks for the version. -/
def Opt.version : Opt := { name := "version", letter := some 'V' }

namespace Grammar

/-- All options, also those that every command has. -/
def allOptions (g : Grammar) : List Opt := g.options ++ [Opt.help, Opt.version]

/-- The option with a name. -/
def named? (g : Grammar) (name : String) : Option Opt := g.allOptions.find? fun o ↦ o.name == name

/-- The option with a letter. -/
def lettered? (g : Grammar) (letter : Char) : Option Opt :=
  g.allOptions.find? fun o ↦ o.letter == some letter

/-- Whether an argument looks like an option: a dash, and something after it. -/
def looksLikeOption (argument : String) : Bool :=
  match argument.toList with
  | '-' :: _ :: _ => true
  | _ => false

/-- An option given with its value. -/
def give (g : Given) (o : Opt) (value : String) : Except Stop Given :=
  if o = Opt.help then .error .help
  else if o = Opt.version then .error .version
  else if g.has o.name then .error (.fault (.repeated o.name))
  else if o.takes = .path ∧ value = "" then .error (.fault (.emptyPath o.name))
  else .ok { g with options := g.options ++ [(o.name, value)] }

/-- An operand, which is taken once. -/
def giveOperand (grammar : Grammar) (g : Given) (argument : String) : Except Stop Given :=
  match grammar.operand, g.operand with
  | some name, none =>
    if argument = "" then .error (.fault (.emptyPath name))
    else .ok { g with operand := some argument }
  | _, _ => .error (.fault (.unexpected argument))

/-- Operands only. -/
def readOperands (grammar : Grammar) (g : Given) : List String → Except Stop Given
  | [] => .ok g
  | argument :: rest => do readOperands grammar (← giveOperand grammar g argument) rest

/-- What an argument with dashes says: an option, and the value that stands in the same argument. -/
def option? (grammar : Grammar) (argument : String) : Except Stop (Opt × Option String) :=
  match argument.toList with
  | '-' :: '-' :: cs =>
    let (name, value) := match Text.splitOnce '=' cs with
      | some (name, value) => (name, some (String.ofList value))
      | none => (cs, none)
    match grammar.named? (String.ofList name) with
    | some o =>
      if o.takes = .nothing ∧ value.isSome then .error (.fault (.needlessValue o.name))
      else .ok (o, value)
    | none => .error (.fault (.unexpected argument))
  | '-' :: letter :: cs =>
    match grammar.lettered? letter with
    | some o =>
      match cs with
      | [] => .ok (o, none)
      | '=' :: value => .ok (o, some (String.ofList value))
      | value => .ok (o, some (String.ofList value))
    | none => .error (.fault (.unexpected argument))
  | _ => .error (.fault (.unexpected argument))

/-- Reads arguments after those already given, up to the end or to the name of a command below; the
latter comes with the arguments that follow it. -/
def readFrom (grammar : Grammar) (g : Given) :
    List String → Except Stop (Given × Option (String × List String))
  | [] => .ok (g, none)
  | argument :: rest =>
    if grammar.commands.contains argument then .ok (g, some (argument, rest))
    else if argument = "--" then do return (← readOperands grammar g rest, none)
    else if looksLikeOption argument then do
      let (o, attached) ← option? grammar argument
      match o.takes, attached, rest with
      | .nothing, _, rest => readFrom grammar (← give g o "") rest
      | _, some value, rest => readFrom grammar (← give g o value) rest
      | _, none, [] => .error (.fault (.noValue o.name))
      | _, none, value :: rest =>
        if looksLikeOption value then .error (.fault (.noValue o.name))
        else readFrom grammar (← give g o value) rest
    else do readFrom grammar (← giveOperand grammar g argument) rest

/-- Reads the arguments of a command. -/
def read (grammar : Grammar) (arguments : List String) :
    Except Stop (Given × Option (String × List String)) :=
  readFrom grammar {} arguments

end Grammar

end NetWarden.CommandLine
