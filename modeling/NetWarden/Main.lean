import NetWarden.CommandLine.Program
import NetWarden.Identifier
import NetWarden.Timestamp

/-!
# The program on this machine

Arguments, environment, files, time and chance come from the machine; everything else is decided by
`CommandLine.call`. The time of day is the time at which the machine was started and the time that
has passed since, as the system's own files tell it; where they tell nothing, a report has no time.
-/

namespace NetWarden

instance : FileAccess IO where
  read? name := do
    try return some (← IO.FS.readFile name)
    catch _ => return none
  isThere name := do
    if name = "" then return false
    else
      try
        discard <| IO.FS.realPath name
        return true
      catch _ => return false
  write name text := do
    try
      IO.FS.writeFile name text
      return true
    catch _ => return false

/-- What the environment of the program says. -/
def environment : IO Environment := do
  return {
    settingsPath := ← IO.getEnv "VPCC_CONFIG_PATH"
    dryRun := ← IO.getEnv "VPCC_DRY_RUN"
    output := ← IO.getEnv "VPCC_OUTPUT"
    logLevel := ← IO.getEnv "VPCC_LOG_LEVEL"
    logFilter := ← IO.getEnv "RUST_LOG"
    home := ← IO.getEnv "HOME" }

/-- The words of a text, parted by blanks. -/
def words (s : String) : List (List Char) :=
  ((Text.splitOn '\n' s.toList).flatMap (Text.splitOn ' ')).filter fun w ↦ !w.isEmpty

/-- The number after a word. -/
def numberAfter? (word : String) : List (List Char) → Option Nat
  | w :: n :: rest =>
    if w = word.toList then Text.number? 10 n else numberAfter? word (n :: rest)
  | _ => none

/-- The hundredths of a second that a text of seconds with two places tells. -/
def hundredths? (cs : List Char) : Option Nat := do
  let (whole, fraction) ← Text.splitOnce '.' cs
  return (← Text.number? 10 whole) * 100 + (← Text.number? 10 fraction)

/-- The time, if the machine tells it. -/
def now : IO (Option String) := do
  let started := (← FileAccess.read? "/proc/stat").bind fun s ↦ numberAfter? "btime" (words s)
  let passed := (← FileAccess.read? "/proc/uptime").bind fun s ↦ (words s).head?.bind hundredths?
  return do return timestamp ((← started) * 100 + (← passed))

/-- A number made of random bytes. -/
def randomNumber : IO Nat := do
  return (← IO.getRandomBytes 16).foldl (fun n b ↦ n * 256 + b.toNat) 0

/-- Carries out a call of the program on this machine. -/
def callHere (arguments : List String) : IO UInt32 := do
  let around : CommandLine.Surroundings :=
    { supply := IdSupply.ofSeed (← randomNumber), now := ← now }
  let ending ← CommandLine.call around (← environment) arguments
  IO.print ending.output
  for line in ending.lines do IO.eprintln line
  return ending.exitCode.toUInt32

end NetWarden

/-- The program. -/
def main (arguments : List String) : IO UInt32 := NetWarden.callHere arguments
