import NetWarden.CommandLine.Ending
import NetWarden.CommandLine.StarterSettings
import NetWarden.Documents

/-!
# Commands about settings

Showing the settings that count and where they come from, checking them, and writing a settings file
to start from. A file that is already there is never written over.
-/

namespace NetWarden.CommandLine

variable {m : Type → Type} [Monad m] [FileAccess m]

/-- A text filled up with spaces to a width. -/
def padded (width : Nat) (s : String) : String :=
  String.ofList (s.toList ++ List.replicate (width - s.length) ' ')

/-- The places where settings are looked for, each with the name of what is looked at. -/
def lookupOrder (e : Environment) (named : Option String) : List (String × Option String) :=
  [("--config", named), ("VPCC_CONFIG_PATH", e.settingsPath),
    ("working directory", some Settings.localPath), ("user", some "~/.vpcc/config.yaml"),
    ("system", some Settings.systemPath)]

/-- The line of a place in the lookup order. -/
def lookupLine (index : Nat) (place : String × Option String) : String :=
  "  " ++ Text.digits (index + 1) ++ ". " ++ padded 18 place.1 ++ " " ++ place.2.getD "-" ++ "\n"

/-- The lookup order as it is shown. -/
def shownLookupOrder (e : Environment) (named : Option String) : String :=
  "Lookup order:\n" ++ String.join ((lookupOrder e named).mapIdx lookupLine) ++ "\n"

/-- The file that settings come from, as it is shown. -/
def shownSource : Option String → String
  | some path => "Loaded from " ++ path ++ "\n"
  | none => "No configuration file found, using defaults\n"

/-- The failure of a command that has no settings. -/
def noSettings (f : Failure) : Ending := .failed "" [] (f.within "Failed to load configuration")

/-- Shows the settings. -/
def showSettings (e : Environment) (named : Option String) (places : Bool) : m Ending := do
  let source ← match named with
    | some path => pure (some path)
    | none => Settings.discover e
  match ← Settings.load e named with
  | .error f => return noSettings f
  | .ok settings =>
    return .done
      ((if places then shownLookupOrder e named else "") ++ shownSource source ++
        Format.yaml.write settings.toJson) []

/-- A failure because settings were rejected. -/
def rejectedSettings (fault : Settings.Fault) : Failure :=
  (Failure.of fault.message).within "Configuration validation failed"

/-- Whether the inventory of settings is there; so if they have none. -/
def inventoryIsThere (s : Settings) : m Bool :=
  match s.inventory with
  | some path => FileAccess.isThere path
  | none => pure true

/-- Settings that were found to be right, in words. -/
def approval (s : Settings) : String :=
  let inventory := match s.inventory with
    | some path => "inventory " ++ path
    | none => "no default inventory"
  "✓ Configuration OK (" ++ inventory ++ ", " ++ s.output.name ++ " output, " ++
    (if s.isDryRun then "dry run" else "actions enabled") ++ ")\n"

/-- Checks settings. -/
def validateSettings (e : Environment) (path : Option String) : m Ending := do
  match ← Settings.load e path with
  | .error f => return noSettings f
  | .ok settings =>
    let isThere ← inventoryIsThere settings
    match settings.check fun _ ↦ isThere with
    | .error fault => return .failed "" [] (rejectedSettings fault)
    | .ok () => return .done (approval settings) []

/-- Writes a settings file to start from. -/
def generateSettings (path : String) (isAnnotated : Bool) : m Ending := do
  let text := if isAnnotated then StarterSettings.annotated else StarterSettings.plain
  if ← FileAccess.isThere path then
    return .failed "" [] (.of (path ++ " already exists, not overwriting"))
  else if ← FileAccess.write path text then return .done ("✓ Wrote " ++ path ++ "\n") []
  else
    return .failed "" [] ((Failure.ofFault .inaccessible).within ("Could not write " ++ path))

end NetWarden.CommandLine
