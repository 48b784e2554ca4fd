import NetWarden.Failure
import NetWarden.Files
import NetWarden.Inventory
import NetWarden.Policy.Basic
import NetWarden.Settings

/-!
# Documents in files

Where the documents of the commands come from, and what is said when they cannot be had. An
inventory is kept as JSON if the end of its file's name says so, and else as YAML; policies and
settings are YAML.

Settings are read from the file that is named, or else from the first file of a few places that is
there; without any, there are the defaults. The environment lies above all of these.
-/

namespace NetWarden

/-! ### Names of files -/

/-- The last part of a name that names something; nothing if the name leads upwards. -/
def fileName? (path : String) : Option (List Char) :=
  match ((Text.splitOn '/' path.toList).filter fun p ↦ p ≠ [] ∧ p ≠ ['.']).getLast? with
  | some p => if p = ['.', '.'] then none else some p
  | none => none

/-- What stands after the last point of a name, if something stands before it. -/
def extension? (name : List Char) : Option (List Char) :=
  match Text.splitOnce '.' name.reverse with
  | some (_, []) => none
  | some (ext, _) => some ext.reverse
  | none => none

/-- The format of an inventory in a file. -/
def Format.ofPath (path : String) : Format :=
  match (fileName? path).bind extension? with
  | some ext => if ext.map Char.toLower = ['j', 's', 'o', 'n'] then .json else .yaml
  | none => .yaml

variable {m : Type → Type} [Monad m] [FileAccess m]

/-- The text of a file. -/
def readText (path : String) : m (Except Failure String) := do
  match ← FileAccess.read? path with
  | some text => return .ok text
  | none => return .error (.ofFault .inaccessible)

/-- A value read from a text. -/
def Format.decode {α : Type} [Readable α] (format : Format) (text : String) : Except Failure α :=
  match format.read? text with
  | some a => .ok a
  | none => .error (.ofFault (.unreadable format))

/-! ### Inventories -/

namespace Inventory

/-- The inventory of a text in the format of a file. -/
def ofText (path text : String) : Except Failure Inventory :=
  ((Format.ofPath path).decode text).mapError
    (.within ("Failed to parse inventory file: " ++ Text.quoted path))

/-- The text of an inventory in the format of a file. -/
def toText (path : String) (i : Inventory) : String := (Format.ofPath path).write i.toJson

/-- The inventory in a file. -/
def load (path : String) : m (Except Failure Inventory) := do
  match ← readText path with
  | .ok text => return ofText path text
  | .error f =>
    return .error (f.within ("Failed to read inventory file: " ++ Text.quoted path))

/-- Writes an inventory to a file. -/
def save (path : String) (i : Inventory) : m (Except Failure Unit) := do
  if ← FileAccess.write path (i.toText path) then return .ok ()
  else
    return .error <| (Failure.ofFault .inaccessible).within
      ("Failed to write inventory file: " ++ Text.quoted path)

end Inventory

/-! ### Policies -/

/-- Why a text gives no policies. -/
def PolicyTextError.failure : PolicyTextError → Failure
  | .unreadable =>
    (Failure.ofFault (.unreadable .yaml)).within "Failed to parse YAML policy document"
  | .invalid e => .of ("Policy validation failed: " ++ e.message)

/-- The policies in a file. -/
def PolicySet.load (path : String) : m (Except Failure PolicySet) := do
  match ← readText path with
  | .ok text => return (PolicySet.ofYaml text).mapError PolicyTextError.failure
  | .error f => return .error (f.within ("Failed to read policy file: " ++ Text.quoted path))

/-! ### Settings -/

namespace Settings

/-- The settings file of the working directory. -/
def localPath : String := "./vpcc-config.yaml"

/-- The settings file of the system. -/
def systemPath : String := "/etc/vpcc/config.yaml"

/-- The settings file of a user with a directory. -/
def userPath (home : String) : String :=
  home ++ (if home.toList.getLast? = some '/' then "" else "/") ++ ".vpcc/config.yaml"

/-- Where settings are looked for, one place after the other. -/
def places (e : Environment) : List String :=
  e.settingsPath.toList ++ [localPath] ++
    ((e.home.filter fun home ↦ home ≠ "").map userPath).toList ++ [systemPath]

/-- The first of several names that is there. -/
def firstThere : List String → m (Option String)
  | [] => return none
  | path :: paths => do
    if ← FileAccess.isThere path then return some path else firstThere paths

/-- The settings file that is found if none is named. -/
def discover (e : Environment) : m (Option String) := firstThere (places e)

/-- The settings that a file says. -/
def ofFile (path : String) : m (Except Failure Settings) := do
  return (← readText path).bind (Format.decode .yaml)

/-- The words in front of a fault of the settings file that was named. -/
def namedFile (path : String) : String := "Failed to load config at " ++ Text.quoted path ++ ": "

/-- A failure whose fault has other words in front of it. -/
def prefaced (before : String) (f : Failure) : Failure :=
  match f.outermost with
  | .fault _ fault => ⟨.fault before fault, f.inner⟩
  | .told _ => f

/-- The settings of a file that is named or found, or the defaults, below an environment. -/
def load (e : Environment) (path : Option String) : m (Except Failure Settings) := do
  match path with
  | some path =>
    return (← ofFile path).mapError (prefaced (namedFile path)) |>.map (Settings.below · e)
  | none =>
    match ← discover e with
    | some path => return (← ofFile path).map (Settings.below · e)
    | none => return .ok (Settings.below {} e)

end Settings

end NetWarden
