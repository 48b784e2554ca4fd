import NetWarden.CommandLine.Invocation
import NetWarden.CommandLine.SettingsCommands
import NetWarden.Run.Basic

/-!
# Commands about policies

Checking the policies of a file, and running them on the inventory of another. A run takes its
settings from their file, the environment and its own flags, checks what results, and only then
reads the policies and the inventory. If the run can be carried through, its report is the output,
and failed calls of its actions make the command fail after everything else is done.
-/

namespace NetWarden.CommandLine

variable {m : Type → Type} [Monad m] [FileAccess m]

/-! ### Checking policies -/

/-- The line of a policy that was found to be right. -/
def policyLine (p : Policy) : String :=
  "  " ++ p.name ++ " " ++ p.kind.name ++ " (" ++ Text.digits p.filters.length ++ " filter(s), " ++
    Text.digits p.actions.length ++ " action(s))\n"

/-- Checks the policies of a file. -/
def validatePolicies (file : String) : m Ending := do
  let opening := "Validating policies...\n"
  match ← PolicySet.load file with
  | .error f => return .failed opening [] f
  | .ok set =>
    return .done
      (opening ++ String.join (set.policies.map policyLine) ++ "✓ " ++
        Text.digits set.policies.length ++ " policy(ies) valid\n") []

/-! ### Preparing a run -/

/-- Why a run cannot begin. -/
inductive RequestFault where
  /-- The format of the report is none. -/
  | unknownFormat (text : String)
  /-- The settings are rejected. -/
  | settings (fault : Settings.Fault)
  /-- There is no inventory to run on. -/
  | noInventory
deriving DecidableEq, Repr

/-- Why a run cannot begin, as a failure. -/
def RequestFault.failure : RequestFault → Failure
  | unknownFormat text => .of (Format.rejection text)
  | settings fault => rejectedSettings fault
  | noInventory =>
    .of "No inventory given. Pass --inventory or set \x60inventory\x60 in the configuration"

/-- What a run needs to begin. -/
structure RunPlan where
  /-- The file with the inventory. -/
  inventory : String
  /-- Whether actions are left out. -/
  isDryRun : Bool
  /-- The format of the report. -/
  output : Format
deriving DecidableEq, Repr

namespace RunRequest

/-- The format of the report, if the request says one. -/
def format (r : RunRequest) : Except RequestFault (Option Format) :=
  match r.output with
  | none => .ok none
  | some text =>
    match Format.ofText? text with
    | some f => .ok (some f)
    | none => .error (.unknownFormat text)

/-- What a run needs, from a request and the settings below it, where it is known which files are
there. Only the inventory that the run would use is looked for. -/
def resolve (isThere : String → Bool) (r : RunRequest) (s : Settings) :
    Except RequestFault RunPlan := do
  let output ← r.format
  let s := s.belowFlags { inventory := r.inventory, isDryRun := r.isDryRun, output }
  (s.check isThere).mapError .settings
  match s.inventory with
  | none => throw .noInventory
  | some inventory => return { inventory, isDryRun := s.isDryRun, output := s.output }

/-- What a run needs, with a look at the files. -/
def resolveThere (r : RunRequest) (s : Settings) : m (Except RequestFault RunPlan) := do
  let isThere ← inventoryIsThere (s.belowFlags { inventory := r.inventory })
  return r.resolve (fun _ ↦ isThere) s

end RunRequest

/-! ### Running policies -/

/-- The policies of a request: all of a set, or those with the name that it gives. -/
def selected (set : PolicySet) (name : Option String) : Except Failure PolicySet :=
  match name with
  | none => .ok set
  | some name =>
    match set.select? name with
    | some chosen => .ok chosen
    | none => .error (.of ("Policy '" ++ name ++ "' not found in document"))

/-- Why a run ended, as a failure. -/
def runFailure (f : PolicyFailure) : Failure :=
  match f.causes with
  | [] => .of ""
  | first :: rest => .ofChain first rest

/-- The line that tells the outcome of a policy. -/
def summaryLine (r : PolicyReport) : String :=
  let status :=
    if r.isDryRun then "dry-run"
    else if 0 < r.failureCount then Text.digits r.failureCount ++ " failure(s)"
    else "ok"
  "• " ++ r.policy ++ ": " ++ Text.digits r.matched ++ "/" ++ Text.digits r.scanned ++
    " matched [" ++ status ++ "]"

/-- What a program needs to run policies: where new ids come from, and what time it is. -/
structure Surroundings where
  /-- Where new ids come from. -/
  supply : IdSupply
  /-- The time, if it is known. -/
  now : Option String := none

/-- Runs the policies of a request on an inventory: the reports, and the inventory afterwards. -/
def runOn (around : Surroundings) (isDryRun : Bool) (set : PolicySet) (inventory : Inventory) :
    Except Failure (List PolicyReport × Inventory) :=
  match (Run.policies isDryRun set.policies).run (Store.ofInventory inventory around.supply) with
  | (.ok reports, store) => .ok (reports, store.inventory)
  | (.error f, _) => .error (runFailure f)

/-- Writes the inventory after a run, if the request names a file for it. -/
def saveAfter (r : RunRequest) (after : Inventory) : m (Except Failure Unit) := do
  match r.saveInventory with
  | none => return .ok ()
  | some path =>
    return (← Inventory.save path after).mapError (Failure.within "Failed to save inventory")

/-- Carries a run through, from the files of a request to the saved inventory. -/
def carryOut (around : Surroundings) (r : RunRequest) (plan : RunPlan) :
    ExceptT Failure m (List PolicyReport) := do
  let set ← selected (← ExceptT.mk (PolicySet.load r.file)) r.policy
  let inventory ← ExceptT.mk (Inventory.load plan.inventory)
  let (reports, after) ← runOn around plan.isDryRun set inventory
  ExceptT.mk (saveAfter r after)
  return reports

/-- The reports of a run as one document. -/
def shownReports (around : Surroundings) (output : Format) (reports : List PolicyReport) : String :=
  output.write (.arr (reports.map (PolicyReport.toJson around.now))) ++ "\n"

/-- How a run ends that was carried through. -/
def reported (around : Surroundings) (output : Format) (reports : List PolicyReport) : Ending :=
  let text := shownReports around output reports
  let notes := reports.map summaryLine
  let failures := (reports.flatMap PolicyReport.failed).length
  if failures = 0 then .done text notes
  else .failed text notes (.of (Text.digits failures ++ " action failure(s) recorded"))

/-- Runs policies. -/
def runPolicies (around : Surroundings) (e : Environment) (named : Option String)
    (r : RunRequest) : m Ending := do
  match ← Settings.load e named with
  | .error f => return noSettings f
  | .ok settings =>
    match ← r.resolveThere settings with
    | .error fault => return .failed "" [] fault.failure
    | .ok plan =>
      match ← (carryOut around r plan).run with
      | .error f => return .failed "" [] f
      | .ok reports => return reported around plan.output reports

end NetWarden.CommandLine
