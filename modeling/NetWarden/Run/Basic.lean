import NetWarden.Bulk.Groups
import NetWarden.Run.Report

/-!
# Running policies

A policy is run in three steps: all resources of its kind are listed, its filters keep some of them,
one filter after the other, and its actions change what is kept. A dry run leaves out the actions.

A filter sees only what the filters before it kept. Within a combination every part is asked, on all
resources, and makes its calls; nothing is cut short. Actions see the resources as they were listed,
whatever the actions before them did.

A listing that fails ends the run of a policy, and a policy that cannot be carried through ends the
run of a document. What was done to the store before that stays.
-/

namespace NetWarden

/-- A step of a run: calls to the store, and an end if it cannot be carried through. -/
abbrev RunM := ExceptT RunError StoreM

namespace Run

/-- A call that must succeed. -/
def require {α : Type} (error : TransportError → RunError) (call : Attempt α) : RunM α := do
  match ← call with
  | .ok a => return a
  | .error e => throw (error e)

/-- All resources of a kind. -/
def list (kind : ResourceKind) : RunM ResourceSet :=
  match kind with
  | .rule => .rules <$> require (.listing kind) (Store.listRules {})
  | .group => .groups <$> require (.listing kind) Store.listGroups
  | .flowLog => .flowLogs <$> require (.listing kind) Store.listFlowLogs
  | .port => .ports <$> require (.listing kind) Store.listAllPorts

/-! ### Filters -/

/-- The verdicts of one of several masks. -/
def anyMask (size : Nat) (masks : List (List Bool)) : List Bool :=
  masks.foldl (List.zipWith or) (List.replicate size false)

/-- The verdicts of all of several masks. -/
def allMask (size : Nat) (masks : List (List Bool)) : List Bool :=
  masks.foldl (List.zipWith and) (List.replicate size true)

/-- The verdicts on groups: whether a group with the same id is unattached. -/
def unattachedMask (groups : List Group) : RunM (List Bool) := do
  let unattached ← require .portLookup (Bulk.unattachedGroups groups)
  return groups.map fun g ↦ unattached.any fun u ↦ u.id == g.id

mutual

/-- The verdicts of a filter on resources. -/
def mask (resources : ResourceSet) : PolicyFilter → RunM (List Bool)
  | .rules f =>
    match resources with
    | .rules items => return items.map f.admits
    | _ => throw (.needsRules f.direction.name)
  | .unattached =>
    match resources with
    | .groups items => unattachedMask items
    | _ => throw .needsGroups
  | .value f => return resources.toJsons.map f.admits
  | .anyOf fs => do return anyMask resources.size (← masks resources fs)
  | .allOf fs => do return allMask resources.size (← masks resources fs)

/-- The verdicts of several filters on the same resources. -/
def masks (resources : ResourceSet) : List PolicyFilter → RunM (List (List Bool))
  | [] => return []
  | f :: fs => do
    let m ← mask resources f
    let ms ← masks resources fs
    return m :: ms

end

/-- The resources that filters keep, one after the other, and the notes on what matched on the way.
-/
def narrow (resources : ResourceSet) (notes : MatchNotes) :
    List PolicyFilter → RunM (ResourceSet × MatchNotes)
  | [] => return (resources, notes)
  | f :: fs => do
    let m ← mask resources f
    narrow (resources.keep m) (notes.noteAll (f.matchesIn resources.ruleItems)) fs

/-- The notes on the resources that were kept. -/
def keptNotes (resources : ResourceSet) (notes : MatchNotes) : MatchNotes :=
  match resources with
  | .rules items => notes.keepOnly (items.map Rule.id)
  | _ => notes

/-! ### Actions -/

/-- What comes of an action on resources. -/
def execute (resources : ResourceSet) (action : PolicyAction) : RunM ActionReport :=
  match action, resources with
  | .delete, .rules items => do return .deleteRules (← Bulk.deleteRules items)
  | .delete, .groups items => do return .deleteGroups (← Bulk.deleteGroups items)
  | .removeRules plan, .rules items => do return .removeRules (← Bulk.removeRules items plan)
  | .setRules add remove, .rules items => do
    let (added, removed) ← (Bulk.setRules items add remove : StoreM _)
    return .setRules added removed
  | .setFlowLog change, .flowLogs items => do
    return .setFlowLog change.name (← Bulk.changeFlowLogs items change)
  | action, resources => throw (.actionUnavailable action.name resources.kind)

/-! ### Policies -/

/-- Runs a policy. -/
def policy (isDryRun : Bool) (p : Policy) : RunM PolicyReport := do
  let listed ← list p.kind
  let (resources, notes) ← narrow listed {} p.filters
  let actions ← if isDryRun then pure [] else p.actions.mapM (execute resources)
  return {
    policy := p.name, isDryRun, scanned := listed.size, resources
    notes := keptNotes resources notes, actions }

/-- Runs policies, one after the other, up to the first that cannot be carried through. -/
def policies (isDryRun : Bool) : List Policy → ExceptT PolicyFailure StoreM (List PolicyReport)
  | [] => return []
  | p :: ps => do
    let report ← (policy isDryRun p).adapt (PolicyFailure.mk p.name)
    let reports ← policies isDryRun ps
    return report :: reports

end Run

end NetWarden
