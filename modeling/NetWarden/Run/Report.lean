import NetWarden.Bulk.Rules
import NetWarden.Run.Resources

/-!
# Reports

What a run tells afterwards: the resources that its filters kept, the notes on the rules that
matched, and what came of each action. Failed calls are part of a report; a run that cannot be
carried through has no report but a `RunError`.
-/

namespace NetWarden

/-- What came of an action. -/
inductive ActionReport where
  /-- Rules were deleted. -/
  | deleteRules (r : BulkResult Rule)
  /-- Groups were deleted. -/
  | deleteGroups (r : BulkResult Group)
  /-- Rules were removed. -/
  | removeRules (r : BulkResult Rule)
  /-- Rules were added, and others removed. -/
  | setRules (added removed : BulkResult Rule)
  /-- Flow logs were changed. -/
  | setFlowLog (change : String) (r : BulkResult FlowLog)
deriving DecidableEq, Repr

namespace ActionReport

/-- The calls that failed: those of an addition before those of the removal after it. -/
def failed : ActionReport → List FailureRecord
  | .deleteRules r => r.failed
  | .deleteGroups r => r.failed
  | .removeRules r => r.failed
  | .setRules added removed => added.failed ++ removed.failed
  | .setFlowLog _ r => r.failed

/-- The record of what came of an action. -/
def toJson : ActionReport → Json
  | .deleteRules r =>
    .obj (("type", .str "delete-rules") :: r.fields Rule.toJson "succeeded" "failed")
  | .deleteGroups r =>
    .obj (("type", .str "delete-groups") :: r.fields Group.toJson "succeeded" "failed")
  | .removeRules r =>
    .obj (("type", .str "remove-rules") ::
      r.fields Rule.toJson "remove_succeeded_rules" "remove_failed_rules")
  | .setRules added removed =>
    .obj (("type", .str "set-rules") ::
      added.fields Rule.toJson "add_succeeded_rules" "add_failed_rules" ++
      removed.fields Rule.toJson "remove_succeeded_rules" "remove_failed_rules")
  | .setFlowLog change r =>
    .obj (("type", .str "set-flow-log") :: ("action", .str change) ::
      r.fields FlowLog.toJson "succeeded" "failed")

end ActionReport

/-- What a run tells of a policy. -/
structure PolicyReport where
  /-- The name of the policy. -/
  policy : String
  /-- Whether the actions were left out. -/
  isDryRun : Bool
  /-- The number of resources that were listed. -/
  scanned : Nat
  /-- The resources that the filters kept. -/
  resources : ResourceSet
  /-- The notes on the rules among them that matched. -/
  notes : MatchNotes
  /-- What came of each action. -/
  actions : List ActionReport
deriving DecidableEq, Repr

namespace PolicyReport

/-- The number of resources that the filters kept. -/
def matched (r : PolicyReport) : Nat := r.resources.size

/-- The calls of all actions that failed. -/
def failed (r : PolicyReport) : List FailureRecord := r.actions.flatMap ActionReport.failed

/-- The number of calls that failed. -/
def failureCount (r : PolicyReport) : Nat := r.failed.length

/-- The record of a report. The time at which the run began is told if it is given; notes are told
if there are any. -/
def toJson (startedAt : Option String) (r : PolicyReport) : Json :=
  .record [("policy", Json.text r.policy), ("resource", Json.text r.resources.kind.name),
    ("dry_run", some (.bool r.isDryRun)), ("started_at", Json.optionalText startedAt),
    ("scanned", some (.int r.scanned)), ("matched", some (.int r.matched)),
    ("resources", some (.arr r.resources.toJsons)),
    ("annotations", if r.notes.isEmpty then none else some r.notes.toJson),
    ("actions", some (.arr (r.actions.map ActionReport.toJson)))]

end PolicyReport

/-- Why a policy cannot be carried through. -/
inductive RunError where
  /-- The resources cannot be listed. -/
  | listing (kind : ResourceKind) (e : TransportError)
  /-- The ports of groups cannot be listed. -/
  | portLookup (e : TransportError)
  /-- A filter of rules meets other resources. -/
  | needsRules (filter : String)
  /-- The filter of groups without ports meets other resources. -/
  | needsGroups
  /-- An action meets resources that it is not about. -/
  | actionUnavailable (action : String) (kind : ResourceKind)
deriving DecidableEq, Repr

namespace RunError

/-- What resources of a kind are called where they cannot be listed. -/
def listed : ResourceKind → String
  | .rule => "security group rules"
  | .group => "security groups"
  | .flowLog => "flow logs"
  | .port => "ports"

/-- What happened and why, the outermost cause first. -/
def causes : RunError → List String
  | .listing kind e => ["Failed to list " ++ listed kind, e.message]
  | .portLookup e => ["Failed to list ports for unattached filter", e.message]
  | .needsRules filter => ["Filter '" ++ filter ++ "' needs security group rules"]
  | .needsGroups => ["Filter 'unattached' needs security groups"]
  | .actionUnavailable action kind =>
    ["Action '" ++ action ++ "' is not available on " ++ kind.name]

end RunError

/-- The policy that could not be carried through, and why. -/
structure PolicyFailure where
  /-- The name of the policy. -/
  policy : String
  /-- Why it could not be carried through. -/
  error : RunError
deriving DecidableEq, Repr

/-- What happened and why, the outermost cause first. -/
def PolicyFailure.causes (f : PolicyFailure) : List String :=
  ("Policy '" ++ f.policy ++ "' failed") :: f.error.causes

end NetWarden
