import NetWarden.Bulk.Outcome

/-!
# Changing flow logs

What an action does to the flow logs it is given: it switches them on or off, deletes them, or
creates new ones for their targets. Each target gets one flow log for each template, however many of
the given flow logs it has; the kind of a target is the one that the first of them states.
-/

namespace NetWarden

/-- What is done to flow logs. -/
inductive FlowLogChange where
  /-- They are switched on. -/
  | enable
  /-- They are switched off. -/
  | disable
  /-- They are deleted. -/
  | delete
  /-- New ones are created for their targets. -/
  | create (templates : List FlowLogTemplate)
deriving DecidableEq, Repr

/-- The name of what is done. -/
def FlowLogChange.name : FlowLogChange → String
  | .enable => "enable"
  | .disable => "disable"
  | .delete => "delete"
  | .create _ => "create"

namespace Bulk

/-- Switches a flow log on or off; the outcome is the flow log after it. -/
def switchFlowLog (adminState : Bool) (f : FlowLog) : StoreM (Outcome FlowLog) :=
  Outcome.of f.id .updateFlowLog (Store.updateFlowLog f.id adminState)

/-- Deletes a flow log. -/
def deleteFlowLog (f : FlowLog) : StoreM (Outcome FlowLog) := do
  return (← Outcome.of f.id .deleteFlowLog (Store.deleteFlowLog f.id)).map fun _ ↦ f

/-- The flow logs with the first of each target. -/
def flowLogTargets (flowLogs : List FlowLog) : List FlowLog :=
  distinctOn FlowLog.resourceId [] flowLogs

/-- Creates a flow log for the target of another one. -/
def createFlowLog (target : FlowLog) (template : FlowLogTemplate) : StoreM (Outcome FlowLog) :=
  Outcome.of target.resourceId .createFlowLog
    (Store.createFlowLog target.resourceType target.resourceId template)

/-- Changes flow logs. -/
def changeFlowLogs (flowLogs : List FlowLog) (change : FlowLogChange) :
    StoreM (BulkResult FlowLog) := do
  let outcomes ← match change with
    | .enable => flowLogs.mapM (switchFlowLog true)
    | .disable => flowLogs.mapM (switchFlowLog false)
    | .delete => flowLogs.mapM deleteFlowLog
    | .create templates =>
      ((flowLogTargets flowLogs).flatMap fun f ↦ templates.map (f, ·)).mapM fun p ↦
        createFlowLog p.1 p.2
  return .ofOutcomes outcomes

end Bulk

end NetWarden
