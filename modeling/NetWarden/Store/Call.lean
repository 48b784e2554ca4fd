import NetWarden.FlowLog
import NetWarden.RuleQuery
import NetWarden.RuleTemplate

/-!
# Calls to the store

What a store of network resources can be asked to do, and how such a call fails. A call is addressed
by its operation and a *key*, which names what it is about: the rule, group or flow log it changes,
the target of a new flow log, or the direction of the rules it lists. A call that is about no one
thing has the key that stands for any.
-/

namespace NetWarden

/-- The operations of a store. -/
inductive Operation where
  /-- Lists rules. -/
  | listRules
  /-- Deletes a rule. -/
  | deleteRule
  /-- Creates rules in a group. -/
  | createRules
  /-- Lists the groups. -/
  | listGroups
  /-- Deletes a group with its rules. -/
  | deleteGroup
  /-- Lists network ports. -/
  | listPorts
  /-- Lists the flow logs. -/
  | listFlowLogs
  /-- Switches a flow log on or off. -/
  | updateFlowLog
  /-- Deletes a flow log. -/
  | deleteFlowLog
  /-- Creates a flow log. -/
  | createFlowLog
deriving DecidableEq, Repr, Inhabited

namespace Operation

/-- All operations. -/
def all : List Operation :=
  [.listRules, .deleteRule, .createRules, .listGroups, .deleteGroup, .listPorts, .listFlowLogs,
    .updateFlowLog, .deleteFlowLog, .createFlowLog]

/-- The name of an operation. -/
def name : Operation → String
  | .listRules => "list_rules"
  | .deleteRule => "delete_rule"
  | .createRules => "batch_create_rules"
  | .listGroups => "list_security_groups"
  | .deleteGroup => "delete_security_group"
  | .listPorts => "list_ports"
  | .listFlowLogs => "list_flow_logs"
  | .updateFlowLog => "update_flow_log"
  | .deleteFlowLog => "delete_flow_log"
  | .createFlowLog => "create_flow_log"

/-- The operation with a name. -/
def named? (s : String) : Option Operation := all.find? fun op ↦ op.name == s

instance : Readable Operation := ⟨Readable.choice? named?⟩

end Operation

/-- A status code of a failed call. -/
abbrev StatusCode := UInt16

instance : Readable StatusCode := ⟨fun s ↦ do
  let n ← Source.int64? s
  if 0 ≤ n.toInt ∧ n.toInt ≤ 65535 then some (UInt16.ofNat n.toInt.toNat) else none⟩

/-- Why a call failed. -/
structure TransportError where
  /-- The status code. -/
  status : StatusCode
  /-- The id by which the store knows the call. -/
  requestId : String
  /-- What the store says about it. -/
  reason : String
deriving DecidableEq, Repr, Inhabited

namespace TransportError

/-- Why a call failed, in words. -/
def message (e : TransportError) : String :=
  "[" ++ Text.digits e.status.toNat ++ "] " ++ e.reason ++ " (RequestId: " ++ e.requestId ++ ")"

/-- The fields of a failure's record. -/
def fieldNames : List String := ["status_code", "request_id", "message"]

/-- The record of a failure. -/
def toJson (e : TransportError) : Json :=
  .obj [("status_code", .int e.status.toNat), ("request_id", .str e.requestId),
    ("message", .str e.reason)]

/-- The failure of a record. -/
def read? {σ : Type} [Source σ] (s : σ) : Option TransportError := do
  let f ← Source.fields? fieldNames s
  return {
    status := ← f.required "status_code"
    requestId := ← f.required "request_id"
    reason := ← f.required "message" }

instance : Readable TransportError := ⟨read?⟩

end TransportError

/-- A call to a store. -/
inductive Call where
  /-- Lists the rules that a query selects. -/
  | listRules (query : RuleQuery)
  /-- Deletes the first rule with an id. -/
  | deleteRule (id : String)
  /-- Creates a rule for each template in a group. -/
  | createRules (groupId : String) (templates : List RuleTemplate)
  /-- Lists all groups. -/
  | listGroups
  /-- Deletes the first group with an id, and all rules of it. -/
  | deleteGroup (id : String)
  /-- Lists the ports that are bound to one of these groups. -/
  | listPorts (groupIds : List String)
  /-- Lists all ports. -/
  | listAllPorts
  /-- Lists all flow logs. -/
  | listFlowLogs
  /-- Switches the first flow log with an id on or off. -/
  | updateFlowLog (id : String) (adminState : Bool)
  /-- Deletes the first flow log with an id. -/
  | deleteFlowLog (id : String)
  /-- Creates a flow log for a target. -/
  | createFlowLog (resourceType resourceId : String) (template : FlowLogTemplate)
deriving DecidableEq, Repr

namespace Call

/-- The key that stands for any. -/
def anyKey : String := "*"

/-- The operation of a call. -/
def operation : Call → Operation
  | .listRules _ => .listRules
  | .deleteRule _ => .deleteRule
  | .createRules .. => .createRules
  | .listGroups => .listGroups
  | .deleteGroup _ => .deleteGroup
  | .listPorts _ => .listPorts
  | .listAllPorts => .listPorts
  | .listFlowLogs => .listFlowLogs
  | .updateFlowLog .. => .updateFlowLog
  | .deleteFlowLog _ => .deleteFlowLog
  | .createFlowLog .. => .createFlowLog

/-- The key of a call. -/
def key : Call → String
  | .listRules query =>
    match query.direction with
    | some d => d.name
    | none => anyKey
  | .deleteRule id => id
  | .createRules groupId _ => groupId
  | .deleteGroup id => id
  | .updateFlowLog id _ => id
  | .deleteFlowLog id => id
  | .createFlowLog _ resourceId _ => resourceId
  | _ => anyKey

/-- What the store says if there is nothing with the id that a call names. -/
def notFound (c : Call) : String :=
  let kind := match c with
    | .deleteRule _ => "Security group rule"
    | .deleteGroup _ => "Security group"
    | _ => "Flow log"
  kind ++ " " ++ c.key ++ " could not be found"

end Call

/-- A call that was made, and how it failed if it did. -/
structure CallRecord where
  /-- The call. -/
  call : Call
  /-- How it failed. -/
  failure : Option TransportError
deriving DecidableEq, Repr

end NetWarden
