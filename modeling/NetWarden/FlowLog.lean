import NetWarden.Validation

/-!
# Flow logs

A flow log records the traffic of a target: a port, a network or everything. It can be switched off
without being deleted. A new one is made from a template, which never says what is to be logged: the
target comes from the flow logs that an action is given.
-/

namespace NetWarden

/-- A flow log. -/
structure FlowLog where
  /-- The flow log's id. -/
  id : String
  /-- The flow log's name. -/
  name : String := ""
  /-- The kind of its target. -/
  resourceType : String
  /-- The id of its target. -/
  resourceId : String
  /-- Which traffic is recorded. -/
  trafficType : String := "all"
  /-- Whether it is switched on. -/
  adminState : Bool := false
  /-- What the store says of its state. -/
  status : Option String := none
  /-- The group of logs that it writes to. -/
  logGroupId : Option String := none
  /-- The topic that it writes to. -/
  logTopicId : Option String := none
  /-- What people wrote about it. -/
  description : Option String := none
deriving DecidableEq, Repr, Inhabited

namespace FlowLog

/-- The traffic that is recorded if nothing else is said. -/
def allTraffic : String := "all"

/-- The fields of a flow log's record. -/
def fieldNames : List String :=
  ["id", "name", "resource_type", "resource_id", "traffic_type", "admin_state", "status",
    "log_group_id", "log_topic_id", "description"]

/-- The record of a flow log. -/
def toJson (f : FlowLog) : Json :=
  .record [("id", Json.text f.id), ("name", Json.text f.name),
    ("resource_type", Json.text f.resourceType), ("resource_id", Json.text f.resourceId),
    ("traffic_type", Json.text f.trafficType), ("admin_state", some (.bool f.adminState)),
    ("status", Json.optionalText f.status), ("log_group_id", Json.optionalText f.logGroupId),
    ("log_topic_id", Json.optionalText f.logTopicId),
    ("description", Json.optionalText f.description)]

/-- The flow log of a record. -/
def read? {σ : Type} [Source σ] (s : σ) : Option FlowLog := do
  let f ← Source.fields? fieldNames s
  return {
    id := ← f.required "id"
    name := ← f.defaulted "name" ""
    resourceType := ← f.required "resource_type"
    resourceId := ← f.required "resource_id"
    trafficType := ← f.defaulted "traffic_type" allTraffic
    adminState := ← f.defaulted "admin_state" false
    status := ← f.optional "status"
    logGroupId := ← f.optional "log_group_id"
    logTopicId := ← f.optional "log_topic_id"
    description := ← f.optional "description" }

instance : Readable FlowLog := ⟨read?⟩

end FlowLog

/-- What a new flow log is to state. -/
structure FlowLogTemplate where
  /-- The flow log's name. -/
  name : Option String := none
  /-- What people wrote about it. -/
  description : Option String := none
  /-- Which traffic is recorded. -/
  trafficType : Option String := none
  /-- The group of logs that it writes to. -/
  logGroupId : Option String := none
  /-- The topic that it writes to. -/
  logTopicId : Option String := none
  /-- The kind of store that keeps its logs. -/
  logStoreType : Option String := none
deriving DecidableEq, Repr, Inhabited

namespace FlowLogTemplate

/-- The attributes that a template takes, which are the fields of its record. -/
def attributes : List String :=
  ["name", "description", "traffic_type", "log_group_id", "log_topic_id", "log_store_type"]

/-- The kinds of traffic that can be recorded. -/
def checkTraffic (key : String) (v : Json) : Checked String := do
  let s ← Checked.text key v
  if [FlowLog.allTraffic, "accept", "reject"].contains s then return s
  else throw (.invalidValue key .traffic)

/-- The template that attributes give. -/
def ofAttributes (b : Block) : Checked FlowLogTemplate := do
  Block.allowOnly b attributes .newFlowLog
  let description ← Block.optional b "description" Checked.text
  let logGroupId ← Block.optional b "log_group_id" Checked.text
  let logStoreType ← Block.optional b "log_store_type" Checked.text
  let logTopicId ← Block.optional b "log_topic_id" Checked.text
  let name ← Block.optional b "name" Checked.text
  let trafficType ← Block.optional b "traffic_type" checkTraffic
  return { name, description, trafficType, logGroupId, logTopicId, logStoreType }

/-- The record of a template. -/
def toJson (t : FlowLogTemplate) : Json :=
  .record [("name", Json.optionalText t.name), ("description", Json.optionalText t.description),
    ("traffic_type", Json.optionalText t.trafficType),
    ("log_group_id", Json.optionalText t.logGroupId),
    ("log_topic_id", Json.optionalText t.logTopicId),
    ("log_store_type", Json.optionalText t.logStoreType)]

/-- The template of a record. -/
def read? {σ : Type} [Source σ] (s : σ) : Option FlowLogTemplate := do
  let f ← Source.fields? attributes s
  return {
    name := ← f.optional "name"
    description := ← f.optional "description"
    trafficType := ← f.optional "traffic_type"
    logGroupId := ← f.optional "log_group_id"
    logTopicId := ← f.optional "log_topic_id"
    logStoreType := ← f.optional "log_store_type" }

instance : Readable FlowLogTemplate := ⟨read?⟩

/-- The flow log that a template makes for a target. It is switched on, records all traffic if the
template says nothing else, and without a name is named after the first eight characters of its
id. -/
def toFlowLog (t : FlowLogTemplate) (id resourceType resourceId : String) : FlowLog where
  id := id
  name := t.name.getD ("flowlog-" ++ String.ofList (id.toList.take 8))
  resourceType := resourceType
  resourceId := resourceId
  trafficType := t.trafficType.getD FlowLog.allTraffic
  adminState := true
  status := some "ACTIVE"
  logGroupId := t.logGroupId
  logTopicId := t.logTopicId
  description := t.description

end FlowLogTemplate

end NetWarden
