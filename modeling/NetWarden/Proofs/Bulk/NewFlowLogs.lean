import Mathlib.Data.List.ProdSigma
import NetWarden.Proofs.Bulk.Additions

/-!
# What creating flow logs does

Flow logs are created for targets, and the targets are those of flow logs that are there. Many of
them may have one target: **each target counts once**, where its id stands first, and its kind is
what the first flow log with that id states (`Bulk.firstOfTargets`). For each target one call is
made for each template. Like an addition of rules, such a call is held by a fault or by nothing, so
`Serves` says all of it.

`Bulk.createFlowLogs_effect` is the exact effect: which calls are made, which flow logs come of them
and what they state, which failures are told, and the store that is left. What a flow log states of
its template is written out field by field (`FlowLogTemplate.Makes`). A template may also name the
kind of store that is to keep the logs, which no flow log states.
-/

namespace NetWarden

open Inventory Store StoreM

/-- A flow log is what a template asks for, for a target. -/
structure FlowLogTemplate.Makes (t : FlowLogTemplate) (resourceType resourceId : String)
    (f : FlowLog) : Prop where
  /-- The kind of the target. -/
  resourceType : f.resourceType = resourceType
  /-- The id of the target. -/
  resourceId : f.resourceId = resourceId
  /-- It is switched on. -/
  adminState : f.adminState = true
  /-- It works from the beginning. -/
  status : f.status = some "ACTIVE"
  /-- Without a name it is named after the first eight characters of its own id. -/
  name : f.name = t.name.getD ("flowlog-" ++ String.ofList (f.id.toList.take 8))
  /-- All traffic is recorded where nothing else is asked for. -/
  trafficType : f.trafficType = t.trafficType.getD "all"
  /-- The group of logs. -/
  logGroupId : f.logGroupId = t.logGroupId
  /-- The topic. -/
  logTopicId : f.logTopicId = t.logTopicId
  /-- The description. -/
  description : f.description = t.description

theorem FlowLogTemplate.makes_toFlowLog (t : FlowLogTemplate)
    (id resourceType resourceId : String) :
    t.Makes resourceType resourceId (t.toFlowLog id resourceType resourceId) := by
  constructor <;> rfl

namespace Store

variable (s : Store)

/-- Whether no fault stands in the way of creating flow logs for a target. -/
def canRecord (resourceId : String) : Bool :=
  s.faults.all fun f ↦ f.operation != .createFlowLog || f.key != resourceId && f.key != Call.anyKey

theorem permits_createFlowLog (resourceType resourceId : String) (template : FlowLogTemplate) :
    s.permits (.createFlowLog resourceType resourceId template) = s.canRecord resourceId :=
  s.permits_eq_all _

end Store

/-! ### Calls that only a fault can hold -/

namespace Serves

variable {α β : Type} {call : α → String × Call} {made : α → β → Prop} {s t : Store} {as : List α}
  {outcomes : List (Outcome β)}

/-- The failures are put down to what a fault held the calls for. -/
theorem resourceIds_failed (h : Serves call made s t as outcomes) :
    (outcomes.filterMap Outcome.failure?).map FailureRecord.resourceId =
      (as.filter fun a ↦ !s.permits (call a).2).map fun a ↦ (call a).1 := by
  rw [h.failed, resourceIds_faultRecords, List.filter_map, List.map_map]
  rfl

/-- **Each thing is told once**, as made or as failed. -/
theorem length_outcomes (h : Serves call made s t as outcomes) :
    (outcomes.filterMap Outcome.value?).length + (outcomes.filterMap Outcome.failure?).length =
      as.length := by
  have hfailed := congrArg List.length h.resourceIds_failed
  rw [List.length_map, List.length_map] at hfailed
  rw [← h.succeeded.length_eq, hfailed]
  exact (List.length_eq_length_filter_add _).symm

end Serves

namespace Bulk

/-! ### Targets -/

/-- For each target, where its id stands first, the first flow log that has it. -/
def firstOfTargets (flowLogs : List FlowLog) : List FlowLog :=
  (flowLogs.map FlowLog.resourceId).eraseDups.filterMap fun id ↦
    flowLogs.find? fun f ↦ f.resourceId == id

theorem flowLogTargets_eq (flowLogs : List FlowLog) :
    flowLogTargets flowLogs = firstOfTargets flowLogs :=
  distinctOn_eq_filterMap FlowLog.resourceId flowLogs

/-- There are as many as there are targets. -/
theorem length_firstOfTargets (flowLogs : List FlowLog) :
    (firstOfTargets flowLogs).length = (flowLogs.map FlowLog.resourceId).eraseDups.length := by
  rw [← flowLogTargets_eq, ← distinctOn_id_eq_eraseDups, ← map_distinctOn, List.length_map,
    flowLogTargets]

/-! ### Calls -/

/-- The call that creates a flow log for a target, put down to the target. -/
def recording (p : FlowLog × FlowLogTemplate) : String × Call :=
  (p.1.resourceId, .createFlowLog p.1.resourceType p.1.resourceId p.2)

theorem serves_createFlowLog (p : FlowLog × FlowLogTemplate) (s : Store) :
    Serves recording (fun p f ↦ p.2.Makes p.1.resourceType p.1.resourceId f) s
      ((createFlowLog p.1 p.2).after s) [p] [(createFlowLog p.1 p.2).result s] :=
  Serves.attempt p (fun _ ↦ ⟨_, p.2.makes_toFlowLog _ _ _, _, _, rfl⟩) s

/-- **Creating flow logs is one call for each target with each template.** -/
theorem exists_serves_createFlowLogs (flowLogs : List FlowLog) (templates : List FlowLogTemplate)
    (s : Store) : ∃ outcomes,
      (changeFlowLogs flowLogs (.create templates)).result s = .ofOutcomes outcomes ∧
        Serves recording (fun p f ↦ p.2.Makes p.1.resourceType p.1.resourceId f) s
          ((changeFlowLogs flowLogs (.create templates)).after s)
          ((firstOfTargets flowLogs).product templates) outcomes := by
  rw [← flowLogTargets_eq]
  exact ⟨_, rfl, Serves.mapM serves_createFlowLog _ s⟩

/-- Without flow logs to begin with or without templates, no call is made. -/
theorem changeFlowLogs_create_of_eq_nil {flowLogs : List FlowLog}
    {templates : List FlowLogTemplate} (h : flowLogs = [] ∨ templates = []) :
    changeFlowLogs flowLogs (.create templates) = pure .none := by
  have hpairs : ((flowLogTargets flowLogs).flatMap fun f ↦ templates.map (f, ·)) = [] := by
    rcases h with rfl | rfl
    · rfl
    · exact List.product_nil _
  rw [changeFlowLogs, hpairs]
  rfl

/-- **What creating flow logs does.** One call is made for each target with each template: the
targets in the order in which their ids stand first, with the kind that the first flow log of each
states, and the templates in their order. Each call that no fault holds makes one flow log, for its
target and as its template asks, with the next id of the supply; of each other call one failure is
told, put down to the target. So there is one or the other for each pair. The flow logs that are
told are put after those that were there, and nothing else is changed. Where there are no flow logs
to begin with or no templates, nothing is done. -/
theorem createFlowLogs_effect (s : Store) (flowLogs : List FlowLog)
    (templates : List FlowLogTemplate) :
    let r := (changeFlowLogs flowLogs (.create templates)).result s
    let t := (changeFlowLogs flowLogs (.create templates)).after s
    let pairs := (firstOfTargets flowLogs).product templates
    let held := fun p : FlowLog × FlowLogTemplate ↦ !s.canRecord p.1.resourceId
    t.log.map CallRecord.call = s.log.map CallRecord.call ++
        pairs.map (fun p ↦ .createFlowLog p.1.resourceType p.1.resourceId p.2) ∧
      List.Forall₂ (fun p f ↦ p.2.Makes p.1.resourceType p.1.resourceId f)
        (pairs.filter fun p ↦ !held p) r.succeeded ∧
      r.succeeded.map FlowLog.id = s.nextIds r.succeeded.length ∧
      r.failed = s.faultRecords s.failures (pairs.map recording) ∧
      r.failed.map FailureRecord.resourceId = (pairs.filter held).map (fun p ↦ p.1.resourceId) ∧
      r.succeeded.length + r.failed.length =
        (flowLogs.map FlowLog.resourceId).eraseDups.length * templates.length ∧
      t.inventory = { s.inventory with flowLogs := s.inventory.flowLogs ++ r.succeeded } ∧
      SameSetting s t ∧
      (flowLogs = [] ∨ templates = [] → r = .none ∧ t = s) := by
  intro r t pairs held
  obtain ⟨outcomes, hr, hserves⟩ := exists_serves_createFlowLogs flowLogs templates s
  -- the outcomes of the calls are what the report has, parted into the two lists
  have hvalues : outcomes.filterMap Outcome.value? = r.succeeded :=
    congrArg BulkResult.succeeded hr.symm
  have hfailures : outcomes.filterMap Outcome.failure? = r.failed :=
    congrArg BulkResult.failed hr.symm
  have hheld (p : FlowLog × FlowLogTemplate) : s.permits (recording p).2 = !held p := by
    rw [Bool.not_not]
    exact s.permits_createFlowLog p.1.resourceType p.1.resourceId p.2
  -- what `Serves` says of the pairs, with what holds a call written as a test of its target
  have hsucceeded := hserves.succeeded
  have hids := hserves.resourceIds_failed
  have hlength := hserves.length_outcomes.trans (List.length_product _ _)
  simp only [hheld, hvalues] at hsucceeded
  simp only [hheld, Bool.not_not, hfailures] at hids
  rw [hvalues, hfailures, length_firstOfTargets] at hlength
  refine ⟨?_, hsucceeded, (takes_changeFlowLogs flowLogs (.create templates) s).ids_eq.trans ?_,
    hfailures.symm.trans hserves.failed, hids, hlength,
    accounts_changeFlowLogs flowLogs (.create templates) s, hserves.toSameSetting, fun hnone ↦ ?_⟩
  · rw [hserves.calls]
    rfl
  · rw [List.length_map]
    rfl
  · -- without targets or templates there is no call at all
    have hcreate := changeFlowLogs_create_of_eq_nil hnone
    exact ⟨congrArg (fun x ↦ result x s) hcreate, congrArg (fun x ↦ after x s) hcreate⟩

end Bulk

end NetWarden
