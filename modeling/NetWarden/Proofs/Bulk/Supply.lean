import NetWarden.Bulk.FlowLogs
import NetWarden.Bulk.Groups
import NetWarden.Bulk.Rules
import NetWarden.Proofs.Bulk.Accounts
import NetWarden.Proofs.Bulk.Distinct
import NetWarden.Proofs.Store.Supply
import NetWarden.Proofs.Validation.Checked

/-!
# What actions take from the supply

Only two actions create resources, and what they tell as created is what they took ids for: **the
ids of the rules or flow logs told are the next ids of the supply, in the order in which they are
told** (`takes_addRules`, `takes_changeFlowLogs`). All others take none, whatever they find. What is
added belongs to one of the groups that were named (`groupId_of_mem_added`).
-/

namespace NetWarden

open Store StoreM

variable {α : Type}

/-! ### Outcomes -/

namespace Outcome

variable {ids : α → List String} (resourceId : String) (op : Operation)

theorem keeps_of {r : Store → Store → Prop} {call : Attempt α} (hcall : Keeps r call) :
    Keeps r (Outcome.of resourceId op call) := by
  intro s
  rw [Outcome.after_of]
  exact hcall s

theorem takes_of {call : Attempt α} (hcall : Takes (answeredIds ids) call) :
    Takes (answeredIds ids) (Outcome.of resourceId op call) := by
  intro s
  rw [Outcome.after_of, Outcome.result_of, answeredIds_mapError]
  exact hcall s

theorem flatMap_answeredIds (outcomes : List (Outcome α)) :
    outcomes.flatMap (answeredIds ids) = (outcomes.filterMap value?).flatMap ids := by
  induction outcomes with
  | nil => rfl
  | cons o outcomes ih =>
    rcases o with f | a
    · exact ih
    · exact congrArg (ids a ++ ·) ih

end Outcome

namespace Bulk

/-! ### Rules -/

theorem sameSupply_deleteRule (q : Rule) : Keeps SameSupply (deleteRule q) :=
  (Outcome.keeps_of q.id .deleteRule (Store.sameSupply_deleteRule q.id)).and_pure _

theorem sameSupply_deleteEach (rules : List Rule) : Keeps SameSupply (deleteEach rules) :=
  Keeps.mapM TakesIds.refl TakesIds.trans rules fun q _ ↦ sameSupply_deleteRule q

theorem sameSupply_deleteRules (rules : List Rule) : Keeps SameSupply (deleteRules rules) :=
  (sameSupply_deleteEach rules).and_pure _

theorem sameSupply_removeDirection (rules : List Rule) (plan : RemovalPlan) (d : Direction) :
    Keeps SameSupply (removeDirection rules plan d) := by
  rw [removeDirection]
  rcases plan.get d with - | removal
  · exact TakesIds.refl
  · have hlist : Keeps SameSupply (targets rules d removal) := fun s ↦
      (unchanged_targets rules d removal s).sameSupply
    refine hlist.bind TakesIds.trans fun found ↦ ?_
    exact (sameSupply_deleteEach found.2).and_pure _

theorem sameSupply_removeRules (rules : List Rule) (plan : RemovalPlan) :
    Keeps SameSupply (removeRules rules plan) :=
  (Keeps.mapM TakesIds.refl TakesIds.trans Direction.all fun d _ ↦
    sameSupply_removeDirection rules plan d).and_pure _

/-- **The rules that are added have the next ids**, in the order in which they are told. -/
theorem takes_addRules (groupIds : List String) (templates : RuleTemplates) :
    Takes (fun r ↦ r.succeeded.map Rule.id) (addRules groupIds templates) := by
  intro s
  rw [addRules]
  split
  · exact TakesIds.refl s
  · have hgroup : ∀ groupId, Takes (answeredIds (List.map Rule.id))
        (addToGroup templates.toList groupId) := fun groupId ↦
      Outcome.takes_of groupId .createRules (Store.takes_createRules groupId _)
    have h := Takes.mapM hgroup (distinctOn id [] groupIds) s
    rw [Outcome.flatMap_answeredIds, List.flatMap_def, ← List.map_flatten] at h
    exact h

/-- What is created in a group belongs to it. -/
theorem groupId_of_addToGroup_eq_ok {templates : List RuleTemplate} {groupId : String} {s : Store}
    {rules : List Rule} (h : (addToGroup templates groupId).result s = .ok rules) :
    ∀ q ∈ rules, q.groupId = groupId := by
  rw [addToGroup, Outcome.result_of, mapError_eq_ok_iff] at h
  obtain ⟨-, t, hact⟩ := act_of_result_attempt_eq_ok h
  cases hact
  intro q hq
  obtain ⟨p, -, rfl⟩ := List.mem_map.mp hq
  rfl

/-- **A rule that is added belongs to one of the groups.** -/
theorem groupId_of_mem_added {groupIds : List String} {templates : RuleTemplates} {s : Store}
    {q : Rule} (hq : q ∈ ((addRules groupIds templates).result s).succeeded) :
    q.groupId ∈ groupIds := by
  rw [addRules] at hq
  split at hq
  · exact absurd hq List.not_mem_nil
  · obtain ⟨rules, hrules, hq⟩ := List.mem_flatten.mp hq
    obtain ⟨outcome, houtcome, hvalue⟩ := List.mem_filterMap.mp hrules
    have hgroups : ∀ o ∈ ((distinctOn id [] groupIds).mapM (addToGroup templates.toList)).result s,
        ∀ rules, o = .ok rules → ∀ q ∈ rules, q.groupId ∈ groupIds :=
      forall_mem_result_mapM _ (fun groupId hgroup t rules hok q hq ↦ by
        rw [groupId_of_addToGroup_eq_ok hok q hq]
        exact (distinctOn_sublist id [] groupIds).subset hgroup) s
    exact hgroups outcome houtcome rules (Outcome.value?_eq_some_iff.mp hvalue) q hq

/-- **What is told as added comes before what is removed**, and only it takes ids. -/
theorem takes_setRules (rules : List Rule) (add : RuleTemplates) (plan : RemovalPlan) :
    Takes (fun r ↦ r.1.succeeded.map Rule.id) (setRules rules add plan) := by
  intro s
  have h := (takes_addRules (affectedGroups rules) add s).append
    (sameSupply_removeRules rules plan ((addRules (affectedGroups rules) add).after s))
  rw [List.append_nil] at h
  exact h

/-! ### Groups and flow logs -/

theorem sameSupply_deleteGroup (g : Group) : Keeps SameSupply (deleteGroup g) :=
  (Outcome.keeps_of g.id .deleteGroup (Store.sameSupply_deleteGroup g.id)).and_pure _

theorem sameSupply_deleteGroups (groups : List Group) : Keeps SameSupply (deleteGroups groups) :=
  (Keeps.mapM TakesIds.refl TakesIds.trans groups fun g _ ↦ sameSupply_deleteGroup g).and_pure _

theorem sameSupply_switchFlowLog (adminState : Bool) (f : FlowLog) :
    Keeps SameSupply (switchFlowLog adminState f) :=
  Outcome.keeps_of f.id .updateFlowLog (Store.sameSupply_updateFlowLog f.id adminState)

theorem sameSupply_deleteFlowLog (f : FlowLog) : Keeps SameSupply (deleteFlowLog f) :=
  (Outcome.keeps_of f.id .deleteFlowLog (Store.sameSupply_deleteFlowLog f.id)).and_pure _

theorem takes_createFlowLog (target : FlowLog) (template : FlowLogTemplate) :
    Takes (answeredIds fun f ↦ [f.id]) (createFlowLog target template) :=
  Outcome.takes_of target.resourceId .createFlowLog
    (Store.takes_createFlowLog target.resourceType target.resourceId template)

end Bulk

/-- The flow logs that a change is told to have created. -/
def FlowLogChange.created (r : BulkResult FlowLog) : FlowLogChange → List FlowLog
  | .create _ => r.succeeded
  | _ => []

theorem Bulk.takes_changeFlowLogs (flowLogs : List FlowLog) (change : FlowLogChange) :
    Takes (fun r ↦ (change.created r).map FlowLog.id) (changeFlowLogs flowLogs change) := by
  have hnone : ∀ (f : FlowLog → StoreM (Outcome FlowLog)), (∀ g, Keeps SameSupply (f g)) →
      Keeps SameSupply (flowLogs.mapM f) := fun f hf ↦
    Keeps.mapM TakesIds.refl TakesIds.trans flowLogs fun g _ ↦ hf g
  cases change with
  | enable => exact hnone _ (sameSupply_switchFlowLog true)
  | disable => exact hnone _ (sameSupply_switchFlowLog false)
  | delete => exact hnone _ sameSupply_deleteFlowLog
  | create templates =>
    intro s
    have h := Takes.mapM (fun p : FlowLog × FlowLogTemplate ↦ takes_createFlowLog p.1 p.2)
      ((flowLogTargets flowLogs).flatMap fun f ↦ templates.map (f, ·)) s
    rw [Outcome.flatMap_answeredIds, ← List.map_eq_flatMap] at h
    exact h

end NetWarden
