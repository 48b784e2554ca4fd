import NetWarden.Bulk.FlowLogs
import NetWarden.Bulk.Groups
import NetWarden.Bulk.Rules
import NetWarden.Proofs.Bulk.Outcomes
import NetWarden.Proofs.Store.Accounts

/-!
# What an action tells is what it did

The result of every action on resources is an account of it: **what is told as done, made again in
order, is what was done to the resources**. This asks nothing of the resources, of their ids or of
the faults. An outcome accounts for its call (`Outcome.accounts_of`), what failed accounts for
nothing (`changeEach_ok`), and looking up what to remove changes nothing (`unchanged_targets`).
-/

namespace NetWarden

open Inventory StoreM

variable {α : Type}

/-- The failures among outcomes account for nothing. -/
theorem changeEach_ok (redo : α → Inventory → Inventory) (outcomes : List (Outcome α))
    (i : Inventory) : changeEach (changeIfOk redo) outcomes i =
      changeEach redo (outcomes.filterMap Outcome.value?) i := by
  induction outcomes generalizing i with
  | nil => rfl
  | cons o outcomes ih =>
    rcases o with f | a
    · exact ih i
    · exact ih (redo a i)

theorem changeEach_errors (redo : α → Inventory → Inventory) (failed : List FailureRecord)
    (i : Inventory) : changeEach (changeIfOk redo) (failed.map .error) i = i := by
  induction failed with
  | nil => rfl
  | cons f failed ih => exact ih

namespace Outcome

variable {redo : α → Inventory → Inventory} (resourceId : String) (op : Operation)

theorem accounts_of {call : Attempt α} (hcall : Accounts (changeIfOk redo) call) :
    Accounts (changeIfOk redo) (Outcome.of resourceId op call) := by
  intro s
  rw [Outcome.after_of, Outcome.result_of, changeIfOk_mapError]
  exact hcall s

/-- A call that answers nothing is told as what it was made for. -/
theorem accounts_of_for {call : Attempt Unit} (a : α)
    (hcall : Accounts (changeIfOk fun _ ↦ redo a) call) :
    Accounts (changeIfOk redo) (do
      return (← Outcome.of resourceId op call).map fun _ ↦ a) := by
  intro s
  rw [result_bind, after_bind, result_pure, after_pure, changeIfOk_map]
  exact accounts_of resourceId op hcall s

end Outcome

namespace BulkResult

/-- What is told as done is done again, in order. -/
def redo (each : α → Inventory → Inventory) (r : BulkResult α) : Inventory → Inventory :=
  changeEach each r.succeeded

theorem redo_ofOutcomes (each : α → Inventory → Inventory) (outcomes : List (Outcome α))
    (i : Inventory) : redo each (ofOutcomes outcomes) i =
      changeEach (changeIfOk each) outcomes i :=
  (changeEach_ok each outcomes i).symm

/-- What is told as done accounts for as much as the outcomes. -/
theorem accounts_ofOutcomes {each : α → Inventory → Inventory} {x : StoreM (List (Outcome α))}
    (hx : Accounts (changeEach (changeIfOk each)) x) :
    Accounts (redo each) (do return ofOutcomes (← x)) := by
  intro s
  rw [result_bind, after_bind, result_pure, after_pure, redo_ofOutcomes]
  exact hx s

end BulkResult

namespace Bulk

/-! ### Rules -/

theorem accounts_deleteRule (r : Rule) :
    Accounts (changeIfOk dropRule) (deleteRule r) :=
  Outcome.accounts_of_for r.id .deleteRule r (Store.accounts_deleteRule r)

theorem accounts_deleteEach (rules : List Rule) :
    Accounts (changeEach (changeIfOk dropRule)) (deleteEach rules) :=
  Accounts.mapM accounts_deleteRule rules

theorem accounts_deleteRules (rules : List Rule) :
    Accounts (BulkResult.redo dropRule) (deleteRules rules) :=
  BulkResult.accounts_ofOutcomes (accounts_deleteEach rules)

theorem unchanged_listRules (d : Direction) (query : RuleQuery) :
    Keeps Store.Unchanged (listRules d query) := by
  intro s
  rw [listRules, Outcome.after_of]
  exact Store.unchanged_listRules query s

/-- Looking up what to remove changes nothing. -/
theorem unchanged_targets (rules : List Rule) (d : Direction) (removal : Removal) :
    Keeps Store.Unchanged (targets rules d removal) := by
  cases removal with
  | matched => exact .refl
  -- one listing, and the rules that it finds are looked at only afterwards
  | all =>
    rw [targets]
    split
    · exact .refl
    · intro s
      have h := unchanged_listRules d (.ofGroups (affectedGroups rules) d) s
      rw [after_bind]
      split <;> exact h
  -- one listing for each query, none of which changes anything
  | explicit queries =>
    rw [targets]
    split
    · exact .refl
    · exact (Keeps.mapM Store.Unchanged.refl Store.Unchanged.trans queries
        fun q _ ↦ unchanged_listRules d _).map found

theorem accounts_removeDirection (rules : List Rule) (plan : RemovalPlan) (d : Direction) :
    Accounts (changeEach (changeIfOk dropRule)) (removeDirection rules plan d) := by
  rw [removeDirection]
  rcases plan.get d with - | removal
  · exact fun s ↦ rfl
  · intro s
    have hdeleted := accounts_deleteEach ((targets rules d removal).result s).2
      ((targets rules d removal).after s)
    -- the listings that failed are told first, and account for nothing
    rw [(unchanged_targets rules d removal s).inventory] at hdeleted
    show (after (deleteEach _) _).inventory = changeEach _ (_ ++ _) _
    rw [changeEach_append, changeEach_errors]
    exact hdeleted

theorem accounts_removeRules (rules : List Rule) (plan : RemovalPlan) :
    Accounts (BulkResult.redo dropRule) (removeRules rules plan) := by
  intro s
  have h := Accounts.mapM (accounts_removeDirection rules plan) Direction.all s
  rw [← changeEach_flatten, ← BulkResult.redo_ofOutcomes] at h
  exact h

theorem accounts_addRules (groupIds : List String) (templates : RuleTemplates) :
    Accounts (fun r ↦ Inventory.addRules r.succeeded) (addRules groupIds templates) := by
  intro s
  rw [addRules]
  split
  · show s.inventory = s.inventory.addRules []
    rw [Inventory.addRules, List.append_nil]
  · have hgroup : ∀ groupId, Accounts (changeIfOk Inventory.addRules)
        (addToGroup templates.toList groupId) := fun groupId ↦
      Outcome.accounts_of groupId .createRules (Store.accounts_createRules groupId _)
    have h := Accounts.mapM hgroup (distinctOn id [] groupIds) s
    rw [changeEach_ok, changeEach_addRules] at h
    exact h

/-- What was added comes before what was removed. -/
theorem accounts_setRules (rules : List Rule) (add : RuleTemplates) (plan : RemovalPlan) :
    Accounts (fun r i ↦ r.2.redo dropRule (i.addRules r.1.succeeded))
      (setRules rules add plan) := by
  intro s
  have hremove := accounts_removeRules rules plan ((addRules (affectedGroups rules) add).after s)
  rw [accounts_addRules (affectedGroups rules) add s] at hremove
  exact hremove

/-! ### Groups and flow logs -/

theorem accounts_deleteGroup (g : Group) : Accounts (changeIfOk dropGroup) (deleteGroup g) :=
  Outcome.accounts_of_for g.id .deleteGroup g (Store.accounts_deleteGroup g)

theorem accounts_deleteGroups (groups : List Group) :
    Accounts (BulkResult.redo dropGroup) (deleteGroups groups) :=
  BulkResult.accounts_ofOutcomes (Accounts.mapM accounts_deleteGroup groups)

theorem accounts_switchFlowLog (adminState : Bool) (f : FlowLog) :
    Accounts (changeIfOk (Inventory.switchFlowLog adminState)) (switchFlowLog adminState f) :=
  Outcome.accounts_of f.id .updateFlowLog (Store.accounts_updateFlowLog f.id adminState)

theorem accounts_deleteFlowLog (f : FlowLog) :
    Accounts (changeIfOk dropFlowLog) (deleteFlowLog f) :=
  Outcome.accounts_of_for f.id .deleteFlowLog f (Store.accounts_deleteFlowLog f)

theorem accounts_createFlowLog (target : FlowLog) (template : FlowLogTemplate) :
    Accounts (changeIfOk fun f ↦ addFlowLogs [f]) (createFlowLog target template) :=
  Outcome.accounts_of target.resourceId .createFlowLog
    (Store.accounts_createFlowLog target.resourceType target.resourceId template)

end Bulk

/-- What is done again for the flow logs that a change is told to have worked for. -/
def FlowLogChange.redo (r : BulkResult FlowLog) : FlowLogChange → Inventory → Inventory
  | .enable => r.redo (switchFlowLog true)
  | .disable => r.redo (switchFlowLog false)
  | .delete => r.redo dropFlowLog
  | .create _ => addFlowLogs r.succeeded

theorem Bulk.accounts_changeFlowLogs (flowLogs : List FlowLog) (change : FlowLogChange) :
    Accounts (fun r ↦ change.redo r) (changeFlowLogs flowLogs change) := by
  cases change with
  | enable =>
    exact BulkResult.accounts_ofOutcomes (Accounts.mapM (accounts_switchFlowLog true) flowLogs)
  | disable =>
    exact BulkResult.accounts_ofOutcomes (Accounts.mapM (accounts_switchFlowLog false) flowLogs)
  | delete =>
    exact BulkResult.accounts_ofOutcomes (Accounts.mapM accounts_deleteFlowLog flowLogs)
  | create templates =>
    intro s
    have h := Accounts.mapM (fun p : FlowLog × FlowLogTemplate ↦ accounts_createFlowLog p.1 p.2)
      ((flowLogTargets flowLogs).flatMap fun f ↦ templates.map (f, ·)) s
    rw [changeEach_ok, changeEach_addFlowLogs] at h
    exact h

end NetWarden
