import NetWarden.Proofs.Bulk.Accounts
import NetWarden.Proofs.Run.Policies

/-!
# Replaying reports

The reports of a run say all that it changed: **replaying them in order over the resources at the
beginning gives the resources at the end** (`policies_replay`). A replay makes no call and knows no
fault. It reads what a report tells as done, and what failed replays as nothing.

One step of this is `Executes.inventory_eq`, by the accounts of the actions. Listings and filters
change nothing (`policy_of_ok`), so the reports of the actions are all that a policy has to tell,
and the rest is induction over actions and over policies. Ids may be doubled: a replay takes the
first record with an id, just as the store does.
-/

namespace NetWarden

open Inventory StoreM

/-! ### Replays -/

/-- The changes that a report of an action tells. -/
def ActionReport.replay : ActionReport → Inventory → Inventory
  | .deleteRules r => r.redo dropRule
  | .deleteGroups r => r.redo dropGroup
  | .removeRules r => r.redo dropRule
  | .setRules added removed => fun i ↦ removed.redo dropRule (i.addRules added.succeeded)
  | .setFlowLog change r =>
    if change = "enable" then r.redo (switchFlowLog true)
    else if change = "disable" then r.redo (switchFlowLog false)
    else if change = "delete" then r.redo dropFlowLog
    else if change = "create" then addFlowLogs r.succeeded
    else id

/-- The changes that a report of a policy tells, action after action. -/
def PolicyReport.replay (r : PolicyReport) : Inventory → Inventory :=
  changeEach ActionReport.replay r.actions

theorem ActionReport.replay_setFlowLog (change : FlowLogChange) (r : BulkResult FlowLog) :
    replay (.setFlowLog change.name r) = change.redo r := by
  cases change <;> rfl

namespace Run

/-! ### Actions -/

/-- **The report of an action tells all that it changed.** -/
theorem Executes.inventory_eq {resources : ResourceSet} {a : PolicyAction} {s t : Store}
    {report : ActionReport} (h : Executes s resources a report t) :
    t.inventory = report.replay s.inventory := by
  cases h with
  | deleteRules items => exact Bulk.accounts_deleteRules items s
  | deleteGroups items => exact Bulk.accounts_deleteGroups items s
  | removeRules items plan => exact Bulk.accounts_removeRules items plan s
  | setRules items add remove => exact Bulk.accounts_setRules items add remove s
  | setFlowLog items change =>
    rw [ActionReport.replay_setFlowLog]
    exact Bulk.accounts_changeFlowLogs items change s

theorem replay_perform {isDryRun : Bool} {actions : List PolicyAction} {resources : ResourceSet}
    {s : Store} {reports : List ActionReport}
    (h : result (perform isDryRun actions resources).run s = .ok reports) :
    (after (perform isDryRun actions resources).run s).inventory =
      changeEach ActionReport.replay reports s.inventory := by
  cases isDryRun with
  | true =>
    cases h
    rfl
  | false =>
    replace h : result (actions.mapM (execute resources)).run s = .ok reports := h
    show (after (actions.mapM (execute resources)).run s).inventory = _
    -- by induction over the actions, from any store that the ones before may have left
    induction actions generalizing s reports with
    | nil =>
      cases h
      rfl
    | cons a actions ih =>
      rw [List.mapM_cons] at h ⊢
      obtain ⟨report, hreport, h⟩ := result_run_bind_eq_ok_iff.mp h
      obtain ⟨rest, hrest, h⟩ := result_run_bind_eq_ok_iff.mp h
      cases h
      rw [after_run_bind_of_ok hreport, after_run_bind_of_ok hrest, changeEach_cons,
        ← (executes_of_ok hreport).inventory_eq]
      exact ih hrest

/-! ### Policies -/

/-- **The report of a policy tells all that its run changed.** -/
theorem replay_policy {isDryRun : Bool} {p : Policy} (hp : p.IsSupported) {s : Store}
    {report : PolicyReport} (h : result (policy isDryRun p).run s = .ok report) :
    (after (policy isDryRun p).run s).inventory = report.replay s.inventory := by
  obtain ⟨-, -, -, t, ht, hactions, hafter⟩ := policy_of_ok isDryRun hp h
  rw [hafter, replay_perform hactions, ht.inventory]
  rfl

/-- **The reports of a run tell all that it changed.** Replayed in order over the resources at the
beginning, they give the resources at the end, whatever calls failed on the way. -/
theorem policies_replay {ps : List Policy} (hps : ∀ p ∈ ps, ∃ d, Policy.ofDefinition d = .ok p)
    (isDryRun : Bool) (s : Store) {reports : List PolicyReport}
    (hrun : result (policies isDryRun ps).run s = .ok reports) :
    (after (policies isDryRun ps).run s).inventory =
      changeEach PolicyReport.replay reports s.inventory := by
  induction ps generalizing s reports with
  | nil =>
    cases hrun
    rfl
  | cons p ps ih =>
    obtain ⟨d, hd⟩ := hps p List.mem_cons_self
    rw [policies] at hrun ⊢
    obtain ⟨report, hreport, hrun⟩ := result_run_bind_eq_ok_iff.mp hrun
    obtain ⟨rest, hrest, hrun⟩ := result_run_bind_eq_ok_iff.mp hrun
    cases hrun
    rw [after_run_bind_of_ok hreport, after_run_bind_of_ok hrest, changeEach_cons]
    -- only the failure of a policy is told under its name; its report is the same
    have hpolicy : result (policy isDryRun p).run s = .ok report := mapError_eq_ok_iff.mp hreport
    rw [← replay_policy (Policy.isSupported_of_ofDefinition hd) hpolicy]
    exact ih (fun q hq ↦ hps q (List.mem_cons_of_mem _ hq)) _ hrest

/-! ### Doubled ids and faults

Two rules have one id, and so have two flow logs; what is held is one rule that was to go, and one
switch. -/

/-- Definitions of policies that add and remove rules, and switch flow logs off. -/
def replacingDefinitions : List PolicyDefinition :=
  [{ name := "replace"
     resource := "vpc-security-group-rule"
     actions := [.obj [("type", .str "set-rules"),
       ("add-egress", .arr [.obj [("protocol", .str "tcp")]]),
       ("remove-ingress", .str "matched")]] },
   { name := "quiet"
     resource := "vpc-flow-log"
     actions := [.obj [("type", .str "set-flow-log"), ("action", .str "disable")]] }]

/-- The policies of the definitions. -/
def replacingPolicies : List Policy :=
  replacingDefinitions.filterMap fun d ↦ (Policy.ofDefinition d).toOption

/-- A store with doubled ids, and two faults. -/
def doubledStore : Store where
  inventory := {
    rules := [{ id := "twice", groupId := "a", direction := .ingress },
      { id := "held", groupId := "a", direction := .ingress },
      { id := "twice", groupId := "b", direction := .egress }]
    flowLogs := [{ id := "log", resourceType := "port", resourceId := "p", adminState := true },
      { id := "log", resourceType := "port", resourceId := "q", adminState := true },
      { id := "stuck", resourceType := "port", resourceId := "r", adminState := true }] }
  faults := [⟨.deleteRule, "held", 500, "internal error"⟩,
    ⟨.updateFlowLog, "stuck", 409, "conflict"⟩]
  supply := ⟨fun _ ↦ "new", fun _ ↦ "req"⟩

theorem policies_replay_doubled :
    (∀ p ∈ replacingPolicies, ∃ d, Policy.ofDefinition d = .ok p) ∧
      ∃ reports, result (policies false replacingPolicies).run doubledStore = .ok reports ∧
        (changeEach PolicyReport.replay reports doubledStore.inventory).rules.map Rule.id =
          ["held", "twice", "new", "new"] ∧
        (changeEach PolicyReport.replay reports doubledStore.inventory).flowLogs.map
          FlowLog.adminState = [false, true, true] := by
  have haccepted : ∀ p ∈ replacingPolicies, ∃ d, Policy.ofDefinition d = .ok p := by
    intro p hp
    obtain ⟨d, -, hd⟩ := List.mem_filterMap.mp hp
    rcases h : Policy.ofDefinition d with e | q
    · rw [h] at hd
      cases hd
    · rw [h] at hd
      cases hd
      exact ⟨d, h⟩
  refine ⟨haccepted, ?_⟩
  -- the run succeeds; what its reports tell is then read off the store
  have hok : (result (policies false replacingPolicies).run doubledStore).isOk = true := by
    decide +kernel
  rcases hrun : result (policies false replacingPolicies).run doubledStore with e | reports
  · rw [hrun] at hok
    cases hok
  · refine ⟨reports, rfl, ?_⟩
    rw [← policies_replay haccepted false doubledStore hrun]
    exact ⟨by decide +kernel, by decide +kernel⟩

end Run

end NetWarden
