import NetWarden.Proofs.Bulk.Reach
import NetWarden.Proofs.Run.Replay

/-!
# What an action on rules can do

`RuleChange` is everything that is needed of an action on rules, whichever it is: it adds some rules
at the end, takes away others one by one, and tells both. **What it adds and what it takes away
belongs to the groups of the rules it is given**; what it takes away was given, or was in the store
with what was just added; and what it adds has the next ids of the supply. This asks nothing of the
ids and of the faults, and the rules may be stale. `Executes.ruleChange` shows it once for all
actions, and whoever follows the store through a run need not look at them again.

Given nothing, an action makes no call, and its report is empty (`execute_of_size_eq_zero`).
-/

namespace NetWarden

open Inventory Store StoreM

/-- Nothing was done, and nothing failed. -/
def BulkResult.isEmpty {α : Type} (r : BulkResult α) : Bool :=
  r.succeeded.isEmpty && r.failed.isEmpty

namespace ActionReport

/-- The rules that a report tells as added. -/
def addedRules : ActionReport → List Rule
  | .setRules added _ => added.succeeded
  | _ => []

/-- The rules that a report tells as taken away. -/
def removedRules : ActionReport → List Rule
  | .deleteRules r => r.succeeded
  | .removeRules r => r.succeeded
  | .setRules _ removed => removed.succeeded
  | _ => []

/-- Whether a report tells nothing. -/
def isEmpty : ActionReport → Bool
  | .deleteRules r => r.isEmpty
  | .deleteGroups r => r.isEmpty
  | .removeRules r => r.isEmpty
  | .setRules added removed => added.isEmpty && removed.isEmpty
  | .setFlowLog _ r => r.isEmpty

end ActionReport

/-! ### Actions on nothing -/

namespace Bulk

theorem removeRules_nil (plan : RemovalPlan) : removeRules [] plan = pure .none := by
  have hdirection : ∀ d, removeDirection [] plan d = pure [] := by
    intro d
    rw [removeDirection]
    rcases plan.get d with - | removal
    · rfl
    · cases removal <;> rfl
  rw [removeRules]
  simp only [Direction.all, List.mapM_cons, List.mapM_nil, hdirection, pure_bind]
  rfl

theorem addRules_nil (templates : RuleTemplates) : addRules [] templates = pure .none := by
  rw [addRules]
  split <;> rfl

end Bulk

namespace Run

/-- **Given nothing, an action makes no call and has nothing to tell.** -/
theorem execute_of_size_eq_zero {resources : ResourceSet} (hsize : resources.size = 0)
    {a : PolicyAction} (ha : a.supports resources.kind = true) :
    ∃ report, execute resources a = pure report ∧ report.isEmpty = true := by
  cases resources with
  | rules items =>
    obtain rfl := List.length_eq_zero_iff.mp hsize
    cases a with
    | delete => exact ⟨.deleteRules .none, rfl, rfl⟩
    | removeRules plan =>
      rw [execute, Bulk.removeRules_nil]
      exact ⟨.removeRules .none, rfl, rfl⟩
    -- no rules have no groups, and nothing is added to none
    | setRules add plan =>
      rw [execute, Bulk.setRules]
      have hgroups : affectedGroups [] = [] := rfl
      rw [hgroups, Bulk.addRules_nil, Bulk.removeRules_nil]
      exact ⟨.setRules .none .none, rfl, rfl⟩
    | setFlowLog change => cases ha
  | groups items =>
    obtain rfl := List.length_eq_zero_iff.mp hsize
    cases a with
    | delete => exact ⟨.deleteGroups .none, rfl, rfl⟩
    | _ => cases ha
  | flowLogs items =>
    obtain rfl := List.length_eq_zero_iff.mp hsize
    cases a with
    | setFlowLog change => cases change <;> exact ⟨.setFlowLog _ .none, rfl, rfl⟩
    | _ => cases ha
  | ports items => cases a <;> cases ha

theorem isEmpty_of_execute_nil {a : PolicyAction} {s : Store} {report : ActionReport}
    (h : result (execute (.rules []) a).run s = .ok report) : report.isEmpty = true := by
  rcases ha : a.supports .rule with - | -
  · cases a with
    | setFlowLog change => cases h
    | _ => cases ha
  · have hnothing : (ResourceSet.rules []).size = 0 := rfl
    obtain ⟨nothing, hexecute, hempty⟩ := execute_of_size_eq_zero hnothing ha
    rw [hexecute] at h
    cases h
    exact hempty

end Run

/-! ### Actions on rules -/

namespace Run

variable {rules : List Rule} {a : PolicyAction} {s t : Store} {report : ActionReport}

/-- What a report tells is a change of the rules in the groups of some rules. -/
structure RuleChange (rules : List Rule) (s t : Store) (report : ActionReport) : Prop where
  /-- Rules are added, and rules are taken away. -/
  inventory : t.inventory =
    changeEach dropRule report.removedRules (s.inventory.addRules report.addedRules)
  /-- The rules that are added have the next ids. -/
  takes : s.TakesIds t (report.addedRules.map Rule.id)
  /-- Rules are added to the groups. -/
  added : ∀ r ∈ report.addedRules, ∃ q ∈ rules, q.groupId = r.groupId
  /-- What is taken away was given or is there, and belongs to one of the groups. -/
  removed : ∀ r ∈ report.removedRules,
    (r ∈ rules ∨ r ∈ s.inventory.rules ++ report.addedRules) ∧ ∃ q ∈ rules, q.groupId = r.groupId

/-- A removal takes away what it was given or what it finds in the groups of that. -/
theorem group_of_mem_removed {plan : RemovalPlan} {r : Rule}
    (h : r ∈ ((Bulk.removeRules rules plan).result s).succeeded) :
    (r ∈ rules ∨ r ∈ s.inventory.rules) ∧ ∃ q ∈ rules, q.groupId = r.groupId := by
  rcases (Bulk.of_mem_removed h).1 with hr | ⟨hr, d, hfinds⟩
  · exact ⟨.inl hr, r, hr, rfl⟩
  · obtain ⟨q, hq, hfound⟩ := List.any_eq_true.mp hfinds
    exact ⟨.inr hr, exists_group_of_selects hq (Bool.and_eq_true_iff.mp hfound).2⟩

/-- **Every action on rules is a change in their groups.** -/
theorem Executes.ruleChange (h : Executes s (.rules rules) a report t) :
    RuleChange rules s t report := by
  cases h with
  | deleteRules =>
    refine ⟨?_, Bulk.sameSupply_deleteRules rules s, fun r hr ↦ absurd hr List.not_mem_nil,
      fun r hr ↦ ?_⟩
    · -- nothing is added before
      have h := Bulk.accounts_deleteRules rules s
      rwa [← s.inventory.addRules_nil] at h
    · have hr := (Bulk.mem_of_ok_mem_deleteEach (Outcome.mem_values_iff.mp hr)).1
      exact ⟨.inl hr, r, hr, rfl⟩
  | removeRules _ plan =>
    refine ⟨?_, Bulk.sameSupply_removeRules rules plan s,
      fun r hr ↦ absurd hr List.not_mem_nil, fun r hr ↦ ?_⟩
    · have h := Bulk.accounts_removeRules rules plan s
      rwa [← s.inventory.addRules_nil] at h
    · exact ⟨(group_of_mem_removed hr).1.imp_right (List.mem_append_left _),
        (group_of_mem_removed hr).2⟩
  | setRules _ add plan =>
    refine ⟨Bulk.accounts_setRules rules add plan s, Bulk.takes_setRules rules add plan s,
      fun r hr ↦ ?_, fun r hr ↦ ?_⟩
    · exact List.mem_map.mp (mem_sortedDistinct.mp (Bulk.groupId_of_mem_added hr))
    · -- the removal begins where the addition ended
      have hremoved :=
        group_of_mem_removed (s := (Bulk.addRules (affectedGroups rules) add).after s) hr
      rwa [Bulk.accounts_addRules] at hremoved

end Run

end NetWarden
