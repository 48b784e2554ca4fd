import NetWarden.Proofs.Bulk.Faultless
import NetWarden.Proofs.Bulk.Orders
import NetWarden.Proofs.Bulk.Survival

/-!
# Taking back what was added

An addition tells the rules that it made, and a removal can be given just these. **Then the store
has the rules that it had before, in their order** (`removeRules_added`, `addRules_undone`).

What is told as added is what was put at the end, group after group; a group whose call failed is in
neither. The removal goes through these rules in another order, what comes in first. It drops by the
id, and an old rule with the id of a new one would be dropped in its place. So the new ids must not
be in use, and none may come twice; the old rules may share theirs.
-/

namespace NetWarden

open Inventory Store StoreM

namespace Inventory

/-- **What was put at the end is dropped again**, if no rule before it has one of the ids. -/
theorem changeEach_dropRule_addRules (added : List Rule) {i : Inventory}
    (hnew : ∀ q ∈ i.rules, q.id ∉ added.map Rule.id) :
    changeEach dropRule added (i.addRules added) = i := by
  induction added with
  | nil => exact i.addRules_nil
  | cons a added ih =>
    have hother : ∀ q ∈ i.rules, ¬ (q.id == a.id) = true := fun q hq heq ↦
      hnew q hq (List.mem_map.mpr ⟨a, List.mem_cons_self, (beq_iff_eq.mp heq).symm⟩)
    have hfirst : (i.addRules (a :: added)).dropRule a = i.addRules added := by
      have hdrop : (i.rules ++ a :: added).eraseP (fun q ↦ q.id == a.id) = i.rules ++ added := by
        rw [List.eraseP_append_right _ hother,
          List.eraseP_cons_of_pos (by exact beq_self_eq_true _)]
      simp only [addRules, dropRule, hdrop]
    rw [changeEach_cons, hfirst]
    exact ih fun q hq hmem ↦ hnew q hq (List.mem_cons_of_mem _ hmem)

end Inventory

namespace Bulk

variable {s : Store}

/-- **A removal of what was put at the end drops it and nothing else**, and tells all of it. -/
theorem removeRules_added {added : List Rule} {i : Inventory}
    (hadded : s.inventory = i.addRules added) (hnew : ∀ q ∈ i.rules, q.id ∉ added.map Rule.id)
    (honce : (added.map Rule.id).Nodup) (hpermits : ∀ r ∈ added, s.canDelete r = true) :
    ((removeRules added .matched).after s).inventory = i ∧
      ((removeRules added .matched).result s).succeeded = byDirection added ∧
      ((removeRules added .matched).result s).failed = [] := by
  have hperm := perm_byDirection added
  have hthere : ∀ r ∈ byDirection added, r ∈ s.inventory.rules := fun r hr ↦
    hadded ▸ List.mem_append_right _ (hperm.mem_iff.mp hr)
  have hids : ((byDirection added).map Rule.id).Nodup := (hperm.map Rule.id).nodup_iff.mpr honce
  have hcan : ∀ r ∈ byDirection added, s.canDelete r = true := fun r hr ↦
    hpermits r (hperm.mem_iff.mp hr)
  have htold : ((deleteRules (byDirection added)).result s).succeeded = byDirection added :=
    (Deletable.rules.values_mapM hthere hids).trans (List.filter_eq_self.mpr hcan)
  have hleft : ((deleteRules (byDirection added)).after s).inventory = i := by
    rw [accounts_deleteRules, BulkResult.redo, htold, changeEach_dropRule_perm hperm, hadded,
      changeEach_dropRule_addRules added hnew]
  rw [removeRules_matched]
  exact ⟨hleft, htold, Deletable.rules.failures_mapM hcan hthere hids⟩

/-- **To remove what was added restores the rules**, if no deletion is held by a fault and the
supply gives new ids, none of them twice. What is told as added was put at the end; the removal
tells all of it as done, what comes in first, and fails at nothing. Calls that create rules may
fail. -/
theorem addRules_undone (s : Store) (groupIds : List String) (templates : RuleTemplates)
    (hdelete : ∀ f ∈ s.faults, f.operation ≠ .deleteRule)
    (hnew : ∀ q ∈ s.inventory.rules, ¬ s.Supplies q.id) (honce : s.SuppliesOnce) :
    let added := ((addRules groupIds templates).result s).succeeded
    let t := (addRules groupIds templates).after s
    t.inventory = s.inventory.addRules added ∧
      ((removeRules added .matched).after t).inventory = s.inventory ∧
      ((removeRules added .matched).result t).succeeded = byDirection added ∧
      ((removeRules added .matched).result t).failed = [] := by
  intro added t
  have htakes := takes_addRules groupIds templates s
  have hadded : t.inventory = s.inventory.addRules added := accounts_addRules groupIds templates s
  have hunused : ∀ q ∈ s.inventory.rules, q.id ∉ added.map Rule.id := fun q hq hmem ↦
    hnew q hq (htakes.supplies_of_mem hmem)
  have hpermits : ∀ r ∈ added, t.canDelete r = true := by
    intro r _
    rw [htakes.canDelete_eq]
    exact permits_of_faults hdelete
  exact ⟨hadded, removeRules_added hadded hunused (htakes.nodup honce) hpermits⟩

/-! ### Adding where one group refuses

Three groups are named, one of them twice. No rule can be created in the second one. The store has
two rules of the same id, which stay where they are.
-/

/-- A store with two rules of one id, and a group in which none can be created. -/
def refusingStore : Store where
  inventory := { rules :=
    [{ id := "old", groupId := "web", direction := .egress },
      { id := "old", groupId := "app", direction := .ingress }] }
  faults := [⟨.createRules, "db", 403, "quota"⟩]
  supply := .strokes

theorem addRules_undone_refusing :
    let groupIds := ["web", "db", "web", "app"]
    let added := (addRules groupIds narrowTemplates).result refusingStore
    let t := (addRules groupIds narrowTemplates).after refusingStore
    (∀ f ∈ refusingStore.faults, f.operation ≠ .deleteRule) ∧
      (∀ q ∈ refusingStore.inventory.rules, ¬ refusingStore.Supplies q.id) ∧
      refusingStore.SuppliesOnce ∧
      added.succeeded.map Rule.id = ["|", "||", "|||", "||||"] ∧ added.failed.length = 1 ∧
      ((removeRules added.succeeded .matched).after t).inventory = refusingStore.inventory ∧
      ((removeRules added.succeeded .matched).result t).succeeded.map Rule.id =
        ["|", "|||", "||", "||||"] := by
  have hdelete : ∀ f ∈ refusingStore.faults, f.operation ≠ .deleteRule := by decide
  have hnew : ∀ q ∈ refusingStore.inventory.rules, ¬ refusingStore.Supplies q.id := by
    intro q hq
    -- both rules that are there have the one id, which is none of strokes
    have hid : q.id = "old" := by
      rcases List.mem_cons.mp hq with rfl | hq
      · rfl
      · rw [List.mem_singleton.mp hq]
    exact not_supplies_of_strokes rfl (by rw [hid]; decide)
  have honce : refusingStore.SuppliesOnce := suppliesOnce_of_strokes rfl
  obtain ⟨-, hleft, htold, -⟩ :=
    addRules_undone refusingStore ["web", "db", "web", "app"] narrowTemplates hdelete hnew honce
  refine ⟨hdelete, hnew, honce, by decide +kernel, by decide +kernel, hleft, ?_⟩
  rw [htold]
  decide +kernel

end Bulk

end NetWarden
