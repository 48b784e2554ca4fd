import NetWarden.Proofs.Bulk.Orders
import NetWarden.Proofs.Run.Failures
import NetWarden.Proofs.Run.RuleChanges

/-!
# Nothing left to do

Three actions do no more than take away what they are given: deleting rules or groups, removing the
rules that matched in both directions, and deleting flow logs. A policy that does one of these **is
through after one run**, if the store has no faults (`policy_converges`).

What is kept is gone after the run, and all else of the kind is still there (`execute_clears`). The
ports are the same ones; so of what is left no resource comes to be kept, since whether a filter
holds of a resource depends on the resource and the ports alone. A run that keeps nothing does
nothing (`policy_of_matched_eq_zero`).
-/

namespace NetWarden

open Inventory Store StoreM

/-- The actions that take away just what they are given. -/
def PolicyAction.clearing : List PolicyAction :=
  [.delete, .removeRules .matched, .setFlowLog .delete]

namespace ResourceSet

variable {rs : ResourceSet} {test : Resource → Bool}

/-- Of what does not pass a test, nothing passes it. -/
theorem size_filter_filter_not : ((rs.filter fun r ↦ !test r).filter test).size = 0 := by
  have hnone : rs.filter (fun r ↦ !test r && test r) = rs.filter fun _ ↦ false :=
    rs.filter_congr fun r _ ↦ Bool.not_and_self (test r)
  rw [filter_filter, hnone]
  cases rs <;> simp [filter, size]

theorem nodup_groupItems_ofInventory (kind : ResourceKind) {i : Inventory}
    (h : i.HasDistinctIds) : ((ofInventory kind i).groupItems.map Group.id).Nodup := by
  cases kind with
  | group => exact h.groups
  | _ => exact List.nodup_nil

end ResourceSet

namespace Run

variable {p : Policy} {s : Store}

/-! ### Runs that keep nothing -/

/-- **A run that keeps nothing does nothing**, whatever its actions are. -/
theorem policy_of_matched_eq_zero (hp : p.IsSupported) (isDryRun : Bool) {report : PolicyReport}
    (hrun : result (policy isDryRun p).run s = .ok report) (hnone : report.matched = 0) :
    s.Unchanged (after (policy isDryRun p).run s) ∧ ∀ r ∈ report.actions, r.isEmpty = true := by
  have hkept := (policy_of_ok isDryRun hp hrun).1.symm
  have hkind : report.resources.kind = p.kind := by
    rw [← hkept, ResourceSet.kind_keptBy, ResourceSet.kind_ofInventory]
  obtain ⟨hkeeps, htells⟩ := policy_keeps (s.Unchanged ·) (·.isEmpty = true) isDryRun hp hkept
    (fun t ht ↦ ht) fun a ha t told ht htold ↦ by
      obtain ⟨nothing, hexecute, hempty⟩ :=
        execute_of_size_eq_zero hnone (hkind ▸ hp.actions a ha)
      rw [hexecute] at htold ⊢
      cases htold
      exact ⟨ht, hempty⟩
  exact ⟨hkeeps, htells report hrun⟩

/-- Reports that tell nothing tell no failure. -/
theorem failed_of_isEmpty {report : PolicyReport}
    (h : ∀ r ∈ report.actions, r.isEmpty = true) : report.failed = [] := by
  have hfailed : ∀ r : ActionReport, r.isEmpty = true → r.failed = [] := by
    intro r hr
    cases r <;> simp_all [ActionReport.isEmpty, BulkResult.isEmpty, ActionReport.failed]
  exact List.flatMap_eq_nil_iff.mpr fun r hr ↦ hfailed r (h r hr)

/-! ### Runs without faults -/

/-- Without faults a run succeeds: its actions are given what every filter holds of. -/
theorem policy_without_faults (hp : p.IsSupported) (isDryRun : Bool) (hfaults : s.faults = [])
    (hids : ((ResourceSet.ofInventory p.kind s.inventory).groupItems.map Group.id).Nodup) :
    let kept := (ResourceSet.ofInventory p.kind s.inventory).filter fun r ↦
      p.filters.all fun f ↦ f.holds s.inventory.ports r
    ∃ t report, s.Unchanged t ∧ result (policy isDryRun p).run s = .ok report ∧
      report.resources = kept ∧
      after (policy isDryRun p).run s = after (perform isDryRun p.actions kept).run t := by
  intro kept
  have hblocks : ∀ op, s.blocks op = false := fun op ↦
    blocks_of_faults (hfaults ▸ fun f hf ↦ absurd hf List.not_mem_nil)
  obtain ⟨t, actions, ht, -, hafter, hrun⟩ := policy_succeeds isDryRun hp (hblocks _)
    (by rw [hblocks, Bool.and_false])
  rw [ResourceSet.keptBy_eq_filter hids] at hafter hrun
  exact ⟨t, _, ht, hrun, rfl, hafter⟩

/-- **What is given is gone, and all else of the kind is still there**, in its order. -/
theorem execute_clears {a : PolicyAction} (ha : a ∈ PolicyAction.clearing) {kind : ResourceKind}
    (hkind : a.supports kind = true) (hfaults : s.faults = []) (hids : s.inventory.HasDistinctIds)
    (test : Resource → Bool) :
    let all := ResourceSet.ofInventory kind s.inventory
    let t := after (execute (all.filter test) a).run s
    s.SameSetting t ∧ t.inventory.ports = s.inventory.ports ∧
      ResourceSet.ofInventory kind t.inventory = all.filter fun r ↦ !test r := by
  intro all t
  simp only [PolicyAction.clearing, List.mem_cons, List.not_mem_nil, or_false] at ha
  rcases ha with rfl | rfl | rfl
  -- rules or groups are deleted
  · cases kind with
    | rule =>
      exact ⟨Deletable.rules.sameSetting_mapM _ s, Deletable.rules.ports_mapM _ s,
        congrArg ResourceSet.rules
          (Deletable.rules.items_mapM_of_perm hfaults hids.rules (.refl _))⟩
    | group =>
      exact ⟨Deletable.groups.sameSetting_mapM _ s, Deletable.groups.ports_mapM _ s,
        congrArg ResourceSet.groups
          (Deletable.groups.items_mapM_of_perm hfaults hids.groups (.refl _))⟩
    | _ => cases hkind
  -- rules are removed
  · cases kind with
    | rule =>
      have hdelete : t = after (Bulk.deleteRules (Bulk.byDirection _)) s :=
        congrArg (after · s) (Bulk.removeRules_matched _)
      rw [hdelete]
      exact ⟨Deletable.rules.sameSetting_mapM _ s, Deletable.rules.ports_mapM _ s,
        congrArg ResourceSet.rules
          (Deletable.rules.items_mapM_of_perm hfaults hids.rules (Bulk.perm_byDirection _))⟩
    | _ => cases hkind
  -- flow logs are deleted
  · cases kind with
    | flowLog =>
      exact ⟨Deletable.flowLogs.sameSetting_mapM _ s, Deletable.flowLogs.ports_mapM _ s,
        congrArg ResourceSet.flowLogs
          (Deletable.flowLogs.items_mapM_of_perm hfaults hids.flowLogs (.refl _))⟩
    | _ => cases hkind

/-- After the run what was kept is gone, and all else of the kind is left in its order. -/
theorem policy_clears (hp : p.IsSupported) {a : PolicyAction} (hactions : p.actions = [a])
    (ha : a ∈ PolicyAction.clearing) (hfaults : s.faults = []) (hids : s.inventory.HasDistinctIds) :
    let left := after (policy false p).run s
    (∃ report, result (policy false p).run s = .ok report) ∧ left.faults = [] ∧
      left.inventory.ports = s.inventory.ports ∧
      ResourceSet.ofInventory p.kind left.inventory =
        (ResourceSet.ofInventory p.kind s.inventory).filter fun r ↦
          !p.filters.all fun f ↦ f.holds s.inventory.ports r := by
  intro left
  have hkind : a.supports p.kind = true := hp.actions a (hactions ▸ List.mem_cons_self)
  obtain ⟨t, report, ht, hrun, -, hafter⟩ := policy_without_faults hp false hfaults
    (ResourceSet.nodup_groupItems_ofInventory _ hids)
  -- the run is one action, from a store that has the same resources and faults
  have hgiven : a.supports ((ResourceSet.ofInventory p.kind t.inventory).filter fun r ↦
      p.filters.all fun f ↦ f.holds s.inventory.ports r).kind = true := by
    rw [ResourceSet.kind_filter, ResourceSet.kind_ofInventory]
    exact hkind
  obtain ⟨told, htold⟩ := result_execute hgiven t
  have hfirst : left = after (execute ((ResourceSet.ofInventory p.kind t.inventory).filter fun r ↦
      p.filters.all fun f ↦ f.holds s.inventory.ports r) a).run t := by
    rw [← (perform_singleton htold).2, ht.inventory, ← hactions]
    exact hafter
  obtain ⟨hsetting, hports, hleft⟩ := execute_clears ha hkind (ht.faults.trans hfaults)
    (ht.inventory.symm ▸ hids) fun r ↦ p.filters.all fun f ↦ f.holds s.inventory.ports r
  rw [← hfirst] at hsetting hports hleft
  rw [ht.inventory] at hports hleft
  exact ⟨⟨report, hrun⟩, hsetting.faults.trans (ht.faults.trans hfaults), hports, hleft⟩

/-- **A policy that takes away what it keeps is through after one run.** Run once more it keeps
nothing, every call that it makes is answered, its reports tell nothing, and the store is as the
first run left it. -/
theorem policy_converges {d : PolicyDefinition} {p : Policy} (hp : Policy.ofDefinition d = .ok p)
    {a : PolicyAction} (hactions : p.actions = [a]) (ha : a ∈ PolicyAction.clearing) (s : Store)
    (hfaults : s.faults = []) (hids : s.inventory.HasDistinctIds) :
    let first := after (policy false p).run s
    let second := after (policy false p).run first
    ∃ report again, result (policy false p).run s = .ok report ∧
      result (policy false p).run first = .ok again ∧ again.matched = 0 ∧
      (∀ r ∈ again.actions, r.isEmpty = true) ∧ again.failureCount = 0 ∧
      first.Unchanged second ∧ first.Meets second [] := by
  intro first second
  have hsupported := Policy.isSupported_of_ofDefinition hp
  obtain ⟨⟨report, hrun⟩, hnoFaults, hports, hleft⟩ :=
    policy_clears hsupported hactions ha hfaults hids
  have hleftIds :
      ((ResourceSet.ofInventory p.kind first.inventory).groupItems.map Group.id).Nodup := by
    rw [hleft]
    exact (ResourceSet.nodup_groupItems_ofInventory _ hids).sublist
      ((ResourceSet.groupItems_filter_sublist _ _).map Group.id)
  obtain ⟨-, again, -, hagain, hresources, -⟩ :=
    policy_without_faults hsupported false hnoFaults hleftIds
  -- what is left is asked the same as before
  have hnone : again.matched = 0 := by
    rw [PolicyReport.matched, hresources, hleft, hports]
    exact ResourceSet.size_filter_filter_not
  obtain ⟨hunchanged, hempty⟩ := policy_of_matched_eq_zero hsupported false hagain hnone
  have hfailed := failed_of_isEmpty hempty
  refine ⟨report, again, hrun, hagain, hnone, hempty, congrArg List.length hfailed, hunchanged, ?_⟩
  have hmeets := meets_policy hp false hagain
  rwa [hfailed] at hmeets

/-! ### Rules of both directions -/

/-- A policy that removes a rule of each direction. -/
def closeDefinition : PolicyDefinition where
  name := "close"
  resource := "vpc-security-group-rule"
  filters := [.obj [("or", .arr [
    .obj [("type", .str "ingress"), ("SGRuleIds", .arr [.str "in"])],
    .obj [("type", .str "egress"), ("SGRuleIds", .arr [.str "out"])]])]]
  actions := [.str "remove-rules"]

/-- The policy of the definition. -/
def closePolicy : Policy where
  name := "close"
  description := none
  kind := .rule
  filters := [.anyOf [.rules { direction := .ingress, ruleIds := some ["in"] },
    .rules { direction := .egress, ruleIds := some ["out"] }]]
  actions := [.removeRules .matched]

/-- Three rules, one of which stays. -/
def openStore : Store where
  inventory := { rules := [{ id := "out", groupId := "web", direction := .egress },
    { id := "next", groupId := "web", direction := .egress },
    { id := "in", groupId := "web", direction := .ingress }] }
  supply := ⟨fun _ ↦ "new", fun _ ↦ "req"⟩

theorem policy_converges_close :
    Policy.ofDefinition closeDefinition = .ok closePolicy ∧
      closePolicy.actions = [.removeRules .matched] ∧
      PolicyAction.removeRules .matched ∈ PolicyAction.clearing ∧ openStore.faults = [] ∧
      openStore.inventory.HasDistinctIds ∧
      let first := after (policy false closePolicy).run openStore
      first.inventory.rules.map Rule.id = ["next"] ∧
        ∃ again, result (policy false closePolicy).run first = .ok again ∧ again.matched = 0 ∧
          again.failureCount = 0 ∧
          first.Unchanged (after (policy false closePolicy).run first) := by
  have hp : Policy.ofDefinition closeDefinition = .ok closePolicy := rfl
  have ha : PolicyAction.removeRules .matched ∈ PolicyAction.clearing := by decide
  have hids : openStore.inventory.HasDistinctIds := ⟨by decide, by decide, by decide⟩
  obtain ⟨_, again, -, hagain, hnone, -, hfailures, hunchanged, -⟩ :=
    policy_converges hp rfl ha openStore rfl hids
  exact ⟨hp, rfl, ha, rfl, hids, by decide +kernel, again, hagain, hnone, hfailures, hunchanged⟩

end Run

end NetWarden
