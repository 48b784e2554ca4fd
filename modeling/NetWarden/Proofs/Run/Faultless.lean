import NetWarden.CommandLine.PolicyCommands
import NetWarden.Proofs.Bulk.Faultless
import NetWarden.Proofs.Run.Convergence
import NetWarden.Proofs.Run.Integrity

/-!
# Runs in which nothing fails

A run on an inventory begins at a store without faults. If no id is doubled in the inventory, and
the ids that are created are new, then **no call of a policy with one action fails**, whatever its
filters keep and whatever its action removes, adds or switches; and so it is for policies one after
the other (`runOn_faultless`).

Each policy lists anew what it works on, so its action is given records that are there, once each
(`Executes.failed_eq_nil`). What must last from policy to policy is that no id is doubled, which is
`Store.HasFreshIds`. More than one action is another matter: actions are given the resources as they
were listed, so the second may find gone what the first has taken away.
-/

namespace NetWarden

open Inventory Store StoreM

namespace Run

variable {p : Policy} {a : PolicyAction} {s : Store}

/-! ### One action -/

/-- **An action on what was just listed fails at nothing.** -/
theorem Executes.failed_eq_nil {kind : ResourceKind} {test : Resource → Bool}
    {report : ActionReport} {t : Store}
    (h : Executes s ((ResourceSet.ofInventory kind s.inventory).filter test) a report t)
    (hfaults : s.faults = []) (hs : s.HasFreshIds) (hplan : a.plan.IsChecked) :
    report.failed = [] := by
  cases kind with
  | rule =>
    set given := s.inventory.rules.filter fun r ↦ test (.rule r) with hgiven
    have hsub : ∀ r ∈ given, r ∈ s.inventory.rules := fun r hr ↦ List.mem_of_mem_filter hr
    have hids : (given.map Rule.id).Nodup :=
      hs.distinct.rules.sublist (List.filter_sublist.map Rule.id)
    cases h with
    | deleteRules =>
      exact Deletable.rules.failures_mapM (fun r _ ↦ permits_of_faults_nil hfaults) hsub hids
    | removeRules _ plan =>
      exact Bulk.failed_removeRules hplan hfaults hs.distinct.rules (hids.of_map _) hsub
    | setRules _ add plan =>
      -- what is added has new ids, so the removal still finds each rule by its own
      have htakes := Bulk.takes_addRules (affectedGroups given) add s
      have hadded : (after (Bulk.addRules (affectedGroups given) add) s).inventory =
          s.inventory.addRules _ := Bulk.accounts_addRules (affectedGroups given) add s
      have hstill := hs.add _ [] (htakes.append (TakesIds.refl _))
      rw [addFlowLogs_nil, ← hadded] at hstill
      obtain ⟨hadd, hremove⟩ :=
        Bulk.failed_setRules hplan hfaults add (hids.of_map _) hsub hstill.rules
      exact List.append_eq_nil_iff.mpr ⟨hadd, hremove⟩
  | group =>
    cases h with
    | deleteGroups =>
      exact Deletable.groups.failures_mapM (fun g _ ↦ permits_of_faults_nil hfaults)
        (fun g hg ↦ List.mem_of_mem_filter hg)
        (hs.distinct.groups.sublist (List.filter_sublist.map Group.id))
  | flowLog =>
    cases h with
    | setFlowLog _ change =>
      exact Bulk.failed_changeFlowLogs hfaults (fun f hf ↦ List.mem_of_mem_filter hf)
        (hs.distinct.flowLogs.sublist (List.filter_sublist.map FlowLog.id)) change
  | port => cases h

/-- Of one action, what fails for it is all that fails. -/
theorem failed_perform {actions : List PolicyAction} (hone : actions.length ≤ 1) {isDryRun : Bool}
    {resources : ResourceSet} {reports : List ActionReport}
    (hok : result (perform isDryRun actions resources).run s = .ok reports)
    (hfailed : ∀ a ∈ actions, ∀ report, result (execute resources a).run s = .ok report →
      report.failed = []) : reports.flatMap ActionReport.failed = [] := by
  cases isDryRun with
  -- a dry run does nothing
  | true =>
    cases hok
    rfl
  | false =>
    replace hok : result (actions.mapM (execute resources)).run s = .ok reports := hok
    cases actions with
    | nil =>
      cases hok
      rfl
    | cons a rest =>
      -- there is no other action
      obtain rfl : rest = [] := by simpa using hone
      rw [List.mapM_cons] at hok
      obtain ⟨report, hreport, hok⟩ := result_run_bind_eq_ok_iff.mp hok
      cases hok
      show [report].flatMap ActionReport.failed = []
      rw [List.flatMap_singleton]
      exact hfailed a List.mem_cons_self report hreport

/-! ### Policies -/

/-- **A policy with one action fails at nothing**, and leaves a store in which the next one does not
either. -/
theorem policy_faultless {d : PolicyDefinition} (hp : Policy.ofDefinition d = .ok p)
    (hone : p.actions.length ≤ 1) (isDryRun : Bool) (hfaults : s.faults = [])
    (hs : s.HasFreshIds) :
    ∃ report, result (policy isDryRun p).run s = .ok report ∧ report.failed = [] ∧
      (after (policy isDryRun p).run s).faults = [] ∧
      (after (policy isDryRun p).run s).HasFreshIds := by
  have hsupported := Policy.isSupported_of_ofDefinition hp
  have hids := ResourceSet.nodup_groupItems_ofInventory p.kind hs.distinct
  obtain ⟨-, report, -, hrun, -⟩ := policy_without_faults hsupported isDryRun hfaults hids
  -- what every action keeps is kept by the run
  have hkeeps := (policy_keeps (fun t ↦ t.faults = [] ∧ t.HasFreshIds) (fun _ ↦ True) isDryRun
    hsupported rfl (fun t ht ↦ ⟨ht.faults.trans hfaults, hs.of_unchanged ht⟩)
    fun a _ t told ht htold ↦ by
      obtain ⟨rules, flowLogs, htakes, hshrinks, -⟩ := (executes_of_ok htold).step
      exact ⟨⟨htakes.faults.trans ht.1, ht.2.step rules flowLogs htakes hshrinks⟩, trivial⟩).1
  refine ⟨report, hrun, ?_, hkeeps⟩
  obtain ⟨-, -, -, t, ht, hactions, -⟩ := policy_of_ok isDryRun hsupported hrun
  rw [ResourceSet.keptBy_eq_filter hids, ← ht.inventory] at hactions
  exact failed_perform hone hactions fun a ha told htold ↦
    (executes_of_ok htold).failed_eq_nil (ht.faults.trans hfaults) (hs.of_unchanged ht)
      (Policy.isChecked_plan hp a ha)

/-- **Policies with one action each fail at nothing**, one after the other. -/
theorem policies_faultless {ps : List Policy}
    (hps : ∀ p ∈ ps, ∃ d, Policy.ofDefinition d = .ok p) (hone : ∀ p ∈ ps, p.actions.length ≤ 1)
    (isDryRun : Bool) (hfaults : s.faults = []) (hs : s.HasFreshIds) :
    ∃ reports, result (policies isDryRun ps).run s = .ok reports ∧
      ∀ r ∈ reports, r.failureCount = 0 := by
  induction ps generalizing s with
  | nil => exact ⟨[], rfl, fun r hr ↦ absurd hr List.not_mem_nil⟩
  | cons p ps ih =>
    obtain ⟨d, hd⟩ := hps p List.mem_cons_self
    obtain ⟨report, hrun, hfailed, hnoFaults, hfresh⟩ :=
      policy_faultless hd (hone p List.mem_cons_self) isDryRun hfaults hs
    obtain ⟨reports, hrest, hnone⟩ := ih (fun q hq ↦ hps q (List.mem_cons_of_mem _ hq))
      (fun q hq ↦ hone q (List.mem_cons_of_mem _ hq)) hnoFaults hfresh
    exact ⟨report :: reports, policies_cons_eq_ok_iff.mpr ⟨report, reports, hrun, hrest, rfl⟩,
      List.forall_mem_cons.mpr ⟨congrArg List.length hfailed, hnone⟩⟩

end Run

/-! ### Runs on an inventory -/

namespace CommandLine

/-- What is selected of a set of policies is in it. -/
theorem mem_of_mem_selected {set chosen : PolicySet} {name : Option String}
    (h : selected set name = .ok chosen) {p : Policy} (hp : p ∈ chosen.policies) :
    p ∈ set.policies := by
  cases name with
  | none =>
    cases h
    exact hp
  | some name =>
    rw [selected, PolicySet.select?] at h
    -- a name was found, or it is an error
    split at h
    · rename_i found hfound
      split at hfound
      · cases hfound
      · cases hfound
        cases h
        exact List.mem_of_mem_filter hp
    · cases h

/-- A run that is carried through gives its reports and what it has left. -/
theorem runOn_of_ok {around : Surroundings} {isDryRun : Bool} {set : PolicySet}
    {inventory : Inventory} {reports : List PolicyReport}
    (h : result (Run.policies isDryRun set.policies).run (.ofInventory inventory around.supply) =
      .ok reports) :
    runOn around isDryRun set inventory = .ok (reports,
      (after (Run.policies isDryRun set.policies).run
        (.ofInventory inventory around.supply)).inventory) := by
  have hrun : (Run.policies isDryRun set.policies).run (Store.ofInventory inventory around.supply) =
      (.ok reports, after (Run.policies isDryRun set.policies).run
        (.ofInventory inventory around.supply)) := Prod.ext h rfl
  rw [runOn, hrun]

/-- **A run on an inventory has no failure of its own making.** If the policies of a document have
one action each, no two rules, groups or flow logs of the inventory have the same id, and new ids
are new and different, then the run is carried through, and no report tells a failure, whatever the
policies keep, remove, add or switch. -/
theorem runOn_faultless {d : PolicyDocument} {set chosen : PolicySet}
    (hset : PolicySet.ofDocument d = .ok set)
    (hone : ∀ p ∈ set.policies, p.actions.length ≤ 1) (name : Option String)
    (hchosen : selected set name = .ok chosen) (around : Surroundings) (isDryRun : Bool)
    {inventory : Inventory} (hids : inventory.HasDistinctIds)
    (hnew : ∀ id, id ∈ inventory.rules.map Rule.id ∨ id ∈ inventory.flowLogs.map FlowLog.id →
      ¬ (Store.ofInventory inventory around.supply).Supplies id)
    (honce : (Store.ofInventory inventory around.supply).SuppliesOnce) :
    ∃ reports left, runOn around isDryRun chosen inventory = .ok (reports, left) ∧
      ∀ r ∈ reports, r.failureCount = 0 := by
  have haccepted : ∀ p ∈ chosen.policies, ∃ e, Policy.ofDefinition e = .ok p := fun p hp ↦
    (PolicySet.exists_of_mem_ofDocument hset (mem_of_mem_selected hchosen hp)).imp fun _ h ↦ h.2
  have hchosenOne : ∀ p ∈ chosen.policies, p.actions.length ≤ 1 := fun p hp ↦
    hone p (mem_of_mem_selected hchosen hp)
  obtain ⟨reports, hrun, hnone⟩ := Run.policies_faultless
    (s := .ofInventory inventory around.supply) haccepted hchosenOne isDryRun rfl
    ⟨hids, hnew, honce⟩
  exact ⟨reports, _, runOn_of_ok hrun, hnone⟩

/-! ### Entries that overlap, and policies that follow each other

The rule `web-1` is described by both entries, and what was added to its group is found by the
second policy. The group without ports goes with its rule before the last policy comes to it. -/

/-- A document of policies that replace rules, remove them, delete groups and create flow logs. -/
def upkeepDocument : PolicyDocument where
  policies := [
    { name := "replace"
      resource := "vpc-security-group-rule"
      filters := [.obj [("type", .str "ingress"), ("SecurityGroupIds", .str "web")]]
      actions := [.obj [("type", .str "set-rules"),
        ("add-ingress", .arr [.obj [("protocol", .str "udp")]]),
        ("remove-ingress", .arr [.obj [("protocol", .str "tcp"), ("ethertype", .str "IPv4")],
          .obj [("protocol", .str "tcp"), ("id", .str "web-1")]]),
        ("remove-egress", .str "all")]] },
    { name := "remove"
      resource := "vpc-security-group-rule"
      filters := [.obj [("type", .str "ingress"), ("Protocols", .arr [.str "udp"])]]
      actions := [.str "remove-rules"] },
    { name := "log"
      resource := "vpc-flow-log"
      actions := [.obj [("type", .str "set-flow-log"), ("action", .str "disable")]] },
    { name := "free"
      resource := "vpc-security-group"
      filters := [.str "unattached"]
      actions := [.str "delete"] },
    { name := "rest"
      resource := "vpc-security-group-rule"
      actions := [.str "delete"] }]

/-- The policies of the document. -/
def upkeepSet : PolicySet := ⟨upkeepDocument.policies.filterMap fun d ↦
  (Policy.ofDefinition d).toOption⟩

/-- Two groups with rules, one of them bound to a port, and a flow log. -/
def upkeepInventory : Inventory where
  groups := [⟨"web", "web", none, none, none⟩, ⟨"old", "old", none, none, none⟩]
  rules := [
    { id := "web-1", groupId := "web", direction := .ingress, protocol := some "tcp",
      ethertype := some "IPv4" },
    { id := "web-2", groupId := "web", direction := .egress },
    { id := "old-1", groupId := "old", direction := .ingress }]
  ports := [⟨"port", none, none, ["web"]⟩]
  flowLogs := [{ id := "log", resourceType := "port", resourceId := "p", adminState := true }]

theorem runOn_faultless_upkeep :
    PolicySet.ofDocument upkeepDocument = .ok upkeepSet ∧
      (∀ p ∈ upkeepSet.policies, p.actions.length ≤ 1) ∧ upkeepInventory.HasDistinctIds ∧
      ∃ reports left,
        runOn { supply := .strokes } false upkeepSet upkeepInventory = .ok (reports, left) ∧
          ∀ r ∈ reports, r.failureCount = 0 := by
  have hset : PolicySet.ofDocument upkeepDocument = .ok upkeepSet := rfl
  have hone : ∀ p ∈ upkeepSet.policies, p.actions.length ≤ 1 := by decide +kernel
  have hids : upkeepInventory.HasDistinctIds := ⟨by decide, by decide, by decide⟩
  have hsigns : ∀ id ∈ upkeepInventory.rules.map Rule.id ++
      upkeepInventory.flowLogs.map FlowLog.id, id.toList.any (· != '|') = true := by decide
  have hrun := runOn_faultless hset hone none rfl { supply := .strokes } false hids
    (fun id hid ↦ not_supplies_of_strokes rfl (hsigns id (List.mem_append.mpr hid)))
    (suppliesOnce_of_strokes rfl)
  exact ⟨hset, hone, hids, hrun⟩

end CommandLine

end NetWarden
