import NetWarden.Proofs.Bulk.Clearing
import NetWarden.Proofs.Bulk.Removal

/-!
# Actions in a store without faults

Without faults a call fails for one reason only: what it is to change is not there. So an action has
nothing failed to tell if each of its calls finds what it names, also after the calls before it have
taken things away. `failures_mapM` is that argument: steps one after the other, each of which is
answered and leaves the others *ready*.

Listed once each, rules, groups and flow logs are there until it is their turn. A removal looks for
its targets on its own, but **it has no target twice, and none of the other direction**
(`deletes_directions`), whatever its entries describe. What is added before is found by the removal
after it, since its ids are new.
-/

namespace NetWarden

open Inventory Store StoreM

variable {α β : Type} {s : Store}

/-! ### Steps that are ready -/

/-- **If each step is answered, and leaves those after it ready, nothing fails.** -/
theorem failures_mapM {f : α → StoreM (Outcome β)} (ready : List α → Store → Prop)
    (hstep : ∀ a as s, ready (a :: as) s →
      (result (f a) s).failure? = none ∧ ready as (after (f a) s))
    {as : List α} (h : ready as s) : (result (as.mapM f) s).filterMap Outcome.failure? = [] := by
  induction as generalizing s with
  | nil => rfl
  | cons a as ih =>
    obtain ⟨hanswered, hrest⟩ := hstep a as s h
    rw [result_mapM_cons, List.filterMap_cons, hanswered]
    exact ih hrest

theorem Outcome.failure?_eq_none_of_value? {o : Outcome α} {a : α} (h : o.value? = some a) :
    o.failure? = none := by
  rw [Outcome.value?_eq_some_iff] at h
  rw [h]
  rfl

/-- A call that is answered has no failure to tell. -/
theorem Outcome.failure?_of_result {call : Attempt α} {resourceId : String} {op : Operation} {a : α}
    (h : call.result s = .ok a) : (result (Outcome.of resourceId op call) s).failure? = none := by
  rw [Outcome.result_of, h]
  rfl

/-- Records that are there once each are deleted, if no fault holds them. -/
theorem Deletable.failures_mapM (k : Deletable α) {as : List α}
    (hpermits : ∀ a ∈ as, s.permits (k.call a) = true)
    (hsub : ∀ a ∈ as, a ∈ k.items s.inventory) (hids : (as.map k.id).Nodup) :
    (result (as.mapM k.delete) s).filterMap Outcome.failure? = [] := by
  refine NetWarden.failures_mapM (fun as s ↦ (∀ a ∈ as, s.permits (k.call a) = true) ∧
    (∀ a ∈ as, a ∈ k.items s.inventory) ∧ (as.map k.id).Nodup) ?_ ⟨hpermits, hsub, hids⟩
  rintro a as s ⟨hpermits, hsub, hids⟩
  rw [List.map_cons, List.nodup_cons] at hids
  have hthere := hsub a List.mem_cons_self
  have hvalue := k.value?_delete s a hthere
  rw [if_pos (hpermits a List.mem_cons_self)] at hvalue
  refine ⟨Outcome.failure?_eq_none_of_value? hvalue, fun b hb ↦ ?_, fun b hb ↦ ?_, hids.2⟩
  · rw [(k.sameSetting a s).permits_eq]
    exact hpermits b (List.mem_cons_of_mem _ hb)
  · exact k.mem_items_delete hthere (hsub b (List.mem_cons_of_mem _ hb)) fun h ↦
      hids.1 (h ▸ List.mem_map_of_mem hb)

namespace Bulk

variable {rules : List Rule}

/-! ### Rules -/

/-- **The directions of a removal, one after the other, have no target twice.** What the deletions
of one direction take away is not looked for by the others. -/
theorem deletes_directions {plan : RemovalPlan} (hplan : plan.IsChecked) (hnodup : rules.Nodup)
    (ds : List Direction) (hds : ds.Nodup) (hids : (s.inventory.rules.map Rule.id).Nodup)
    (hsub : ∀ r ∈ rules, r.direction ∈ ds → r ∈ s.inventory.rules) :
    ∃ calls order, Deletes s (after (ds.mapM (removeDirection rules plan)) s) calls order
      (result (ds.mapM (removeDirection rules plan)) s).flatten := by
  induction ds generalizing s with
  | nil => exact ⟨[], [], .refl s⟩
  | cons d ds ih =>
    rw [List.nodup_cons] at hds
    obtain ⟨order, horder, hfirst⟩ := removeDirection_effect hplan hids hnodup
      fun r hr hd ↦ hsub r hr (hd ▸ List.mem_cons_self)
    obtain ⟨calls, others, hothers⟩ := ih hds.2 (hfirst.nodup_ids hids) fun r hr hd ↦
      hfirst.mem_rules (hsub r hr (List.mem_cons_of_mem _ hd)) fun hmem ↦
        hds.1 (Store.direction_of_mem_chosen (horder.subset hmem) ▸ hd)
    rw [result_mapM_cons, after_mapM_cons, List.flatten_cons]
    exact ⟨_, _, hfirst.append hothers⟩

/-- **A removal fails at nothing**, whatever its plan is. -/
theorem failed_removeRules {plan : RemovalPlan} (hplan : plan.IsChecked) (hfaults : s.faults = [])
    (hids : (s.inventory.rules.map Rule.id).Nodup) (hnodup : rules.Nodup)
    (hsub : ∀ r ∈ rules, r ∈ s.inventory.rules) :
    (result (removeRules rules plan) s).failed = [] := by
  obtain ⟨calls, order, hdeletes⟩ := deletes_directions hplan hnodup Direction.all
    (by decide) hids fun r hr _ ↦ hsub r hr
  exact hdeletes.failed.trans
    (faultRecords_of_permits (fun c _ ↦ permits_of_faults_nil hfaults) _)

/-- Rules can be created in any group. -/
theorem failed_addRules (hfaults : s.faults = []) (groupIds : List String)
    (templates : RuleTemplates) : (result (addRules groupIds templates) s).failed = [] := by
  rw [addRules]
  split
  · rfl
  · refine failures_mapM (fun _ s ↦ s.faults = []) (fun g gs s hs ↦ ⟨?_, ?_⟩) hfaults
    · exact Outcome.failure?_of_result (result_attempt_of_act
        (fault?_of_permits (permits_of_faults_nil hs)) rfl)
    · rw [addToGroup, Outcome.after_of]
      exact (takes_createRules g _ s).faults.trans hs

/-- **An addition with new ids leaves nothing to fail for the removal after it.** -/
theorem failed_setRules {plan : RemovalPlan} (hplan : plan.IsChecked) (hfaults : s.faults = [])
    (add : RuleTemplates) (hnodup : rules.Nodup) (hsub : ∀ r ∈ rules, r ∈ s.inventory.rules)
    (hids : ((after (addRules (affectedGroups rules) add) s).inventory.rules.map Rule.id).Nodup) :
    (result (setRules rules add plan) s).1.failed = [] ∧
      (result (setRules rules add plan) s).2.failed = [] := by
  refine ⟨failed_addRules hfaults _ add, ?_⟩
  have hadded := accounts_addRules (affectedGroups rules) add s
  have hstill : ∀ r ∈ rules, r ∈ (after (addRules (affectedGroups rules) add) s).inventory.rules :=
    fun r hr ↦ hadded ▸ List.mem_append_left _ (hsub r hr)
  exact failed_removeRules hplan
    ((takes_addRules (affectedGroups rules) add s).faults.trans hfaults) hids hnodup hstill

/-! ### Flow logs -/

theorem exists_changeFirst (test : α → Bool) (change : α → α) {as : List α} {a : α}
    (ha : a ∈ as) (htest : test a = true) : ∃ r, changeFirst test change as = some r := by
  induction as with
  | nil => exact absurd ha List.not_mem_nil
  | cons b as ih =>
    rw [changeFirst]
    split
    · exact ⟨_, rfl⟩
    · rename_i hb
      rcases List.mem_cons.mp ha with rfl | ha
      · exact absurd htest hb
      · obtain ⟨r, hr⟩ := ih ha
        exact ⟨_, by rw [hr]; rfl⟩

/-- **A flow log whose id is there is switched**, and no id is lost by it. -/
theorem switchFlowLog_of_mem (hfaults : s.faults = []) {f : FlowLog}
    (hf : f.id ∈ s.inventory.flowLogs.map FlowLog.id) (adminState : Bool) :
    (result (switchFlowLog adminState f) s).failure? = none ∧
      (after (switchFlowLog adminState f) s).inventory.flowLogs.map FlowLog.id =
        s.inventory.flowLogs.map FlowLog.id := by
  constructor
  · obtain ⟨g, hg, hid⟩ := List.mem_map.mp hf
    obtain ⟨changed, hchange⟩ := exists_changeFirst (fun h : FlowLog ↦ h.id == f.id)
      ({ · with adminState }) hg (beq_iff_eq.mpr hid)
    refine Outcome.failure?_of_result (a := changed.1) (result_attempt_of_act
      (t := s.update fun i ↦ { i with flowLogs := changed.2 })
      (fault?_of_permits (permits_of_faults_nil hfaults)) ?_)
    rw [hchange]
    rfl
  · rw [accounts_switchFlowLog]
    cases result (switchFlowLog adminState f) s with
    | error e => rfl
    | ok g => exact map_id_switchFlowLog adminState g s.inventory

/-- **Flow logs that are there once each can be changed.** -/
theorem failed_changeFlowLogs (hfaults : s.faults = []) {flowLogs : List FlowLog}
    (hsub : ∀ f ∈ flowLogs, f ∈ s.inventory.flowLogs) (hids : (flowLogs.map FlowLog.id).Nodup)
    (change : FlowLogChange) : (result (changeFlowLogs flowLogs change) s).failed = [] := by
  -- the state that carries a switch through: no faults, and those to come are there
  have hswitch : ∀ adminState,
      (result (flowLogs.mapM (switchFlowLog adminState)) s).filterMap Outcome.failure? = [] := by
    intro adminState
    refine failures_mapM (fun as s ↦ s.faults = [] ∧
      ∀ f ∈ as, f.id ∈ s.inventory.flowLogs.map FlowLog.id) ?_
      ⟨hfaults, fun f hf ↦ List.mem_map_of_mem (hsub f hf)⟩
    rintro f fs s ⟨hfaults, hthere⟩
    obtain ⟨hanswered, hkept⟩ :=
      switchFlowLog_of_mem hfaults (hthere f List.mem_cons_self) adminState
    refine ⟨hanswered, (sameSupply_switchFlowLog adminState f s).faults.trans hfaults, ?_⟩
    rw [hkept]
    exact fun g hg ↦ hthere g (List.mem_cons_of_mem _ hg)
  cases change with
  | enable => exact hswitch true
  | disable => exact hswitch false
  | delete =>
    exact Deletable.flowLogs.failures_mapM (fun f _ ↦ permits_of_faults_nil hfaults) hsub hids
  -- a creation needs nothing to be there, so only the faults are carried through
  | create templates =>
    refine failures_mapM (fun _ s ↦ s.faults = []) (fun p ps s hs ↦ ⟨?_, ?_⟩) hfaults
    · exact Outcome.failure?_of_result (result_attempt_of_act
        (fault?_of_permits (permits_of_faults_nil hs)) rfl)
    · exact (takes_createFlowLog p.1 p.2 s).faults.trans hs

end Bulk

end NetWarden
