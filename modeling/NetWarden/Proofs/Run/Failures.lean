import NetWarden.Proofs.Bulk.Failures
import NetWarden.Proofs.Policy.Plans
import NetWarden.Proofs.Run.Selection

/-!
# Failures of a run

The calls of a run are those of its selection and then those of its actions. A step of the selection
goes on from a call only if it was answered: **a selection that succeeds has met no failure**
(`meets_select`). An action goes on from every call, and tells what failed; so the failures that
actions tell, one action after the other, **are just those that they met** (`meets_perform`).

Together this says which failures a report tells, and how many: `policy_failures`.
-/

namespace NetWarden

open Store StoreM

theorem RemovalPlan.IsChecked.isDirected {plan : RemovalPlan} (h : plan.IsChecked) :
    plan.IsDirected := by
  intro d queries hqueries q hq
  obtain ⟨v, hv⟩ := h d queries hqueries
  exact (Removal.scope_of_check hv q hq).1

/-- A call that is answered meets no failure. -/
theorem Store.meets_of_answer {α : Type} {call : Call} {act : Store → Option (α × Store)}
    (hact : ∀ s a t, act s = some (a, t) → t.log = s.log) {s : Store} {a : α}
    (h : result (attempt call act) s = .ok a) : s.Meets (after (attempt call act) s) [] := by
  have hmeets := Outcome.tells_of_attempt call hact s
  rwa [Outcome.after_of, Outcome.result_of, h] at hmeets

namespace Run

variable {α β : Type} {s : Store}

/-! ### The selection -/

/-- A step that ends where a call fails: if it succeeds, it has met no failure. -/
def EndsAtFailure (x : RunM α) : Prop :=
  ∀ (s : Store) (a : α), result x.run s = .ok a → s.Meets (after x.run s) []

namespace EndsAtFailure

theorem pure (a : α) : EndsAtFailure (Pure.pure a : RunM α) := fun s _ _ ↦ .refl s

theorem throw (e : RunError) : EndsAtFailure (MonadExcept.throw e : RunM α) := by
  intro s a h
  cases h

theorem bind {x : RunM α} {f : α → RunM β} (hx : EndsAtFailure x)
    (hf : ∀ a, EndsAtFailure (f a)) : EndsAtFailure (x >>= f) := by
  intro s b h
  obtain ⟨a, ha, hb⟩ := result_run_bind_eq_ok_iff.mp h
  rw [after_run_bind_of_ok ha]
  exact (hx s a ha).append (hf a _ b hb)

theorem map {x : RunM α} (hx : EndsAtFailure x) (f : α → β) : EndsAtFailure (f <$> x) := by
  rw [map_eq_pure_bind]
  exact hx.bind fun a ↦ .pure _

theorem require (error : TransportError → RunError) {call : Attempt α}
    (hcall : ∀ s a, result call s = .ok a → s.Meets (after call s) []) :
    EndsAtFailure (require error call) := by
  intro s a h
  rw [result_require, mapError_eq_ok_iff] at h
  rw [after_require]
  exact hcall s a h

/-- A listing looks at the store and leaves the log alone. -/
theorem listing (error : TransportError → RunError) (call : Call) (look : Store → α) :
    EndsAtFailure (Run.require error (attempt call fun s ↦ some (look s, s))) := by
  refine require error fun s a h ↦ meets_of_answer (fun s a t ht ↦ ?_) h
  cases ht
  rfl

end EndsAtFailure

theorem endsAtFailure_list (kind : ResourceKind) : EndsAtFailure (list kind) := by
  cases kind <;> exact .map (.listing _ _ _) _

theorem endsAtFailure_unattachedMask (groups : List Group) :
    EndsAtFailure (unattachedMask groups) := by
  refine (EndsAtFailure.require _ fun s found h ↦ ?_).bind fun _ ↦ .pure _
  rw [Bulk.unattachedGroups] at h ⊢
  split at h
  · rename_i hempty
    rw [if_pos hempty]
    exact .refl s
  · rename_i hempty
    rw [if_neg hempty]
    rcases hports : result (listPorts (sortedDistinct (groups.map Group.id))) s with e | ports
    · rw [result_bind, hports] at h
      cases h
    · exact meets_of_answer (fun s a t ht ↦ by cases ht; rfl) hports

theorem endsAtFailure_masks {resources : ResourceSet} {fs : List PolicyFilter}
    (hfs : ∀ f ∈ fs, EndsAtFailure (mask resources f)) : EndsAtFailure (masks resources fs) := by
  induction fs with
  | nil => exact .pure _
  | cons f fs ih =>
    rw [masks]
    exact (hfs f List.mem_cons_self).bind fun m ↦
      (ih fun g hg ↦ hfs g (List.mem_cons_of_mem _ hg)).bind fun ms ↦ .pure _

/-- By induction over the filter: a combination asks one part after the other. -/
theorem endsAtFailure_mask (resources : ResourceSet) (f : PolicyFilter) :
    EndsAtFailure (mask resources f) := by
  induction f using PolicyFilter.induct with
  -- on other resources than it is about, a filter ends the run
  | rules f =>
    cases resources with
    | rules items => exact .pure _
    | _ => exact .throw _
  | unattached =>
    cases resources with
    | groups items => exact endsAtFailure_unattachedMask items
    | _ => exact .throw _
  | value f =>
    rw [mask]
    exact .pure _
  | anyOf fs ih =>
    rw [mask]
    exact (endsAtFailure_masks ih).bind fun ms ↦ .pure _
  | allOf fs ih =>
    rw [mask]
    exact (endsAtFailure_masks ih).bind fun ms ↦ .pure _

theorem endsAtFailure_narrow (resources : ResourceSet) (notes : MatchNotes)
    (fs : List PolicyFilter) : EndsAtFailure (narrow resources notes fs) := by
  induction fs generalizing resources notes with
  | nil => exact .pure _
  | cons f fs ih =>
    rw [narrow]
    exact (endsAtFailure_mask resources f).bind fun m ↦ ih _ _

/-- **A selection that succeeds has met no failure.** -/
theorem meets_select {p : Policy} {sel : Selection} (h : result (select p).run s = .ok sel) :
    s.Meets (after (select p).run s) [] := by
  refine EndsAtFailure.bind (endsAtFailure_list p.kind) (fun listed ↦ ?_) s sel h
  exact (endsAtFailure_narrow listed {} p.filters).bind fun kept ↦ .pure _

/-! ### Actions -/

/-- **An action tells just what it met.** -/
theorem Executes.meets {a : PolicyAction} (ha : a.plan.IsChecked) {resources : ResourceSet}
    {report : ActionReport} {t : Store} (h : Executes s resources a report t) :
    s.Meets t report.failed := by
  cases h with
  | deleteRules items => exact Bulk.tells_deleteRules items s
  | deleteGroups items => exact Bulk.tells_deleteGroups items s
  | removeRules items plan => exact Bulk.tells_removeRules items ha.isDirected s
  | setRules items add remove => exact Bulk.tells_setRules items add ha.isDirected s
  | setFlowLog items change => exact Bulk.tells_changeFlowLogs items change s

/-- **Actions tell just what they met**, one after the other. -/
theorem meets_perform (isDryRun : Bool) {actions : List PolicyAction}
    (hactions : ∀ a ∈ actions, a.plan.IsChecked) {resources : ResourceSet}
    {reports : List ActionReport}
    (h : result (perform isDryRun actions resources).run s = .ok reports) :
    s.Meets (after (perform isDryRun actions resources).run s)
      (reports.flatMap ActionReport.failed) := by
  cases isDryRun with
  | true =>
    cases h
    exact .refl s
  | false =>
    change result (actions.mapM (execute resources)).run s = .ok reports at h
    show s.Meets (after (actions.mapM (execute resources)).run s) _
    -- by induction over the actions, from any store that the ones before may have left
    induction actions generalizing s reports with
    | nil =>
      cases h
      exact .refl s
    | cons a actions ih =>
      rw [List.mapM_cons] at h ⊢
      obtain ⟨report, hreport, h⟩ := result_run_bind_eq_ok_iff.mp h
      obtain ⟨rest, hrest, h⟩ := result_run_bind_eq_ok_iff.mp h
      cases h
      rw [after_run_bind_of_ok hreport, after_run_bind_of_ok hrest]
      exact ((executes_of_ok hreport).meets (hactions a List.mem_cons_self)).append
        (ih (fun b hb ↦ hactions b (List.mem_cons_of_mem _ hb)) hrest)

/-! ### The whole run -/

/-- A run that succeeds tells just what it met. -/
theorem meets_policy {d : PolicyDefinition} {p : Policy} (hp : Policy.ofDefinition d = .ok p)
    (isDryRun : Bool) {report : PolicyReport}
    (hrun : result (policy isDryRun p).run s = .ok report) :
    s.Meets (after (policy isDryRun p).run s) report.failed := by
  rcases hselect : result (select p).run s with e | sel
  · cases hrun.symm.trans (policy_of_select_error isDryRun hselect).1
  · obtain ⟨actions, hactions, hreport, hafter⟩ :=
      policy_of_select_ok (Policy.isSupported_of_ofDefinition hp) isDryRun hselect
    cases hrun.symm.trans hreport
    rw [hafter]
    exact (meets_select hselect).append
      (meets_perform isDryRun (Policy.isChecked_plan hp) hactions)

theorem failure?_eq_none_iff {c : CallRecord} : c.failure? = none ↔ c.failure = none :=
  Option.map_eq_none_iff

/-- Each call that failed has one failure. -/
theorem length_filterMap_failure? (calls : List CallRecord) :
    (calls.filterMap CallRecord.failure?).length = calls.countP fun c ↦ c.failure.isSome := by
  rw [List.length_filterMap_eq_countP]
  simp only [CallRecord.failure?, Option.isSome_map]

/-- **No failure is lost, and none is told twice.** If a run of an accepted policy succeeds, all
calls up to its actions were answered. The failures that its actions tell are then those of the
calls that the actions made, one for each call that failed, in the order of the calls: with the
operation, what the call was about, and what the store said. So their number is told rightly. -/
theorem policy_failures {d : PolicyDefinition} {p : Policy} (hp : Policy.ofDefinition d = .ok p)
    (isDryRun : Bool) (s : Store) {report : PolicyReport}
    (hrun : result (policy isDryRun p).run s = .ok report) :
    ∃ t looked acted,
      t = after (select p).run s ∧ t.log = s.log ++ looked ∧ (∀ c ∈ looked, c.failure = none) ∧
      result (perform isDryRun p.actions report.resources).run t = .ok report.actions ∧
      after (policy isDryRun p).run s =
        after (perform isDryRun p.actions report.resources).run t ∧
      (after (policy isDryRun p).run s).log = t.log ++ acted ∧
      report.failed = acted.filterMap CallRecord.failure? ∧
      report.failureCount = acted.countP fun c ↦ c.failure.isSome := by
  have hsupported := Policy.isSupported_of_ofDefinition hp
  rcases hselect : result (select p).run s with e | sel
  · cases hrun.symm.trans (policy_of_select_error isDryRun hselect).1
  · obtain ⟨actions, hactions, hreport, hafter⟩ := policy_of_select_ok hsupported isDryRun hselect
    cases hrun.symm.trans hreport
    obtain ⟨looked, hlooked, hnone⟩ := meets_select hselect
    obtain ⟨acted, hacted, htold⟩ := meets_perform isDryRun (Policy.isChecked_plan hp) hactions
    refine ⟨_, looked, acted, rfl, hlooked, fun c hc ↦ ?_, hactions, hafter, ?_, htold.symm, ?_⟩
    · exact failure?_eq_none_iff.mp (List.filterMap_eq_nil_iff.mp hnone c hc)
    · rw [hafter, hacted]
    · rw [PolicyReport.failureCount, PolicyReport.failed, ← length_filterMap_failure?, htold]
      rfl

/-! ### Failures of each kind

One of two groups takes no new rules, one direction cannot be listed, and one rule cannot be
deleted; a second action comes to a rule that is gone by then. -/

/-- A policy that replaces rules, and then deletes all that it found. -/
def sweepDefinition : PolicyDefinition where
  name := "sweep"
  resource := "vpc-security-group-rule"
  actions := [
    .obj [("type", .str "set-rules"), ("add-egress", .arr [.obj [("protocol", .str "tcp")]]),
      ("remove-ingress", .str "all"),
      ("remove-egress", .arr [.obj [("protocol", .str "udp"), ("ethertype", .str "IPv4")]])],
    .str "delete"]

/-- The policy of the definition. -/
def sweepPolicy : Policy where
  name := "sweep"
  description := none
  kind := .rule
  filters := []
  actions := [
    .setRules ⟨[], [{ direction := .egress, protocol := some "tcp" }]⟩
      ⟨some .all, some (.explicit [
        { direction := some .egress, protocol := some "udp", ethertype := some "IPv4" }])⟩,
    .delete]

/-- Rules of two groups, and a fault of each kind. -/
def faultyStore : Store where
  inventory := { rules := [
    { id := "held", groupId := "web", direction := .ingress },
    { id := "gone", groupId := "db", direction := .ingress },
    { id := "out", groupId := "web", direction := .egress }] }
  faults := [⟨.createRules, "db", 409, "quota"⟩, ⟨.listRules, "egress", 503, "busy"⟩,
    ⟨.deleteRule, "held", 500, "internal error"⟩]
  supply := ⟨fun _ ↦ "new", fun _ ↦ "req"⟩

theorem policy_failures_sweep :
    Policy.ofDefinition sweepDefinition = .ok sweepPolicy ∧
      ∃ (report : PolicyReport) (t : Store) (acted : List CallRecord),
        result (policy false sweepPolicy).run faultyStore = .ok report ∧
        (after (policy false sweepPolicy).run faultyStore).log = t.log ++ acted ∧
        report.failed = acted.filterMap CallRecord.failure? ∧
        (report.failureCount = acted.countP fun c ↦ c.failure.isSome) ∧
        (report.failed.map fun f ↦ (f.resourceId, f.operation)) =
          [("db", .createRules), ("held", .deleteRule), ("egress", .listRules),
            ("held", .deleteRule), ("gone", .deleteRule)] := by
  have hp : Policy.ofDefinition sweepDefinition = .ok sweepPolicy := rfl
  have htold : (result (policy false sweepPolicy).run faultyStore).map
      (fun report ↦ report.failed.map fun f ↦ (f.resourceId, f.operation)) =
        .ok [("db", .createRules), ("held", .deleteRule), ("egress", .listRules),
          ("held", .deleteRule), ("gone", .deleteRule)] := by decide +kernel
  rcases hrun : result (policy false sweepPolicy).run faultyStore with e | report
  · rw [hrun] at htold
    cases htold
  · rw [hrun] at htold
    obtain ⟨t, -, acted, -, -, -, -, -, hlog, hfailed, hcount⟩ := policy_failures hp false _ hrun
    exact ⟨hp, report, t, acted, rfl, hlog, hfailed, hcount, Except.ok.inj htold⟩

end Run

end NetWarden
