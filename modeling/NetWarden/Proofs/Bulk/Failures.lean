import Mathlib.Data.List.Basic
import NetWarden.Bulk.FlowLogs
import NetWarden.Bulk.Groups
import NetWarden.Bulk.Rules
import NetWarden.Proofs.Bulk.Outcomes

/-!
# No failure is lost

A store keeps a log of all calls that were made to it. `CallRecord.failure?` reads off what must be
told of one of them: nothing if it was answered, and else its failure, put down to what the call was
about. `Store.Meets` says of two stores that calls were made in between, and that **just these
failures are in the log, one for each call that failed, in the order of the calls**. It goes on from
step to step (`Meets.append`).

`StoreM.Tells` says of a step that its result tells just the failures that it met. Only a call can
meet one, and its outcome tells it (`Outcome.tells_of_attempt`); so it is with all actions, which
are made of outcomes. What a removal cannot list it puts down to the direction, so the queries of a
plan must ask for their own one (`RemovalPlan.IsDirected`).
-/

namespace NetWarden

open StoreM

variable {α β : Type}

/-- The failure of a call that was made, put down to what the call was about. -/
def CallRecord.failure? (c : CallRecord) : Option FailureRecord :=
  c.failure.map (FailureRecord.of c.call.key c.call.operation)

namespace Store

variable {s t u : Store} {failed failed' : List FailureRecord}

/-- Between two stores calls were made, and met just these failures, in their order. -/
def Meets (s t : Store) (failed : List FailureRecord) : Prop :=
  ∃ calls, t.log = s.log ++ calls ∧ calls.filterMap CallRecord.failure? = failed

namespace Meets

theorem refl (s : Store) : s.Meets s [] := ⟨[], (List.append_nil _).symm, rfl⟩

/-- **What is met in two steps is met in their order.** -/
theorem append (h : s.Meets t failed) (h' : t.Meets u failed') :
    s.Meets u (failed ++ failed') := by
  obtain ⟨calls, hlog, rfl⟩ := h
  obtain ⟨calls', hlog', rfl⟩ := h'
  exact ⟨calls ++ calls', by rw [hlog', hlog, List.append_assoc], List.filterMap_append⟩

end Meets

end Store

open Store

/-! ### Steps that tell what they met -/

namespace StoreM

/-- Wherever a step begins, it meets just the failures that its result tells. -/
def Tells (failed : α → List FailureRecord) (x : StoreM α) : Prop :=
  ∀ s : Store, s.Meets (x.after s) (failed (x.result s))

namespace Tells

variable {failed : β → List FailureRecord}

theorem pure (b : β) (h : failed b = []) : Tells failed (Pure.pure b) := by
  intro s
  rw [result_pure, after_pure, h]
  exact .refl s

/-- What is made of an answer tells the same. -/
theorem and_pure {failed' : α → List FailureRecord} {x : StoreM α} (hx : Tells failed' x)
    {f : α → β} (h : ∀ a, failed (f a) = failed' a) :
    Tells failed (x >>= fun a ↦ Pure.pure (f a)) := by
  intro s
  rw [result_bind, after_bind, result_pure, after_pure, h]
  exact hx s

/-- **All steps together tell what each of them tells**, one after the other. -/
theorem mapM {f : α → StoreM β} (as : List α) (hf : ∀ a ∈ as, Tells failed (f a)) :
    Tells (List.flatMap failed) (as.mapM f) := by
  induction as with
  | nil => exact Meets.refl
  | cons a as ih =>
    intro s
    rw [after_mapM_cons, result_mapM_cons]
    exact (hf a List.mem_cons_self s).append (ih (fun b hb ↦ hf b (List.mem_cons_of_mem _ hb)) _)

end Tells

end StoreM

/-! ### Calls -/

namespace Outcome

/-- The failures that an outcome tells: one, or none. -/
def failures (o : Outcome α) : List FailureRecord := o.failure?.toList

theorem failures_map (f : α → β) (o : Outcome α) : failures (o.map f) = o.failures := by
  rcases o with e | a <;> rfl

theorem filterMap_failure? (outcomes : List (Outcome α)) :
    outcomes.filterMap failure? = outcomes.flatMap failures :=
  List.filterMap_eq_flatMap_toList _ _

theorem flatMap_failures_errors (failed : List FailureRecord) :
    (failed.map (Except.error : FailureRecord → Outcome α)).flatMap failures = failed := by
  induction failed with
  | nil => rfl
  | cons f failed ih => exact congrArg (f :: ·) ih

variable (call : Call) {act : Store → Option (α × Store)}

/-- **The outcome of a call tells the failure of that call**, under what the call was about. -/
theorem tells_of_attempt (hact : ∀ s a t, act s = some (a, t) → t.log = s.log) :
    Tells failures (Outcome.of call.key call.operation (attempt call act)) := by
  intro s
  rw [Outcome.after_of, Outcome.result_of]
  rcases hf : s.fault? call with - | f
  · rcases ha : act s with - | ⟨a, t⟩
    · rw [result_attempt_of_not_act hf ha, after_attempt_of_not_act hf ha]
      exact ⟨_, rfl, rfl⟩
    · rw [result_attempt_of_act hf ha, after_attempt_of_act hf ha]
      exact ⟨[⟨call, none⟩], congrArg (· ++ _) (hact s a t ha), rfl⟩
  · rw [result_attempt_of_fault hf, after_attempt_of_fault hf]
    exact ⟨_, rfl, rfl⟩

/-- A call that changes the first record of some, if there is one, leaves the log alone. -/
theorem log_of_bind {first : Store → Option β} {change : β → Store → α × Store}
    (h : ∀ b s, (change b s).2.log = s.log) :
    ∀ s a t, ((first s).bind fun b ↦ some (change b s)) = some (a, t) → t.log = s.log := by
  intro s a t hact
  obtain ⟨b, -, hb⟩ := Option.bind_eq_some_iff.mp hact
  have hlog := h b s
  rwa [Option.some.inj hb] at hlog

end Outcome

namespace BulkResult

theorem failed_ofOutcomes (outcomes : List (Outcome α)) :
    (ofOutcomes outcomes).failed = outcomes.flatMap Outcome.failures :=
  Outcome.filterMap_failure? outcomes

theorem tells_ofOutcomes {x : StoreM (List (Outcome α))}
    (hx : Tells (List.flatMap Outcome.failures) x) :
    Tells failed (do return ofOutcomes (← x)) :=
  hx.and_pure failed_ofOutcomes

end BulkResult

/-- The queries of a plan ask for rules of the direction under which they stand. -/
def RemovalPlan.IsDirected (plan : RemovalPlan) : Prop :=
  ∀ d queries, plan.get d = some (.explicit queries) → ∀ q ∈ queries, q.direction = some d

namespace Bulk

/-! ### Rules -/

theorem tells_deleteRule (r : Rule) : Tells Outcome.failures (deleteRule r) :=
  (Outcome.tells_of_attempt (.deleteRule r.id)
    (Outcome.log_of_bind fun _ _ ↦ rfl)).and_pure (Outcome.failures_map _)

theorem tells_deleteEach (rules : List Rule) :
    Tells (List.flatMap Outcome.failures) (deleteEach rules) :=
  .mapM rules fun r _ ↦ tells_deleteRule r

theorem tells_deleteRules (rules : List Rule) : Tells BulkResult.failed (deleteRules rules) :=
  BulkResult.tells_ofOutcomes (tells_deleteEach rules)

/-- A listing is told under its direction, if the query asks for that one. -/
theorem tells_listRules {d : Direction} {q : RuleQuery} (hq : q.direction = some d) :
    Tells Outcome.failures (listRules d q) := by
  have hkey : d.name = (Call.listRules q).key := by rw [Call.key, hq]
  rw [listRules, hkey]
  refine Outcome.tells_of_attempt (.listRules q) fun s a t h ↦ ?_
  cases h
  rfl

/-- The listings of a removal are told in their order. -/
theorem tells_listEach {d : Direction} {queries : List RuleQuery}
    (hq : ∀ q ∈ queries, q.direction = some d) (groupIds : List String) :
    Tells (List.flatMap Outcome.failures)
      (queries.mapM fun q ↦ listRules d (q.inGroups groupIds)) :=
  .mapM queries fun q hmem ↦ tells_listRules (hq q hmem)

/-- **What a removal cannot look up is told.** -/
theorem tells_targets (rules : List Rule) {d : Direction} {removal : Removal}
    (hq : ∀ queries, removal = .explicit queries → ∀ q ∈ queries, q.direction = some d) :
    Tells Prod.fst (targets rules d removal) := by
  cases removal with
  | matched => exact .pure _ rfl
  | all =>
    rw [targets]
    split
    · exact .pure _ rfl
    · intro s
      -- what the one listing tells is told, whichever way it ends
      have hlist := tells_listRules (q := .ofGroups (affectedGroups rules) d) rfl s
      rw [result_bind, after_bind]
      split <;> rename_i h <;> rw [h] at hlist <;> exact hlist
  | explicit queries =>
    rw [targets]
    split
    · exact .pure _ rfl
    · exact (tells_listEach (hq queries rfl) _).and_pure Outcome.filterMap_failure?

/-- A direction of a removal tells its listings, then its deletions. -/
theorem tells_removeDirection (rules : List Rule) {plan : RemovalPlan} (hplan : plan.IsDirected)
    (d : Direction) :
    Tells (List.flatMap Outcome.failures) (removeDirection rules plan d) := by
  rw [removeDirection]
  rcases hget : plan.get d with - | removal
  · exact .pure _ rfl
  · intro s
    have hlist : s.Meets ((targets rules d removal).after s)
        ((targets rules d removal).result s).1 :=
      tells_targets rules (fun queries h ↦ hplan d queries (h ▸ hget)) s
    have hdelete := tells_deleteEach ((targets rules d removal).result s).2
      ((targets rules d removal).after s)
    show s.Meets (after (deleteEach _) _) (List.flatMap _ (_ ++ _))
    rw [List.flatMap_append, Outcome.flatMap_failures_errors]
    exact hlist.append hdelete

theorem tells_removeRules (rules : List Rule) {plan : RemovalPlan} (hplan : plan.IsDirected) :
    Tells BulkResult.failed (removeRules rules plan) := by
  have hdirections := Tells.mapM Direction.all fun d _ ↦ tells_removeDirection rules hplan d
  refine hdirections.and_pure fun outcomes ↦ ?_
  rw [BulkResult.failed_ofOutcomes, List.flatten_eq_flatMap, List.flatMap_assoc]
  rfl

/-- An addition tells a failure for each group to which it could not add. -/
theorem tells_addRules (groupIds : List String) (templates : RuleTemplates) :
    Tells BulkResult.failed (addRules groupIds templates) := by
  rw [addRules]
  split
  · exact .pure _ rfl
  · refine (Tells.mapM _ fun groupId _ ↦ ?_).and_pure Outcome.filterMap_failure?
    refine Outcome.tells_of_attempt (.createRules groupId templates.toList) fun s a t h ↦ ?_
    cases h
    rfl

/-- **What failed of the addition is told before what failed of the removal.** -/
theorem tells_setRules (rules : List Rule) (add : RuleTemplates) {plan : RemovalPlan}
    (hplan : plan.IsDirected) :
    Tells (fun r ↦ r.1.failed ++ r.2.failed) (setRules rules add plan) := fun s ↦
  (tells_addRules (affectedGroups rules) add s).append
    (tells_removeRules rules hplan ((addRules (affectedGroups rules) add).after s))

/-! ### Groups and flow logs -/

theorem tells_deleteGroups (groups : List Group) :
    Tells BulkResult.failed (deleteGroups groups) :=
  BulkResult.tells_ofOutcomes <| .mapM groups fun g _ ↦
    (Outcome.tells_of_attempt (.deleteGroup g.id)
      (Outcome.log_of_bind fun _ _ ↦ rfl)).and_pure (Outcome.failures_map _)

theorem tells_switchFlowLog (adminState : Bool) (f : FlowLog) :
    Tells Outcome.failures (switchFlowLog adminState f) :=
  Outcome.tells_of_attempt (.updateFlowLog f.id adminState)
    (Outcome.log_of_bind fun _ _ ↦ rfl)

theorem tells_deleteFlowLog (f : FlowLog) : Tells Outcome.failures (deleteFlowLog f) :=
  (Outcome.tells_of_attempt (.deleteFlowLog f.id)
    (Outcome.log_of_bind fun _ _ ↦ rfl)).and_pure (Outcome.failures_map _)

theorem tells_createFlowLog (target : FlowLog) (template : FlowLogTemplate) :
    Tells Outcome.failures (createFlowLog target template) := by
  refine Outcome.tells_of_attempt
    (.createFlowLog target.resourceType target.resourceId template) fun s a t h ↦ ?_
  cases h
  rfl

theorem tells_changeFlowLogs (flowLogs : List FlowLog) (change : FlowLogChange) :
    Tells BulkResult.failed (changeFlowLogs flowLogs change) := by
  cases change with
  | enable => exact BulkResult.tells_ofOutcomes (.mapM _ fun f _ ↦ tells_switchFlowLog true f)
  | disable => exact BulkResult.tells_ofOutcomes (.mapM _ fun f _ ↦ tells_switchFlowLog false f)
  | delete => exact BulkResult.tells_ofOutcomes (.mapM _ fun f _ ↦ tells_deleteFlowLog f)
  | create templates =>
    exact BulkResult.tells_ofOutcomes (.mapM _ fun p _ ↦ tells_createFlowLog p.1 p.2)

end Bulk

end NetWarden
