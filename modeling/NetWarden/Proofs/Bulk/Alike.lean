import NetWarden.Bulk.FlowLogs
import NetWarden.Bulk.Groups
import NetWarden.Bulk.Rules
import NetWarden.Proofs.Bulk.Outcomes
import NetWarden.Proofs.Store.Alike

/-!
# What actions look at

From stores that policies of rules cannot tell apart, actions on rules tell the same; and so it is
with groups and with flow logs. **Each action asks for nothing but what policies of its kind look
at**: the rules to remove are listed with rules alone, and a group is looked up among the ports and
deleted without a look at its rules.

A failure is told with the id of its call, and that id is seen through the function of `Agree`. So
two results may be told apart by these ids alone (`BulkResult.relabel`), and what an action does
next never depends on them.
-/

namespace NetWarden

open StoreM

variable {α β : Type} {f : String → String} {kind : ResourceKind}

/-! ### Results seen through a function -/

/-- A record of a failure with the id of the call seen through a function. -/
def FailureRecord.relabel (f : String → String) (r : FailureRecord) : FailureRecord :=
  { r with requestId := f r.requestId }

/-- An outcome with the id of a call that failed seen through a function. -/
def Outcome.relabel (f : String → String) : Outcome α → Outcome α :=
  Except.mapError (FailureRecord.relabel f)

/-- A result with the ids of the calls that failed seen through a function. -/
def BulkResult.relabel (f : String → String) (r : BulkResult α) : BulkResult α :=
  { r with failed := r.failed.map (FailureRecord.relabel f) }

namespace Outcome

theorem relabel_map (make : α → β) (o : Outcome α) :
    relabel f (o.map make) = (relabel f o).map make := by
  rcases o with e | a <;> rfl

theorem filterMap_value?_relabel (outcomes : List (Outcome α)) :
    (outcomes.map (relabel f)).filterMap value? = outcomes.filterMap value? := by
  rw [List.filterMap_map]
  exact congrArg (List.filterMap · outcomes) (funext fun o ↦ by rcases o with e | a <;> rfl)

theorem filterMap_failure?_relabel (outcomes : List (Outcome α)) :
    (outcomes.map (relabel f)).filterMap failure? =
      (outcomes.filterMap failure?).map (FailureRecord.relabel f) := by
  rw [List.filterMap_map, List.map_filterMap]
  exact congrArg (List.filterMap · outcomes) (funext fun o ↦ by rcases o with e | a <;> rfl)

/-- Outcomes that are seen as the same have the same values, and failures seen as the same. -/
theorem parts_eq_of_relabel_eq {outcomes outcomes' : List (Outcome α)}
    (h : outcomes'.map (relabel f) = outcomes.map (relabel f)) :
    outcomes'.filterMap value? = outcomes.filterMap value? ∧
      (outcomes'.filterMap failure?).map (FailureRecord.relabel f) =
        (outcomes.filterMap failure?).map (FailureRecord.relabel f) := by
  have hvalues := congrArg (List.filterMap value?) h
  have hfailures := congrArg (List.filterMap failure?) h
  rw [filterMap_value?_relabel, filterMap_value?_relabel] at hvalues
  rw [filterMap_failure?_relabel, filterMap_failure?_relabel] at hfailures
  exact ⟨hvalues, hfailures⟩

/-- What a failure is put down to does not depend on the id of the call. -/
theorem agree_of (resourceId : String) (op : Operation) {call : Attempt α}
    (hcall : Agree f kind (Except.mapError (TransportError.relabel f)) call call) :
    Agree f kind (relabel f) (Outcome.of resourceId op call) (Outcome.of resourceId op call) := by
  intro n m s t hst
  obtain ⟨hresult, hafter⟩ := hcall n m s t hst
  rw [result_of, result_of, after_of, after_of]
  refine ⟨?_, hafter⟩
  have hput : ∀ o : Except TransportError α, relabel f (o.mapError (.of resourceId op)) =
      (o.mapError (TransportError.relabel f)).mapError (.of resourceId op) := by
    intro o
    rcases o with e | a <;> rfl
  rw [hput, hput, hresult]

/-- A call that answers nothing is told as what it was made for. -/
theorem agree_of_for (resourceId : String) (op : Operation) {call : Attempt Unit} (a : α)
    (hcall : Agree f kind (Except.mapError (TransportError.relabel f)) call call) :
    Agree f kind (relabel f)
      (do return (← Outcome.of resourceId op call).map fun _ ↦ a)
      (do return (← Outcome.of resourceId op call).map fun _ ↦ a) :=
  (agree_of resourceId op hcall).and_pure fun o o' h ↦ by rw [relabel_map, relabel_map, h]

end Outcome

namespace BulkResult

theorem relabel_ofOutcomes (outcomes : List (Outcome α)) :
    relabel f (ofOutcomes outcomes) = ofOutcomes (outcomes.map (Outcome.relabel f)) := by
  rw [ofOutcomes, ofOutcomes, Outcome.filterMap_value?_relabel, Outcome.filterMap_failure?_relabel]
  rfl

/-- The result of outcomes is told apart no better than they are. -/
theorem agree_ofOutcomes {x : StoreM (List (Outcome α))}
    (hx : Agree f kind (List.map (Outcome.relabel f)) x x) :
    Agree f kind (relabel f) (do return ofOutcomes (← x)) (do return ofOutcomes (← x)) :=
  hx.and_pure fun _ _ h ↦ by rw [relabel_ofOutcomes, relabel_ofOutcomes, h]

end BulkResult

namespace Bulk

/-! ### Rules -/

theorem agree_deleteEach (rules : List Rule) :
    Agree f .rule (List.map (Outcome.relabel f)) (deleteEach rules) (deleteEach rules) :=
  .mapM rules fun r _ ↦ Outcome.agree_of_for r.id .deleteRule r (Store.agree_deleteRule r.id)

theorem agree_deleteRules (rules : List Rule) :
    Agree f .rule (BulkResult.relabel f) (deleteRules rules) (deleteRules rules) :=
  BulkResult.agree_ofOutcomes (agree_deleteEach rules)

theorem agree_listRules (d : Direction) (query : RuleQuery) :
    Agree f .rule (Outcome.relabel f) (listRules d query) (listRules d query) :=
  Outcome.agree_of d.name .listRules (Store.agree_listRules query)

/-- The rules to remove are the same, and listings that failed are seen as the same. -/
theorem agree_targets (rules : List Rule) (d : Direction) (removal : Removal) :
    Agree f .rule (Prod.map (List.map (FailureRecord.relabel f)) id) (targets rules d removal)
      (targets rules d removal) := by
  cases removal with
  | matched => exact .pure rfl
  | all =>
    rw [targets]
    split
    · exact .pure rfl
    · refine (agree_listRules d _).bind fun o o' h ↦ ?_
      -- answers that are seen as the same both fail, or both succeed with the same rules
      rcases o with e | found <;> rcases o' with e' | found'
      · exact .pure (congrArg (fun r ↦ ([r], [])) (Except.error.inj h))
      · cases h
      · cases h
      · exact .pure (congrArg (Prod.mk []) (Except.ok.inj h))
  | explicit queries =>
    rw [targets]
    split
    · exact .pure rfl
    · refine (Agree.mapM queries fun q _ ↦ agree_listRules d _).and_pure fun os os' h ↦ ?_
      obtain ⟨hvalues, hfailures⟩ := Outcome.parts_eq_of_relabel_eq h
      rw [found, found, Prod.map_apply, Prod.map_apply, hvalues, hfailures]

theorem agree_removeDirection (rules : List Rule) (plan : RemovalPlan) (d : Direction) :
    Agree f .rule (List.map (Outcome.relabel f)) (removeDirection rules plan d)
      (removeDirection rules plan d) := by
  rw [removeDirection]
  rcases plan.get d with - | removal
  · exact .pure rfl
  · refine (agree_targets rules d removal).bind ?_
    rintro ⟨failed, toRemove⟩ ⟨failed', toRemove'⟩ h
    obtain ⟨hfailed, htargets⟩ := Prod.mk.inj h
    -- what is deleted does not depend on the listings that failed
    obtain rfl : toRemove' = toRemove := htargets
    refine (agree_deleteEach toRemove').and_pure fun deleted deleted' hdeleted ↦ ?_
    have herrors : ∀ failed : List FailureRecord,
        (failed.map Except.error).map (Outcome.relabel (α := Rule) f) =
          (failed.map (FailureRecord.relabel f)).map Except.error := by
      intro failed
      rw [List.map_map, List.map_map]
      rfl
    rw [List.map_append, List.map_append, herrors, herrors, hdeleted, hfailed]

theorem agree_removeRules (rules : List Rule) (plan : RemovalPlan) :
    Agree f .rule (BulkResult.relabel f) (removeRules rules plan) (removeRules rules plan) := by
  refine (Agree.mapM Direction.all fun d _ ↦ agree_removeDirection rules plan d).and_pure
    fun outcomes outcomes' h ↦ ?_
  rw [BulkResult.relabel_ofOutcomes, BulkResult.relabel_ofOutcomes, List.map_flatten,
    List.map_flatten, h]

theorem agree_addRules (groupIds : List String) (templates : RuleTemplates) :
    Agree f .rule (BulkResult.relabel f) (addRules groupIds templates)
      (addRules groupIds templates) := by
  rw [addRules]
  split
  · exact .pure rfl
  · refine (Agree.mapM _ fun groupId _ ↦ Outcome.agree_of groupId .createRules
      (Store.agree_createRules groupId _)).and_pure fun created created' h ↦ ?_
    obtain ⟨hvalues, hfailures⟩ := Outcome.parts_eq_of_relabel_eq h
    rw [BulkResult.relabel, BulkResult.relabel, hvalues, hfailures]

theorem agree_setRules (rules : List Rule) (add : RuleTemplates) (plan : RemovalPlan) :
    Agree f .rule (Prod.map (BulkResult.relabel f) (BulkResult.relabel f)) (setRules rules add plan)
      (setRules rules add plan) :=
  (agree_addRules (affectedGroups rules) add).bind fun _ _ hadded ↦
    (agree_removeRules rules plan).and_pure fun _ _ hremoved ↦ Prod.ext hadded hremoved

/-! ### Groups -/

/-- Ports are looked up, and nothing else. -/
theorem agree_unattachedGroups (groups : List Group) :
    Agree f .group (Except.mapError (TransportError.relabel f)) (unattachedGroups groups)
      (unattachedGroups groups) := by
  rw [unattachedGroups]
  split
  · exact .pure rfl
  · refine (Store.agree_listPorts _).and_pure fun ports ports' h ↦ ?_
    have hmap : ∀ (o : Except TransportError (List NetworkPort))
        (make : List NetworkPort → List Group),
        (o.map make).mapError (TransportError.relabel f) =
          (o.mapError (TransportError.relabel f)).map make := by
      intro o make
      rcases o with e | a <;> rfl
    rw [hmap, hmap, h]

theorem agree_deleteGroups (groups : List Group) :
    Agree f .group (BulkResult.relabel f) (deleteGroups groups) (deleteGroups groups) :=
  BulkResult.agree_ofOutcomes (.mapM groups fun g _ ↦
    Outcome.agree_of_for g.id .deleteGroup g (Store.agree_deleteGroup g.id))

/-! ### Flow logs -/

theorem agree_changeFlowLogs (flowLogs : List FlowLog) (change : FlowLogChange) :
    Agree f .flowLog (BulkResult.relabel f) (changeFlowLogs flowLogs change)
      (changeFlowLogs flowLogs change) := by
  cases change with
  | enable =>
    exact BulkResult.agree_ofOutcomes (.mapM flowLogs fun g _ ↦
      Outcome.agree_of g.id .updateFlowLog (Store.agree_updateFlowLog g.id true))
  | disable =>
    exact BulkResult.agree_ofOutcomes (.mapM flowLogs fun g _ ↦
      Outcome.agree_of g.id .updateFlowLog (Store.agree_updateFlowLog g.id false))
  | delete =>
    exact BulkResult.agree_ofOutcomes (.mapM flowLogs fun g _ ↦
      Outcome.agree_of_for g.id .deleteFlowLog g (Store.agree_deleteFlowLog g.id))
  | create templates =>
    exact BulkResult.agree_ofOutcomes (.mapM _ fun p _ ↦
      Outcome.agree_of p.1.resourceId .createFlowLog (Store.agree_createFlowLog _ _ p.2))

end Bulk

end NetWarden
