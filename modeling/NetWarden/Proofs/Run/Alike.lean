import NetWarden.Proofs.Bulk.Alike
import NetWarden.Proofs.Run.Selection

/-!
# What policies look at

**From stores that policies of a kind cannot tell apart, a policy of the kind gives the same**
(`agree_policy`): the same report or the same error, with the ids of failed calls as they are seen,
and it leaves stores that cannot be told apart again.

By induction over a filter, its mask asks for nothing but the resources that it is given, and for
ports if these are groups (`agree_mask`); an action asks for resources of its own kind
(`agree_execute`). The kind of what is selected is known from the start (`kind_of_select`), so
nothing has to be known of the policy: where a filter or an action meets other resources, it fails
without a call.
-/

namespace NetWarden

open StoreM

/-! ### Reports seen through a function -/

/-- What came of an action, with the ids of calls that failed seen through a function. -/
def ActionReport.relabel (f : String → String) : ActionReport → ActionReport
  | .deleteRules r => .deleteRules (r.relabel f)
  | .deleteGroups r => .deleteGroups (r.relabel f)
  | .removeRules r => .removeRules (r.relabel f)
  | .setRules added removed => .setRules (added.relabel f) (removed.relabel f)
  | .setFlowLog change r => .setFlowLog change (r.relabel f)

/-- A report with the ids of calls that failed seen through a function. -/
def PolicyReport.relabel (f : String → String) (r : PolicyReport) : PolicyReport :=
  { r with actions := r.actions.map (ActionReport.relabel f) }

/-- An error with the id of the call that failed seen through a function. -/
def RunError.relabel (f : String → String) : RunError → RunError
  | .listing kind e => .listing kind (e.relabel f)
  | .portLookup e => .portLookup (e.relabel f)
  | e => e

@[simp] theorem FailureRecord.relabel_id : relabel id = id := rfl

theorem BulkResult.relabel_of_failed_nil {α : Type} {f : String → String} {r : BulkResult α}
    (h : r.failed = []) : r.relabel f = r := by
  rw [relabel, h, List.map_nil, ← h]

namespace ActionReport

variable {f : String → String} {r : ActionReport}

@[simp] theorem relabel_id (r : ActionReport) : r.relabel id = r := by
  cases r <;> simp [relabel, BulkResult.relabel]

theorem failed_relabel (r : ActionReport) :
    (r.relabel f).failed = r.failed.map (FailureRecord.relabel f) := by
  cases r with
  | setRules added removed => exact List.map_append.symm
  | _ => rfl

theorem relabel_of_failed_nil (h : r.failed = []) : r.relabel f = r := by
  cases r with
  | setRules added removed =>
    obtain ⟨hadded, hremoved⟩ := List.append_eq_nil_iff.mp h
    rw [relabel, BulkResult.relabel_of_failed_nil hadded, BulkResult.relabel_of_failed_nil hremoved]
  | _ => rw [relabel, BulkResult.relabel_of_failed_nil h]

end ActionReport

namespace PolicyReport

variable {f : String → String} {r q : PolicyReport}

@[simp] theorem relabel_id (r : PolicyReport) : r.relabel id = r := by
  simp [relabel, funext ActionReport.relabel_id]

theorem failed_relabel (r : PolicyReport) :
    (r.relabel f).failed = r.failed.map (FailureRecord.relabel f) := by
  rw [failed, failed, relabel, List.flatMap_map, List.map_flatMap]
  simp only [ActionReport.failed_relabel]

theorem relabel_of_failed_nil (h : r.failed = []) : r.relabel f = r := by
  have hactions : r.actions.map (ActionReport.relabel f) = r.actions :=
    (List.map_congr_left fun a ha ↦ ActionReport.relabel_of_failed_nil
      (List.flatMap_eq_nil_iff.mp h a ha)).trans (List.map_id _)
  rw [relabel, hactions]

/-- Reports that are told apart by the ids of failed calls alone are the same if no call failed. -/
theorem eq_of_relabel_eq (h : q.relabel f = r.relabel f) (hr : r.failureCount = 0) : q = r := by
  have hnone : r.failed = [] := List.length_eq_zero_iff.mp hr
  have hnone' : q.failed = [] := by
    rw [← List.map_eq_nil_iff (f := FailureRecord.relabel f), ← failed_relabel, h, failed_relabel,
      hnone, List.map_nil]
  rwa [relabel_of_failed_nil hnone, relabel_of_failed_nil hnone'] at h

end PolicyReport

namespace Run

variable {α β γ δ : Type} {f : String → String} {kind : ResourceKind} {g : α → β} {h : γ → δ}
  {resources : ResourceSet}

/-- What a step of a run gives, seen through functions. -/
def seen (f : String → String) (g : α → β) (o : Except RunError α) : Except RunError β :=
  (o.mapError (RunError.relabel f)).map g

/-- Steps of a run agree one after the other: an error that is seen as the same ends both. -/
theorem agree_bind {x y : RunM α} {u v : α → RunM γ}
    (hx : Agree f kind (seen f g) x.run y.run)
    (hu : ∀ s a b, result x.run s = .ok a → g b = g a →
      Agree f kind (seen f h) (u a).run (v b).run) :
    Agree f kind (seen f h) (x >>= u).run (y >>= v).run := by
  rw [ExceptT.run_bind, ExceptT.run_bind]
  refine hx.bind_of_result fun s o o' ho hseen ↦ ?_
  rcases o with e | a <;> rcases o' with e' | b
  · exact .pure (congrArg (fun e ↦ Except.error e) (Except.error.inj hseen))
  · cases hseen
  · cases hseen
  · exact hu s a b ho (Except.ok.inj hseen)

/-- What is made of what was given makes no calls. -/
theorem agree_and_pure {x y : RunM α} (hx : Agree f kind (seen f g) x.run y.run)
    {make make' : α → γ} (hmake : ∀ a b, g b = g a → h (make' b) = h (make a)) :
    Agree f kind (seen f h) (do return make (← x)).run (do return make' (← y)).run :=
  agree_bind hx fun _ a b _ hab ↦ .pure (congrArg (fun c ↦ Except.ok c) (hmake a b hab))

/-- A call that must succeed and fails with the same failure, as it is seen, fails with the same
error. -/
theorem agree_require (error : TransportError → RunError)
    (herror : ∀ e, (error e).relabel f = error (e.relabel f)) {call : Attempt α}
    (hcall : Agree f kind (Except.mapError (TransportError.relabel f)) call call) :
    Agree f kind (seen f id) (require error call).run (require error call).run := by
  intro n m s t hst
  obtain ⟨hresult, hafter⟩ := hcall n m s t hst
  rw [result_require, result_require, after_require, after_require]
  refine ⟨?_, hafter⟩
  have hseen : ∀ o : Except TransportError α, seen f id (o.mapError error) =
      (o.mapError (TransportError.relabel f)).mapError error := by
    intro o
    rcases o with e | a
    · exact congrArg (fun e ↦ Except.error e) (herror e)
    · rfl
  rw [hseen, hseen, hresult]

/-! ### Listings and filters -/

theorem agree_list (kind : ResourceKind) :
    Agree f kind (seen f id) (list kind).run (list kind).run := by
  have hlist : ∀ {α : Type} {call : Attempt α} (make : α → ResourceSet),
      Agree f kind (Except.mapError (TransportError.relabel f)) call call →
      Agree f kind (seen f id) (make <$> require (.listing kind) call).run
        (make <$> require (.listing kind) call).run := by
    intro α call make hcall
    rw [map_eq_pure_bind]
    exact agree_and_pure (agree_require _ (fun _ ↦ rfl) hcall) fun a b hab ↦ congrArg make hab
  cases kind with
  | rule => exact hlist _ (Store.agree_listRules {})
  | group => exact hlist _ Store.agree_listGroups
  | flowLog => exact hlist _ Store.agree_listFlowLogs
  | port => exact hlist _ Store.agree_listAllPorts

theorem agree_masks {fs : List PolicyFilter} (hfs : ∀ g ∈ fs,
      Agree f kind (seen f id) (mask resources g).run (mask resources g).run) :
    Agree f kind (seen f id) (masks resources fs).run (masks resources fs).run := by
  induction fs with
  | nil => exact .pure rfl
  | cons g gs ih =>
    rw [masks]
    refine agree_bind (hfs g List.mem_cons_self) fun _ m m' _ hm ↦ ?_
    obtain rfl : m' = m := hm
    exact agree_and_pure (ih fun g' hg' ↦ hfs g' (List.mem_cons_of_mem _ hg'))
      fun _ _ hms ↦ congrArg (m' :: ·) hms

/-- **A filter asks for nothing but ports**, and for these only where it is given groups. By
induction over the filter: a combination asks one part after the other. -/
theorem agree_mask (hkind : resources.kind = kind) (g : PolicyFilter) :
    Agree f kind (seen f id) (mask resources g).run (mask resources g).run := by
  induction g using PolicyFilter.induct with
  -- a filter of rules asks the store for nothing
  | rules g => cases resources <;> exact .pure rfl
  | unattached =>
    cases resources with
    | groups items =>
      subst hkind
      refine agree_and_pure (agree_require _ (fun _ ↦ rfl) (Bulk.agree_unattachedGroups items))
        fun unattached unattached' h ↦ ?_
      obtain rfl : unattached' = unattached := h
      rfl
    | _ => exact .pure rfl
  | value g =>
    rw [mask]
    exact .pure rfl
  -- what the parts say is the same in both runs, and so is what is made of it
  | anyOf gs ih =>
    rw [mask]
    exact agree_and_pure (agree_masks ih) fun _ _ hms ↦ congrArg (anyMask resources.size) hms
  | allOf gs ih =>
    rw [mask]
    exact agree_and_pure (agree_masks ih) fun _ _ hms ↦ congrArg (allMask resources.size) hms

theorem agree_narrow (hkind : resources.kind = kind) (notes : MatchNotes)
    (fs : List PolicyFilter) :
    Agree f kind (seen f id) (narrow resources notes fs).run (narrow resources notes fs).run := by
  induction fs generalizing resources notes with
  | nil => exact .pure rfl
  | cons g gs ih =>
    rw [narrow]
    refine agree_bind (agree_mask hkind g) fun _ m m' _ hm ↦ ?_
    obtain rfl : m' = m := hm
    exact ih ((ResourceSet.kind_keep resources m').trans hkind) _

/-- **What a policy selects depends on nothing else.** -/
theorem agree_select (p : Policy) :
    Agree f p.kind (seen f id) (select p).run (select p).run := by
  refine agree_bind (agree_list p.kind) fun s listed listed' hlisted h ↦ ?_
  obtain rfl : listed' = listed := h
  refine agree_and_pure (agree_narrow (kind_of_list hlisted) {} p.filters) fun kept kept' h ↦ ?_
  obtain rfl : kept' = kept := h
  rfl

/-! ### Actions -/

/-- **An action looks at resources of its own kind.** -/
theorem agree_execute (hkind : resources.kind = kind) (a : PolicyAction) :
    Agree f kind (seen f (ActionReport.relabel f)) (execute resources a).run
      (execute resources a).run := by
  -- a step that cannot fail is the same in a run
  have hlift : ∀ {α β : Type} {g : α → β} {x : StoreM α} {make : α → ActionReport},
      Agree f kind g x x → (∀ a b, g b = g a → (make b).relabel f = (make a).relabel f) →
      Agree f kind (seen f (ActionReport.relabel f))
        (do return make (← (x : StoreM _)) : RunM _).run
        (do return make (← (x : StoreM _)) : RunM _).run :=
    fun hx hmake ↦ hx.and_pure fun a b hab ↦ congrArg (fun r ↦ Except.ok r) (hmake a b hab)
  -- each operation looks alike, and the report is made of what it gives
  subst hkind
  cases a with
  | delete =>
    cases resources with
    | rules items =>
      exact hlift (Bulk.agree_deleteRules items) fun _ _ h ↦ congrArg ActionReport.deleteRules h
    | groups items =>
      exact hlift (Bulk.agree_deleteGroups items) fun _ _ h ↦ congrArg ActionReport.deleteGroups h
    | _ => exact .pure rfl
  | removeRules plan =>
    cases resources with
    | rules items =>
      exact hlift (Bulk.agree_removeRules items plan) fun _ _ h ↦
        congrArg ActionReport.removeRules h
    | _ => exact .pure rfl
  | setRules add remove =>
    cases resources with
    | rules items =>
      exact hlift (Bulk.agree_setRules items add remove) fun _ _ h ↦
        congrArg₂ ActionReport.setRules (Prod.mk.inj h).1 (Prod.mk.inj h).2
    | _ => exact .pure rfl
  | setFlowLog change =>
    cases resources with
    | flowLogs items =>
      exact hlift (Bulk.agree_changeFlowLogs items change) fun _ _ h ↦
        congrArg (ActionReport.setFlowLog change.name) h
    | _ => exact .pure rfl

theorem agree_perform (hkind : resources.kind = kind) (isDryRun : Bool)
    (actions : List PolicyAction) :
    Agree f kind (seen f (List.map (ActionReport.relabel f)))
      (perform isDryRun actions resources).run (perform isDryRun actions resources).run := by
  cases isDryRun with
  | true => exact .pure rfl
  | false =>
    show Agree f kind _ (actions.mapM (execute resources)).run
      (actions.mapM (execute resources)).run
    induction actions with
    | nil => exact .pure rfl
    | cons a actions ih =>
      rw [List.mapM_cons]
      exact agree_bind (agree_execute hkind a) fun _ _ _ _ hreport ↦
        agree_and_pure ih fun _ _ hreports ↦ congrArg₂ List.cons hreport hreports

/-! ### Policies -/

/-- **From stores that policies of its kind cannot tell apart, a policy gives the same.** -/
theorem agree_policy (isDryRun : Bool) (p : Policy) :
    Agree f p.kind (seen f (PolicyReport.relabel f)) (policy isDryRun p).run
      (policy isDryRun p).run := by
  rw [policy_eq_select]
  refine agree_bind (agree_select p) fun s sel sel' hsel h ↦ ?_
  obtain rfl : sel' = sel := h
  exact agree_and_pure (agree_perform (kind_of_select hsel) isDryRun p.actions) fun _ _ hactions ↦
    congrArg (sel'.report isDryRun p) hactions

end Run

end NetWarden
