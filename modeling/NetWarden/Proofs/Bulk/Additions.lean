import Mathlib.Data.List.Forall2
import NetWarden.Proofs.Bulk.Supply

/-!
# What an addition does

A call that creates something is held by a fault or by nothing: there is no resource that it needs.
`Serves` says of two stores that such calls were made in between, one for each of some things, and
gave outcomes. **Each thing that no fault holds got what was made for it, in the order of the
things, and each other one is told once as a failure.** It goes on from call to call
(`Serves.append`), so one lemma about one call carries all of them (`Serves.mapM`).

`Bulk.addRules_effect` is the exact effect of adding rules to groups: the calls, the rules made in
each group and what they state, the failures, and the store that is left. What a rule states of its
template is written out field by field (`RuleTemplate.Makes`); only three fields have a default.
-/

namespace NetWarden

open Inventory Store StoreM

/-! ### What a rule states of its template -/

/-- A rule in a group is what a template asks for. What the template leaves open stays open, but for
the family of addresses, the priority and whether the traffic may pass. -/
structure RuleTemplate.Makes (t : RuleTemplate) (groupId : String) (r : Rule) : Prop where
  /-- The group. -/
  groupId : r.groupId = groupId
  /-- The direction is the template's own, whichever list the template stands in. -/
  direction : r.direction = t.direction
  /-- The description. -/
  description : r.description = t.description
  /-- The protocol. -/
  protocol : r.protocol = t.protocol
  /-- The ports. -/
  multiport : r.multiport = t.multiport
  /-- The addresses at the other end. -/
  remotePrefix : r.remotePrefix = t.remotePrefix
  /-- The group of the other end. -/
  remoteGroupId : r.remoteGroupId = t.remoteGroupId
  /-- The address group of the other end. -/
  remoteAddressGroupId : r.remoteAddressGroupId = t.remoteAddressGroupId
  /-- The family of addresses is `IPv4` where none is asked for. -/
  ethertype : r.ethertype = some (t.ethertype.getD "IPv4")
  /-- The priority is one where none is asked for. -/
  priority : r.priority = some (t.priority.getD 1)
  /-- The traffic may pass where nothing is asked for. -/
  action : r.action = some (t.action.getD .allow)

theorem RuleTemplate.makes_toRule (t : RuleTemplate) (id groupId : String) :
    t.Makes groupId (t.toRule id groupId) := by
  constructor <;> rfl

/-! ### Calls that only a fault can hold -/

section

variable {α β : Type} {call : α → String × Call} {made : α → β → Prop} {s t u : Store}
  {as as' : List α} {outcomes outcomes' : List (Outcome β)}

/-- Between two stores a call was made for each of some things, in order, and only faults held
calls. -/
structure Serves (call : α → String × Call) (made : α → β → Prop) (s t : Store) (as : List α)
    (outcomes : List (Outcome β)) : Prop extends SameSetting s t where
  /-- The failures are counted. -/
  failures : t.failures = s.failures + (s.faultRecords s.failures (as.map call)).length
  /-- The calls that were made. -/
  calls : t.log.map CallRecord.call = s.log.map CallRecord.call ++ as.map fun a ↦ (call a).2
  /-- What is told as made, for each thing whose call no fault held. -/
  succeeded : List.Forall₂ made (as.filter fun a ↦ s.permits (call a).2)
    (outcomes.filterMap Outcome.value?)
  /-- The failures that are told. -/
  failed : outcomes.filterMap Outcome.failure? = s.faultRecords s.failures (as.map call)

namespace Serves

theorem refl (call : α → String × Call) (made : α → β → Prop) (s : Store) :
    Serves call made s s [] [] where
  toSameSetting := .refl s
  failures := rfl
  calls := (List.append_nil _).symm
  succeeded := .nil
  failed := rfl

theorem append (h : Serves call made s t as outcomes) (h' : Serves call made t u as' outcomes') :
    Serves call made s u (as ++ as') (outcomes ++ outcomes') where
  toSameSetting := h.toSameSetting.trans h'.toSameSetting
  failures := by
    rw [h'.failures, h.faultRecords_eq, h.failures, List.map_append, faultRecords_append,
      List.length_append, Nat.add_assoc]
  calls := by rw [h'.calls, h.calls, List.map_append, List.append_assoc]
  succeeded := by
    have hrest := h'.succeeded
    simp only [h.permits_eq] at hrest
    rw [List.filter_append, List.filterMap_append]
    exact List.rel_append h.succeeded hrest
  failed := by
    rw [List.filterMap_append, h.failed, h'.failed, h.faultRecords_eq, h.failures, List.map_append,
      faultRecords_append]

/-- **What holds of each call holds of all of them**, one after the other. -/
theorem mapM {f : α → StoreM (Outcome β)}
    (hf : ∀ a s, Serves call made s ((f a).after s) [a] [(f a).result s]) (as : List α)
    (s : Store) : Serves call made s (after (as.mapM f) s) as (result (as.mapM f) s) := by
  induction as generalizing s with
  | nil => exact .refl call made s
  | cons a as ih =>
    rw [after_mapM_cons, result_mapM_cons]
    exact (hf a s).append (ih _)

/-- **A call that always acts is held by faults alone.** -/
theorem attempt {act : Store → Option (β × Store)} (a : α)
    (hact : ∀ s, ∃ b, made a b ∧ ∃ f n, act s = some (b, { s.update f with created := n }))
    (s : Store) :
    Serves call made s
      (after (Outcome.of (call a).1 (call a).2.operation (Store.attempt (call a).2 act)) s) [a]
      [result (Outcome.of (call a).1 (call a).2.operation (Store.attempt (call a).2 act)) s] := by
  rw [Outcome.after_of, Outcome.result_of]
  rcases hp : s.permits (call a).2 with - | -
  · -- a fault is met, which is told
    obtain ⟨f, hf⟩ := exists_fault_of_not_permits hp
    have hrecords := faultRecords_singleton_of_fault hf s.failures
    rw [result_attempt_of_fault hf, after_attempt_of_fault hf]
    refine ⟨⟨rfl, rfl⟩, ?_, List.map_append, ?_, hrecords.symm⟩
    · rw [List.map_singleton, hrecords, List.length_singleton]
    · rw [List.filter_cons_of_neg (by simp [hp])]
      exact .nil
  · obtain ⟨b, hb, f, n, hact⟩ := hact s
    have hrecords : s.faultRecords s.failures [call a] = [] :=
      faultRecords_of_permits (fun c hc ↦ by rw [List.mem_singleton.mp hc]; exact hp) _
    rw [result_attempt_of_act (fault?_of_permits hp) hact,
      after_attempt_of_act (fault?_of_permits hp) hact]
    refine ⟨⟨rfl, rfl⟩, ?_, List.map_append, ?_, hrecords.symm⟩
    · rw [List.map_singleton, hrecords]
      rfl
    · rw [List.filter_cons_of_pos (by simpa using hp)]
      exact .cons hb .nil

end Serves

end

namespace Store

variable (s : Store)

/-- What the failures are put down to: that whose call meets a fault, each time, in order. -/
theorem resourceIds_faultRecords (n : Nat) (calls : List (String × Call)) :
    (s.faultRecords n calls).map FailureRecord.resourceId =
      (calls.filter fun c ↦ !s.permits c.2).map Prod.fst := by
  induction calls generalizing n with
  | nil => rfl
  | cons c calls ih =>
    rw [faultRecords]
    rcases hf : s.fault? c.2 with - | f
    · rw [List.filter_cons_of_neg (by simp [permits, hf])]
      exact ih n
    · rw [List.filter_cons_of_pos (by simp [permits, hf])]
      exact congrArg (c.1 :: ·) (ih (n + 1))

/-- Whether no fault stands in the way of creating rules in a group. -/
def canCreate (groupId : String) : Bool :=
  s.faults.all fun f ↦ f.operation != .createRules || f.key != groupId && f.key != Call.anyKey

/-- What is made of templates with the next ids is what each of them asks for, in order. -/
theorem forall₂_makes_withIds (groupId : String) (templates : List RuleTemplate) :
    List.Forall₂ (fun t r ↦ t.Makes groupId r) templates
      ((s.withIds templates).map fun t ↦ t.2.toRule t.1 groupId) := by
  have hsnd : (s.withIds templates).map Prod.snd = templates :=
    List.ext_getElem (by simp [withIds]) fun k hk hk' ↦ by simp [withIds]
  rw [List.forall₂_map_right_iff]
  nth_rewrite 1 [← hsnd]
  rw [List.forall₂_map_left_iff]
  exact List.forall₂_same.mpr fun p _ ↦ p.2.makes_toRule p.1 groupId

theorem permits_createRules (groupId : String) (templates : List RuleTemplate) :
    s.permits (.createRules groupId templates) = s.canCreate groupId :=
  s.permits_eq_all _

end Store

namespace Bulk

/-- The call that creates rules in a group, put down to the group. -/
def creation (templates : List RuleTemplate) (groupId : String) : String × Call :=
  (groupId, .createRules groupId templates)

/-- **Rules are created in each group for all templates at once**, or in none. -/
theorem serves_addToGroup (templates : List RuleTemplate) (groupId : String) (s : Store) :
    Serves (creation templates) (fun g rules ↦ List.Forall₂ (fun t r ↦ t.Makes g r) templates rules)
      s ((addToGroup templates groupId).after s) [groupId]
      [(addToGroup templates groupId).result s] :=
  Serves.attempt groupId (fun s ↦ ⟨_, s.forall₂_makes_withIds groupId templates, _, _, rfl⟩) s

/-- **What is made group by group** is made for each group with each template. -/
theorem forall₂_product {templates : List RuleTemplate} {groupIds : List String}
    {lists : List (List Rule)}
    (h : List.Forall₂ (fun g rules ↦ List.Forall₂ (fun t r ↦ t.Makes g r) templates rules)
      groupIds lists) :
    List.Forall₂ (fun p r ↦ p.2.Makes p.1 r) (groupIds.product templates) lists.flatten := by
  rw [List.product, List.flatMap_def]
  refine List.rel_flatten (List.forall₂_map_left_iff.mpr (h.imp fun g rules hrules ↦ ?_))
  exact List.forall₂_map_left_iff.mpr hrules

section

variable {templates : RuleTemplates}

/-- Without templates no call is made. -/
theorem addRules_of_eq_nil (groupIds : List String)
    (h : templates.ingress ++ templates.egress = []) :
    addRules groupIds templates = pure .none := by
  obtain ⟨hingress, hegress⟩ := List.append_eq_nil_iff.mp h
  rw [addRules, RuleTemplates.isEmpty, hingress, hegress]
  rfl

/-- With templates one call is made for each group. -/
theorem addRules_of_ne_nil (groupIds : List String)
    (h : templates.ingress ++ templates.egress ≠ []) : addRules groupIds templates = (do
      let created ← groupIds.eraseDups.mapM (addToGroup (templates.ingress ++ templates.egress))
      return ⟨(created.filterMap Outcome.value?).flatten,
        created.filterMap Outcome.failure?⟩) := by
  have hsome : ¬ templates.isEmpty = true := fun hempty ↦ h (by
    rw [RuleTemplates.isEmpty, Bool.and_eq_true, List.isEmpty_iff, List.isEmpty_iff] at hempty
    rw [hempty.1, hempty.2, List.append_nil])
  rw [addRules, if_neg hsome, distinctOn_id_eq_eraseDups]
  rfl

end

/-- **What an addition does.** Without templates no call is made. Else one call is made for each
group, at its first place among those named, for the templates of both directions together, what
comes in first. Each group that no fault holds gets one rule for each template, in their order, with
the next ids of the supply; of each other group one failure is told, and it gets no rule. The rules
that are told are put after those that were there, and nothing else is changed. -/
theorem addRules_effect (s : Store) (groupIds : List String) (templates : RuleTemplates) :
    let r := (addRules groupIds templates).result s
    let t := (addRules groupIds templates).after s
    let each := templates.ingress ++ templates.egress
    let groups := groupIds.eraseDups
    let calls := groups.map (creation each)
    (each = [] → r.succeeded = [] ∧ r.failed = [] ∧ t = s) ∧
      (each ≠ [] →
        List.Forall₂ (fun p q ↦ p.2.Makes p.1 q) ((groups.filter s.canCreate).product each)
            r.succeeded ∧
          r.succeeded.map Rule.id = s.nextIds r.succeeded.length ∧
          r.failed = s.faultRecords s.failures calls ∧
          r.failed.map FailureRecord.resourceId = groups.filter (fun g ↦ !s.canCreate g) ∧
          t.inventory = { s.inventory with rules := s.inventory.rules ++ r.succeeded } ∧
          t.log.map CallRecord.call = s.log.map CallRecord.call ++ calls.map Prod.snd) := by
  intro r t each groups calls
  constructor
  · intro hnone
    have hadd := addRules_of_eq_nil groupIds hnone
    have hr : r = .none := congrArg (fun x ↦ result x s) hadd
    exact ⟨congrArg BulkResult.succeeded hr, congrArg BulkResult.failed hr,
      congrArg (fun x ↦ after x s) hadd⟩
  · intro hsome
    have hadd := addRules_of_ne_nil groupIds hsome
    -- what each call does, and with it what they do together, is what `Serves` says
    have hserves := Serves.mapM (serves_addToGroup each) groups s
    have hr : r = ⟨((result (groups.mapM (addToGroup each)) s).filterMap Outcome.value?).flatten,
        (result (groups.mapM (addToGroup each)) s).filterMap Outcome.failure?⟩ :=
      congrArg (fun x ↦ result x s) hadd
    have ht : t = after (groups.mapM (addToGroup each)) s := congrArg (fun x ↦ after x s) hadd
    have hfailed : r.failed = s.faultRecords s.failures calls := by
      rw [hr]
      exact hserves.failed
    refine ⟨?_, (takes_addRules groupIds templates s).ids_eq.trans ?_, hfailed, ?_,
      accounts_addRules groupIds templates s, ?_⟩
    · -- a group that no fault holds gets one rule for each template
      rw [hr]
      have hmade := hserves.succeeded
      simp only [creation, permits_createRules] at hmade
      exact forall₂_product hmade
    · rw [List.length_map]
    · -- of the other groups one failure each is told
      rw [hfailed, resourceIds_faultRecords, List.filter_map, List.map_map]
      simp only [Function.comp_def, creation, permits_createRules, List.map_id']
    · rw [ht, hserves.calls, List.map_map]
      rfl

end Bulk

end NetWarden
