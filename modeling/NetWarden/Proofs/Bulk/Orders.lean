import NetWarden.Proofs.Bulk.Clearing

/-!
# Rules deleted in another order

A deletion names a rule by its id. It takes away the first rule that has the id, and fails if no
rule has it or a fault holds it; nothing else of the rule that was given counts. So two deletions
may change places, also if they name the same id: then the first of them finds the rule that the
other one would have found. **What deletions leave, and which ids they tell, does not depend on
their order** (`deleteEach_perm`).

`StoreM.Exchangeable` is the argument for any steps: if two of them may change places, any number of
them may be put in any order. It asks for no more than that their results are the same as they are
*seen*, since a failure has the number of the call in it.

A removal of what matched is a deletion in another order: what comes in goes first
(`removeRules_matched`).
-/

namespace NetWarden

open Inventory Store StoreM

variable {α β γ : Type}

/-! ### Steps that may change places -/

namespace StoreM

/-- Steps for which the order does not matter: stores that are related are not told apart, and of
two steps either may be the first. -/
structure Exchangeable (r : Store → Store → Prop) (view : β → γ) (f : α → StoreM β) : Prop where
  /-- A store is related to itself. -/
  refl : ∀ s, r s s
  /-- The relation goes on. -/
  trans : ∀ {s t u}, r s t → r t u → r s u
  /-- From related stores a step gives the same, as it is seen, and leaves related stores. -/
  congr : ∀ a {s t}, r s t →
    r ((f a).after s) ((f a).after t) ∧ view ((f a).result t) = view ((f a).result s)
  /-- Two steps leave related stores in either order, and give the same two results. -/
  swap : ∀ a b s,
    r ((f b).after ((f a).after s)) ((f a).after ((f b).after s)) ∧
      [view ((f a).result s), view ((f b).result ((f a).after s))].Perm
        [view ((f b).result s), view ((f a).result ((f b).after s))]

namespace Exchangeable

variable {r : Store → Store → Prop} {view : β → γ} {f : α → StoreM β} {as bs : List α} {s t : Store}

/-- Related stores are not told apart by any number of steps. -/
theorem mapM_congr (h : Exchangeable r view f) (as : List α) (hst : r s t) :
    r (after (as.mapM f) s) (after (as.mapM f) t) ∧
      (result (as.mapM f) t).map view = (result (as.mapM f) s).map view := by
  induction as generalizing s t with
  | nil => exact ⟨hst, rfl⟩
  | cons a as ih =>
    obtain ⟨hnext, hfirst⟩ := h.congr a hst
    obtain ⟨hafter, hrest⟩ := ih hnext
    rw [after_mapM_cons, after_mapM_cons, result_mapM_cons, result_mapM_cons, List.map_cons,
      List.map_cons, hfirst, hrest]
    exact ⟨hafter, rfl⟩

/-- **Any number of steps may be put in any order.** -/
theorem mapM_perm (h : Exchangeable r view f) (hperm : as.Perm bs) (hst : r s t) :
    r (after (as.mapM f) s) (after (bs.mapM f) t) ∧
      ((result (bs.mapM f) t).map view).Perm ((result (as.mapM f) s).map view) := by
  induction hperm generalizing s t with
  | nil => exact ⟨hst, .nil⟩
  | cons a _ ih =>
    obtain ⟨hnext, hfirst⟩ := h.congr a hst
    obtain ⟨hafter, hrest⟩ := ih hnext
    rw [after_mapM_cons, after_mapM_cons, result_mapM_cons, result_mapM_cons, List.map_cons,
      List.map_cons, hfirst]
    exact ⟨hafter, hrest.cons _⟩
  | swap a b as =>
    -- change the two places at one store, and only then go over to the other one
    obtain ⟨hplaces, htwo⟩ := h.swap b a s
    obtain ⟨hone, hfirst⟩ := h.congr a hst
    obtain ⟨hboth, hsecond⟩ := h.congr b hone
    obtain ⟨hafter, hrest⟩ := h.mapM_congr as (h.trans hplaces hboth)
    simp only [after_mapM_cons, result_mapM_cons, List.map_cons, hfirst, hsecond, hrest]
    exact ⟨hafter, htwo.symm.append_right _⟩
  | trans _ _ ih ih' =>
    obtain ⟨hleft, hperm⟩ := ih (h.refl s)
    obtain ⟨hright, hperm'⟩ := ih' hst
    exact ⟨h.trans hleft hright, hperm'.trans hperm⟩

end Exchangeable

end StoreM

/-! ### What outcomes are about -/

namespace Outcome

/-- What an outcome is about: on the left the id of what was worked for, on the right what a failure
is put down to. -/
def about (id : α → String) : Outcome α → String ⊕ String
  | .ok a => .inl (id a)
  | .error f => .inr f.resourceId

theorem filterMap_getLeft?_about (id : α → String) (outcomes : List (Outcome α)) :
    (outcomes.map (about id)).filterMap Sum.getLeft? = (outcomes.filterMap value?).map id := by
  rw [List.filterMap_map, List.map_filterMap]
  exact congrArg (List.filterMap · outcomes) (funext fun o ↦ by rcases o with f | a <;> rfl)

theorem filterMap_getRight?_about (id : α → String) (outcomes : List (Outcome α)) :
    (outcomes.map (about id)).filterMap Sum.getRight? =
      (outcomes.filterMap failure?).map FailureRecord.resourceId := by
  rw [List.filterMap_map, List.map_filterMap]
  exact congrArg (List.filterMap · outcomes) (funext fun o ↦ by rcases o with f | a <;> rfl)

end Outcome

namespace Inventory

/-- Whether a rule with the id of a rule is there. -/
def hasId (i : Inventory) (r : Rule) : Bool := i.rules.any fun q ↦ q.id == r.id

/-- Without a rule that has the id there is nothing to drop. -/
theorem dropRule_eq_self {i : Inventory} {r : Rule} (h : i.hasId r = false) :
    i.dropRule r = i := by
  have hnone : ∀ q ∈ i.rules, ¬ (q.id == r.id) = true := by
    simpa [hasId] using h
  rw [dropRule, List.eraseP_of_forall_not hnone]

/-- Dropping the rule with one id is not seen by who looks for another. -/
theorem hasId_dropRule_of_ne (i : Inventory) {q r : Rule} (h : q.id ≠ r.id) :
    (i.dropRule q).hasId r = i.hasId r := by
  rw [Bool.eq_iff_iff, hasId, hasId, List.any_eq_true, List.any_eq_true]
  refine exists_congr fun p ↦ and_congr_left fun hp ↦ ?_
  rw [dropRule, List.mem_eraseP_of_neg]
  rw [beq_iff_eq] at hp ⊢
  exact fun hq ↦ h (hq.symm.trans hp)

/-- **Rules may be dropped in either order.** -/
theorem dropRule_comm (i : Inventory) (q r : Rule) :
    (i.dropRule q).dropRule r = (i.dropRule r).dropRule q := by
  by_cases h : q.id = r.id
  · simp only [dropRule, h]
  · rw [dropRule, dropRule, dropRule, dropRule, List.eraseP_comm]
    simp only [beq_iff_eq]
    exact fun p _ ↦ not_and_or.mp fun hp ↦ h (hp.1.symm.trans hp.2)

/-- So any number of them may be dropped in any order. -/
theorem changeEach_dropRule_perm {rules rules' : List Rule} (h : rules.Perm rules')
    (i : Inventory) : changeEach dropRule rules i = changeEach dropRule rules' i :=
  h.foldl_eq' (fun q _ r _ i ↦ dropRule_comm i q r) i

end Inventory

namespace Bulk

variable {s t : Store} {rules rules' : List Rule}

/-! ### One deletion -/

/-- **How a deletion ends**: the rule that was given is told, or a failure that is put down to its
id. -/
theorem deleteRule_cases (r : Rule) (s : Store) :
    ((s.canDelete r && s.inventory.hasId r) = true ∧ (deleteRule r).result s = .ok r) ∨
      ((s.canDelete r && s.inventory.hasId r) = false ∧
        ∃ f, (deleteRule r).result s = .error f ∧ f.resourceId = r.id) := by
  have htold : (deleteRule r).result s = Except.map (fun _ ↦ r)
      (((Store.deleteRule r.id).result s).mapError (FailureRecord.of r.id .deleteRule)) := by
    simp only [deleteRule, result_bind, result_pure, Outcome.result_of]
  rw [htold]
  rcases hp : s.canDelete r with - | -
  · obtain ⟨f, hf⟩ := exists_fault_of_not_permits hp
    rw [Store.deleteRule, result_attempt_of_fault hf]
    exact .inr ⟨rfl, _, rfl, rfl⟩
  · rw [Bool.true_and]
    rcases hid : s.inventory.hasId r with - | -
    · -- no fault is met, but the store drops nothing
      have hnone : dropFirst? (fun q : Rule ↦ q.id == r.id) s.inventory.rules = none :=
        if_neg (Bool.eq_false_iff.mp hid)
      rw [Store.deleteRule, result_attempt_of_not_act (fault?_of_permits hp) (by rw [hnone]; rfl)]
      exact .inr ⟨rfl, _, rfl, rfl⟩
    · obtain ⟨q, hq, hqr⟩ := List.any_eq_true.mp hid
      rw [beq_iff_eq] at hqr
      rw [canDelete, ← hqr] at hp
      rw [← hqr, result_deleteRule_of_mem hq hp]
      exact .inl ⟨rfl, rfl⟩

/-- **What a deletion tells**: that the rule is gone if no fault holds it and its id was there. -/
theorem about_result_deleteRule (r : Rule) (s : Store) :
    Outcome.about Rule.id ((deleteRule r).result s) =
      if s.canDelete r && s.inventory.hasId r then .inl r.id else .inr r.id := by
  rcases deleteRule_cases r s with ⟨hdone, hresult⟩ | ⟨hfailed, f, hresult, hf⟩
  · rw [hdone, hresult]
    rfl
  · rw [hfailed, hresult]
    exact congrArg Sum.inr hf

/-- **What a deletion leaves**: all but the first rule with the id, if no fault holds it. -/
theorem inventory_after_deleteRule (r : Rule) (s : Store) :
    ((deleteRule r).after s).inventory =
      if s.canDelete r then s.inventory.dropRule r else s.inventory := by
  rw [accounts_deleteRule r s]
  rcases deleteRule_cases r s with ⟨hdone, hresult⟩ | ⟨hfailed, f, hresult, -⟩
  · rw [hresult, if_pos (Bool.and_eq_true_iff.mp hdone).1]
    rfl
  · rw [hresult]
    rcases hp : s.canDelete r with - | -
    · rfl
    · rw [hp, Bool.true_and] at hfailed
      exact (dropRule_eq_self hfailed).symm

/-- What deletions leave is told apart by the resources alone. -/
theorem unchanged_of_sameSupply {u v : Store} (hst : s.Unchanged t) (hu : s.SameSupply u)
    (hv : t.SameSupply v) (h : v.inventory = u.inventory) : u.Unchanged v where
  faults := by rw [hv.faults, hst.faults, hu.faults]
  supply := by rw [hv.supply, hst.supply, hu.supply]
  inventory := h
  created := by rw [hv.created, hst.created, hu.created]

/-! ### Deletions in any order -/

/-- **Deletions may change places.** -/
theorem exchangeable_deleteRule :
    Exchangeable Unchanged (Outcome.about Rule.id) deleteRule where
  refl := .refl
  trans := .trans
  congr r s t hst := by
    have hdelete : t.canDelete r = s.canDelete r := congrFun hst.canDelete_eq r
    refine ⟨unchanged_of_sameSupply hst (sameSupply_deleteRule r s) (sameSupply_deleteRule r t) ?_,
      ?_⟩
    · rw [inventory_after_deleteRule, inventory_after_deleteRule, hdelete, hst.inventory]
    · rw [about_result_deleteRule, about_result_deleteRule, hdelete, hst.inventory]
  swap q r s := by
    have hq : ((deleteRule q).after s).canDelete = s.canDelete :=
      (sameSupply_deleteRule q s).canDelete_eq
    have hr : ((deleteRule r).after s).canDelete = s.canDelete :=
      (sameSupply_deleteRule r s).canDelete_eq
    refine ⟨unchanged_of_sameSupply (.refl s)
      ((sameSupply_deleteRule q s).trans (sameSupply_deleteRule r _))
      ((sameSupply_deleteRule r s).trans (sameSupply_deleteRule q _)) ?_, ?_⟩
    · simp only [inventory_after_deleteRule, hq, hr]
      cases s.canDelete q <;> cases s.canDelete r <;> simp [dropRule_comm s.inventory q r]
    · rw [about_result_deleteRule, about_result_deleteRule, about_result_deleteRule,
        about_result_deleteRule, hq, hr, inventory_after_deleteRule, inventory_after_deleteRule]
      by_cases hid : q.id = r.id
      -- the same id twice: the first deletion has the outcome that the other would have had
      · simp only [canDelete, hasId, dropRule, hid]
        exact .refl _
      -- two ids: neither deletion is seen by the other one
      · have hleft := hasId_dropRule_of_ne s.inventory hid
        have hright := hasId_dropRule_of_ne s.inventory (Ne.symm hid)
        simp only [apply_ite (hasId · r), apply_ite (hasId · q), hleft, hright, ite_self]
        exact .swap _ _ _

/-- **What deletions leave, and which ids they tell, does not depend on their order.** -/
theorem deleteRules_perm (h : rules.Perm rules') (s : Store) :
    ((deleteRules rules).after s).Unchanged ((deleteRules rules').after s) ∧
      (((deleteRules rules').result s).succeeded.map Rule.id).Perm
        (((deleteRules rules).result s).succeeded.map Rule.id) ∧
      (((deleteRules rules').result s).failed.map FailureRecord.resourceId).Perm
        (((deleteRules rules).result s).failed.map FailureRecord.resourceId) := by
  obtain ⟨hafter, hseen⟩ := exchangeable_deleteRule.mapM_perm h (Unchanged.refl s)
  have hdone := hseen.filterMap Sum.getLeft?
  have hfailed := hseen.filterMap Sum.getRight?
  simp only [Outcome.filterMap_getLeft?_about] at hdone
  simp only [Outcome.filterMap_getRight?_about] at hfailed
  exact ⟨hafter, hdone, hfailed⟩

/-! ### One direction after the other -/

/-- The rules that come in, and then those that go out. -/
def byDirection (rules : List Rule) : List Rule :=
  rules.filter (fun r ↦ r.direction == .ingress) ++ rules.filter fun r ↦ r.direction == .egress

theorem perm_byDirection (rules : List Rule) : (byDirection rules).Perm rules := by
  have hegress : ∀ r : Rule, (r.direction == .egress) = !(r.direction == .ingress) := by
    intro r
    cases r.direction <;> rfl
  simp only [byDirection, hegress]
  exact List.filter_append_perm _ _

/-- **Removing what matched, in both directions, is to delete the rules that were given.** -/
theorem removeRules_matched (rules : List Rule) :
    removeRules rules .matched = deleteRules (byDirection rules) := by
  have hdirection : ∀ d, removeDirection rules .matched d =
      deleteEach (rules.filter fun r ↦ r.direction == d) := by
    intro d
    cases d <;> rfl
  rw [removeRules, deleteRules]
  simp only [Direction.all, List.mapM_cons, List.mapM_nil, hdirection, deleteEach, byDirection,
    List.mapM_append, bind_assoc, pure_bind, List.flatten_cons, List.flatten_nil, List.append_nil]

/-- **To delete rules and to remove those that matched come to the same**: the same is left, and the
same ids are told as done and as failed, each as often. -/
theorem deleteRules_removeRules_agree (rules : List Rule) (s : Store) :
    ((deleteRules rules).after s).Unchanged ((removeRules rules .matched).after s) ∧
      (((removeRules rules .matched).result s).succeeded.map Rule.id).Perm
        (((deleteRules rules).result s).succeeded.map Rule.id) ∧
      (((removeRules rules .matched).result s).failed.map FailureRecord.resourceId).Perm
        (((deleteRules rules).result s).failed.map FailureRecord.resourceId) := by
  rw [removeRules_matched]
  exact deleteRules_perm (perm_byDirection rules).symm s

end Bulk

end NetWarden
