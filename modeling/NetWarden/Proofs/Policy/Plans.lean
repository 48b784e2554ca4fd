import NetWarden.Proofs.Bulk.Removal
import NetWarden.Proofs.Policy.Accepted

/-!
# The plans of accepted policies

What a policy removes is read from its definition, each direction from what the definition says
about it. So **a query of an accepted policy asks for rules of its own direction**, and says
nothing about groups (`Policy.isChecked_plan`).
-/

namespace NetWarden

/-- A plan that removes nothing sends no query. -/
theorem RemovalPlan.isChecked_none : RemovalPlan.none.IsChecked := by
  intro d queries h
  cases d <;> cases h

namespace PolicyAction

/-- What an action removes by a plan; any other action removes nothing so. -/
def plan : PolicyAction → RemovalPlan
  | .removeRules plan => plan
  | .setRules _ remove => remove
  | _ => .none

/-- What is read for a direction is checked for that direction. -/
theorem check_of_forDirection {α : Type} {b : Block} {key : String} {d : Direction}
    {check : Direction → Json → Checked α} {a : α}
    (h : forDirection b key d check = .ok (some a)) : ∃ v, check d v = .ok a := by
  rw [forDirection, Block.optional] at h
  split at h
  · rename_i v _
    rcases hv : check d v with e | c
    · rw [hv] at h
      cases h
    · rw [hv] at h
      cases h
      exact ⟨v, hv⟩
  · cases h

/-- The plan of a removal is checked direction by direction. -/
theorem isChecked_of_removeRulesOf {b : Block} {a : PolicyAction} (h : removeRulesOf b = .ok a) :
    a.plan.IsChecked := by
  obtain ⟨-, -, h⟩ := bind_eq_ok_iff.mp h
  obtain ⟨ingress, hingress, h⟩ := bind_eq_ok_iff.mp h
  obtain ⟨egress, hegress, h⟩ := bind_eq_ok_iff.mp h
  cases h
  intro d queries hplan
  -- a direction of which nothing is said sends no query
  cases d with
  | ingress =>
    rcases ingress with - | removal <;> cases hplan
    exact check_of_forDirection hingress
  | egress =>
    rcases egress with - | removal <;> cases hplan
    exact check_of_forDirection hegress

/-- What is added has no part in it. -/
theorem isChecked_of_setRulesOf {b : Block} {a : PolicyAction} (h : setRulesOf b = .ok a) :
    a.plan.IsChecked := by
  obtain ⟨-, -, h⟩ := bind_eq_ok_iff.mp h
  obtain ⟨addIngress, -, h⟩ := bind_eq_ok_iff.mp h
  obtain ⟨ingress, hingress, h⟩ := bind_eq_ok_iff.mp h
  obtain ⟨addEgress, -, h⟩ := bind_eq_ok_iff.mp h
  obtain ⟨egress, hegress, h⟩ := bind_eq_ok_iff.mp h
  cases h
  -- each direction of the plan was checked under its own key
  intro d queries hplan
  cases d with
  | ingress =>
    cases hplan
    exact check_of_forDirection hingress
  | egress =>
    cases hplan
    exact check_of_forDirection hegress

/-- An action on flow logs removes no rules. -/
theorem plan_of_setFlowLogOf {b : Block} {a : PolicyAction} (h : setFlowLogOf b = .ok a) :
    a.plan = .none := by
  obtain ⟨-, -, h⟩ := bind_eq_ok_iff.mp h
  obtain ⟨v, -, h⟩ := bind_eq_ok_iff.mp h
  obtain ⟨change, -, h⟩ := bind_eq_ok_iff.mp h
  -- whatever the change is, the action is one on flow logs
  split at h
  · cases h
    rfl
  split at h
  · cases h
    rfl
  split at h
  · cases h
    rfl
  split at h
  · obtain ⟨templates, -, h⟩ := bind_eq_ok_iff.mp h
    cases h
    rfl
  · cases h

theorem isChecked_of_ofBlock {b : Block} {a : PolicyAction} (h : ofBlock b = .ok a) :
    a.plan.IsChecked := by
  obtain ⟨v, -, h⟩ := bind_eq_ok_iff.mp h
  obtain ⟨kind, -, h⟩ := bind_eq_ok_iff.mp h
  -- one case for each type of action
  split at h
  · obtain ⟨-, -, h⟩ := bind_eq_ok_iff.mp h
    cases h
    exact RemovalPlan.isChecked_none
  split at h
  · exact isChecked_of_removeRulesOf h
  split at h
  · exact isChecked_of_setRulesOf h
  split at h
  · rw [plan_of_setFlowLogOf h]
    exact RemovalPlan.isChecked_none
  · cases h

theorem isChecked_of_ofJson {v : Json} {a : PolicyAction} (h : ofJson v = .ok a) :
    a.plan.IsChecked := by
  rw [ofJson.eq_def] at h
  split at h
  · exact isChecked_of_ofBlock h
  · obtain ⟨b, -, h⟩ := bind_eq_ok_iff.mp h
    exact isChecked_of_ofBlock h

end PolicyAction

/-- **The plans of an accepted policy are checked.** -/
theorem Policy.isChecked_plan {d : PolicyDefinition} {p : Policy} (h : ofDefinition d = .ok p) :
    ∀ a ∈ p.actions, a.plan.IsChecked := by
  obtain ⟨-, hread, -, -⟩ := parts_of_ofDefinition h
  intro a ha
  obtain ⟨v, -, hv⟩ := exists_of_mem_mapM hread ha
  exact PolicyAction.isChecked_of_ofJson hv

end NetWarden
