import NetWarden.Policy.Basic
import NetWarden.Proofs.Validation.Checked

/-!
# Accepted policies

The filters and actions of a policy that is read from a definition are about its kind. This is all
that a run needs to know of a policy: **what meets resources of other kinds is never run**.
-/

namespace NetWarden

namespace Policy

/-- Everything in a policy is about the policy's kind. -/
structure IsSupported (p : Policy) : Prop where
  /-- The filters are. -/
  filters : ∀ f ∈ p.filters, f.supports p.kind = true
  /-- The actions are. -/
  actions : ∀ a ∈ p.actions, a.supports p.kind = true

theorem forall_of_allPass {α : Type} {test : α → Bool} {fault : α → PolicyFault} {items : List α}
    (h : allPass test fault items = .ok ()) : ∀ a ∈ items, test a = true := by
  rw [allPass] at h
  split at h
  · cases h
  · rename_i hfind
    intro a ha
    simpa using List.find?_eq_none.mp hfind a ha

/-- What an accepted policy is read from, and what was asked of it. -/
theorem parts_of_ofDefinition {d : PolicyDefinition} {p : Policy} (h : ofDefinition d = .ok p) :
    PolicyFilter.ofItems d.filters = .ok p.filters ∧
      d.actions.mapM PolicyAction.ofJson = .ok p.actions ∧
      (∀ f ∈ p.filters, f.supports p.kind = true) ∧ ∀ a ∈ p.actions, a.supports p.kind = true := by
  rw [ofDefinition] at h
  split at h
  · cases h
  · have hbody := mapError_eq_ok_iff.mp h
    obtain ⟨kind, -, hbody⟩ := bind_eq_ok_iff.mp hbody
    obtain ⟨filters, hfilters, hbody⟩ := bind_eq_ok_iff.mp hbody
    obtain ⟨⟨⟩, hfiltersPass, hbody⟩ := bind_eq_ok_iff.mp hbody
    obtain ⟨actions, hactions, hbody⟩ := bind_eq_ok_iff.mp hbody
    obtain ⟨⟨⟩, hactionsPass, hbody⟩ := bind_eq_ok_iff.mp hbody
    cases hbody
    exact ⟨mapError_eq_ok_iff.mp hfilters, mapError_eq_ok_iff.mp hactions,
      forall_of_allPass hfiltersPass, forall_of_allPass hactionsPass⟩

/-- **An accepted policy is supported.** -/
theorem isSupported_of_ofDefinition {d : PolicyDefinition} {p : Policy}
    (h : ofDefinition d = .ok p) : p.IsSupported := by
  obtain ⟨-, -, hfilters, hactions⟩ := parts_of_ofDefinition h
  exact ⟨hfilters, hactions⟩

end Policy

/-- The policies of definitions are read from them. -/
theorem PolicySet.exists_of_mem_ofDefinitions {taken : List String} {ds : List PolicyDefinition}
    {ps : List Policy} (h : ofDefinitions taken ds = .ok ps) {p : Policy} (hp : p ∈ ps) :
    ∃ d ∈ ds, Policy.ofDefinition d = .ok p := by
  induction ds generalizing taken ps with
  | nil =>
    cases h
    exact absurd hp List.not_mem_nil
  | cons d ds ih =>
    rw [ofDefinitions] at h
    obtain ⟨q, hq, h⟩ := bind_eq_ok_iff.mp h
    split at h
    · cases h
    · obtain ⟨qs, hqs, h⟩ := bind_eq_ok_iff.mp h
      cases h
      -- the policy is that of the first definition, or of one that follows
      rcases List.mem_cons.mp hp with rfl | hp
      · exact ⟨d, List.mem_cons_self, hq⟩
      · obtain ⟨e, he, hread⟩ := ih hqs hp
        exact ⟨e, List.mem_cons_of_mem _ he, hread⟩

/-- **Every policy of a document is read from a definition.** -/
theorem PolicySet.exists_of_mem_ofDocument {d : PolicyDocument} {set : PolicySet}
    (h : ofDocument d = .ok set) {p : Policy} (hp : p ∈ set.policies) :
    ∃ e ∈ d.policies, Policy.ofDefinition e = .ok p := by
  obtain ⟨ps, hps, rfl⟩ := map_eq_ok_iff.mp h
  exact exists_of_mem_ofDefinitions hps hp

end NetWarden
