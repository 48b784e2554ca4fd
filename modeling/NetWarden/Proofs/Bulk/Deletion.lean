import Mathlib.Data.List.Nodup
import NetWarden.Bulk.Rules
import NetWarden.Proofs.Bulk.Outcomes

/-!
# Deleting rules that are there

What comes of deleting rules one by one when every one of them is in the store and no two rules have
the same id. A deletion then fails for one reason only, a fault, so all that is said about the
outcomes can be read off the store at the beginning: what is deleted (`Store.canDelete`) and what is
reported (`Store.faultRecords`).

`Deletes` holds this together: between two stores, calls were made that were to delete rules in a
given order, and gave outcomes. It goes on from one sequence of calls to the next
(`Deletes.append`), since **deleting some rules keeps the faults, the order of the others and the
difference of their ids**. So one lemma about one deletion carries all of them.
-/

namespace NetWarden

open StoreM

namespace Store

variable {s t : Store}

/-- Whether no fault stands in the way of deleting a rule. -/
def canDelete (s : Store) (r : Rule) : Bool := s.permits (.deleteRule r.id)

/-- The call that deletes a rule, put down to the rule. -/
def deletion (r : Rule) : String × Call := (r.id, .deleteRule r.id)

theorem SameSetting.canDelete_eq (h : SameSetting s t) : t.canDelete = s.canDelete :=
  funext fun _ ↦ h.permits_eq _

end Store

namespace Inventory

/-- The inventory with only those rules that pass a test. -/
def keepRules (test : Rule → Bool) (i : Inventory) : Inventory :=
  { i with rules := i.rules.filter test }

@[simp] theorem rules_keepRules (test : Rule → Bool) (i : Inventory) :
    (i.keepRules test).rules = i.rules.filter test := rfl

theorem keepRules_keepRules (test test' : Rule → Bool) (i : Inventory) :
    (i.keepRules test).keepRules test' = i.keepRules fun r ↦ test' r && test r := by
  rw [keepRules, keepRules, keepRules, List.filter_filter]

theorem keepRules_eq_self {test : Rule → Bool} {i : Inventory} (h : ∀ r ∈ i.rules, test r = true) :
    i.keepRules test = i := by
  rw [keepRules, List.filter_eq_self.mpr h]

end Inventory

/-! ### Taking away the one with an id -/

/-- The first element with a key is the only one if no two have the same key. -/
theorem eraseP_key_eq_filter_ne {α : Type} (key : α → String) (k : String) {as : List α}
    (hkeys : (as.map key).Nodup) :
    as.eraseP (fun b ↦ key b == k) = as.filter fun b ↦ key b != k := by
  induction as with
  | nil => rfl
  | cons a as ih =>
    rw [List.map_cons, List.nodup_cons] at hkeys
    obtain ⟨ha, has⟩ := hkeys
    by_cases hk : key a = k
    · have hne : ∀ b ∈ as, (key b != k) = true := fun b hb ↦
        bne_iff_ne.mpr fun h ↦ ha (hk.trans h.symm ▸ List.mem_map_of_mem hb)
      rw [List.eraseP_cons_of_pos (by simpa using hk), List.filter_cons_of_neg (by simpa using hk),
        List.filter_eq_self.mpr hne]
    · rw [List.eraseP_cons_of_neg (by simpa using hk), List.filter_cons_of_pos (by simpa using hk),
        ih has]

/-- So the first with the key of an element that is there is this element. -/
theorem eraseP_key_eq_filter {α : Type} [DecidableEq α] (key : α → String) {as : List α} {a : α}
    (hkeys : (as.map key).Nodup) (ha : a ∈ as) :
    as.eraseP (fun b ↦ key b == key a) = as.filter fun b ↦ !(b == a) := by
  rw [eraseP_key_eq_filter_ne key (key a) hkeys]
  refine List.filter_congr fun b hb ↦ ?_
  rw [Bool.eq_iff_iff, bne_iff_ne, Bool.not_eq_true', beq_eq_false_iff_ne]
  exact ⟨fun h hba ↦ h (congrArg key hba),
    fun h hkey ↦ h (List.inj_on_of_nodup_map hkeys hb ha hkey)⟩

/-! ### Sequences of deletions -/

/-- Between two stores, calls were made that were to delete rules in an order, and gave outcomes:
just those rules are gone that no fault held, and just they are told as deleted; each fault that was
met is told once. -/
structure Deletes (s t : Store) (calls : List (String × Call)) (order : List Rule)
    (outcomes : List (Outcome Rule)) : Prop extends Store.SameSetting s t where
  /-- The rules that are left, in the order in which they were. -/
  inventory :
    t.inventory = s.inventory.keepRules fun r ↦ !(order.contains r && s.canDelete r)
  /-- The failures are counted. -/
  failures : t.failures = s.failures + (s.faultRecords s.failures calls).length
  /-- The rules that are told as deleted. -/
  succeeded : outcomes.filterMap Outcome.value? = order.filter s.canDelete
  /-- The failures that are told. -/
  failed : outcomes.filterMap Outcome.failure? = s.faultRecords s.failures calls

namespace Deletes

variable {s t u : Store} {calls calls' : List (String × Call)} {order order' : List Rule}
  {outcomes outcomes' : List (Outcome Rule)}

theorem refl (s : Store) : Deletes s s [] [] [] where
  toSameSetting := .refl s
  inventory := (Inventory.keepRules_eq_self (by simp)).symm
  failures := rfl
  succeeded := rfl
  failed := rfl

theorem append (h : Deletes s t calls order outcomes)
    (h' : Deletes t u calls' order' outcomes') :
    Deletes s u (calls ++ calls') (order ++ order') (outcomes ++ outcomes') where
  toSameSetting := h.toSameSetting.trans h'.toSameSetting
  inventory := by
    -- a rule is kept by both orders together just if each of them keeps it
    rw [h'.inventory, h.inventory, h.canDelete_eq, Inventory.keepRules_keepRules]
    congr 1
    funext r
    rw [List.contains_append, Bool.and_or_distrib_right, Bool.not_or, Bool.and_comm]
  failures := by
    -- failures are numbered through, so the second part counts on from the first
    rw [h'.failures, h.faultRecords_eq, h.failures, Store.faultRecords_append, List.length_append,
      Nat.add_assoc]
  succeeded := by
    rw [List.filterMap_append, List.filter_append, h.succeeded, h'.succeeded, h.canDelete_eq]
  failed := by
    rw [List.filterMap_append, h.failed, h'.failed, h.faultRecords_eq, h.failures,
      Store.faultRecords_append]

/-- What is not in the order is still there. -/
theorem mem_rules (h : Deletes s t calls order outcomes) {r : Rule} (hr : r ∈ s.inventory.rules)
    (hout : r ∉ order) : r ∈ t.inventory.rules := by
  rw [h.inventory, Inventory.rules_keepRules]
  exact List.mem_filter.mpr ⟨hr, by simp [hout]⟩

theorem nodup_ids (h : Deletes s t calls order outcomes)
    (hids : (s.inventory.rules.map Rule.id).Nodup) : (t.inventory.rules.map Rule.id).Nodup := by
  rw [h.inventory, Inventory.rules_keepRules]
  exact hids.sublist (List.filter_sublist.map Rule.id)

end Deletes

namespace Bulk

variable {s : Store}

/-- **Deleting a rule that is there.** -/
theorem deletes_deleteRule (hids : (s.inventory.rules.map Rule.id).Nodup) {r : Rule}
    (hr : r ∈ s.inventory.rules) :
    Deletes s ((deleteRule r).after s) [Store.deletion r] [r] [(deleteRule r).result s] := by
  have hresult : (deleteRule r).result s = Except.map (fun _ ↦ r)
      (((Store.deleteRule r.id).result s).mapError (FailureRecord.of r.id .deleteRule)) := by
    simp only [deleteRule, result_bind, result_pure, Outcome.result_of]
  have hafter : (deleteRule r).after s = (Store.deleteRule r.id).after s := by
    simp only [deleteRule, after_bind, after_pure, Outcome.after_of]
  rw [hresult, hafter]
  rcases hp : s.canDelete r with - | -
  · -- a fault is met: the rule stays, and the failure is told
    obtain ⟨f, hf⟩ := Store.exists_fault_of_not_permits hp
    have hrecords := Store.faultRecords_singleton_of_fault (c := Store.deletion r) hf s.failures
    rw [Store.deleteRule, Store.result_attempt_of_fault hf, Store.after_attempt_of_fault hf]
    refine ⟨⟨rfl, rfl⟩, (Inventory.keepRules_eq_self fun q _ ↦ ?_).symm, ?_, ?_, ?_⟩
    · by_cases hq : q = r <;> simp [hq, hp]
    · rw [hrecords, List.length_singleton]
    · rw [List.filter_cons_of_neg (by simp [hp])]
      rfl
    · rw [hrecords]
      rfl
  · -- no fault is met: the first rule with the id is this one
    have hrecords : s.faultRecords s.failures [Store.deletion r] = [] :=
      Store.faultRecords_of_permits (fun c hc ↦ by rw [List.mem_singleton.mp hc]; exact hp) _
    rw [Store.result_deleteRule_of_mem hr hp, Store.after_deleteRule_of_mem hr hp]
    refine ⟨⟨rfl, rfl⟩, ?_, ?_, ?_, ?_⟩
    · simp only [Store.update, Inventory.keepRules, eraseP_key_eq_filter Rule.id hids hr]
      congr 2
      funext q
      by_cases hq : q = r <;> simp [hq, hp]
    · rw [hrecords]
      rfl
    · rw [List.filter_cons_of_pos hp]
      rfl
    · rw [hrecords]
      rfl

/-- **Deleting rules that are there, one by one.** -/
theorem deletes_deleteEach (order : List Rule) (hnodup : order.Nodup) :
    ∀ {s : Store}, (s.inventory.rules.map Rule.id).Nodup → (∀ r ∈ order, r ∈ s.inventory.rules) →
      Deletes s ((deleteEach order).after s) (order.map Store.deletion) order
        ((deleteEach order).result s) := by
  induction order with
  | nil => exact fun {s} _ _ ↦ .refl s
  | cons r order ih =>
    intro s hids hsub
    rw [List.nodup_cons] at hnodup
    have hfirst := deletes_deleteRule hids (hsub r List.mem_cons_self)
    have hrest : ∀ q ∈ order, q ∈ ((deleteRule r).after s).inventory.rules := fun q hq ↦
      hfirst.mem_rules (hsub q (List.mem_cons_of_mem _ hq)) fun hmem ↦
        hnodup.1 (List.mem_singleton.mp hmem ▸ hq)
    rw [deleteEach, result_mapM_cons, after_mapM_cons]
    exact hfirst.append (ih hnodup.2 (hfirst.nodup_ids hids) hrest)

end Bulk

end NetWarden
