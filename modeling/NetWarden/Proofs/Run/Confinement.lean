import NetWarden.Proofs.Run.Invariants
import NetWarden.Proofs.Run.RuleChanges

/-!
# Groups that a policy leaves alone

A policy on rules works on the rules that its filters kept, and on the rules next to them in their
groups. **The rules of all other groups are as they were, in their order** (`policy_confined`); with
nothing kept these are all rules.

The actions of a policy are given the rules as they were listed, whatever the actions before them
did, so what is kept may be long gone, and what is there may be new. `Spares` is the invariant that
carries the argument over all of them. Outside the groups nothing is different. Deletions go by id,
so inside the groups no rule may have the id of one outside: that holds at first if ids are not
doubled, and new rules get no such id if the supply has none to give.
-/

namespace NetWarden

open Inventory Store StoreM

namespace Inventory

variable {rules : List Rule} {i : Inventory}

/-- The rules outside the groups of some rules, in order. -/
def outside (rules : List Rule) (i : Inventory) : List Rule :=
  i.rules.filter fun r ↦ rules.all fun q ↦ q.groupId != r.groupId

theorem mem_outside_iff {r : Rule} :
    r ∈ i.outside rules ↔ r ∈ i.rules ∧ ¬ ∃ q ∈ rules, q.groupId = r.groupId := by
  simp [outside]

@[simp] theorem outside_nil (i : Inventory) : i.outside [] = i.rules :=
  List.filter_eq_self.mpr fun _ _ ↦ rfl

/-- Rules that are added to the groups are not outside. -/
theorem outside_addRules {added : List Rule}
    (h : ∀ r ∈ added, ∃ q ∈ rules, q.groupId = r.groupId) :
    (i.addRules added).outside rules = i.outside rules := by
  have hadded : added.filter (fun r ↦ rules.all fun q ↦ q.groupId != r.groupId) = [] := by
    rw [List.filter_eq_nil_iff]
    intro r hr hall
    obtain ⟨q, hq, heq⟩ := h r hr
    simpa [heq] using List.all_eq_true.mp hall q hq
  rw [outside, addRules, List.filter_append, hadded, List.append_nil]
  rfl

/-- Dropping a rule whose id no rule outside has leaves those outside. -/
theorem outside_dropRule {q : Rule} (h : ∀ r ∈ i.outside rules, q.id ≠ r.id) :
    (i.dropRule q).outside rules = i.outside rules := by
  rw [outside, dropRule]
  rcases List.exists_or_eq_self_of_eraseP (fun p : Rule ↦ p.id == q.id) i.rules with
    heq | ⟨p, before, behind, -, hp, hrules, hleft⟩
  · rw [heq]
    rfl
  · -- the one that is dropped is not outside
    have hinside : (rules.all fun g ↦ g.groupId != p.groupId) = false := by
      rw [Bool.eq_false_iff]
      intro hall
      refine h p (List.mem_filter.mpr ⟨?_, hall⟩) (beq_iff_eq.mp hp).symm
      rw [hrules]
      exact List.mem_append_right _ List.mem_cons_self
    rw [hleft, outside, hrules, List.filter_append, List.filter_append,
      List.filter_cons_of_neg (by rw [hinside]; decide)]

theorem outside_changeEach_dropRule {dropped : List Rule}
    (h : ∀ q ∈ dropped, ∀ r ∈ i.outside rules, q.id ≠ r.id) :
    (changeEach dropRule dropped i).outside rules = i.outside rules := by
  induction dropped generalizing i with
  | nil => rfl
  | cons q dropped ih =>
    rw [List.forall_mem_cons] at h
    have hfirst := outside_dropRule h.1
    rw [changeEach_cons, ih (by rw [hfirst]; exact h.2), hfirst]

end Inventory

namespace Run

variable {rules : List Rule} {s t u : Store} {report : ActionReport}

/-- Outside the groups of some rules, a store is as it was. -/
structure Spares (rules : List Rule) (s t : Store) : Prop where
  /-- The rules outside are the same. -/
  outside : t.inventory.outside rules = s.inventory.outside rules
  /-- In the groups there is no rule with the id of one outside. -/
  ids : ∀ q ∈ t.inventory.rules, (∃ g ∈ rules, g.groupId = q.groupId) →
    ∀ r ∈ s.inventory.outside rules, q.id ≠ r.id
  /-- And there will be none. -/
  supply : ∀ r ∈ s.inventory.outside rules, ¬ t.Supplies r.id

namespace Spares

/-- At first, it is enough that ids are not doubled and that new ones are new. -/
theorem of_unchanged (h : s.Unchanged t) (hids : (s.inventory.rules.map Rule.id).Nodup)
    (hnew : ∀ r ∈ s.inventory.rules, ¬ s.Supplies r.id) : Spares rules s t where
  outside := by rw [h.inventory]
  ids := by
    rw [h.inventory]
    intro q hq hgroup r hr hid
    obtain ⟨hr, hout⟩ := mem_outside_iff.mp hr
    exact hout (List.inj_on_of_nodup_map hids hq hr hid ▸ hgroup)
  supply r hr hsupplies :=
    hnew r (mem_outside_iff.mp hr).1 (h.sameSupply.supplies_of_after hsupplies)

/-- **A change in the groups spares what is outside**, if no given rule has an id from there. -/
theorem ruleChange (h : Spares rules s t) (hchange : RuleChange rules t u report)
    (hgiven : ∀ q ∈ rules, ∀ r ∈ s.inventory.outside rules, q.id ≠ r.id) : Spares rules s u := by
  have hadded : ∀ q ∈ report.addedRules, ∀ r ∈ s.inventory.outside rules, q.id ≠ r.id :=
    fun q hq r hr hid ↦
      h.supply r hr (hchange.takes.supplies_of_mem (hid ▸ List.mem_map_of_mem hq))
  -- whatever is there when the deletions begin
  have hthere : ∀ q ∈ t.inventory.rules ++ report.addedRules,
      (∃ g ∈ rules, g.groupId = q.groupId) → ∀ r ∈ s.inventory.outside rules, q.id ≠ r.id := by
    intro q hq hgroup
    rcases List.mem_append.mp hq with hq | hq
    · exact h.ids q hq hgroup
    · exact hadded q hq
  have houtside : (t.inventory.addRules report.addedRules).outside rules =
      s.inventory.outside rules := (outside_addRules hchange.added).trans h.outside
  refine ⟨?_, fun q hq ↦ ?_, fun r hr hsupplies ↦ ?_⟩
  · rw [hchange.inventory, outside_changeEach_dropRule, houtside]
    intro q hq
    rw [houtside]
    obtain ⟨hq | hq, hgroup⟩ := hchange.removed q hq
    · exact hgiven q hq
    · exact hthere q hq hgroup
  · rw [hchange.inventory] at hq
    exact hthere q ((rules_changeEach_dropRule_sublist _ _).subset hq)
  · exact h.supply r hr (hchange.takes.supplies_of_after hsupplies)

end Spares

/-! ### A run -/

/-- Of the rules of a store, a policy keeps those of which all its filters hold. -/
theorem keptBy_filters {p : Policy} (hkind : p.kind = .rule) (i : Inventory) :
    (ResourceSet.ofInventory p.kind i).keptBy i.ports p.filters =
      .rules (i.rules.filter fun r ↦ p.filters.all fun f ↦ f.holds i.ports (.rule r)) := by
  have hids : ((ResourceSet.rules i.rules).groupItems.map Group.id).Nodup := List.nodup_nil
  rw [hkind]
  exact ResourceSet.keptBy_eq_filter hids p.filters

/-- **A policy on rules leaves alone what is outside the groups of the rules it keeps.** If no id is
doubled and new ids are new, then however the run ends, the rules of all other groups are as before
and in their order; so what is gone or new belongs to the group of a rule that was kept. If nothing
was kept, no rule has changed and the reports tell nothing. -/
theorem policy_confined {d : PolicyDefinition} {p : Policy} (hp : Policy.ofDefinition d = .ok p)
    (hkind : p.kind = .rule) (isDryRun : Bool) (s : Store)
    (hids : (s.inventory.rules.map Rule.id).Nodup)
    (hnew : ∀ r ∈ s.inventory.rules, ¬ s.Supplies r.id) :
    let kept := s.inventory.rules.filter fun r ↦
      p.filters.all fun f ↦ f.holds s.inventory.ports (.rule r)
    let left := (after (policy isDryRun p).run s).inventory
    left.outside kept = s.inventory.outside kept ∧
      (∀ r, ¬ (r ∈ s.inventory.rules ↔ r ∈ left.rules) → ∃ q ∈ kept, q.groupId = r.groupId) ∧
      (kept = [] → left.rules = s.inventory.rules) ∧
      ∀ report, result (policy isDryRun p).run s = .ok report → report.resources = .rules kept ∧
        (kept = [] → ∀ a ∈ report.actions, a.isEmpty = true) := by
  intro kept left
  have hsupported := Policy.isSupported_of_ofDefinition hp
  have hkept : (ResourceSet.ofInventory p.kind s.inventory).keptBy s.inventory.ports p.filters =
      .rules kept := keptBy_filters hkind s.inventory
  -- a rule outside that has the id of one that was kept would be that one
  have hgiven : ∀ q ∈ kept, ∀ r ∈ s.inventory.outside kept, q.id ≠ r.id := by
    intro q hq r hr hid
    obtain ⟨hr, hout⟩ := mem_outside_iff.mp hr
    have hqr := List.inj_on_of_nodup_map hids (List.mem_of_mem_filter hq) hr hid
    exact hout ⟨q, hq, by rw [hqr]⟩
  obtain ⟨hspares, htells⟩ := policy_keeps (Spares kept s)
    (fun report ↦ kept = [] → report.isEmpty = true) isDryRun hsupported hkept
    (fun t ht ↦ .of_unchanged ht hids hnew) fun a _ t report h hreport ↦
      ⟨h.ruleChange (executes_of_ok hreport).ruleChange hgiven,
        fun hnil ↦ isEmpty_of_execute_nil (hnil ▸ hreport)⟩
  refine ⟨hspares.outside, fun r hr ↦ ?_, fun hnil ↦ ?_, fun report hreport ↦
    ⟨(policy_of_ok isDryRun hsupported hreport).1.trans hkept, fun hnil a ha ↦
      htells report hreport a ha hnil⟩⟩
  · by_contra hout
    have hiff : r ∈ left.outside kept ↔ r ∈ s.inventory.outside kept := by rw [hspares.outside]
    rw [mem_outside_iff, mem_outside_iff, and_iff_left hout, and_iff_left hout] at hiff
    exact hr hiff.symm
  · have hall := hspares.outside
    rwa [hnil, outside_nil, outside_nil] at hall

/-! ### All rules of a group

One rule is kept, and all rules of its group are replaced; then it is to be deleted once more. -/

/-- The definition of a policy that replaces all rules that come in. -/
def replaceAllDefinition : PolicyDefinition where
  name := "replace all"
  resource := "vpc-security-group-rule"
  filters := [.obj [("type", .str "ingress"), ("SGRuleIds", .arr [.str "wide"])]]
  actions := [
    .obj [("type", .str "set-rules"), ("add-egress", .arr [.obj [("protocol", .str "tcp")]]),
      ("remove-ingress", .str "all")],
    .str "delete"]

/-- The policy of the definition. -/
def replaceAllPolicy : Policy where
  name := "replace all"
  description := none
  kind := .rule
  filters := [.rules { direction := .ingress, ruleIds := some ["wide"] }]
  actions := [.setRules ⟨[], [{ direction := .egress, protocol := some "tcp" }]⟩ ⟨some .all, none⟩,
    .delete]

/-- The rule that is kept. -/
def wideRule : Rule := { id := "wide", groupId := "web", direction := .ingress }

/-- A rule of another group. -/
def otherRule : Rule := { id := "other", groupId := "db", direction := .ingress }

/-- Two groups, the first with two rules. -/
def twoGroupsStore : Store where
  inventory := { rules := [wideRule, { wideRule with id := "next" }, otherRule] }
  supply := .strokes

theorem policy_confined_twoGroups :
    Policy.ofDefinition replaceAllDefinition = .ok replaceAllPolicy ∧
      (twoGroupsStore.inventory.rules.map Rule.id).Nodup ∧
      (∀ r ∈ twoGroupsStore.inventory.rules, ¬ twoGroupsStore.Supplies r.id) ∧
      ((after (policy false replaceAllPolicy).run twoGroupsStore).inventory.rules.map Rule.id =
        ["other", "|"]) ∧
      (after (policy false replaceAllPolicy).run twoGroupsStore).inventory.outside [wideRule] =
        [otherRule] := by
  have hp : Policy.ofDefinition replaceAllDefinition = .ok replaceAllPolicy := rfl
  have hids : (twoGroupsStore.inventory.rules.map Rule.id).Nodup := by decide
  -- every id of the supply is made of strokes
  have hnew : ∀ r ∈ twoGroupsStore.inventory.rules, ¬ twoGroupsStore.Supplies r.id := by
    intro r hr
    refine not_supplies_of_strokes rfl ?_
    revert r
    decide
  have hconfined := (policy_confined hp rfl false twoGroupsStore hids hnew).1
  have hkept : (twoGroupsStore.inventory.rules.filter fun r ↦ replaceAllPolicy.filters.all fun f ↦
      f.holds twoGroupsStore.inventory.ports (.rule r)) = [wideRule] := by decide +kernel
  -- outside, the run left what there was, so nothing need be run
  rw [hkept] at hconfined
  refine ⟨hp, hids, hnew, by decide +kernel, ?_⟩
  rw [hconfined]
  decide +kernel

end Run

end NetWarden
