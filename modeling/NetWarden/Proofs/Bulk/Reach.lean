import NetWarden.Proofs.Bulk.Removal
import NetWarden.Proofs.Bulk.Supply

/-!
# What a removal reaches

A removal deletes what it was given or what its queries find, and nothing else. `sentQueries` says
which queries it sends: they are put to the groups of the given rules, and without given rules there
are none, so **a query that is sent never looks outside these groups** (`exists_group_of_selects`).

`of_mem_removed` is all that is known of a rule that is told as removed. It asks nothing of the
ids, the plan or the given rules. The queries of one direction may well see what the deletions of
the other have left, but a rule that they find was there at the beginning: deletions only take away
(`rules_sublist_removeDirection`).
-/

namespace NetWarden

open Inventory Store StoreM

/-! ### Queries that are sent -/

section

variable (rules : List Rule) (d : Direction)

/-- The queries that a removal sends for a direction; without given rules it sends none. -/
def sentQueries : Option Removal → List RuleQuery
  | some .all => if rules.isEmpty then [] else [.ofGroups (affectedGroups rules) d]
  | some (.explicit queries) =>
    if rules.isEmpty then [] else queries.map fun q ↦ q.inGroups (affectedGroups rules)
  | _ => []

end

variable {rules : List Rule} {d : Direction} {removal : Option Removal} {r : Rule}

/-- The queries are put to the groups of the given rules, and there are such groups. -/
theorem groupIds_of_mem_sentQueries {q : RuleQuery} (hq : q ∈ sentQueries rules d removal) :
    q.groupIds = affectedGroups rules ∧ (affectedGroups rules).isEmpty = false := by
  rw [isEmpty_affectedGroups]
  rcases hrules : rules.isEmpty with - | -
  · match removal with
    | some .all =>
      simp only [sentQueries, hrules, Bool.false_eq_true, if_false, List.mem_singleton] at hq
      exact ⟨by rw [hq]; rfl, rfl⟩
    | some (.explicit queries) =>
      simp only [sentQueries, hrules, Bool.false_eq_true, if_false, List.mem_map] at hq
      obtain ⟨q, -, rfl⟩ := hq
      exact ⟨rfl, rfl⟩
  · match removal with
    | some .all => simp [sentQueries, hrules] at hq
    | some (.explicit queries) => simp [sentQueries, hrules] at hq

/-- **A query that is sent selects only rules of the groups of the given rules.** -/
theorem exists_group_of_selects {q : RuleQuery} (hq : q ∈ sentQueries rules d removal)
    (h : q.selects r = true) : ∃ g ∈ rules, g.groupId = r.groupId := by
  obtain ⟨hgroups, hempty⟩ := groupIds_of_mem_sentQueries hq
  simp only [RuleQuery.selects, hgroups, hempty, Bool.false_or, Bool.and_eq_true] at h
  obtain ⟨⟨⟨⟨⟨⟨⟨⟨⟨⟨hgroup, -⟩, -⟩, -⟩, -⟩, -⟩, -⟩, -⟩, -⟩, -⟩, -⟩ := h
  rw [contains_affectedGroups, List.any_eq_true] at hgroup
  obtain ⟨g, hg, heq⟩ := hgroup
  exact ⟨g, hg, beq_iff_eq.mp heq⟩

namespace Store

variable {s t : Store}

/-- Whether one of some queries finds a rule: it meets no fault, and it selects the rule. -/
def finds (s : Store) (queries : List RuleQuery) (r : Rule) : Bool :=
  queries.any fun q ↦ s.permits (.listRules q) && q.selects r

/-- The rules that queries find, one query after the other. -/
def findings (s : Store) (queries : List RuleQuery) : List Rule :=
  queries.flatMap fun q ↦
    if s.permits (.listRules q) then s.inventory.rules.filter q.selects else []

theorem mem_findings {queries : List RuleQuery} :
    r ∈ s.findings queries ↔ r ∈ s.inventory.rules ∧ s.finds queries r = true := by
  simp only [findings, finds, List.mem_flatMap, List.any_eq_true, Bool.and_eq_true]
  constructor
  · rintro ⟨q, hq, hr⟩
    split at hr
    · rename_i hpermits
      obtain ⟨hr, hsel⟩ := List.mem_filter.mp hr
      exact ⟨hr, q, hq, hpermits, hsel⟩
    · exact absurd hr List.not_mem_nil
  · rintro ⟨hr, q, hq, hpermits, hsel⟩
    exact ⟨q, hq, by rw [if_pos hpermits]; exact List.mem_filter.mpr ⟨hr, hsel⟩⟩

theorem findings_cons (q : RuleQuery) (queries : List RuleQuery) :
    s.findings (q :: queries) = s.findings [q] ++ s.findings queries := by
  rw [findings, List.flatMap_cons, findings, List.flatMap_singleton, findings]

theorem SameSetting.finds_eq (h : SameSetting s t) : t.finds = s.finds := by
  funext queries r
  simp only [finds, h.permits_eq]

theorem Unchanged.findings_eq (h : Unchanged s t) (queries : List RuleQuery) :
    t.findings queries = s.findings queries := by
  simp only [findings, h.permits_eq, h.inventory]

end Store

/-! ### What is looked up -/

namespace Bulk

variable {s : Store}

/-- A listing gives what its query finds. -/
theorem getD_value?_result_listRules (d : Direction) (q : RuleQuery) (s : Store) :
    ((listRules d q).result s).value?.getD [] = s.findings [q] := by
  rw [listRules, Outcome.result_of, findings, List.flatMap_singleton]
  rcases hp : s.permits (.listRules q) with - | -
  · obtain ⟨f, hf⟩ := exists_fault_of_not_permits hp
    rw [Store.listRules, result_attempt_of_fault hf]
    rfl
  · rw [Store.listRules, result_attempt_of_permits _ hp]
    rfl

/-- **Listings one after the other find what their queries find.** -/
theorem flatten_values_listEach (f : RuleQuery → RuleQuery) (queries : List RuleQuery) (s : Store) :
    (((queries.mapM fun q ↦ listRules d (f q)).result s).filterMap Outcome.value?).flatten =
      s.findings (queries.map f) := by
  induction queries generalizing s with
  | nil => rfl
  | cons q queries ih =>
    have hfirst := getD_value?_result_listRules d (f q) s
    have hrest := ih ((listRules d (f q)).after s)
    rw [(unchanged_listRules d (f q) s).findings_eq] at hrest
    rw [result_mapM_cons, List.filterMap_cons, List.map_cons, findings_cons, ← hfirst, ← hrest]
    rcases ((listRules d (f q)).result s).value? <;> rfl

/-- **What a removal is to delete**: what it was given, or what its queries find, once for each
id. -/
theorem targets_eq (s : Store) (removal : Removal) :
    ((targets rules d removal).result s).2 = match removal with
      | .matched => rules.filter fun r ↦ r.direction == d
      | .all => s.findings (sentQueries rules d (some .all))
      | .explicit queries =>
        distinctOn Rule.id [] (s.findings (sentQueries rules d (some (.explicit queries)))) := by
  -- no groups are affected just if there are no rules, and then nothing is sent
  have hempty := isEmpty_affectedGroups rules
  cases removal with
  | matched => rfl
  | all =>
    simp only [targets, sentQueries, hempty]
    split
    · rfl
    · rw [← getD_value?_result_listRules, result_bind]
      rcases (listRules d (.ofGroups (affectedGroups rules) d)).result s with f | found <;> rfl
  | explicit queries =>
    simp only [targets, sentQueries, hempty]
    split
    · rfl
    · rw [← flatten_values_listEach (d := d) (fun q ↦ q.inGroups (affectedGroups rules))]
      rfl

/-- What a removal is to delete was given or is found. -/
theorem mem_of_mem_targets {removal : Removal} (h : r ∈ ((targets rules d removal).result s).2) :
    r ∈ rules ∨ r ∈ s.inventory.rules ∧ s.finds (sentQueries rules d (some removal)) r = true := by
  rw [targets_eq] at h
  cases removal with
  | matched => exact .inl (List.mem_filter.mp h).1
  | all => exact .inr (mem_findings.mp h)
  | explicit queries => exact .inr (mem_findings.mp ((distinctOn_sublist _ _ _).subset h))

/-! ### What is deleted -/

/-- A deletion that is told as done was of this rule, and met no fault. -/
theorem of_deleteRule_eq_ok {q : Rule} (h : (deleteRule q).result s = .ok r) :
    r = q ∧ s.canDelete q = true := by
  have hresult : (deleteRule q).result s = Except.map (fun _ ↦ q)
      (((Store.deleteRule q.id).result s).mapError (FailureRecord.of q.id .deleteRule)) := by
    simp only [deleteRule, result_bind, result_pure, Outcome.result_of]
  rw [hresult] at h
  rcases hcall : (Store.deleteRule q.id).result s with e | a
  · rw [hcall] at h
    cases h
  · rw [hcall] at h
    cases h
    exact ⟨rfl, (act_of_result_attempt_eq_ok hcall).1⟩

theorem mem_of_ok_mem_deleteEach {order : List Rule} (h : .ok r ∈ (deleteEach order).result s) :
    r ∈ order ∧ s.canDelete r = true := by
  induction order generalizing s with
  | nil => cases h
  | cons q order ih =>
    rw [deleteEach, result_mapM_cons] at h
    rcases List.mem_cons.mp h with h | h
    · obtain ⟨rfl, hdel⟩ := of_deleteRule_eq_ok h.symm
      exact ⟨List.mem_cons_self, hdel⟩
    · obtain ⟨hr, hdel⟩ := ih h
      rw [(sameSupply_deleteRule q s).canDelete_eq] at hdel
      exact ⟨List.mem_cons_of_mem _ hr, hdel⟩

/-- A direction of a removal tells the listings that failed, then the deletions. -/
theorem result_removeDirection {plan : RemovalPlan} {removal : Removal}
    (hget : plan.get d = some removal) : (removeDirection rules plan d).result s =
      ((targets rules d removal).result s).1.map .error ++
        (deleteEach ((targets rules d removal).result s).2).result
          ((targets rules d removal).after s) := by
  rw [removeDirection, hget]
  rfl

/-- **One direction of a removal** deletes what was given or what its queries find. -/
theorem of_ok_mem_removeDirection {plan : RemovalPlan}
    (h : .ok r ∈ (removeDirection rules plan d).result s) :
    (r ∈ rules ∨ r ∈ s.inventory.rules ∧ s.finds (sentQueries rules d (plan.get d)) r = true) ∧
      s.canDelete r = true := by
  rcases hget : plan.get d with - | removal
  · rw [removeDirection, hget] at h
    cases h
  · rw [result_removeDirection hget] at h
    rcases List.mem_append.mp h with h | h
    · obtain ⟨f, -, hf⟩ := List.mem_map.mp h
      cases hf
    · obtain ⟨hr, hdel⟩ := mem_of_ok_mem_deleteEach h
      rw [(unchanged_targets rules d removal s).canDelete_eq] at hdel
      exact ⟨mem_of_mem_targets hr, hdel⟩

/-- A direction of a removal only takes rules away. -/
theorem rules_sublist_removeDirection (rules : List Rule) (plan : RemovalPlan) (d : Direction)
    (s : Store) : ((removeDirection rules plan d).after s).inventory.rules.Sublist
      s.inventory.rules := by
  rw [accounts_removeDirection rules plan d s, changeEach_ok]
  exact rules_changeEach_dropRule_sublist _ _

/-- Directions one after the other: what they find was there when the first one began. -/
theorem of_ok_mem_removeDirections {plan : RemovalPlan} {ds : List Direction}
    (h : .ok r ∈ (result (ds.mapM (removeDirection rules plan)) s).flatten) :
    (r ∈ rules ∨ r ∈ s.inventory.rules ∧
        ∃ d, s.finds (sentQueries rules d (plan.get d)) r = true) ∧
      s.canDelete r = true := by
  induction ds generalizing s with
  | nil => cases h
  | cons d ds ih =>
    rw [result_mapM_cons, List.flatten_cons] at h
    rcases List.mem_append.mp h with h | h
    · obtain ⟨hr, hdel⟩ := of_ok_mem_removeDirection h
      exact ⟨hr.imp_right fun ⟨hr, hfinds⟩ ↦ ⟨hr, d, hfinds⟩, hdel⟩
    · obtain ⟨hr, hdel⟩ := ih h
      have hsame := (sameSupply_removeDirection rules plan d s).toSameSetting
      rw [hsame.finds_eq] at hr
      rw [hsame.canDelete_eq] at hdel
      refine ⟨hr.imp_right fun ⟨hr, hfinds⟩ ↦ ?_, hdel⟩
      exact ⟨(rules_sublist_removeDirection rules plan d s).subset hr, hfinds⟩

/-- **What is told as removed** was given, or was in the store at the beginning and is found by a
query that is sent; and no fault stands in the way of deleting it. -/
theorem of_mem_removed {plan : RemovalPlan}
    (h : r ∈ ((removeRules rules plan).result s).succeeded) :
    (r ∈ rules ∨ r ∈ s.inventory.rules ∧
        ∃ d, s.finds (sentQueries rules d (plan.get d)) r = true) ∧
      s.canDelete r = true := by
  have htold : .ok r ∈ (result (Direction.all.mapM (removeDirection rules plan)) s).flatten :=
    Outcome.mem_values_iff.mp h
  exact of_ok_mem_removeDirections htold

end Bulk

end NetWarden
