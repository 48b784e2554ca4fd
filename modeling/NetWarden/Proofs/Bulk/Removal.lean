import Mathlib.Data.List.Nodup
import NetWarden.Proofs.Bulk.Deletion
import NetWarden.Proofs.Bulk.Distinct
import NetWarden.Proofs.Validation.Attributes

/-!
# What a removal takes away

The rules that a removal is to take away, said without calls: `Store.chosen` looks at the store at
the beginning, the rules that the removal was given, and the faults. Nothing is chosen by `all` or
by entries if no rules were given, or if rules of the direction cannot be listed.

`removeRules_effect` is the exact effect: the rules that are left, the rules that are told, and the
failures that are told. Two facts carry it.

* A query that is sent always names groups, and it asks for rules of its own direction. So what the
  deletions of one direction do **is not seen by the queries of the other**.
* The store knows every rule by its id. So the entries that describe one rule **find it once**.
-/

namespace NetWarden

open StoreM

/-! ### Queries of a removal -/

namespace RuleQuery

/-- A query read from attributes has its direction, and says nothing about groups. -/
theorem scope_of_ofAttributes {d : Direction} {b : Block} {q : RuleQuery}
    (h : ofAttributes d b = .ok q) : q.direction = some d ∧ q.groupIds = [] :=
  have hq := (ofAttributes_eq_ok_iff.mp h).2
  ⟨hq.direction, hq.groupIds⟩

theorem direction_eq_of_selects {q : RuleQuery} {d : Direction} (hq : q.direction = some d)
    {r : Rule} (h : q.selects r = true) : r.direction = d := by
  simp only [selects, hq, agrees, Bool.and_eq_true] at h
  obtain ⟨⟨⟨⟨⟨⟨⟨⟨⟨⟨-, hd⟩, -⟩, -⟩, -⟩, -⟩, -⟩, -⟩, -⟩, -⟩, -⟩ := h
  simpa using hd

/-- A query that is put to groups selects there what it selects anywhere. -/
theorem selects_inGroups {q : RuleQuery} (hq : q.groupIds = []) {groupIds : List String}
    (hne : groupIds.isEmpty = false) (r : Rule) :
    (q.inGroups groupIds).selects r = (groupIds.contains r.groupId && q.selects r) := by
  simp only [selects, inGroups, hq, hne, List.isEmpty_nil, Bool.false_or, Bool.true_or,
    Bool.true_and, Bool.and_assoc]

theorem ofGroups_eq_inGroups (groupIds : List String) (d : Direction) :
    ofGroups groupIds d = inGroups { direction := some d } groupIds := rfl

theorem selects_ofDirection (d : Direction) (r : Rule) :
    selects { direction := some d } r = (r.direction == d) := by
  simp [selects, agrees]

end RuleQuery

/-- The queries of an accepted removal have its direction, and say nothing about groups. -/
theorem Removal.scope_of_check {d : Direction} {v : Json} {queries : List RuleQuery}
    (h : Removal.check d v = .ok (.explicit queries)) :
    ∀ q ∈ queries, q.direction = some d ∧ q.groupIds = [] := by
  intro q hq
  rw [Removal.check.eq_def] at h
  split at h
  · split at h
    · cases h
    · split at h <;> cases h
  · obtain ⟨_, hqueries, heq⟩ := map_eq_ok_iff.mp h
    cases heq
    obtain ⟨entry, -, hentry⟩ := exists_of_mem_mapM hqueries hq
    obtain ⟨b, -, -, hof⟩ := checkEntry_eq_ok_iff.mp hentry
    exact RuleQuery.scope_of_ofAttributes hof
  · cases h

/-- The queries of a plan were read from a value, each list for its own direction. -/
def RemovalPlan.IsChecked (plan : RemovalPlan) : Prop :=
  ∀ d queries, plan.get d = some (.explicit queries) →
    ∃ v, Removal.check d v = .ok (.explicit queries)

/-! ### What is chosen -/

section

variable (s : Store) (rules : List Rule) (d : Direction)

namespace Store

/-- Whether no fault stands in the way of listing rules of a direction. -/
def canList : Bool := s.permits (.listRules { direction := some d })

/-- The store's rules of a direction in the groups of given rules. -/
def inScope : List Rule :=
  s.inventory.rules.filter fun r ↦ r.direction == d && rules.any fun q ↦ q.groupId == r.groupId

/-- The rules of a direction that a removal is to take away. -/
def chosen : Option Removal → List Rule
  | none => []
  | some .matched => rules.filter fun r ↦ r.direction == d
  | some .all => if s.canList d then s.inScope rules d else []
  | some (.explicit queries) =>
    if s.canList d then (s.inScope rules d).filter fun r ↦ queries.any fun q ↦ q.selects r else []

end Store

/-- The listings that a removal makes for a direction; without given rules there are none. -/
def listings : Option Removal → List (String × Call)
  | some .all =>
    if rules.isEmpty then [] else [(d.name, .listRules (.ofGroups (affectedGroups rules) d))]
  | some (.explicit queries) =>
    if rules.isEmpty then []
    else queries.map fun q ↦ (d.name, .listRules (q.inGroups (affectedGroups rules)))
  | _ => []

end

theorem isEmpty_affectedGroups (rules : List Rule) :
    (affectedGroups rules).isEmpty = rules.isEmpty := by
  rw [affectedGroups, isEmpty_sortedDistinct]
  cases rules <;> rfl

theorem contains_affectedGroups (rules : List Rule) (r : Rule) :
    (affectedGroups rules).contains r.groupId = rules.any fun q ↦ q.groupId == r.groupId := by
  rw [Bool.eq_iff_iff, List.contains_iff_mem, affectedGroups, mem_sortedDistinct, List.mem_map,
    List.any_eq_true]
  simp

namespace Store

variable {s t : Store} {rules : List Rule} {d : Direction}

theorem permits_listRules {q : RuleQuery} (hq : q.direction = some d) :
    s.permits (.listRules q) = s.canList d := by
  simp only [permits, canList, fault?, Call.operation, Call.key, hq]

/-- **A query that is put to the groups of given rules looks no further than their scope.** -/
theorem filter_selects_inGroups (hrules : rules.isEmpty = false) {q : RuleQuery}
    (hd : q.direction = some d) (hg : q.groupIds = []) :
    s.inventory.rules.filter (q.inGroups (affectedGroups rules)).selects =
      (s.inScope rules d).filter q.selects := by
  rw [inScope, List.filter_filter]
  refine List.filter_congr fun r _ ↦ ?_
  rw [RuleQuery.selects_inGroups hg (by rw [isEmpty_affectedGroups, hrules]),
    contains_affectedGroups]
  rcases h : q.selects r with - | -
  · rw [Bool.and_false, Bool.false_and]
  · rw [RuleQuery.direction_eq_of_selects hd h, beq_self_eq_true, Bool.and_true, Bool.true_and,
      Bool.true_and]

theorem inScope_sublist : (s.inScope rules d).Sublist
    (s.inventory.rules.filter fun r ↦ r.direction == d) := by
  rw [inScope, ← List.filter_filter]
  exact List.filter_sublist.filter _

/-- What is chosen is of the direction, and given or in the store. -/
theorem chosen_sublist (s : Store) (rules : List Rule) (d : Direction) (removal : Option Removal) :
    (s.chosen rules d removal).Sublist (rules.filter fun r ↦ r.direction == d) ∨
      (s.chosen rules d removal).Sublist (s.inventory.rules.filter fun r ↦ r.direction == d) := by
  match removal with
  | none => exact .inl (List.nil_sublist _)
  -- what is given is chosen as it is given; all else is looked up in the store
  | some .matched => exact .inl (List.Sublist.refl _)
  | some .all =>
    right
    rw [chosen]
    split
    · exact inScope_sublist
    · exact List.nil_sublist _
  | some (.explicit queries) =>
    right
    rw [chosen]
    split
    · exact List.filter_sublist.trans inScope_sublist
    · exact List.nil_sublist _

/-- **Without given rules nothing is chosen.** -/
theorem chosen_nil (removal : Option Removal) : s.chosen [] d removal = [] := by
  have hscope : s.inScope [] d = [] := by simp [inScope]
  match removal with
  | none => rfl
  | some .matched => rfl
  | some .all => rw [chosen, hscope, ite_self]
  | some (.explicit queries) => rw [chosen, hscope, List.filter_nil, ite_self]

theorem direction_of_mem_chosen {removal : Option Removal} {r : Rule}
    (hr : r ∈ s.chosen rules d removal) : r.direction = d := by
  rcases chosen_sublist s rules d removal with h | h
  · simpa using (List.mem_filter.mp (h.subset hr)).2
  · simpa using (List.mem_filter.mp (h.subset hr)).2

theorem mem_rules_of_mem_chosen (hsub : ∀ r ∈ rules, r.direction = d → r ∈ s.inventory.rules)
    {removal : Option Removal} {r : Rule} (hr : r ∈ s.chosen rules d removal) :
    r ∈ s.inventory.rules := by
  rcases chosen_sublist s rules d removal with h | h
  · exact hsub r (List.mem_filter.mp (h.subset hr)).1 (direction_of_mem_chosen hr)
  · exact (List.mem_filter.mp (h.subset hr)).1

theorem nodup_chosen (hids : (s.inventory.rules.map Rule.id).Nodup) (hnodup : rules.Nodup)
    (removal : Option Removal) : (s.chosen rules d removal).Nodup := by
  rcases chosen_sublist s rules d removal with h | h
  · exact (hnodup.filter _).sublist h
  · exact ((hids.of_map _).filter _).sublist h

/-- **What is chosen is decided by the rules of the direction**: it is the same in two stores that
agree on these. -/
theorem SameSetting.chosen_eq (h : SameSetting s t)
    (hrules : (t.inventory.rules.filter fun r ↦ r.direction == d) =
      s.inventory.rules.filter fun r ↦ r.direction == d) (removal : Option Removal) :
    t.chosen rules d removal = s.chosen rules d removal := by
  have hlist : t.canList d = s.canList d := h.permits_eq _
  have hscope : t.inScope rules d = s.inScope rules d := by
    simp only [inScope, Bool.and_comm (_ == d)]
    rw [← List.filter_filter, ← List.filter_filter, hrules]
  match removal with
  | none => rfl
  | some .matched => rfl
  | some .all => rw [chosen, chosen, hlist, hscope]
  | some (.explicit queries) => rw [chosen, chosen, hlist, hscope]

end Store

/-- Deletions that are of other directions leave the rules of a direction as they were. -/
theorem Deletes.filter_direction_eq {s t : Store} {calls : List (String × Call)}
    {order : List Rule} {outcomes : List (Outcome Rule)} {d : Direction}
    (h : Deletes s t calls order outcomes) (hd : ∀ r, r.direction = d → r ∉ order) :
    (t.inventory.rules.filter fun r ↦ r.direction == d) =
      s.inventory.rules.filter fun r ↦ r.direction == d := by
  rw [h.inventory, Inventory.rules_keepRules, List.filter_filter]
  refine List.filter_congr fun r _ ↦ ?_
  by_cases hr : r.direction = d
  · simp [hd r hr]
  · simp [hr]

/-! ### What the steps of a removal do -/

namespace Bulk

variable {s : Store} {rules : List Rule} {d : Direction}

/-- A listing deletes nothing. It gives the rules that the query selects, or its failure is told. -/
theorem listRules_cases {q : RuleQuery} (hq : q.direction = some d) (s : Store) :
    (s.canList d = true ∧
      (listRules d q).result s = .ok (s.inventory.rules.filter q.selects) ∧
      Deletes s ((listRules d q).after s) [(d.name, .listRules q)] [] []) ∨
    (s.canList d = false ∧ ∃ f, (listRules d q).result s = .error f ∧
      Deletes s ((listRules d q).after s) [(d.name, .listRules q)] [] [.error f]) := by
  rw [listRules, Outcome.result_of, Outcome.after_of, ← Store.permits_listRules hq]
  rcases hp : s.permits (.listRules q) with - | -
  · -- a fault stands in the way, and its failure is the only record
    obtain ⟨f, hf⟩ := Store.exists_fault_of_not_permits hp
    have hrecords :=
      Store.faultRecords_singleton_of_fault (c := (d.name, .listRules q)) hf s.failures
    rw [Store.listRules, Store.result_attempt_of_fault hf, Store.after_attempt_of_fault hf]
    refine .inr ⟨rfl, _, rfl, ⟨⟨rfl, rfl⟩, ?_, ?_, rfl, ?_⟩⟩
    · exact (Inventory.keepRules_eq_self (by simp)).symm
    · rw [hrecords, List.length_singleton]
    · rw [hrecords]
      rfl
  · -- no fault does, so the rules are given and nothing is recorded
    have hrecords : s.faultRecords s.failures [(d.name, .listRules q)] = [] :=
      Store.faultRecords_of_permits (fun c hc ↦ by rw [List.mem_singleton.mp hc]; exact hp) _
    have hf := Store.fault?_of_permits hp
    rw [Store.listRules, Store.result_attempt_of_act hf rfl, Store.after_attempt_of_act hf rfl]
    refine .inl ⟨rfl, rfl, ⟨⟨rfl, rfl⟩, ?_, ?_, rfl, ?_⟩⟩
    · exact (Inventory.keepRules_eq_self (by simp)).symm
    · rw [hrecords]
      rfl
    · rw [hrecords]
      rfl

/-- **Listings one after the other see the same store.** -/
theorem listEach_effect (groupIds : List String) (queries : List RuleQuery)
    (hq : ∀ q ∈ queries, q.direction = some d) (s : Store) :
    let listEach := queries.mapM fun q ↦ listRules d (q.inGroups groupIds)
    Deletes s (listEach.after s)
        (queries.map fun q ↦ (d.name, .listRules (q.inGroups groupIds))) []
        (((listEach.result s).filterMap Outcome.failure?).map .error) ∧
      (listEach.result s).filterMap Outcome.value? =
        if s.canList d then
          queries.map fun q ↦ s.inventory.rules.filter (q.inGroups groupIds).selects
        else [] := by
  induction queries generalizing s with
  | nil => exact ⟨.refl s, by simp⟩
  | cons q queries ih =>
    have hdir : (q.inGroups groupIds).direction = some d := hq q List.mem_cons_self
    -- the other queries are sent to the store that the first one left, which differs in its log
    -- only
    have ih := ih (fun q hq' ↦ hq q (List.mem_cons_of_mem _ hq'))
      ((listRules d (q.inGroups groupIds)).after s)
    simp only [result_mapM_cons, after_mapM_cons]
    rcases listRules_cases hdir s with ⟨hp, hr, hd⟩ | ⟨hp, f, hr, hd⟩
    · have hp' := (hd.permits_eq (.listRules { direction := some d })).trans hp
      have hi : ((listRules d (q.inGroups groupIds)).after s).inventory = s.inventory := by
        rw [hd.inventory, Inventory.keepRules_eq_self (by simp)]
      rw [Store.canList, hp', hi] at ih
      rw [hr, Outcome.failures_ok_cons, Outcome.values_ok_cons, ih.2, hp]
      exact ⟨hd.append ih.1, rfl⟩
    · have hp' := (hd.permits_eq (.listRules { direction := some d })).trans hp
      rw [Store.canList, hp'] at ih
      rw [hr, Outcome.failures_error_cons, Outcome.values_error_cons, ih.2, hp]
      exact ⟨hd.append ih.1, rfl⟩

/-- **Entries find what they describe, once each.** -/
theorem perm_distinctOn_chosen (hids : (s.inventory.rules.map Rule.id).Nodup)
    (hnodup : rules.Nodup) (hlist : s.canList d = true) (queries : List RuleQuery) :
    (distinctOn Rule.id []
      (queries.map fun q ↦ (s.inScope rules d).filter q.selects).flatten).Perm
        (s.chosen rules d (some (.explicit queries))) := by
  set listed := (queries.map fun q ↦ (s.inScope rules d).filter q.selects).flatten with hlisted
  -- both lists have the same rules in them, and neither has one twice
  have hin : ∀ r, r ∈ listed ↔ r ∈ s.inScope rules d ∧ ∃ q ∈ queries, q.selects r = true := by
    intro r
    rw [hlisted, List.mem_flatten]
    constructor
    · rintro ⟨l, hl, hr⟩
      obtain ⟨q, hq, rfl⟩ := List.mem_map.mp hl
      obtain ⟨hr, hsel⟩ := List.mem_filter.mp hr
      exact ⟨hr, q, hq, hsel⟩
    · rintro ⟨hr, q, hq, hsel⟩
      exact ⟨_, List.mem_map_of_mem hq, List.mem_filter.mpr ⟨hr, hsel⟩⟩
  have hrules : ∀ r ∈ listed, r ∈ s.inventory.rules := fun r hr ↦
    (List.mem_filter.mp ((hin r).mp hr).1).1
  -- ids tell the rules apart, so once for each id is once for each rule
  have hinj : ∀ a ∈ listed, ∀ b ∈ listed, a.id = b.id → a = b := fun a ha b hb h ↦
    List.inj_on_of_nodup_map hids (hrules a ha) (hrules b hb) h
  refine (List.perm_ext_iff_of_nodup ((nodup_map_distinctOn Rule.id [] listed).of_map _)
    (Store.nodup_chosen hids hnodup _)).mpr fun r ↦ ?_
  rw [mem_distinctOn_iff Rule.id hinj, hin, Store.chosen, if_pos hlist, List.mem_filter,
    List.any_eq_true]

/-- What is looked up for a removal: **just what is chosen**, and nothing is deleted by it. -/
theorem targets_effect (rules : List Rule) (hids : (s.inventory.rules.map Rule.id).Nodup)
    (hnodup : rules.Nodup) {removal : Removal} (hscope : ∀ queries, removal = .explicit queries →
      ∀ q ∈ queries, q.direction = some d ∧ q.groupIds = []) :
    Deletes s ((targets rules d removal).after s) (listings rules d (some removal)) []
        (((targets rules d removal).result s).1.map .error) ∧
      ((targets rules d removal).result s).2.Perm (s.chosen rules d (some removal)) := by
  rcases hrules : rules.isEmpty with - | -
  · have hgroups : (affectedGroups rules).isEmpty = false := by rw [isEmpty_affectedGroups, hrules]
    cases removal with
    | matched => exact ⟨.refl s, .refl _⟩
    | all =>
      have hall : s.inventory.rules.filter (RuleQuery.ofGroups (affectedGroups rules) d).selects =
          s.inScope rules d := by
        rw [RuleQuery.ofGroups_eq_inGroups, Store.filter_selects_inGroups hrules rfl rfl]
        refine List.filter_eq_self.mpr fun r hr ↦ ?_
        rw [RuleQuery.selects_ofDirection]
        exact (List.mem_filter.mp (Store.inScope_sublist.subset hr)).2
      have hdir : (RuleQuery.ofGroups (affectedGroups rules) d).direction = some d := rfl
      simp only [targets, listings, hgroups, hrules, Bool.false_eq_true, if_false]
      rcases listRules_cases hdir s with ⟨hp, hr, hd⟩ | ⟨hp, f, hr, hd⟩
      · rw [result_bind, after_bind, hr, Store.chosen, if_pos hp, hall]
        exact ⟨hd, .refl _⟩
      · rw [result_bind, after_bind, hr, Store.chosen, hp]
        exact ⟨hd, .refl _⟩
    | explicit queries =>
      have hscope := hscope queries rfl
      obtain ⟨hdel, hval⟩ :=
        listEach_effect (affectedGroups rules) queries (fun q hq ↦ (hscope q hq).1) s
      simp only [targets, listings, hgroups, hrules, Bool.false_eq_true, if_false, result_bind,
        after_bind, result_pure, after_pure, found, hval]
      refine ⟨hdel, ?_⟩
      rcases hp : s.canList d with - | -
      · rw [Store.chosen, hp]
        exact .refl _
      · have hfilter : (queries.map fun q ↦ s.inventory.rules.filter
            (q.inGroups (affectedGroups rules)).selects) =
              queries.map fun q ↦ (s.inScope rules d).filter q.selects :=
          List.map_congr_left fun q hq ↦
            Store.filter_selects_inGroups hrules (hscope q hq).1 (hscope q hq).2
        rw [if_pos rfl, hfilter]
        exact perm_distinctOn_chosen hids hnodup hp queries
  · -- no rules were given, so no call is made
    obtain rfl := List.isEmpty_iff.mp hrules
    rw [Store.chosen_nil]
    cases removal <;> exact ⟨.refl s, .refl _⟩

/-- **One direction of a removal** deletes what is chosen, in some order. -/
theorem removeDirection_effect {plan : RemovalPlan} (hplan : plan.IsChecked)
    (hids : (s.inventory.rules.map Rule.id).Nodup) (hnodup : rules.Nodup)
    (hsub : ∀ r ∈ rules, r.direction = d → r ∈ s.inventory.rules) :
    ∃ order, order.Perm (s.chosen rules d (plan.get d)) ∧
      Deletes s ((removeDirection rules plan d).after s)
        (listings rules d (plan.get d) ++ order.map Store.deletion) order
        ((removeDirection rules plan d).result s) := by
  rw [removeDirection]
  rcases hget : plan.get d with - | removal
  · exact ⟨[], .refl _, .refl s⟩
  · -- a plan that was checked asks for its own direction and names no groups
    have hscope : ∀ queries, removal = .explicit queries →
        ∀ q ∈ queries, q.direction = some d ∧ q.groupIds = [] := by
      rintro queries rfl
      obtain ⟨v, hv⟩ := hplan d queries hget
      exact Removal.scope_of_check hv
    obtain ⟨hlist, hperm⟩ := targets_effect rules hids hnodup hscope
    refine ⟨((targets rules d removal).result s).2, hperm, ?_⟩
    -- what is to be deleted is still there, for the listings deleted nothing
    have hthere : ∀ r ∈ ((targets rules d removal).result s).2,
        r ∈ ((targets rules d removal).after s).inventory.rules := fun r hr ↦
      hlist.mem_rules (Store.mem_rules_of_mem_chosen hsub (hperm.subset hr)) List.not_mem_nil
    have hdel := deletes_deleteEach _ (hperm.nodup_iff.mpr (Store.nodup_chosen hids hnodup _))
      (hlist.nodup_ids hids) hthere
    exact hlist.append hdel

/-- **What a removal does, exactly**, when the ids of the store's rules are all different and the
removal is given rules of the store, each once.

The rules that are left are those before, in their order, without just the chosen ones whose
deletion no fault held. These are told as removed, what came in before what went out, each once. The
failures that are told are those of the listings and deletions that met a fault, in the order of the
calls. -/
theorem removeRules_effect {plan : RemovalPlan} (hids : (s.inventory.rules.map Rule.id).Nodup)
    (hsub : ∀ r ∈ rules, r ∈ s.inventory.rules) (hnodup : rules.Nodup) (hplan : plan.IsChecked) :
    let chosen := fun d ↦ s.chosen rules d (plan.get d)
    let calls := fun d (order : List Rule) ↦
      listings rules d (plan.get d) ++ order.map Store.deletion
    let removed := (removeRules rules plan).result s
    ((removeRules rules plan).after s).inventory =
        s.inventory.keepRules (fun r ↦
          !((chosen .ingress ++ chosen .egress).contains r && s.canDelete r)) ∧
      removed.succeeded.Nodup ∧
      ∃ ins outs, ins.Perm (chosen .ingress) ∧ outs.Perm (chosen .egress) ∧
        removed.succeeded = ins.filter s.canDelete ++ outs.filter s.canDelete ∧
        removed.failed = s.faultRecords s.failures (calls .ingress ins ++ calls .egress outs) := by
  intro chosen calls removed
  obtain ⟨ins, hins, hingress⟩ := removeDirection_effect (d := .ingress) hplan hids hnodup
    fun r hr _ ↦ hsub r hr
  -- what comes in is gone now; what goes out is as it was
  set t := (removeDirection rules plan .ingress).after s with ht
  have hstay : ∀ r, r.direction = .egress → r ∉ ins := by
    intro r hr hmem
    have hd := Store.direction_of_mem_chosen (hins.subset hmem)
    rw [hr] at hd
    cases hd
  have hrules := hingress.filter_direction_eq hstay
  obtain ⟨outs, houts, hegress⟩ := removeDirection_effect (s := t) (d := .egress) hplan
    (hingress.nodup_ids hids) hnodup fun r hr hd ↦ hingress.mem_rules (hsub r hr) (hstay r hd)
  rw [hingress.chosen_eq hrules] at houts
  have h := hingress.append hegress
  have hremoved : removed = BulkResult.ofOutcomes ((removeDirection rules plan .ingress).result s ++
      (removeDirection rules plan .egress).result t) := by
    simp [removed, removeRules, Direction.all, ht]
  have hafter :
      (removeRules rules plan).after s = (removeDirection rules plan .egress).after t := by
    simp [removeRules, Direction.all, ht]
  have hsucceeded : removed.succeeded = ins.filter s.canDelete ++ outs.filter s.canDelete := by
    rw [hremoved, ← List.filter_append]
    exact h.succeeded
  refine ⟨?_, ?_, ins, outs, hins, houts, hsucceeded, ?_⟩
  · rw [hafter, h.inventory]
    simp only [(hins.append houts).contains_eq, chosen]
  · rw [hsucceeded, ← List.filter_append]
    refine List.Nodup.filter _ (List.Nodup.append ?_ ?_ ?_)
    · exact hins.nodup_iff.mpr (Store.nodup_chosen hids hnodup _)
    · exact houts.nodup_iff.mpr (Store.nodup_chosen hids hnodup _)
    · exact fun r hr hr' ↦ hstay r (Store.direction_of_mem_chosen (houts.subset hr')) hr
  · rw [hremoved]
    exact h.failed

/-! ### Entries that overlap

Two entries describe the rule `twice`, a rule of another group fits both, and a fault holds the only
rule of the other direction. -/

/-- A store with a fault for one rule. -/
def overlapStore : Store where
  inventory := { rules := [
    { id := "given", groupId := "a", direction := .ingress, protocol := some "tcp" },
    { id := "twice", groupId := "a", direction := .ingress, protocol := some "tcp",
      ethertype := some "IPv4" },
    { id := "away", groupId := "b", direction := .ingress, protocol := some "tcp",
      ethertype := some "IPv4" },
    { id := "held", groupId := "a", direction := .egress }] }
  faults := [⟨.deleteRule, "held", 500, "internal error"⟩]
  supply := ⟨fun _ ↦ "new", fun _ ↦ "req"⟩

/-- Entries that overlap for what comes in, and all rules that go out. -/
def overlapPlan : RemovalPlan where
  ingress := some (.explicit [
    { direction := some .ingress, protocol := some "tcp", ethertype := some "IPv4" },
    { direction := some .ingress, protocol := some "tcp", id := some "twice" }])
  egress := some .all

theorem isChecked_overlapPlan : overlapPlan.IsChecked := by
  intro d queries h
  cases d with
  | ingress =>
    cases h
    exact ⟨.arr [.obj [("protocol", .str "tcp"), ("ethertype", .str "IPv4")],
      .obj [("protocol", .str "tcp"), ("id", .str "twice")]], rfl⟩
  | egress => cases h

theorem removeRules_overlap :
    let given := overlapStore.inventory.rules.take 1
    (overlapStore.inventory.rules.map Rule.id).Nodup ∧
      (∀ r ∈ given, r ∈ overlapStore.inventory.rules) ∧ given.Nodup ∧ overlapPlan.IsChecked ∧
      ((removeRules given overlapPlan).after overlapStore).inventory.rules.map Rule.id =
        ["given", "away", "held"] ∧
      ((removeRules given overlapPlan).result overlapStore).succeeded.Nodup := by
  have hids : (overlapStore.inventory.rules.map Rule.id).Nodup := by decide
  have hsub : ∀ r ∈ overlapStore.inventory.rules.take 1, r ∈ overlapStore.inventory.rules :=
    fun r hr ↦ List.mem_of_mem_take hr
  obtain ⟨hafter, hnodup, -⟩ :=
    removeRules_effect hids hsub (by decide) isChecked_overlapPlan
  refine ⟨hids, hsub, by decide, isChecked_overlapPlan, ?_, hnodup⟩
  rw [hafter]
  decide

end Bulk

end NetWarden
