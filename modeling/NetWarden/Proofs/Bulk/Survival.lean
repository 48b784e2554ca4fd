import NetWarden.Proofs.Bulk.Reach

/-!
# What becomes of added rules

Rules are set by adding first and removing after that, so the queries of the removal see what was
just added. An added rule is lost **just if a query that is sent finds it and no fault stands in the
way of deleting it** (`setRules_keeps_added_iff`). It is then told twice, as added and as removed.

An added rule has an id of its own (`identifies_of_mem_added`), and this is all that is needed of
it. What a removal tells as removed is what it did, so a rule that its id tells apart is gone just
if it is told (`mem_rules_after_removeRules_iff`). It is told only if it is found
(`of_mem_removed`), and found it is not missed: the deletions before it do not take it, and the
directions before its own leave it where it is (`mem_removed_iff`).
-/

namespace NetWarden

open Inventory Store StoreM

variable {s : Store} {i j : Inventory} {r : Rule}

/-! ### Rules that their ids tell apart -/

namespace Inventory

/-- The id of a rule tells it apart: no other rule has it, and the rule stands once at most. -/
structure Identifies (i : Inventory) (r : Rule) : Prop where
  /-- No other rule has the id. -/
  eq_of_id_eq : ∀ q ∈ i.rules, q.id = r.id → q = r
  /-- The rule does not stand twice. -/
  count_le_one : i.rules.count r ≤ 1

namespace Identifies

theorem of_sublist (h : i.Identifies r) (hsub : j.rules.Sublist i.rules) : j.Identifies r where
  eq_of_id_eq q hq := h.eq_of_id_eq q (hsub.subset hq)
  count_le_one := Nat.le_trans (hsub.count_le r) h.count_le_one

/-- Dropping a rule takes away that one. -/
theorem mem_dropRule_iff (h : i.Identifies r) {q : Rule} (hq : q.id = r.id → q = r) :
    r ∈ (i.dropRule q).rules ↔ r ∈ i.rules ∧ r ≠ q := by
  by_cases hid : q.id = r.id
  · obtain rfl := hq hid
    refine ⟨fun hmem ↦ ?_, fun hr ↦ absurd rfl hr.2⟩
    -- the first rule with the id is the rule itself, which stands once
    obtain ⟨p, before, behind, -, hp, hrules, hleft⟩ := List.exists_of_eraseP
      (p := fun p : Rule ↦ p.id == q.id) (List.mem_of_mem_eraseP hmem) (beq_self_eq_true q.id)
    have hpq : p = q := h.eq_of_id_eq p (by rw [hrules]; simp) (beq_iff_eq.mp hp)
    have hcount := h.count_le_one
    rw [hrules, hpq, List.count_append, List.count_cons_self] at hcount
    have hpos : 0 < (before ++ behind).count q := by
      rw [List.count_pos_iff, ← hleft]
      exact hmem
    rw [List.count_append] at hpos
    omega
  · rw [dropRule, List.mem_eraseP_of_neg (by simpa using Ne.symm hid)]
    exact ⟨fun hr ↦ ⟨hr, fun hrq ↦ hid (by rw [hrq])⟩, And.left⟩

/-- **Dropping rules takes away just those.** -/
theorem mem_changeEach_dropRule_iff (h : i.Identifies r) {dropped : List Rule}
    (hdropped : ∀ q ∈ dropped, q.id = r.id → q = r) :
    r ∈ (changeEach dropRule dropped i).rules ↔ r ∈ i.rules ∧ r ∉ dropped := by
  induction dropped generalizing i with
  | nil => simp
  | cons q dropped ih =>
    rw [List.forall_mem_cons] at hdropped
    have hnext : (i.dropRule q).Identifies r := h.of_sublist List.eraseP_sublist
    rw [changeEach_cons, ih hnext hdropped.2, h.mem_dropRule_iff hdropped.1, List.mem_cons, not_or,
      and_assoc]

end Identifies

end Inventory

/-! ### Nothing that is found is missed -/

namespace Bulk

variable {rules : List Rule} {d : Direction} {plan : RemovalPlan}

/-- A rule that is there is deleted when its turn comes. -/
theorem ok_mem_deleteEach {order : List Rule} (hr : r ∈ order) (hthere : r ∈ s.inventory.rules)
    (hdel : s.canDelete r = true) (honly : ∀ q ∈ order, q.id = r.id → q = r) :
    .ok r ∈ (deleteEach order).result s := by
  induction order generalizing s with
  | nil => cases hr
  | cons q order ih =>
    rw [List.forall_mem_cons] at honly
    rw [deleteEach, result_mapM_cons]
    by_cases hid : q.id = r.id
    · -- its turn: no other rule of the order has its id
      obtain rfl := honly.1 hid
      have hcall := result_deleteRule_of_mem hthere hdel
      refine List.mem_cons.mpr (.inl ?_)
      simp only [deleteRule, result_bind, result_pure, Outcome.result_of, hcall]
      rfl
    · -- before its turn: a rule with another id is deleted, and it stays
      have hrest : r ∈ order := (List.mem_cons.mp hr).resolve_left fun h ↦ hid (by rw [h])
      have hleft : r ∈ ((deleteRule q).after s).inventory.rules := by
        rw [accounts_deleteRule q s]
        rcases hresult : (deleteRule q).result s with f | p
        · exact hthere
        · obtain rfl := (of_deleteRule_eq_ok hresult).1
          exact (List.mem_eraseP_of_neg (by simpa using Ne.symm hid)).mpr hthere
      refine List.mem_cons_of_mem _ (ih hrest hleft ?_ honly.2)
      rw [(sameSupply_deleteRule q s).canDelete_eq]
      exact hdel

/-- **A rule that a direction of a removal finds is deleted.** -/
theorem ok_mem_removeDirection (hid : s.inventory.Identifies r) (hthere : r ∈ s.inventory.rules)
    (hgiven : ∀ q ∈ rules, q.id ≠ r.id)
    (hfinds : s.finds (sentQueries rules d (plan.get d)) r = true)
    (hdel : s.canDelete r = true) : .ok r ∈ (removeDirection rules plan d).result s := by
  rcases hget : plan.get d with - | removal
  · rw [hget] at hfinds
    cases hfinds
  · rw [hget] at hfinds
    have hfound := mem_findings.mpr ⟨hthere, hfinds⟩
    have honly : ∀ q ∈ ((targets rules d removal).result s).2, q.id = r.id → q = r := by
      intro q hq hqr
      rcases mem_of_mem_targets hq with hq | ⟨hq, -⟩
      · exact absurd hqr (hgiven q hq)
      · exact hid.eq_of_id_eq q hq hqr
    have htarget : r ∈ ((targets rules d removal).result s).2 := by
      rw [targets_eq]
      cases removal with
      | matched => cases hfinds
      | all => exact hfound
      | explicit queries =>
        -- the first of those found with the id is the rule
        obtain ⟨q, hq, hqr⟩ := List.mem_map.mp ((mem_map_distinctOn_iff Rule.id [] _).mpr
          ⟨List.mem_map_of_mem hfound, List.not_mem_nil⟩)
        have hrules := (mem_findings.mp ((distinctOn_sublist _ _ _).subset hq)).1
        rwa [hid.eq_of_id_eq q hrules hqr] at hq
    have hlist := unchanged_targets rules d removal s
    rw [result_removeDirection hget]
    refine List.mem_append_right _ (ok_mem_deleteEach htarget ?_ ?_ honly)
    · rw [hlist.inventory]
      exact hthere
    · rw [hlist.canDelete_eq]
      exact hdel

/-- A direction of a removal takes away just what it tells. -/
theorem mem_rules_after_removeDirection_iff (hid : s.inventory.Identifies r)
    (hgiven : ∀ q ∈ rules, q.id ≠ r.id) :
    r ∈ ((removeDirection rules plan d).after s).inventory.rules ↔
      r ∈ s.inventory.rules ∧ .ok r ∉ (removeDirection rules plan d).result s := by
  rw [accounts_removeDirection rules plan d s, changeEach_ok,
    hid.mem_changeEach_dropRule_iff, Outcome.mem_values_iff]
  intro q hq hqr
  rcases (of_ok_mem_removeDirection (Outcome.mem_values_iff.mp hq)).1 with hq | ⟨hq, -⟩
  · exact absurd hqr (hgiven q hq)
  · exact hid.eq_of_id_eq q hq hqr

/-- **A removal takes away just what it tells.** -/
theorem mem_rules_after_removeRules_iff (hid : s.inventory.Identifies r)
    (hgiven : ∀ q ∈ rules, q.id ≠ r.id) :
    r ∈ ((removeRules rules plan).after s).inventory.rules ↔
      r ∈ s.inventory.rules ∧ r ∉ ((removeRules rules plan).result s).succeeded := by
  rw [accounts_removeRules rules plan s]
  refine hid.mem_changeEach_dropRule_iff fun q hq hqr ↦ ?_
  rcases (of_mem_removed hq).1 with hq | ⟨hq, -⟩
  · exact absurd hqr (hgiven q hq)
  · exact hid.eq_of_id_eq q hq hqr

/-- Directions one after the other: those before its own take a rule, or leave it there. -/
theorem ok_mem_removeDirections {ds : List Direction} (hd : d ∈ ds)
    (hid : s.inventory.Identifies r) (hthere : r ∈ s.inventory.rules)
    (hgiven : ∀ q ∈ rules, q.id ≠ r.id)
    (hfinds : s.finds (sentQueries rules d (plan.get d)) r = true)
    (hdel : s.canDelete r = true) :
    .ok r ∈ (result (ds.mapM (removeDirection rules plan)) s).flatten := by
  induction ds generalizing s with
  | nil => cases hd
  | cons e ds ih =>
    rw [result_mapM_cons, List.flatten_cons, List.mem_append]
    by_cases htold : .ok r ∈ (removeDirection rules plan e).result s
    · exact .inl htold
    · -- then its own direction is still to come
      have hrest : d ∈ ds := (List.mem_cons.mp hd).resolve_left fun hde ↦
        htold (ok_mem_removeDirection hid hthere hgiven (hde ▸ hfinds) hdel)
      have hsame := (sameSupply_removeDirection rules plan e s).toSameSetting
      refine .inr (ih hrest (hid.of_sublist (rules_sublist_removeDirection rules plan e s)) ?_
        (by rw [hsame.finds_eq]; exact hfinds) (by rw [hsame.canDelete_eq]; exact hdel))
      exact (mem_rules_after_removeDirection_iff hid hgiven).mpr ⟨hthere, htold⟩

/-- **When a rule is told as removed** that was not given and that its id tells apart: just if a
query that is sent finds it, and no fault stands in the way of deleting it. -/
theorem mem_removed_iff (hid : s.inventory.Identifies r) (hthere : r ∈ s.inventory.rules)
    (hgiven : ∀ q ∈ rules, q.id ≠ r.id) :
    r ∈ ((removeRules rules plan).result s).succeeded ↔
      (∃ d, s.finds (sentQueries rules d (plan.get d)) r = true) ∧ s.canDelete r = true := by
  constructor
  · intro h
    obtain ⟨hr, hdel⟩ := of_mem_removed h
    exact ⟨(hr.resolve_left fun hr ↦ hgiven r hr rfl).2, hdel⟩
  · rintro ⟨⟨d, hfinds⟩, hdel⟩
    exact Outcome.mem_values_iff.mpr
      (ok_mem_removeDirections (Direction.mem_all d) hid hthere hgiven hfinds hdel)

/-! ### Rules that were just added -/

/-- **The id of an added rule tells it apart**, if the supply gives new ids. -/
theorem identifies_of_mem_added {groupIds : List String} {templates : RuleTemplates}
    (hnew : ∀ q ∈ s.inventory.rules, ¬ s.Supplies q.id) (honce : s.SuppliesOnce)
    (hr : r ∈ ((addRules groupIds templates).result s).succeeded) :
    ((addRules groupIds templates).after s).inventory.Identifies r := by
  have htakes := takes_addRules groupIds templates s
  have hnodup := htakes.nodup honce
  -- ids of the supply are new to the store, so no older rule has this one
  have hold : ∀ q ∈ s.inventory.rules, q.id ≠ r.id := fun q hq hqr ↦
    hnew q hq (htakes.supplies_of_mem (hqr ▸ List.mem_map_of_mem hr))
  rw [accounts_addRules groupIds templates s]
  refine ⟨fun q hq hqr ↦ ?_, ?_⟩
  · rcases List.mem_append.mp hq with hq | hq
    · exact absurd hqr (hold q hq)
    · exact List.inj_on_of_nodup_map hnodup hq hr hqr
  · -- it is not among the older rules, and once among the added
    have hzero : s.inventory.rules.count r = 0 :=
      List.count_eq_zero.mpr fun hmem ↦ hold r hmem rfl
    have hone := List.nodup_iff_count_le_one.mp hnodup.of_map r
    show (s.inventory.rules ++ _).count r ≤ 1
    rw [List.count_append]
    omega

/-- **When an added rule is lost again**, if the supply gives ids that are new to the store and to
the given rules. An added rule is still there just if it is not told as removed; and it is told as
removed just if a query that is sent finds it and no fault stands in the way of deleting it. So none
is lost where no more is removed than what was given. -/
theorem setRules_keeps_added_iff (s : Store) (rules : List Rule) (add : RuleTemplates)
    (plan : RemovalPlan)
    (hnew : ∀ q ∈ s.inventory.rules, ¬ s.Supplies q.id) (hgiven : ∀ q ∈ rules, ¬ s.Supplies q.id)
    (honce : s.SuppliesOnce) :
    let told := (setRules rules add plan).result s
    let left := ((setRules rules add plan).after s).inventory.rules
    (∀ r ∈ told.1.succeeded, (r ∈ left ↔ r ∉ told.2.succeeded) ∧
      (r ∈ told.2.succeeded ↔ (∃ d, s.finds (sentQueries rules d (plan.get d)) r = true) ∧
        s.canDelete r = true)) ∧
    ((∀ d, plan.get d = none ∨ plan.get d = some .matched) →
      ∀ r ∈ told.1.succeeded, r ∈ left ∧ r ∉ told.2.succeeded) := by
  intro told left
  have htakes := takes_addRules (affectedGroups rules) add s
  have hsame := htakes.toSameSetting
  have hlost : ∀ r ∈ told.1.succeeded, (r ∈ left ↔ r ∉ told.2.succeeded) ∧
      (r ∈ told.2.succeeded ↔ (∃ d, s.finds (sentQueries rules d (plan.get d)) r = true) ∧
        s.canDelete r = true) := by
    intro r hr
    -- the removal meets the store that the addition left, where the id of the rule is its own
    have hid := identifies_of_mem_added hnew honce hr
    have hthere : r ∈ ((addRules (affectedGroups rules) add).after s).inventory.rules := by
      rw [accounts_addRules]
      exact List.mem_append_right _ hr
    have hother : ∀ q ∈ rules, q.id ≠ r.id := fun q hq hqr ↦
      hgiven q hq (htakes.supplies_of_mem (hqr ▸ List.mem_map_of_mem hr))
    rw [← hsame.finds_eq, ← hsame.canDelete_eq]
    refine ⟨?_, mem_removed_iff hid hthere hother⟩
    exact (mem_rules_after_removeRules_iff hid hother).trans (and_iff_right hthere)
  refine ⟨hlost, fun hplan r hr ↦ ?_⟩
  -- no query is sent for what was given, so none finds an added rule
  have hunfound : ¬ ∃ d, s.finds (sentQueries rules d (plan.get d)) r = true := by
    rintro ⟨d, hfinds⟩
    rcases hplan d with h | h
    · rw [h] at hfinds
      cases hfinds
    · rw [h] at hfinds
      cases hfinds
  obtain ⟨hleft, hremoved⟩ := hlost r hr
  have hkept : r ∉ told.2.succeeded := fun h ↦ hunfound (hremoved.mp h).1
  exact ⟨hleft.mpr hkept, hkept⟩

/-! ### Adding under a removal of all rules

Two rules are added, and all rules that come in are removed: the new one among them goes at once. -/

/-- A store with one rule that comes in. -/
def narrowStore : Store where
  inventory := { rules := [{ id := "wide", groupId := "web", direction := .ingress }] }
  supply := .strokes

/-- A rule to add that lets TCP pass in a direction. -/
def addedTemplate (d : Direction) : RuleTemplate := { direction := d, protocol := some "tcp" }

/-- One rule to add for each direction. -/
def narrowTemplates : RuleTemplates where
  ingress := [addedTemplate .ingress]
  egress := [addedTemplate .egress]

/-- The rule that is added for a direction. -/
def addedRule (d : Direction) : Rule :=
  (addedTemplate d).toRule (match d with | .ingress => "|" | .egress => "||") "web"

/-- All rules that come in are removed. -/
def narrowPlan : RemovalPlan where
  ingress := some .all
  egress := none

theorem not_supplies_narrowStore :
    ∀ q ∈ narrowStore.inventory.rules, ¬ narrowStore.Supplies q.id := by
  intro q hq
  obtain rfl := List.mem_singleton.mp hq
  exact not_supplies_of_strokes rfl (by decide)

theorem setRules_keeps_added_narrow :
    let given := narrowStore.inventory.rules
    let told := (setRules given narrowTemplates narrowPlan).result narrowStore
    (∀ q ∈ narrowStore.inventory.rules, ¬ narrowStore.Supplies q.id) ∧
      (∀ q ∈ given, ¬ narrowStore.Supplies q.id) ∧ narrowStore.SuppliesOnce ∧
      ∃ kept ∈ told.1.succeeded, kept.direction = .egress ∧ kept ∉ told.2.succeeded ∧
        kept ∈ ((setRules given narrowTemplates narrowPlan).after narrowStore).inventory.rules := by
  have honce : narrowStore.SuppliesOnce := suppliesOnce_of_strokes rfl
  refine ⟨not_supplies_narrowStore, not_supplies_narrowStore, honce, addedRule .egress,
    by decide +kernel, rfl, ?_⟩
  have hlost := (setRules_keeps_added_iff narrowStore _ narrowTemplates narrowPlan
    not_supplies_narrowStore not_supplies_narrowStore honce).1 (addedRule .egress)
    (by decide +kernel)
  have hunfound : ¬ ∃ d, narrowStore.finds (sentQueries narrowStore.inventory.rules d
      (narrowPlan.get d)) (addedRule .egress) = true := by
    rintro ⟨d, hfinds⟩
    cases d <;> revert hfinds <;> decide +kernel
  have hkept := fun h ↦ hunfound (hlost.2.mp h).1
  exact ⟨hkept, hlost.1.mpr hkept⟩

/-- The ids are new and no call fails, and yet a rule is told as added and as removed, and is gone.
-/
theorem setRules_loses_added :
    let given := narrowStore.inventory.rules
    let told := (setRules given narrowTemplates narrowPlan).result narrowStore
    (∀ q ∈ narrowStore.inventory.rules, ¬ narrowStore.Supplies q.id) ∧
      (∀ q ∈ given, ¬ narrowStore.Supplies q.id) ∧ narrowStore.SuppliesOnce ∧
      ∃ lost ∈ told.1.succeeded, lost ∈ told.2.succeeded ∧
        lost ∉ ((setRules given narrowTemplates narrowPlan).after narrowStore).inventory.rules := by
  intro given told
  refine ⟨not_supplies_narrowStore, not_supplies_narrowStore, suppliesOnce_of_strokes rfl,
    addedRule .ingress, ?_⟩
  decide +kernel

end Bulk

end NetWarden
