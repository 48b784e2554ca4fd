import NetWarden.Proofs.Bulk.Clearing
import NetWarden.Proofs.Run.Confinement

/-!
# Stores that stay intact

A store is intact if every rule belongs to a group that is there, and no two rules, no two groups
and no two flow logs have the same id. **Policies keep a store intact**, however many there are and
wherever they stop (`policies_intact`).

Nothing of this is checked by the calls. A rule may be created in any group; that the group is there
is due to the run, which creates rules in the groups of rules that it has listed, and of the actions
on rules none deletes a group. A group is deleted together with its rules, and else resources are
only taken away or switched, which is `Inventory.Shrinks`. What is created has ids that are new if
the supply has no others to give; that this lasts is an invariant of its own, `Store.HasFreshIds`.
Both follow from what every action is, an addition with ids of the supply before something is taken
away (`Executes.step`).
-/

namespace NetWarden

open Inventory Store StoreM

variable {α : Type}

/-! ### Taking away -/

namespace Inventory

variable {i j k : Inventory}

/-- Every rule belongs to a group that is there, and no id is doubled. -/
structure IsIntact (i : Inventory) : Prop where
  /-- The group of every rule is there. -/
  owned : ∀ r ∈ i.rules, r.groupId ∈ i.groups.map Group.id
  /-- The ids of the rules are all different. -/
  ruleIds : (i.rules.map Rule.id).Nodup
  /-- The ids of the groups are all different. -/
  groupIds : (i.groups.map Group.id).Nodup
  /-- The ids of the flow logs are all different. -/
  flowLogIds : (i.flowLogs.map FlowLog.id).Nodup

/-- Resources are taken away or keep their ids, and no group goes without its rules. -/
structure Shrinks (i j : Inventory) : Prop where
  /-- Rules are taken away. -/
  rules : j.rules.Sublist i.rules
  /-- Groups are taken away. -/
  groups : j.groups.Sublist i.groups
  /-- Flow logs are taken away, or keep their ids. -/
  flowLogIds : (j.flowLogs.map FlowLog.id).Sublist (i.flowLogs.map FlowLog.id)
  /-- A rule that is left keeps its group. -/
  owned : ∀ r ∈ j.rules, r.groupId ∈ i.groups.map Group.id → r.groupId ∈ j.groups.map Group.id

namespace Shrinks

theorem refl (i : Inventory) : Shrinks i i := ⟨.refl _, .refl _, .refl _, fun _ _ h ↦ h⟩

theorem trans (h : Shrinks i j) (h' : Shrinks j k) : Shrinks i k where
  rules := h'.rules.trans h.rules
  groups := h'.groups.trans h.groups
  flowLogIds := h'.flowLogIds.trans h.flowLogIds
  owned r hr hgroup := h'.owned r hr (h.owned r (h'.rules.subset hr) hgroup)

/-- What one change takes away is all that many of them do. -/
theorem changeEach {redo : α → Inventory → Inventory} (h : ∀ a i, Shrinks i (redo a i))
    (as : List α) (i : Inventory) : Shrinks i (changeEach redo as i) := by
  induction as generalizing i with
  | nil => exact .refl i
  | cons a as ih => exact (h a i).trans (ih _)

theorem dropRule (r : Rule) (i : Inventory) : Shrinks i (i.dropRule r) :=
  ⟨List.eraseP_sublist, .refl _, .refl _, fun _ _ h ↦ h⟩

/-- The rules that are left with a group taken away belong to others. -/
theorem dropGroup (g : Group) (i : Inventory) : Shrinks i (i.dropGroup g) where
  rules := List.filter_sublist
  groups := List.eraseP_sublist
  flowLogIds := .refl _
  owned r hr hgroup := by
    have hother := (List.mem_filter.mp hr).2
    obtain ⟨h, hh, hid⟩ := List.mem_map.mp hgroup
    refine List.mem_map.mpr ⟨h, (List.mem_eraseP_of_neg ?_).mpr hh, hid⟩
    simpa [hid] using hother

theorem dropFlowLog (f : FlowLog) (i : Inventory) : Shrinks i (i.dropFlowLog f) :=
  ⟨.refl _, .refl _, List.eraseP_sublist.map _, fun _ _ h ↦ h⟩

theorem switchFlowLog (adminState : Bool) (f : FlowLog) (i : Inventory) :
    Shrinks i (i.switchFlowLog adminState f) :=
  ⟨.refl _, .refl _, by rw [map_id_switchFlowLog], fun _ _ h ↦ h⟩

end Shrinks

end Inventory

/-- A change of flow logs takes away or switches some, and adds what it is told to have created. -/
theorem FlowLogChange.shrinks_redo (change : FlowLogChange) (r : BulkResult FlowLog)
    (i : Inventory) : Shrinks (i.addFlowLogs (change.created r)) (change.redo r i) := by
  -- nothing is created but by the last change
  have hnone : ∀ j, Shrinks i j → Shrinks (i.addFlowLogs []) j := fun j hj ↦ by
    rwa [addFlowLogs_nil]
  cases change with
  | enable => exact hnone _ (.changeEach (Shrinks.switchFlowLog true) _ i)
  | disable => exact hnone _ (.changeEach (Shrinks.switchFlowLog false) _ i)
  | delete => exact hnone _ (.changeEach Shrinks.dropFlowLog _ i)
  | create templates => exact .refl _

/-! ### Adding -/

/-- No id is doubled, and the ids that are still to come are new and different. -/
structure Store.HasFreshIds (s : Store) : Prop where
  /-- The ids are all different. -/
  distinct : s.inventory.HasDistinctIds
  /-- No rule and no flow log has an id that is still to come. -/
  new : ∀ id, id ∈ s.inventory.rules.map Rule.id ∨ id ∈ s.inventory.flowLogs.map FlowLog.id →
    ¬ s.Supplies id
  /-- No id comes twice. -/
  once : s.SuppliesOnce

namespace Store.HasFreshIds

variable {s t : Store}

/-- Ids that are taken from the supply are doubled neither by what is there nor by each other. -/
theorem nodup_append (h : s.HasFreshIds) {old ids : List String} (hold : old.Nodup)
    (hnew : ∀ id ∈ old, ¬ s.Supplies id) {taken : List String} (htakes : s.TakesIds t taken)
    (hids : ids.Sublist taken) : (old ++ ids).Nodup := by
  refine List.nodup_append'.mpr ⟨hold, (htakes.nodup h.once).sublist hids, fun id hid hid' ↦ ?_⟩
  exact hnew id hid (htakes.supplies_of_mem (hids.subset hid'))

/-- What is added with ids from the supply doubles none. -/
theorem add (h : s.HasFreshIds) (rules : List Rule) (flowLogs : List FlowLog)
    (htakes : s.TakesIds t (rules.map Rule.id ++ flowLogs.map FlowLog.id)) :
    ((s.inventory.addRules rules).addFlowLogs flowLogs).HasDistinctIds where
  rules := by
    show ((s.inventory.rules ++ rules).map Rule.id).Nodup
    rw [List.map_append]
    exact h.nodup_append h.distinct.rules (fun id hid ↦ h.new id (.inl hid)) htakes
      (List.sublist_append_left _ _)
  groups := h.distinct.groups
  flowLogs := by
    show ((s.inventory.flowLogs ++ flowLogs).map FlowLog.id).Nodup
    rw [List.map_append]
    exact h.nodup_append h.distinct.flowLogs (fun id hid ↦ h.new id (.inr hid)) htakes
      (List.sublist_append_right _ _)

/-- **A step that adds with new ids, and then takes away**, doubles no id. -/
theorem step (h : s.HasFreshIds) (rules : List Rule) (flowLogs : List FlowLog)
    (htakes : s.TakesIds t (rules.map Rule.id ++ flowLogs.map FlowLog.id))
    (hshrinks : Shrinks ((s.inventory.addRules rules).addFlowLogs flowLogs) t.inventory) :
    t.HasFreshIds where
  distinct := by
    have hadded := h.add rules flowLogs htakes
    exact ⟨hadded.rules.sublist (hshrinks.rules.map _),
      hadded.groups.sublist (hshrinks.groups.map _), hadded.flowLogs.sublist hshrinks.flowLogIds⟩
  new id hid hsupplies := by
    -- what is there was there before or has just been taken, and neither is still to come
    have hthere : (id ∈ s.inventory.rules.map Rule.id ∨ id ∈ s.inventory.flowLogs.map FlowLog.id) ∨
        id ∈ rules.map Rule.id ++ flowLogs.map FlowLog.id := by
      rw [List.mem_append]
      rcases hid with hid | hid
      · have hid := (hshrinks.rules.map Rule.id).subset hid
        rw [addFlowLogs, addRules, List.map_append, List.mem_append] at hid
        exact hid.imp .inl .inl
      · have hid := hshrinks.flowLogIds.subset hid
        rw [addFlowLogs, addRules, List.map_append, List.mem_append] at hid
        exact hid.imp .inr .inr
    rcases hthere with hid | hid
    · exact h.new id hid (htakes.supplies_of_after hsupplies)
    · exact htakes.not_supplies_of_mem h.once hid hsupplies
  once := htakes.suppliesOnce h.once

theorem of_unchanged (h : s.HasFreshIds) (hst : s.Unchanged t) : t.HasFreshIds := by
  refine h.step [] [] hst.sameSupply ?_
  rw [addFlowLogs_nil, addRules_nil, hst.inventory]
  exact .refl _

end Store.HasFreshIds

/-- The resources are intact, and the ids that are still to come are new and different. -/
structure Store.IsIntact (s : Store) : Prop where
  /-- The resources are intact. -/
  inventory : s.inventory.IsIntact
  /-- No rule and no flow log has an id that is still to come. -/
  new : ∀ id, id ∈ s.inventory.rules.map Rule.id ∨ id ∈ s.inventory.flowLogs.map FlowLog.id →
    ¬ s.Supplies id
  /-- No id comes twice. -/
  once : s.SuppliesOnce

namespace Store.IsIntact

variable {s t : Store}

theorem hasFreshIds (h : s.IsIntact) : s.HasFreshIds :=
  ⟨⟨h.inventory.ruleIds, h.inventory.groupIds, h.inventory.flowLogIds⟩, h.new, h.once⟩

/-- **A step that adds with new ids, the rules to groups that are there, and then takes away**,
leaves an intact store intact. -/
theorem step (h : s.IsIntact) (rules : List Rule) (flowLogs : List FlowLog)
    (htakes : s.TakesIds t (rules.map Rule.id ++ flowLogs.map FlowLog.id))
    (hshrinks : Shrinks ((s.inventory.addRules rules).addFlowLogs flowLogs) t.inventory)
    (howned : ∀ r ∈ rules, r.groupId ∈ s.inventory.groups.map Group.id) : t.IsIntact := by
  have hfresh := h.hasFreshIds.step rules flowLogs htakes hshrinks
  refine ⟨⟨fun r hr ↦ hshrinks.owned r hr ?_, hfresh.distinct.rules, hfresh.distinct.groups,
    hfresh.distinct.flowLogs⟩, hfresh.new, hfresh.once⟩
  rcases List.mem_append.mp (hshrinks.rules.subset hr) with hr | hr
  · exact h.inventory.owned r hr
  · exact howned r hr

theorem of_unchanged (h : s.IsIntact) (hst : s.Unchanged t) : t.IsIntact := by
  refine h.step [] [] hst.sameSupply ?_ fun r hr ↦ absurd hr List.not_mem_nil
  rw [addFlowLogs_nil, addRules_nil, hst.inventory]
  exact .refl _

end Store.IsIntact

/-! ### Actions and policies -/

namespace Run

variable {resources : ResourceSet} {a : PolicyAction} {s t : Store} {report : ActionReport}

/-- **Every action adds with ids of the supply, and then takes away.** Only rules are added by an
action on rules, to the groups of the rules that it is given. -/
theorem Executes.step (h : Executes s resources a report t) :
    ∃ rules flowLogs,
      s.TakesIds t (rules.map Rule.id ++ flowLogs.map FlowLog.id) ∧
      Shrinks ((s.inventory.addRules rules).addFlowLogs flowLogs) t.inventory ∧
      ∀ r ∈ rules, ∃ q ∈ resources.ruleItems, q.groupId = r.groupId := by
  cases resources with
  | rules items =>
    -- on rules it is one statement for all actions
    have hchange := h.ruleChange
    have htakes := hchange.takes
    rw [← List.append_nil (List.map _ _)] at htakes
    refine ⟨report.addedRules, [], htakes, ?_, hchange.added⟩
    rw [hchange.inventory, addFlowLogs_nil]
    exact .changeEach Shrinks.dropRule _ _
  | groups items =>
    cases h with
    | deleteGroups =>
      refine ⟨[], [], Bulk.sameSupply_deleteGroups items s, ?_,
        fun r hr ↦ absurd hr List.not_mem_nil⟩
      rw [addFlowLogs_nil, addRules_nil]
      exact Bulk.accounts_deleteGroups items s ▸ .changeEach Shrinks.dropGroup _ _
  | flowLogs items =>
    cases h with
    | setFlowLog _ change =>
      refine ⟨[], _, Bulk.takes_changeFlowLogs items change s, ?_,
        fun r hr ↦ absurd hr List.not_mem_nil⟩
      rw [addRules_nil]
      exact Bulk.accounts_changeFlowLogs items change s ▸ change.shrinks_redo _ _
  | ports items => cases h

/-- **An action keeps a store intact**, if the groups of the rules that it is given are there; and
then they still are. -/
theorem Executes.isIntact (h : Executes s resources a report t) (hs : s.IsIntact)
    (howned : ∀ r ∈ resources.ruleItems, r.groupId ∈ s.inventory.groups.map Group.id) :
    t.IsIntact ∧ ∀ r ∈ resources.ruleItems, r.groupId ∈ t.inventory.groups.map Group.id := by
  obtain ⟨rules, flowLogs, htakes, hshrinks, hadded⟩ := h.step
  refine ⟨hs.step rules flowLogs htakes hshrinks fun r hr ↦ ?_, ?_⟩
  · obtain ⟨q, hq, hgroup⟩ := hadded r hr
    exact hgroup ▸ howned q hq
  · cases resources with
    | rules items =>
      -- no action on rules takes groups away
      have hgroups : t.inventory.groups = s.inventory.groups := by
        rw [h.ruleChange.inventory, groups_changeEach_dropRule]
        rfl
      rwa [hgroups]
    | _ => exact fun r hr ↦ absurd hr List.not_mem_nil

/-- What is kept of a listing is in the store. -/
theorem mem_rules_of_mem_keptBy {kind : ResourceKind} {i : Inventory} {fs : List PolicyFilter}
    {r : Rule} (hr : r ∈ ((ResourceSet.ofInventory kind i).keptBy i.ports fs).ruleItems) :
    r ∈ i.rules := by
  have hlisted := (ResourceSet.ruleItems_keptBy_sublist _ fs).subset hr
  cases kind with
  | rule => exact hlisted
  | _ => cases hlisted

/-- **A policy keeps a store intact**, however its run ends. -/
theorem isIntact_policy {p : Policy} (hp : p.IsSupported) (isDryRun : Bool) (h : s.IsIntact) :
    (after (policy isDryRun p).run s).IsIntact := by
  have hkeeps := policy_keeps (fun t ↦ t.IsIntact ∧
      ∀ r ∈ ((ResourceSet.ofInventory p.kind s.inventory).keptBy s.inventory.ports
        p.filters).ruleItems, r.groupId ∈ t.inventory.groups.map Group.id)
    (fun _ ↦ True) isDryRun hp rfl (fun t ht ↦ ⟨h.of_unchanged ht, fun r hr ↦ ?_⟩)
    fun a _ t report ht hok ↦ ⟨(executes_of_ok hok).isIntact ht.1 ht.2, trivial⟩
  · exact hkeeps.1.1
  · rw [ht.inventory]
    exact h.inventory.owned r (mem_rules_of_mem_keptBy hr)

/-- **Policies keep a store intact.** If every rule belongs to a group that is there, no id is
doubled among the rules, the groups or the flow logs, and new ids are new and different, then it is
so after any policies, whatever calls fail and whether or not a policy ends the run. -/
theorem policies_intact {ps : List Policy} (hps : ∀ p ∈ ps, ∃ d, Policy.ofDefinition d = .ok p)
    (isDryRun : Bool) (s : Store) (hs : s.inventory.IsIntact)
    (hnew : ∀ id, id ∈ s.inventory.rules.map Rule.id ∨ id ∈ s.inventory.flowLogs.map FlowLog.id →
      ¬ s.Supplies id) (honce : s.SuppliesOnce) :
    (after (policies isDryRun ps).run s).inventory.IsIntact := by
  refine (policies_keep Store.IsIntact isDryRun (fun p hp t ht ↦ ?_) ⟨hs, hnew, honce⟩).inventory
  obtain ⟨d, hd⟩ := hps p hp
  exact isIntact_policy (Policy.isSupported_of_ofDefinition hd) isDryRun ht

/-! ### Rules and groups

Rules of one group are replaced, and then another group goes with its rule, as the listing of
flow logs is blocked for a policy that comes last. -/

/-- The definition of a policy that switches flow logs off. -/
def quietDefinition : PolicyDefinition where
  name := "quiet"
  resource := "vpc-flow-log"
  actions := [.obj [("type", .str "set-flow-log"), ("action", .str "disable")]]

/-- The policy of the definition. -/
def quietPolicy : Policy where
  name := "quiet"
  description := none
  kind := .flowLog
  filters := []
  actions := [.setFlowLog .disable]

/-- Two groups with rules, one of them bound to a port, and flow logs that are not listed. -/
def intactStore : Store where
  inventory := { twoGroupsStore.inventory with
    groups := [⟨"web", "web", none, none, none⟩, ⟨"db", "old", none, none, none⟩]
    ports := [⟨"port", none, none, ["web"]⟩]
    flowLogs := [{ id := "log", resourceType := "port", resourceId := "p", adminState := true }] }
  faults := [⟨.listFlowLogs, Call.anyKey, 503, "busy"⟩]
  supply := .strokes

theorem policies_intact_twoGroups :
    (∀ p ∈ [replaceAllPolicy, nestedPolicy, quietPolicy], ∃ d, Policy.ofDefinition d = .ok p) ∧
      intactStore.inventory.IsIntact ∧
      (∀ id, id ∈ intactStore.inventory.rules.map Rule.id ∨
        id ∈ intactStore.inventory.flowLogs.map FlowLog.id → ¬ intactStore.Supplies id) ∧
      intactStore.SuppliesOnce ∧
      ((after (policies false [replaceAllPolicy, nestedPolicy, quietPolicy]).run
        intactStore).inventory.rules.map Rule.groupId = ["web"]) ∧
      (after (policies false [replaceAllPolicy, nestedPolicy, quietPolicy]).run
        intactStore).inventory.IsIntact := by
  have haccepted : ∀ p ∈ [replaceAllPolicy, nestedPolicy, quietPolicy],
      ∃ d, Policy.ofDefinition d = .ok p := by
    intro p hp
    simp only [List.mem_cons, List.not_mem_nil, or_false] at hp
    rcases hp with rfl | rfl | rfl
    · exact ⟨replaceAllDefinition, rfl⟩
    · exact ⟨nestedDefinition, rfl⟩
    · exact ⟨quietDefinition, rfl⟩
  have hintact : intactStore.inventory.IsIntact :=
    ⟨by decide, by decide, by decide, by decide⟩
  have hnew : ∀ id, id ∈ intactStore.inventory.rules.map Rule.id ∨
      id ∈ intactStore.inventory.flowLogs.map FlowLog.id → ¬ intactStore.Supplies id := by
    -- every id of the supply is made of strokes
    have hsigns : ∀ id ∈ intactStore.inventory.rules.map Rule.id ++
        intactStore.inventory.flowLogs.map FlowLog.id, id.toList.any (· != '|') = true := by decide
    exact fun id hid ↦ not_supplies_of_strokes rfl (hsigns id (List.mem_append.mpr hid))
  have honce : intactStore.SuppliesOnce := suppliesOnce_of_strokes rfl
  exact ⟨haccepted, hintact, hnew, honce, by decide +kernel,
    policies_intact haccepted false intactStore hintact hnew honce⟩

end Run

end NetWarden
