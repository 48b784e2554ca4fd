import NetWarden.Proofs.Bulk.Clearing
import NetWarden.Proofs.Run.Policies

/-!
# Deleting groups that nothing is bound to

A policy of groups that keeps only unattached ones, among whatever else it asks, and deletes what it
keeps. **No group in use goes, and not the one that every project has**; and what goes is said
exactly, for groups and for rules (`policy_deletes_free`). A group that the store does not give up
keeps all its rules.
-/

namespace NetWarden

open Inventory Store StoreM

/-- Nothing is bound to a free group, and it is not the one that every project has. -/
theorem Group.isFree_iff {ports : List NetworkPort} {g : Group} : g.isFree ports = true ↔
    g.name ≠ defaultName ∧ ∀ port ∈ ports, g.id ∉ port.groupIds := by
  simp only [isFree, Bool.and_eq_true, List.all_eq_true, Bool.not_eq_true', ← Bool.not_eq_true,
    List.contains_iff_mem, bne_iff_ne, ne_eq]
  exact and_comm

/-- A group that does not go is not the group of a rule that goes: it has an id of its own. -/
theorem Inventory.all_groupId_ne {i : Inventory} (hids : (i.groups.map Group.id).Nodup)
    {gone : List Group} (hsub : ∀ h ∈ gone, h ∈ i.groups) {g : Group} (hg : g ∈ i.groups)
    (hstays : g ∉ gone) {r : Rule} (hr : r.groupId = g.id) :
    (gone.all fun h ↦ r.groupId != h.id) = true := by
  refine List.all_eq_true.mpr fun h hh ↦ bne_iff_ne.mpr fun heq ↦ hstays ?_
  rwa [List.inj_on_of_nodup_map hids hg (hsub h hh) (hr.symm.trans heq)]

namespace Run

variable {p : Policy} {s : Store}

/-- **What a policy does that only deletes groups**: of the groups that its filters keep, those go
whose deletion meets no fault, with their rules. -/
theorem policy_deletes_groups (hp : p.IsSupported) (hkind : p.kind = .group)
    (hactions : p.actions = [.delete]) (hids : (s.inventory.groups.map Group.id).Nodup)
    {report : PolicyReport} (hrun : result (policy false p).run s = .ok report) :
    let i := s.inventory
    let kept := i.groups.filter fun g ↦ p.filters.all fun f ↦ f.holds i.ports (.group g)
    let gone := kept.filter fun g ↦ s.permits (.deleteGroup g.id)
    report.resources = .groups kept ∧
      (∃ failed, report.actions = [.deleteGroups ⟨gone, failed⟩]) ∧
      (after (policy false p).run s).inventory = { i with
        groups := i.groups.filter fun g ↦ !gone.contains g
        rules := i.rules.filter fun r ↦ gone.all fun g ↦ r.groupId != g.id } := by
  intro i kept gone
  obtain ⟨hresources, -, -, t, ht, hperform, hafter⟩ := policy_of_ok false hp hrun
  have hkept : (ResourceSet.ofInventory p.kind i).keptBy i.ports p.filters = .groups kept := by
    have hdistinct : ((ResourceSet.ofInventory .group i).groupItems.map Group.id).Nodup := hids
    rw [hkind, ResourceSet.keptBy_eq_filter hdistinct]
    rfl
  rw [hkept, hactions] at hperform hafter
  rw [hkept] at hresources
  -- the actions are one deletion, from a store that has the same resources and faults
  have hsub : kept.Sublist t.inventory.groups := by
    rw [ht.inventory]
    exact List.filter_sublist
  obtain ⟨hgone, hdeleted⟩ := Bulk.deleteGroups_effect (ht.inventory ▸ hids) hsub
  simp only [ht.inventory, ht.permits_eq] at hgone hdeleted
  change _ = gone at hgone
  obtain ⟨htold, honly⟩ := perform_singleton (s := t)
    (show result (execute (.groups kept) .delete).run t =
      .ok (.deleteGroups (result (Bulk.deleteGroups kept) t)) from rfl)
  refine ⟨hresources, ?_, (congrArg Store.inventory (hafter.trans honly)).trans hdeleted⟩
  rw [Except.ok.inj (hperform.symm.trans htold)]
  exact ⟨(result (Bulk.deleteGroups kept) t).failed, by rw [← hgone]⟩

/-- **Only groups that nothing is bound to are deleted**, and not the one that every project has.
Faults of group deletions do not end the run. Of the groups that the filters keep, those go whose
deletion meets no fault; every other group stays, with all its rules. With a group that goes, all
its rules go and no others; what is left is in the order in which it was. -/
theorem policy_deletes_free {d : PolicyDefinition} {p : Policy} (hp : Policy.ofDefinition d = .ok p)
    (hkind : p.kind = .group) (hfree : .unattached ∈ p.filters) (hactions : p.actions = [.delete])
    (s : Store) (hids : (s.inventory.groups.map Group.id).Nodup) :
    ((∀ f ∈ s.faults, f.operation = .deleteGroup) →
      ∃ report, result (policy false p).run s = .ok report) ∧
    ∀ report, result (policy false p).run s = .ok report →
      let i := s.inventory
      let kept := i.groups.filter fun g ↦ p.filters.all fun f ↦ f.holds i.ports (.group g)
      let gone := kept.filter fun g ↦ s.permits (.deleteGroup g.id)
      let left := (after (policy false p).run s).inventory
      report.resources = .groups kept ∧
      (∃ failed, report.actions = [.deleteGroups ⟨gone, failed⟩]) ∧
      left = { i with
        groups := i.groups.filter fun g ↦ !gone.contains g
        rules := i.rules.filter fun r ↦ gone.all fun g ↦ r.groupId != g.id } ∧
      (∀ g ∈ gone, g.name ≠ Group.defaultName ∧ ∀ port ∈ i.ports, g.id ∉ port.groupIds) ∧
      ∀ g ∈ i.groups, g ∉ gone → g ∈ left.groups ∧
        ∀ r ∈ i.rules, r.groupId = g.id → r ∈ left.rules := by
  have hsupported := Policy.isSupported_of_ofDefinition hp
  refine ⟨fun hfaults ↦ ?_, fun report hrun ↦ ?_⟩
  · -- faults of deletions block neither the listing nor the lookup
    have hblocks : ∀ op, op ≠ .deleteGroup → s.blocks op = false := fun op hne ↦
      blocks_of_faults fun f hf heq ↦ hne (heq.symm.trans (hfaults f hf))
    obtain ⟨_, _, -, -, -, hrun⟩ := policy_succeeds false hsupported
      (hblocks _ (by rw [hkind]; decide)) (by rw [hblocks _ (by decide), Bool.and_false])
    exact ⟨_, hrun⟩
  · intro i kept gone left
    obtain ⟨hresources, htold, hleft⟩ := policy_deletes_groups hsupported hkind hactions hids hrun
    refine ⟨hresources, htold, hleft, fun g hg ↦ ?_, fun g hg hstays ↦ ?_⟩
    · -- what goes was kept by all filters, and one of them asks that it is free
      have hholds := (List.mem_filter.mp (List.mem_of_mem_filter hg)).2
      exact Group.isFree_iff.mp (List.all_eq_true.mp hholds _ hfree)
    · -- a group that stays has another id than those that go, so its rules stay too
      have hsub : ∀ h ∈ gone, h ∈ i.groups := fun h hh ↦
        List.mem_of_mem_filter (List.mem_of_mem_filter hh)
      have hkeeps : (!gone.contains g) = true := by simpa using hstays
      change left = _ at hleft
      rw [hleft]
      exact ⟨List.mem_filter.mpr ⟨hg, hkeeps⟩, fun r hr hgroup ↦
        List.mem_filter.mpr ⟨hr, all_groupId_ne hids hsub hg hstays hgroup⟩⟩

/-! ### Groups of each kind

The project's own group, one that is bound, one whose name is not asked for, and two that are free,
of which the store does not give up one. -/

/-- A policy that deletes free groups by their name. -/
def leftoverDefinition : PolicyDefinition where
  name := "leftover"
  resource := "vpc-security-group"
  filters := [
    .obj [("type", .str "value"), ("key", .str "name"), ("op", .str "ne"), ("value", .str "new")],
    .str "unattached"]
  actions := [.str "delete"]

/-- The policy of the definition. -/
def leftoverPolicy : Policy where
  name := "leftover"
  description := none
  kind := .group
  filters := [.value ⟨"name", .ne, .str "new"⟩, .unattached]
  actions := [.delete]

/-- Groups with a rule each. -/
def leftoverStore : Store where
  inventory := {
    groups := [⟨"given", "default", none, none, none⟩, ⟨"bound", "web", none, none, none⟩,
      ⟨"other", "new", none, none, none⟩, ⟨"free", "old", none, none, none⟩,
      ⟨"held", "old", none, none, none⟩]
    rules := ["free", "held", "bound", "free"].map fun groupId ↦
      { id := groupId, groupId, direction := .ingress }
    ports := [⟨"port", none, none, ["bound"]⟩] }
  faults := [⟨.deleteGroup, "held", 409, "in use"⟩]
  supply := ⟨fun _ ↦ "new", fun _ ↦ "req"⟩

theorem policy_deletes_leftover :
    Policy.ofDefinition leftoverDefinition = .ok leftoverPolicy ∧
      leftoverPolicy.kind = .group ∧ .unattached ∈ leftoverPolicy.filters ∧
      leftoverPolicy.actions = [.delete] ∧
      (leftoverStore.inventory.groups.map Group.id).Nodup ∧
      (∀ f ∈ leftoverStore.faults, f.operation = .deleteGroup) ∧
      let left := (after (policy false leftoverPolicy).run leftoverStore).inventory
      left.groups.map Group.id = ["given", "bound", "other", "held"] ∧
        left.rules.map Rule.groupId = ["held", "bound"] := by
  have hp : Policy.ofDefinition leftoverDefinition = .ok leftoverPolicy := rfl
  have hfree : .unattached ∈ leftoverPolicy.filters :=
    List.mem_cons_of_mem _ List.mem_cons_self
  have hids : (leftoverStore.inventory.groups.map Group.id).Nodup := by decide
  have hfaults : ∀ f ∈ leftoverStore.faults, f.operation = .deleteGroup := by decide
  obtain ⟨hruns, hdeletes⟩ := policy_deletes_free hp rfl hfree rfl leftoverStore hids
  obtain ⟨report, hrun⟩ := hruns hfaults
  obtain ⟨-, -, hleft, -⟩ := hdeletes report hrun
  refine ⟨hp, rfl, hfree, rfl, hids, hfaults, ?_⟩
  rw [hleft]
  decide +kernel

end Run

end NetWarden
