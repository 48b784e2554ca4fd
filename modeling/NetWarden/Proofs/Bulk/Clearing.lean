import NetWarden.Proofs.Bulk.Accounts
import NetWarden.Proofs.Bulk.Deletion
import NetWarden.Proofs.Bulk.Supply

/-!
# Clearing away what was listed

Rules, groups and flow logs are deleted in the same way: one call for each record, by its id, and
the store drops the first record that has the id. `Deletable` says of a kind of records that they
are; there is one for each of the three.

If the ids are all different, the first record with an id is the only one. So deleting records that
were listed **works for just those that no fault holds, and leaves just the others, in their order**
(`values_mapM`, `items_changeEach`); without faults all of them go (`items_mapM_of_perm`). Groups
take their rules with them, which is the whole effect of deleting groups (`deleteGroups_effect`).
-/

namespace NetWarden

open Inventory Store StoreM

/-- No two rules, no two groups and no two flow logs have the same id. -/
structure Inventory.HasDistinctIds (i : Inventory) : Prop where
  /-- The ids of the rules are all different. -/
  rules : (i.rules.map Rule.id).Nodup
  /-- The ids of the groups are all different. -/
  groups : (i.groups.map Group.id).Nodup
  /-- The ids of the flow logs are all different. -/
  flowLogs : (i.flowLogs.map FlowLog.id).Nodup

/-- A kind of records that are deleted one by one, each by its id. -/
structure Deletable (α : Type) where
  /-- The id of a record. -/
  id : α → String
  /-- The records of the kind. -/
  items : Inventory → List α
  /-- The call that deletes a record. -/
  call : α → Call
  /-- Deletes a record. -/
  delete : α → StoreM (Outcome α)
  /-- What is done to the resources if the call is answered. -/
  drop : α → Inventory → Inventory
  /-- The first record with the id is dropped. -/
  items_drop : ∀ a i, items (drop a i) = (items i).eraseP fun b ↦ id b == id a
  /-- The ports are left alone. -/
  ports_drop : ∀ a i, (drop a i).ports = i.ports
  /-- The outcome accounts for what is done. -/
  accounts : ∀ a, Accounts (changeIfOk drop) (delete a)
  /-- The faults and the supply are left alone. -/
  sameSetting : ∀ a, Keeps SameSetting (delete a)
  /-- A record that is there is told as deleted, unless a fault holds it. -/
  value?_delete : ∀ (s : Store) (a : α), a ∈ items s.inventory →
    (result (delete a) s).value? = if s.permits (call a) then some a else none

namespace Deletable

/-- Rules. -/
def rules : Deletable Rule where
  id := Rule.id
  items := Inventory.rules
  call r := .deleteRule r.id
  delete := Bulk.deleteRule
  drop := dropRule
  items_drop _ _ := rfl
  ports_drop _ _ := rfl
  accounts := Bulk.accounts_deleteRule
  sameSetting r s := (Bulk.sameSupply_deleteRule r s).toSameSetting
  value?_delete s r hr := by
    refine Outcome.value?_of_attempt r.id .deleteRule s r ?_
    exact ⟨_, act_deleteRule_of_mem hr⟩

/-- Groups, which take their rules with them. -/
def groups : Deletable Group where
  id := Group.id
  items := Inventory.groups
  call g := .deleteGroup g.id
  delete := Bulk.deleteGroup
  drop := dropGroup
  items_drop _ _ := rfl
  ports_drop _ _ := rfl
  accounts := Bulk.accounts_deleteGroup
  sameSetting g s := (Bulk.sameSupply_deleteGroup g s).toSameSetting
  value?_delete s g hg := by
    have hdrop : dropFirst? (fun h : Group ↦ h.id == g.id) s.inventory.groups = some _ :=
      dropFirst?_of_mem hg (beq_self_eq_true _)
    refine Outcome.value?_of_attempt g.id .deleteGroup s g ?_
    rw [hdrop]
    exact ⟨_, rfl⟩

/-- Flow logs. -/
def flowLogs : Deletable FlowLog where
  id := FlowLog.id
  items := Inventory.flowLogs
  call f := .deleteFlowLog f.id
  delete := Bulk.deleteFlowLog
  drop := dropFlowLog
  items_drop _ _ := rfl
  ports_drop _ _ := rfl
  accounts := Bulk.accounts_deleteFlowLog
  sameSetting f s := (Bulk.sameSupply_deleteFlowLog f s).toSameSetting
  value?_delete s f hf := by
    have hdrop : dropFirst? (fun h : FlowLog ↦ h.id == f.id) s.inventory.flowLogs = some _ :=
      dropFirst?_of_mem hf (beq_self_eq_true _)
    refine Outcome.value?_of_attempt f.id .deleteFlowLog s f ?_
    rw [hdrop]
    exact ⟨_, rfl⟩

section

variable {α : Type} (k : Deletable α) {s : Store} {i : Inventory} {a b : α} {as : List α}

/-- What one deletion does. -/
theorem inventory_delete (ha : a ∈ k.items s.inventory) :
    (after (k.delete a) s).inventory =
      if s.permits (k.call a) then k.drop a s.inventory else s.inventory := by
  have hvalue := k.value?_delete s a ha
  rw [k.accounts a s]
  -- whether it was deleted is told, and it is told just if no fault stands in the way
  rcases hresult : result (k.delete a) s with e | c <;> rw [hresult] at hvalue
  · split at hvalue
    · cases hvalue
    · rename_i hp
      rw [if_neg hp]
      rfl
  · split at hvalue
    · rename_i hp
      cases hvalue
      rw [if_pos hp]
      rfl
    · cases hvalue

/-- What has another id is still there. -/
theorem mem_items_delete (ha : a ∈ k.items s.inventory) (hb : b ∈ k.items s.inventory)
    (hne : k.id b ≠ k.id a) : b ∈ k.items (after (k.delete a) s).inventory := by
  rw [k.inventory_delete ha]
  split
  · rw [k.items_drop]
    exact (List.mem_eraseP_of_neg (by simpa using hne)).mpr hb
  · exact hb

/-- **Just those are told as deleted that no fault holds**, if all are there and have different
ids. -/
theorem values_mapM (hsub : ∀ a ∈ as, a ∈ k.items s.inventory) (hids : (as.map k.id).Nodup) :
    (result (as.mapM k.delete) s).filterMap Outcome.value? =
      as.filter fun a ↦ s.permits (k.call a) := by
  induction as generalizing s with
  | nil => rfl
  | cons a as ih =>
    rw [List.map_cons, List.nodup_cons] at hids
    obtain ⟨ha, has⟩ := hids
    have hthere := hsub a List.mem_cons_self
    -- the rest is still there after the first deletion, for its ids are others
    have hrest := ih (s := after (k.delete a) s) (fun b hb ↦ k.mem_items_delete hthere
      (hsub b (List.mem_cons_of_mem _ hb)) fun h ↦ ha (h ▸ List.mem_map_of_mem hb)) has
    simp only [(k.sameSetting a s).permits_eq] at hrest
    rw [result_mapM_cons, List.filterMap_cons, k.value?_delete s a hthere, hrest]
    rcases hp : s.permits (k.call a) with - | -
    · rw [List.filter_cons_of_neg (by simp [hp])]
      rfl
    · rw [List.filter_cons_of_pos (by simp [hp])]
      rfl

/-- **Just the others are left**, in their order, when records of the kind are dropped. -/
theorem items_changeEach [DecidableEq α] (hids : ((k.items i).map k.id).Nodup)
    (hsub : ∀ a ∈ as, a ∈ k.items i) :
    k.items (changeEach k.drop as i) = (k.items i).filter fun b ↦ !as.contains b := by
  have hall : k.items (changeEach k.drop as i) =
      (k.items i).filter fun b ↦ as.all fun a ↦ k.id b != k.id a := by
    clear hsub
    induction as generalizing i with
    | nil => exact (List.filter_eq_self.mpr fun b _ ↦ rfl).symm
    | cons a as ih =>
      have hdrop : k.items (k.drop a i) = (k.items i).filter fun b ↦ k.id b != k.id a := by
        rw [k.items_drop, eraseP_key_eq_filter_ne k.id (k.id a) hids]
      have hleft : ((k.items (k.drop a i)).map k.id).Nodup := by
        rw [hdrop]
        exact hids.sublist (List.filter_sublist.map k.id)
      rw [changeEach_cons, ih hleft, hdrop, List.filter_filter]
      simp only [List.all_cons, Bool.and_comm]
  rw [hall]
  -- of the records that are there, only the same one has the same id
  refine List.filter_congr fun b hb ↦ ?_
  rw [Bool.eq_iff_iff, List.all_eq_true, Bool.not_eq_true', ← Bool.not_eq_true,
    List.contains_iff_mem]
  constructor
  · intro hne hmem
    exact bne_iff_ne.mp (hne b hmem) rfl
  · intro hnot a ha
    refine bne_iff_ne.mpr fun heq ↦ hnot ?_
    rwa [List.inj_on_of_nodup_map hids hb (hsub a ha) heq]

theorem ports_changeEach : (changeEach k.drop as i).ports = i.ports :=
  part_changeEach k.drop i fun a _ i ↦ k.ports_drop a i

/-- What is deleted is what is told as deleted. -/
theorem inventory_mapM (as : List α) (s : Store) : (after (as.mapM k.delete) s).inventory =
    changeEach k.drop ((result (as.mapM k.delete) s).filterMap Outcome.value?) s.inventory := by
  rw [← changeEach_ok]
  exact Accounts.mapM k.accounts as s

theorem ports_mapM (as : List α) (s : Store) :
    (after (as.mapM k.delete) s).inventory.ports = s.inventory.ports := by
  rw [k.inventory_mapM, k.ports_changeEach]

/-- **Without faults, what is listed and deleted is gone**, and all else is left in its order. -/
theorem items_mapM_of_perm [DecidableEq α] {test : α → Bool} (hfaults : s.faults = [])
    (hids : ((k.items s.inventory).map k.id).Nodup)
    (hperm : as.Perm ((k.items s.inventory).filter test)) :
    k.items (after (as.mapM k.delete) s).inventory =
      (k.items s.inventory).filter fun a ↦ !test a := by
  have hsub : ∀ a ∈ as, a ∈ k.items s.inventory := fun a ha ↦
    List.mem_of_mem_filter (hperm.mem_iff.mp ha)
  have hnodup : (as.map k.id).Nodup :=
    (hperm.map k.id).nodup_iff.mpr (hids.sublist (List.filter_sublist.map k.id))
  have htold : (result (as.mapM k.delete) s).filterMap Outcome.value? = as := by
    rw [k.values_mapM hsub hnodup]
    exact List.filter_eq_self.mpr fun a _ ↦ permits_of_faults_nil hfaults
  rw [k.inventory_mapM, htold, k.items_changeEach hids hsub]
  refine List.filter_congr fun a ha ↦ congrArg not ?_
  rw [Bool.eq_iff_iff, List.contains_iff_mem, hperm.mem_iff, List.mem_filter]
  exact and_iff_right ha

theorem sameSetting_mapM (as : List α) : Keeps SameSetting (as.mapM k.delete) :=
  Keeps.mapM SameSetting.refl SameSetting.trans as fun a _ ↦ k.sameSetting a

end

end Deletable

/-! ### What goes with groups -/

/-- With groups go their rules, and no others. -/
theorem rules_changeEach_dropGroup (gone : List Group) (i : Inventory) :
    (changeEach dropGroup gone i).rules =
      i.rules.filter fun r ↦ gone.all fun g ↦ r.groupId != g.id := by
  induction gone generalizing i with
  | nil => exact (List.filter_eq_self.mpr fun r _ ↦ rfl).symm
  | cons g gone ih =>
    rw [changeEach_cons, ih, dropGroup, List.filter_filter]
    simp only [List.all_cons, Bool.and_comm]

theorem flowLogs_changeEach_dropGroup (gone : List Group) (i : Inventory) :
    (changeEach dropGroup gone i).flowLogs = i.flowLogs :=
  part_changeEach dropGroup i fun _ _ _ ↦ rfl

namespace Bulk

/-- **What deleting groups does**, if they are there and have different ids. -/
theorem deleteGroups_effect {groups : List Group} {s : Store}
    (hids : (s.inventory.groups.map Group.id).Nodup) (hsub : groups.Sublist s.inventory.groups) :
    let gone := groups.filter fun g ↦ s.permits (.deleteGroup g.id)
    (result (deleteGroups groups) s).succeeded = gone ∧
      (after (deleteGroups groups) s).inventory = { s.inventory with
        groups := s.inventory.groups.filter fun g ↦ !gone.contains g
        rules := s.inventory.rules.filter fun r ↦ gone.all fun g ↦ r.groupId != g.id } := by
  intro gone
  have hgone : (result (deleteGroups groups) s).succeeded = gone :=
    Deletable.groups.values_mapM (fun g hg ↦ hsub.subset hg) (hids.sublist (hsub.map Group.id))
  have hafter : (after (deleteGroups groups) s).inventory =
      changeEach dropGroup gone s.inventory := by
    rw [← hgone]
    exact Deletable.groups.inventory_mapM groups s
  -- what is left of each kind: groups by themselves, rules with their groups, ports untouched
  have hgroups : (changeEach dropGroup gone s.inventory).groups =
      s.inventory.groups.filter fun g ↦ !gone.contains g :=
    Deletable.groups.items_changeEach hids fun g hg ↦ hsub.subset (List.mem_of_mem_filter hg)
  have hports : (changeEach dropGroup gone s.inventory).ports = s.inventory.ports :=
    Deletable.groups.ports_changeEach
  refine ⟨hgone, hafter.trans ?_⟩
  show Inventory.mk (changeEach dropGroup gone s.inventory).groups
    (changeEach dropGroup gone s.inventory).rules (changeEach dropGroup gone s.inventory).ports
    (changeEach dropGroup gone s.inventory).flowLogs = _
  rw [hgroups, rules_changeEach_dropGroup, hports, flowLogs_changeEach_dropGroup]

end Bulk

end NetWarden
