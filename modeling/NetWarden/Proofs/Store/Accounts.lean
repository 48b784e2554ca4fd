import NetWarden.Proofs.Store.Effects

/-!
# Accounts of changes

What a step gives is an *account* of what it does if the change to the resources can be made again
from it alone: `StoreM.Accounts redo x` says that the resources after `x` are those before, changed
by `redo` as the result of `x` says. **A refused call accounts for nothing, and changes nothing**
(`Store.accounts_attempt`), so each call is shown from its own change; what single steps account for
is accounted for by all of them, in their order (`Accounts.mapM`).

The changes themselves are operations on an inventory: adding at the end, taking away the first
record with an id, and switching the first flow log with an id.
-/

namespace NetWarden

variable {α β ε ε' : Type}

/-! ### Changing the first one -/

/-- The list with the first element changed that passes a test. -/
def modifyFirst (test : α → Bool) (change : α → α) : List α → List α
  | [] => []
  | a :: rest => if test a then change a :: rest else a :: modifyFirst test change rest

/-- What is changed passes the test, and is the first that does. -/
theorem eq_of_changeFirst {test : α → Bool} {change : α → α} {as bs : List α} {b : α}
    (h : changeFirst test change as = some (b, bs)) :
    (∃ a, test a = true ∧ b = change a) ∧ bs = modifyFirst test change as := by
  induction as generalizing bs with
  | nil => cases h
  | cons a as ih =>
    rw [changeFirst] at h
    rw [modifyFirst]
    split at h
    · rename_i ha
      -- the first passes
      cases h
      exact ⟨⟨a, ha, rfl⟩, (if_pos ha).symm⟩
    · rename_i ha
      obtain ⟨⟨c, cs⟩, hc, heq⟩ := Option.map_eq_some_iff.mp h
      cases heq
      obtain ⟨hb, rfl⟩ := ih hc
      exact ⟨hb, (if_neg ha).symm⟩

/-- A change that keeps a part of what it changes keeps it everywhere. -/
theorem map_modifyFirst {part : α → β} {test : α → Bool} {change : α → α}
    (h : ∀ a, part (change a) = part a) (as : List α) :
    (modifyFirst test change as).map part = as.map part := by
  induction as with
  | nil => rfl
  | cons a as ih =>
    rw [modifyFirst]
    split
    · rw [List.map_cons, List.map_cons, h]
    · rw [List.map_cons, List.map_cons, ih]

theorem eq_of_dropFirst? {test : α → Bool} {as bs : List α} (h : dropFirst? test as = some bs) :
    bs = as.eraseP test := by
  rw [dropFirst?] at h
  split at h
  · exact (Option.some.inj h).symm
  · cases h

/-! ### Changes of an inventory -/

namespace Inventory

/-- Rules are added at the end. -/
def addRules (rules : List Rule) (i : Inventory) : Inventory := { i with rules := i.rules ++ rules }

/-- The first rule with the id of a rule is taken away. -/
def dropRule (r : Rule) (i : Inventory) : Inventory :=
  { i with rules := i.rules.eraseP fun q ↦ q.id == r.id }

/-- The first group with the id of a group is taken away, and every rule of that group. -/
def dropGroup (g : Group) (i : Inventory) : Inventory :=
  { i with
    groups := i.groups.eraseP fun h ↦ h.id == g.id
    rules := i.rules.filter fun r ↦ r.groupId != g.id }

/-- Flow logs are added at the end. -/
def addFlowLogs (flowLogs : List FlowLog) (i : Inventory) : Inventory :=
  { i with flowLogs := i.flowLogs ++ flowLogs }

/-- The first flow log with the id of a flow log is switched on or off. -/
def switchFlowLog (adminState : Bool) (f : FlowLog) (i : Inventory) : Inventory :=
  { i with flowLogs := modifyFirst (fun g ↦ g.id == f.id) ({ · with adminState }) i.flowLogs }

/-- The first flow log with the id of a flow log is taken away. -/
def dropFlowLog (f : FlowLog) (i : Inventory) : Inventory :=
  { i with flowLogs := i.flowLogs.eraseP fun g ↦ g.id == f.id }

/-- A change is made for each element of a list, in order. -/
def changeEach (redo : α → Inventory → Inventory) (as : List α) (i : Inventory) : Inventory :=
  as.foldl (fun i a ↦ redo a i) i

/-- A change is made for an answer, and none for a failure. -/
def changeIfOk (redo : α → Inventory → Inventory) : Except ε α → Inventory → Inventory
  | .ok a, i => redo a i
  | .error _, i => i

section

variable (redo : α → Inventory → Inventory) (i : Inventory)

@[simp] theorem changeEach_nil : changeEach redo [] i = i := rfl

@[simp] theorem changeEach_cons (a : α) (as : List α) :
    changeEach redo (a :: as) i = changeEach redo as (redo a i) := rfl

theorem changeEach_append (as bs : List α) :
    changeEach redo (as ++ bs) i = changeEach redo bs (changeEach redo as i) :=
  List.foldl_append

theorem changeEach_flatten (ass : List (List α)) :
    changeEach redo ass.flatten i = changeEach (changeEach redo) ass i :=
  List.foldl_flatten

/-- **What each of several changes leaves as it is, all of them leave.** -/
theorem part_changeEach {part : Inventory → β} {as : List α}
    (h : ∀ a ∈ as, ∀ i, part (redo a i) = part i) : part (changeEach redo as i) = part i := by
  induction as generalizing i with
  | nil => rfl
  | cons a as ih =>
    rw [changeEach_cons, ih _ fun b hb ↦ h b (List.mem_cons_of_mem _ hb), h a List.mem_cons_self]

/-- **A change that may be made before or after each of several**, may be made before or after all
of them. -/
theorem changeEach_comm {change : Inventory → Inventory} {as : List α}
    (h : ∀ a ∈ as, ∀ i, redo a (change i) = change (redo a i)) :
    changeEach redo as (change i) = change (changeEach redo as i) := by
  induction as generalizing i with
  | nil => rfl
  | cons a as ih =>
    rw [changeEach_cons, changeEach_cons, h a List.mem_cons_self,
      ih _ fun b hb ↦ h b (List.mem_cons_of_mem _ hb)]

theorem changeIfOk_mapError (f : ε → ε') (x : Except ε α) :
    changeIfOk redo (x.mapError f) i = changeIfOk redo x i := by
  rcases x with e | a <;> rfl

theorem changeIfOk_map (redo : β → Inventory → Inventory) (f : α → β) (x : Except ε α) :
    changeIfOk redo (x.map f) i = changeIfOk (fun a ↦ redo (f a)) x i := by
  rcases x with e | a <;> rfl

end

/-- Dropping rules only takes rules away. -/
theorem rules_changeEach_dropRule_sublist (rules : List Rule) (i : Inventory) :
    (changeEach dropRule rules i).rules.Sublist i.rules := by
  induction rules generalizing i with
  | nil => exact List.Sublist.refl _
  | cons r rules ih => exact (ih (i.dropRule r)).trans List.eraseP_sublist

@[simp] theorem addRules_nil (i : Inventory) : i.addRules [] = i := by
  rw [addRules, List.append_nil]

@[simp] theorem addFlowLogs_nil (i : Inventory) : i.addFlowLogs [] = i := by
  rw [addFlowLogs, List.append_nil]

theorem groups_changeEach_dropRule (rules : List Rule) (i : Inventory) :
    (changeEach dropRule rules i).groups = i.groups :=
  part_changeEach dropRule i fun _ _ _ ↦ rfl

/-- Switching a flow log leaves the ids as they are. -/
theorem map_id_switchFlowLog (adminState : Bool) (f : FlowLog) (i : Inventory) :
    (i.switchFlowLog adminState f).flowLogs.map FlowLog.id = i.flowLogs.map FlowLog.id := by
  rw [switchFlowLog, map_modifyFirst]
  exact fun f ↦ rfl

/-- Rules that are added list by list are added all at once. -/
theorem changeEach_addRules (lists : List (List Rule)) (i : Inventory) :
    changeEach addRules lists i = i.addRules lists.flatten := by
  induction lists generalizing i with
  | nil => simp [addRules]
  | cons rules lists ih => simp [addRules, ih]

theorem changeEach_addFlowLogs (flowLogs : List FlowLog) (i : Inventory) :
    changeEach (fun f ↦ addFlowLogs [f]) flowLogs i = i.addFlowLogs flowLogs := by
  induction flowLogs generalizing i with
  | nil => simp [addFlowLogs]
  | cons f flowLogs ih => simp [addFlowLogs, ih]

end Inventory

open Inventory

/-! ### Steps that account for what they do -/

namespace StoreM

/-- The resources after a step are those before, changed as its result says. -/
def Accounts (redo : α → Inventory → Inventory) (x : StoreM α) : Prop :=
  ∀ s, (x.after s).inventory = redo (x.result s) s.inventory

namespace Accounts

/-- **What each step accounts for, all of them together account for**, one after the other. -/
theorem mapM {redo : β → Inventory → Inventory} {f : α → StoreM β}
    (hf : ∀ a, Accounts redo (f a)) (as : List α) :
    Accounts (changeEach redo) (as.mapM f) := by
  induction as with
  | nil => exact fun s ↦ rfl
  | cons a as ih =>
    intro s
    rw [after_mapM_cons, result_mapM_cons, changeEach_cons, ih, hf a]

end Accounts

end StoreM

open StoreM

/-! ### Calls -/

namespace Store

/-- **A call accounts for what it does.** -/
theorem accounts_attempt {call : Call} {act : Store → Option (α × Store)}
    {redo : α → Inventory → Inventory}
    (hact : ∀ s a t, act s = some (a, t) → t.inventory = redo a s.inventory) :
    Accounts (changeIfOk redo) (attempt call act) := by
  intro s
  rcases hf : s.fault? call with - | f
  · rcases ha : act s with - | ⟨a, t⟩
    · rw [result_attempt_of_not_act hf ha, after_attempt_of_not_act hf ha]
      rfl
    · rw [result_attempt_of_act hf ha, after_attempt_of_act hf ha]
      exact hact s a t ha
  · rw [result_attempt_of_fault hf, after_attempt_of_fault hf]
    rfl

theorem accounts_deleteRule (r : Rule) :
    Accounts (changeIfOk fun _ ↦ dropRule r) (deleteRule r.id) :=
  accounts_attempt fun s a t h ↦ by
    obtain ⟨rules, hrules, h⟩ := Option.bind_eq_some_iff.mp h
    cases h
    rw [eq_of_dropFirst? hrules]
    rfl

theorem accounts_createRules (groupId : String) (templates : List RuleTemplate) :
    Accounts (changeIfOk addRules) (createRules groupId templates) :=
  accounts_attempt fun s a t h ↦ by
    cases h
    rfl

theorem accounts_deleteGroup (g : Group) :
    Accounts (changeIfOk fun _ ↦ dropGroup g) (deleteGroup g.id) :=
  accounts_attempt fun s a t h ↦ by
    obtain ⟨groups, hgroups, h⟩ := Option.bind_eq_some_iff.mp h
    cases h
    rw [eq_of_dropFirst? hgroups]
    rfl

/-- The flow log that is told has the id of the one that was switched. -/
theorem accounts_updateFlowLog (id : String) (adminState : Bool) :
    Accounts (changeIfOk (switchFlowLog adminState)) (updateFlowLog id adminState) :=
  accounts_attempt fun s a t h ↦ by
    obtain ⟨⟨changed, flowLogs⟩, hchange, h⟩ := Option.bind_eq_some_iff.mp h
    cases h
    obtain ⟨⟨f, hf, rfl⟩, rfl⟩ := eq_of_changeFirst hchange
    obtain rfl : f.id = id := beq_iff_eq.mp hf
    rfl

theorem accounts_deleteFlowLog (f : FlowLog) :
    Accounts (changeIfOk fun _ ↦ dropFlowLog f) (deleteFlowLog f.id) :=
  accounts_attempt fun s a t h ↦ by
    obtain ⟨flowLogs, hflowLogs, h⟩ := Option.bind_eq_some_iff.mp h
    cases h
    rw [eq_of_dropFirst? hflowLogs]
    rfl

theorem accounts_createFlowLog (resourceType resourceId : String) (template : FlowLogTemplate) :
    Accounts (changeIfOk fun f ↦ addFlowLogs [f])
      (createFlowLog resourceType resourceId template) :=
  accounts_attempt fun s a t h ↦ by
    cases h
    rfl

end Store

end NetWarden
