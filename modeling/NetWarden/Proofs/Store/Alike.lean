import NetWarden.Policy.Kind
import NetWarden.Proofs.Store.Effects

/-!
# What calls look at, and what they change

For each kind of resources two parts of an inventory are named: what policies of the kind look at
(`ResourceKind.reads`) and what they leave as it is (`ResourceKind.leaves`). They are not each
other's complement. A group goes with its rules, which no policy of groups looks at, and ports are
looked at and never changed.

Two stores are *alike* for a kind if they agree on what it looks at, on the faults, and on the ids
still to come (`Store.Alike`). The ids of failed calls may be looked at through a function: with
`id` they must be the same, and with a constant function they do not count. How far the two have
come in their supplies may differ, but the distance stays.

`StoreM.Agree` is the judgement about two runs: from alike stores two steps give the same, and leave
alike stores. It goes from step to step as a run does (`Agree.bind`, `Agree.mapM`), so all that is
to be shown of calls is that **a call that acts alike on alike stores agrees with itself**
(`Store.agree_attempt`).
-/

namespace NetWarden

open ResourceKind StoreM

variable {α β γ δ : Type}

namespace ResourceKind

/-- What policies of a kind look at. -/
def reads : ResourceKind → Inventory → Inventory
  | .rule, i => { rules := i.rules }
  | .group, i => { groups := i.groups, ports := i.ports }
  | .flowLog, i => { flowLogs := i.flowLogs }
  | .port, i => { ports := i.ports }

/-- What policies of a kind leave as it is. -/
def leaves : ResourceKind → Inventory → Inventory
  | .rule, i => { i with rules := [] }
  | .group, i => { i with groups := [], rules := [] }
  | .flowLog, i => { i with flowLogs := [] }
  | .port, i => i

section

variable {i j : Inventory}

theorem reads_rule_eq_iff : rule.reads j = rule.reads i ↔ j.rules = i.rules := by
  simp [reads]

theorem reads_group_eq_iff :
    group.reads j = group.reads i ↔ j.groups = i.groups ∧ j.ports = i.ports := by
  simp [reads]

theorem reads_flowLog_eq_iff : flowLog.reads j = flowLog.reads i ↔ j.flowLogs = i.flowLogs := by
  simp [reads]

theorem reads_port_eq_iff : port.reads j = port.reads i ↔ j.ports = i.ports := by
  simp [reads]

end

/-- **What policies of one kind leave as it is includes all that those of another look at**, where
one of the kinds is that of flow logs or of ports. It does not where policies of groups meet those
of rules: a group goes with its rules. -/
theorem reads_eq_of_leaves_eq {k l : ResourceKind} (hne : k ≠ l)
    (hfree : k ∈ [.flowLog, .port] ∨ l ∈ [.flowLog, .port]) {i j : Inventory}
    (h : k.leaves i = k.leaves j) : l.reads i = l.reads j := by
  cases i
  cases j
  cases k <;> cases l <;> simp_all [reads, leaves]

end ResourceKind

/-- A failure with the id of the call seen through a function. -/
def TransportError.relabel (f : String → String) (e : TransportError) : TransportError :=
  { e with requestId := f e.requestId }

/-! ### Alike stores -/

namespace Store

/-- The same faults, and the same ids to come, of failed calls as a function sees them. -/
structure SameProspects (f : String → String) (s t : Store) : Prop where
  /-- The faults of every operation and key. -/
  faults : ∀ op key, t.faultAt op key = s.faultAt op key
  /-- The ids of resources to come. -/
  resource : ∀ k, t.supply.resource (t.created + k + 1) = s.supply.resource (s.created + k + 1)
  /-- The ids of failed calls to come, as they are seen. -/
  request : ∀ k,
    f (t.supply.request (t.failures + k + 1)) = f (s.supply.request (s.failures + k + 1))

/-- Two stores that policies of a kind cannot tell apart. The second has taken `n` more ids for
resources than the first, and `m` more for failed calls. -/
structure Alike (f : String → String) (kind : ResourceKind) (n m : Int) (s t : Store) : Prop
    extends SameProspects f s t where
  /-- What policies of the kind look at. -/
  reads : kind.reads t.inventory = kind.reads s.inventory
  /-- The ids of resources that are taken. -/
  created : (t.created : Int) = s.created + n
  /-- The ids of failed calls that are taken. -/
  failures : (t.failures : Int) = s.failures + m

namespace SameProspects

variable {f : String → String} {s t : Store}

theorem fault?_eq (h : s.SameProspects f t) (c : Call) : t.fault? c = s.fault? c := by
  rw [fault?, fault?, h.faults, h.faults]

/-- Where no ids of resources are taken, and those of failed calls do not count, the prospects are
the same. -/
theorem of_sameSetting (h : s.SameSetting t) (hcreated : t.created = s.created)
    (hf : ∀ x y, f x = f y) : s.SameProspects f t where
  faults op key := by rw [faultAt, faultAt, h.faults]
  resource k := by rw [h.supply, hcreated]
  request k := hf _ _

/-- Where the same prospects are, so are the distances. -/
theorem alike (h : s.SameProspects f t) {kind : ResourceKind}
    (hreads : kind.reads t.inventory = kind.reads s.inventory) :
    s.Alike f kind (t.created - s.created) (t.failures - s.failures) t :=
  ⟨h, hreads, by omega, by omega⟩

end SameProspects

namespace Alike

variable {f : String → String} {kind : ResourceKind} {n m : Int} {s t : Store}

/-- A call that fails is counted in both. -/
theorem refuse (h : s.Alike f kind n m t) (log log' : List CallRecord) :
    Alike f kind n m { s with failures := s.failures + 1, log }
      { t with failures := t.failures + 1, log := log' } where
  faults := h.faults
  resource := h.resource
  request k := by
    have hnext := h.request (1 + k)
    rwa [← Nat.add_assoc, ← Nat.add_assoc] at hnext
  reads := h.reads
  created := h.created
  failures := by
    have := h.failures
    push_cast
    omega

/-- What a call puts down makes no difference. -/
theorem answer (h : s.Alike f kind n m t) (log log' : List CallRecord) :
    Alike f kind n m { s with log } { t with log := log' } :=
  ⟨⟨h.faults, h.resource, h.request⟩, h.reads, h.created, h.failures⟩

/-- The same change is made of the resources. -/
theorem update (h : s.Alike f kind n m t) {change : Inventory → Inventory}
    (hreads : kind.reads (change t.inventory) = kind.reads (change s.inventory)) :
    (s.update change).Alike f kind n m (t.update change) :=
  ⟨⟨h.faults, h.resource, h.request⟩, hreads, h.created, h.failures⟩

/-- As many ids of resources are taken. -/
theorem take (h : s.Alike f kind n m t) (count : Nat) :
    Alike f kind n m { s with created := s.created + count }
      { t with created := t.created + count } where
  faults := h.faults
  resource k := by
    have hnext := h.resource (count + k)
    rwa [← Nat.add_assoc, ← Nat.add_assoc] at hnext
  request := h.request
  reads := h.reads
  created := by
    have := h.created
    push_cast
    omega
  failures := h.failures

end Alike

end Store

/-! ### Two runs -/

namespace StoreM

/-- From alike stores two steps give the same, as `g` sees it, and leave alike stores. -/
def Agree (f : String → String) (kind : ResourceKind) (g : α → β) (x y : StoreM α) : Prop :=
  ∀ n m s t, Store.Alike f kind n m s t →
    g (y.result t) = g (x.result s) ∧ (x.after s).Alike f kind n m (y.after t)

namespace Agree

variable {f : String → String} {kind : ResourceKind} {g : α → β} {h : γ → δ} {x y : StoreM α}
  {u v : α → StoreM γ}

theorem pure {a b : α} (hab : g b = g a) : Agree f kind g (Pure.pure a) (Pure.pure b) :=
  fun _ _ _ _ hst ↦ ⟨hab, hst⟩

/-- **What comes next may depend on what was seen**, and on nothing else of what was given. -/
theorem bind_of_result (hx : Agree f kind g x y)
    (hu : ∀ s a b, x.result s = a → g b = g a → Agree f kind h (u a) (v b)) :
    Agree f kind h (x >>= u) (y >>= v) := by
  intro n m s t hst
  obtain ⟨hresult, hafter⟩ := hx n m s t hst
  exact hu s _ _ rfl hresult n m _ _ hafter

theorem bind (hx : Agree f kind g x y) (hu : ∀ a b, g b = g a → Agree f kind h (u a) (v b)) :
    Agree f kind h (x >>= u) (y >>= v) :=
  hx.bind_of_result fun _ a b _ ↦ hu a b

/-- What is made of what was given makes no calls. -/
theorem and_pure (hx : Agree f kind g x y) {make make' : α → γ}
    (hmake : ∀ a b, g b = g a → h (make' b) = h (make a)) :
    Agree f kind h (x >>= fun a ↦ Pure.pure (make a)) (y >>= fun b ↦ Pure.pure (make' b)) :=
  hx.bind fun a b hab ↦ pure (hmake a b hab)

/-- **Steps that agree one by one agree all together.** -/
theorem mapM {u v : γ → StoreM α} (cs : List γ) (hu : ∀ c ∈ cs, Agree f kind g (u c) (v c)) :
    Agree f kind (List.map g) (cs.mapM u) (cs.mapM v) := by
  induction cs with
  | nil => exact pure rfl
  | cons c cs ih =>
    intro n m s t hst
    obtain ⟨hfirst, hnext⟩ := hu c List.mem_cons_self n m s t hst
    obtain ⟨hrest, hafter⟩ := ih (fun d hd ↦ hu d (List.mem_cons_of_mem _ hd)) n m _ _ hnext
    rw [result_mapM_cons, result_mapM_cons, after_mapM_cons, after_mapM_cons, List.map_cons,
      List.map_cons, hfirst, hrest]
    exact ⟨rfl, hafter⟩

end Agree

end StoreM

/-! ### Calls -/

namespace Store

variable {f : String → String} {kind : ResourceKind}

/-- What the actions of calls give on two stores is nothing on both, or the same with stores that
are alike. -/
def AlikeActs (f : String → String) (kind : ResourceKind) (n m : Int) :
    Option (α × Store) → Option (α × Store) → Prop :=
  Option.Rel fun p q ↦ q.1 = p.1 ∧ p.2.Alike f kind n m q.2

theorem AlikeActs.some {n m : Int} {a : α} {s t : Store} (h : s.Alike f kind n m t) :
    AlikeActs f kind n m (some (a, s)) (some (a, t)) :=
  Option.Rel.some ⟨rfl, h⟩

/-- **A call that acts alike on alike stores agrees with itself**: it meets the same fault, if any,
and where it fails the failure is seen as the same. -/
theorem agree_attempt (call : Call) {act : Store → Option (α × Store)}
    (hact : ∀ n m s t, Alike f kind n m s t → AlikeActs f kind n m (act s) (act t)) :
    Agree f kind (Except.mapError (TransportError.relabel f)) (attempt call act)
      (attempt call act) := by
  intro n m s t hst
  -- refused calls take the next request id, and the two stores give ids that are seen as one
  have hrefuse : ∀ (status : StatusCode) (reason : String),
      Except.mapError (TransportError.relabel f) (refuse (α := α) t call status reason).1 =
        Except.mapError (TransportError.relabel f) (refuse (α := α) s call status reason).1 ∧
      Alike f kind n m (refuse (α := α) s call status reason).2
        (refuse (α := α) t call status reason).2 := by
    intro status reason
    refine ⟨?_, hst.refuse _ _⟩
    exact congrArg (fun r ↦ Except.error (TransportError.mk status r reason)) (hst.request 0)
  show Except.mapError _ (attempt call act t).1 = Except.mapError _ (attempt call act s).1 ∧
    Alike f kind n m (attempt call act s).2 (attempt call act t).2
  -- the same fault stands in the way in both, or none in either
  rw [attempt, attempt, hst.fault?_eq]
  rcases s.fault? call with - | fault
  · have hacts := hact n m s t hst
    rcases hs : act s with - | ⟨a, s'⟩ <;> rcases ht : act t with - | ⟨b, t'⟩ <;>
      rw [hs, ht] at hacts
    · exact hrefuse _ _
    · cases hacts
    · cases hacts
    · obtain ⟨hab, hafter⟩ := Option.rel_some_some.mp hacts
      exact ⟨congrArg (fun c ↦ Except.ok c) hab, hafter.answer _ _⟩
  · exact hrefuse _ _

/-- A call that only looks, at what policies of the kind look at. -/
theorem agree_look (call : Call) {look : Store → α}
    (hlook : ∀ s t : Store, kind.reads t.inventory = kind.reads s.inventory → look t = look s) :
    Agree f kind (Except.mapError (TransportError.relabel f))
      (attempt call fun s ↦ some (look s, s)) (attempt call fun s ↦ some (look s, s)) :=
  agree_attempt call fun _ _ s t hst ↦ Option.Rel.some ⟨hlook s t hst.reads, hst⟩

/-! ### Calls of policies of rules -/

theorem agree_listRules (query : RuleQuery) :
    Agree f .rule (Except.mapError (TransportError.relabel f)) (listRules query)
      (listRules query) :=
  agree_look _ fun _ _ h ↦ congrArg (List.filter query.selects) (reads_rule_eq_iff.mp h)

theorem agree_deleteRule (id : String) :
    Agree f .rule (Except.mapError (TransportError.relabel f)) (deleteRule id)
      (deleteRule id) := by
  refine agree_attempt _ fun n m s t hst ↦ ?_
  have hrules := reads_rule_eq_iff.mp hst.reads
  rw [hrules]
  rcases dropFirst? (fun (r : Rule) ↦ r.id == id) s.inventory.rules with - | rules
  · exact .none
  · exact .some (hst.update (reads_rule_eq_iff.mpr rfl))

/-- New rules have the same ids, as the ids to come are the same. -/
theorem agree_createRules (groupId : String) (templates : List RuleTemplate) :
    Agree f .rule (Except.mapError (TransportError.relabel f)) (createRules groupId templates)
      (createRules groupId templates) := by
  refine agree_attempt _ fun n m s t hst ↦ ?_
  have hrules := reads_rule_eq_iff.mp hst.reads
  have hids : t.withIds templates = s.withIds templates := by
    rw [withIds, withIds]
    simp only [hst.resource]
  rw [hids]
  have hadded (added : List Rule) := congrArg (· ++ added) hrules
  exact .some ((hst.update (reads_rule_eq_iff.mpr (hadded _))).take templates.length)

/-! ### Calls of policies of groups -/

theorem agree_listGroups :
    Agree f .group (Except.mapError (TransportError.relabel f)) listGroups listGroups :=
  agree_look _ fun _ _ h ↦ (reads_group_eq_iff.mp h).1

theorem agree_listPorts (groupIds : List String) :
    Agree f .group (Except.mapError (TransportError.relabel f)) (listPorts groupIds)
      (listPorts groupIds) :=
  agree_look _ fun _ _ h ↦ congrArg (List.filter _) (reads_group_eq_iff.mp h).2

/-- The rules that go with a group may be others, but they are not looked at. -/
theorem agree_deleteGroup (id : String) :
    Agree f .group (Except.mapError (TransportError.relabel f)) (deleteGroup id)
      (deleteGroup id) := by
  refine agree_attempt _ fun n m s t hst ↦ ?_
  obtain ⟨hgroups, hports⟩ := reads_group_eq_iff.mp hst.reads
  rw [hgroups]
  rcases dropFirst? (fun (g : Group) ↦ g.id == id) s.inventory.groups with - | groups
  · exact .none
  · exact .some (hst.update (reads_group_eq_iff.mpr ⟨rfl, hports⟩))

/-! ### Calls of policies of flow logs and of ports -/

theorem agree_listFlowLogs :
    Agree f .flowLog (Except.mapError (TransportError.relabel f)) listFlowLogs listFlowLogs :=
  agree_look _ fun _ _ h ↦ reads_flowLog_eq_iff.mp h

theorem agree_updateFlowLog (id : String) (adminState : Bool) :
    Agree f .flowLog (Except.mapError (TransportError.relabel f)) (updateFlowLog id adminState)
      (updateFlowLog id adminState) := by
  refine agree_attempt _ fun n m s t hst ↦ ?_
  have hflowLogs := reads_flowLog_eq_iff.mp hst.reads
  rw [hflowLogs]
  rcases changeFirst (fun (f : FlowLog) ↦ f.id == id) ({ · with adminState })
    s.inventory.flowLogs with - | changed
  · exact .none
  · exact .some (hst.update (reads_flowLog_eq_iff.mpr rfl))

theorem agree_deleteFlowLog (id : String) :
    Agree f .flowLog (Except.mapError (TransportError.relabel f)) (deleteFlowLog id)
      (deleteFlowLog id) := by
  refine agree_attempt _ fun n m s t hst ↦ ?_
  have hflowLogs := reads_flowLog_eq_iff.mp hst.reads
  rw [hflowLogs]
  rcases dropFirst? (fun (f : FlowLog) ↦ f.id == id) s.inventory.flowLogs with - | flowLogs
  · exact .none
  · exact .some (hst.update (reads_flowLog_eq_iff.mpr rfl))

theorem agree_createFlowLog (resourceType resourceId : String) (template : FlowLogTemplate) :
    Agree f .flowLog (Except.mapError (TransportError.relabel f))
      (createFlowLog resourceType resourceId template)
      (createFlowLog resourceType resourceId template) := by
  refine agree_attempt _ fun n m s t hst ↦ ?_
  have hflowLogs := reads_flowLog_eq_iff.mp hst.reads
  have hid : t.supply.resource (t.created + 1) = s.supply.resource (s.created + 1) :=
    hst.resource 0
  rw [hid]
  have hadded (added : List FlowLog) := congrArg (· ++ added) hflowLogs
  exact .some ((hst.update (reads_flowLog_eq_iff.mpr (hadded _))).take 1)

theorem agree_listAllPorts :
    Agree f .port (Except.mapError (TransportError.relabel f)) listAllPorts listAllPorts :=
  agree_look _ fun _ _ h ↦ reads_port_eq_iff.mp h

end Store

end NetWarden
