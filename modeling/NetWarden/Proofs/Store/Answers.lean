import NetWarden.Proofs.Bulk.NewFlowLogs

/-!
# What a call comes to

All calls of a store as one family: what each is answered (`Call.Answer`), how it is made
(`Call.make`), when there is nothing for it to change (`Call.IsMissing`), and what it does to the
resources when it succeeds (`Call.Does`). The last two are put down without the operations: deleting
takes one record out of a list, and with a group just its own rules; switching a flow log changes
nothing else of it; creating only adds at the end.

**A call comes to one of three ends** (`Call.ends_make`): a fault holds it, what it is to change is
not there, or it does what it is for. The faults are the same afterwards, and where the call fails
so are the resources. Everything about calls follows from this, so no proof after it looks at what a
single operation is.
-/

namespace NetWarden

open Store StoreM

variable {α : Type}

/-! ### The first of its kind -/

/-- A list, cut where something holds for the first time. -/
structure IsCutAtFirst (p : α → Prop) (as before : List α) (a : α) (after : List α) : Prop where
  /-- The parts make up the list. -/
  eq : as = before ++ a :: after
  /-- It holds there. -/
  holds : p a
  /-- It does not hold before. -/
  first : ∀ b ∈ before, ¬ p b

section

variable {test : α → Bool} {p : α → Prop} {as bs : List α}

/-- What is dropped is the first element of its kind, and nothing else. -/
theorem exists_cut_of_dropFirst? (hp : ∀ a, test a = true ↔ p a)
    (h : dropFirst? test as = some bs) :
    ∃ before a after, IsCutAtFirst p as before a after ∧ bs = before ++ after := by
  rw [dropFirst?] at h
  split at h
  · rename_i hany
    cases h
    obtain ⟨c, hc, htest⟩ := List.any_eq_true.mp hany
    obtain ⟨a, before, after, hbefore, ha, has, herase⟩ := List.exists_of_eraseP hc htest
    exact ⟨before, a, after, ⟨has, (hp a).mp ha, fun b hb hpb ↦ hbefore b hb ((hp b).mpr hpb)⟩,
      herase⟩
  · cases h

theorem dropFirst?_eq_none_iff (hp : ∀ a, test a = true ↔ p a) :
    dropFirst? test as = none ↔ ∀ a ∈ as, ¬ p a := by
  simp only [dropFirst?, ite_eq_right_iff, reduceCtorEq, imp_false, List.any_eq_true, hp,
    not_exists, not_and]

variable {change : α → α} {b : α}

/-- What is changed is the first element of its kind, and nothing else. -/
theorem exists_cut_of_changeFirst (hp : ∀ a, test a = true ↔ p a)
    (h : changeFirst test change as = some (b, bs)) :
    ∃ before a after, IsCutAtFirst p as before a after ∧ b = change a ∧
      bs = before ++ b :: after := by
  induction as generalizing bs with
  | nil => cases h
  | cons a as ih =>
    rw [changeFirst] at h
    split at h
    · rename_i ha
      -- the first passes, and nothing stands before it
      cases h
      exact ⟨[], a, as, ⟨rfl, (hp a).mp ha, fun _ hb ↦ absurd hb List.not_mem_nil⟩, rfl, rfl⟩
    · rename_i ha
      -- the first does not pass, so it stands before the cut of the rest
      obtain ⟨⟨c, cs⟩, hc, heq⟩ := Option.map_eq_some_iff.mp h
      obtain ⟨rfl, rfl⟩ := Prod.mk.inj heq
      obtain ⟨before, d, after, ⟨has, hd, hfirst⟩, hb, hcs⟩ := ih hc
      refine ⟨a :: before, d, after, ⟨congrArg (a :: ·) has, hd, ?_⟩, hb, congrArg (a :: ·) hcs⟩
      exact List.forall_mem_cons.mpr ⟨fun hpa ↦ ha ((hp a).mpr hpa), hfirst⟩

theorem changeFirst_eq_none_iff (hp : ∀ a, test a = true ↔ p a) :
    changeFirst test change as = none ↔ ∀ a ∈ as, ¬ p a := by
  induction as with
  | nil => simp [changeFirst]
  | cons a as ih =>
    rw [changeFirst, List.forall_mem_cons, ← ih, ← hp]
    split
    · simp_all
    · simp_all

end

/-! ### Calls as one family -/

namespace Call

/-- What the store answers a call that succeeds. -/
abbrev Answer : Call → Type
  | .listRules _ => List Rule
  | .deleteRule _ => Unit
  | .createRules .. => List Rule
  | .listGroups => List Group
  | .deleteGroup _ => Unit
  | .listPorts _ => List NetworkPort
  | .listAllPorts => List NetworkPort
  | .listFlowLogs => List FlowLog
  | .updateFlowLog .. => FlowLog
  | .deleteFlowLog _ => Unit
  | .createFlowLog .. => FlowLog

/-- Makes a call. -/
def make : (c : Call) → Attempt c.Answer
  | .listRules query => Store.listRules query
  | .deleteRule id => Store.deleteRule id
  | .createRules groupId templates => Store.createRules groupId templates
  | .listGroups => Store.listGroups
  | .deleteGroup id => Store.deleteGroup id
  | .listPorts groupIds => Store.listPorts groupIds
  | .listAllPorts => Store.listAllPorts
  | .listFlowLogs => Store.listFlowLogs
  | .updateFlowLog id adminState => Store.updateFlowLog id adminState
  | .deleteFlowLog id => Store.deleteFlowLog id
  | .createFlowLog resourceType resourceId template =>
    Store.createFlowLog resourceType resourceId template

/-- There is no record with the id of what a call is to delete or to switch. Other calls miss
nothing. -/
def IsMissing (i : Inventory) : Call → Prop
  | .deleteRule id => ∀ r ∈ i.rules, r.id ≠ id
  | .deleteGroup id => ∀ g ∈ i.groups, g.id ≠ id
  | .updateFlowLog id _ => ∀ f ∈ i.flowLogs, f.id ≠ id
  | .deleteFlowLog id => ∀ f ∈ i.flowLogs, f.id ≠ id
  | _ => False

/-- **What a call that succeeds does to the resources**, and what it answers. -/
def Does (i : Inventory) : (c : Call) → c.Answer → Inventory → Prop
  | .listRules query, rules, j => rules = i.rules.filter query.selects ∧ j = i
  | .listGroups, groups, j => groups = i.groups ∧ j = i
  | .listPorts groupIds, ports, j =>
    ports = i.ports.filter (fun p ↦ p.groupIds.any groupIds.contains) ∧ j = i
  | .listAllPorts, ports, j => ports = i.ports ∧ j = i
  | .listFlowLogs, flowLogs, j => flowLogs = i.flowLogs ∧ j = i
  | .deleteRule id, (), j => ∃ before r after,
    IsCutAtFirst (fun r ↦ r.id = id) i.rules before r after ∧
      j = { i with rules := before ++ after }
  | .deleteGroup id, (), j => ∃ before g after,
    IsCutAtFirst (fun g ↦ g.id = id) i.groups before g after ∧
      j = { i with groups := before ++ after, rules := i.rules.filter fun r ↦ r.groupId != id }
  | .deleteFlowLog id, (), j => ∃ before f after,
    IsCutAtFirst (fun f ↦ f.id = id) i.flowLogs before f after ∧
      j = { i with flowLogs := before ++ after }
  | .updateFlowLog id adminState, changed, j => ∃ before f after,
    IsCutAtFirst (fun f ↦ f.id = id) i.flowLogs before f after ∧
      changed = { f with adminState } ∧ j = { i with flowLogs := before ++ changed :: after }
  | .createRules groupId templates, rules, j =>
    List.Forall₂ (fun t r ↦ t.Makes groupId r) templates rules ∧
      j = { i with rules := i.rules ++ rules }
  | .createFlowLog resourceType resourceId template, f, j =>
    template.Makes resourceType resourceId f ∧ j = { i with flowLogs := i.flowLogs ++ [f] }

/-- **The ends that a call comes to.** -/
inductive Ends (s : Store) (c : Call) : Except TransportError c.Answer → Store → Prop
  /-- A fault holds it. -/
  | held {f : Fault} {e : TransportError} {t : Store} : s.fault? c = some f →
    e = ⟨f.status, s.supply.request (s.failures + 1), f.reason⟩ → SameSetting s t →
      t.inventory = s.inventory → Ends s c (.error e) t
  /-- What it is to change is not there. -/
  | missed {e : TransportError} {t : Store} : s.fault? c = none → c.IsMissing s.inventory →
    e = ⟨404, s.supply.request (s.failures + 1), c.notFound⟩ → SameSetting s t →
      t.inventory = s.inventory → Ends s c (.error e) t
  /-- It succeeds. -/
  | succeeded {a : c.Answer} {t : Store} : s.fault? c = none → ¬ c.IsMissing s.inventory →
    SameSetting s t → c.Does s.inventory a t.inventory → Ends s c (.ok a) t

section

variable {β : Type}

/-- **A call looks for something, and changes what it finds.** What it does then is all that has to
be shown of a call. -/
theorem ends_of_attempt (c : Call) (find : Store → Option β) (answer : β → c.Answer)
    (change : β → Inventory → Inventory) (created : Store → Nat)
    (hmake : c.make = Store.attempt c fun s ↦ (find s).bind fun b ↦
      some (answer b, { s.update (change b) with created := created s }))
    (hmissing : ∀ s, find s = none ↔ c.IsMissing s.inventory)
    (hdoes : ∀ s b, find s = some b → c.Does s.inventory (answer b) (change b s.inventory))
    (s : Store) : Ends s c (c.make.result s) (c.make.after s) := by
  rw [hmake]
  rcases hfault : s.fault? c with - | f
  · rcases hfind : find s with - | b
    · -- no fault, and nothing is found
      have hnone : (find s).bind (fun b ↦
          some (answer b, { s.update (change b) with created := created s })) = none := by
        rw [hfind]
        rfl
      rw [result_attempt_of_not_act hfault hnone, after_attempt_of_not_act hfault hnone]
      exact .missed hfault ((hmissing s).mp hfind) rfl ⟨rfl, rfl⟩ rfl
    · -- no fault, and what is found is changed
      have hsome : (find s).bind (fun b ↦
          some (answer b, { s.update (change b) with created := created s })) =
          some (answer b, { s.update (change b) with created := created s }) := by
        rw [hfind]
        rfl
      rw [result_attempt_of_act hfault hsome, after_attempt_of_act hfault hsome]
      refine .succeeded hfault (fun hmiss ↦ ?_) ⟨rfl, rfl⟩ (hdoes s b hfind)
      rw [(hmissing s).mpr hmiss] at hfind
      cases hfind
  · -- a fault comes before any look at the resources
    rw [result_attempt_of_fault hfault, after_attempt_of_fault hfault]
    exact .held hfault rfl ⟨rfl, rfl⟩ rfl

/-- A listing looks at the resources and leaves them as they are. -/
theorem ends_of_listing (c : Call) (answer : Inventory → c.Answer)
    (hmake : c.make = Store.attempt c fun s ↦ some (answer s.inventory, s))
    (hmissing : ∀ i, ¬ c.IsMissing i) (hdoes : ∀ i, c.Does i (answer i) i) (s : Store) :
    Ends s c (c.make.result s) (c.make.after s) :=
  ends_of_attempt c (fun s ↦ some s.inventory) answer (fun _ i ↦ i) Store.created hmake
    (fun s ↦ ⟨nofun, fun h ↦ absurd h (hmissing s.inventory)⟩)
    (fun s _ h ↦ Option.some.inj h ▸ hdoes s.inventory) s

/-- **Every call comes to one of its ends.** -/
theorem ends_make (c : Call) (s : Store) : Ends s c (c.make.result s) (c.make.after s) := by
  cases c with
  -- listings change nothing and miss nothing, so each is its answer
  | listRules query =>
    exact ends_of_listing (.listRules query) (fun i ↦ i.rules.filter query.selects) rfl
      (fun _ h ↦ h) (fun _ ↦ ⟨rfl, rfl⟩) s
  | listGroups =>
    exact ends_of_listing .listGroups Inventory.groups rfl (fun _ h ↦ h) (fun _ ↦ ⟨rfl, rfl⟩) s
  | listPorts groupIds =>
    exact ends_of_listing (.listPorts groupIds)
      (fun i ↦ i.ports.filter fun p ↦ p.groupIds.any groupIds.contains) rfl (fun _ h ↦ h)
      (fun _ ↦ ⟨rfl, rfl⟩) s
  | listAllPorts =>
    exact ends_of_listing .listAllPorts Inventory.ports rfl (fun _ h ↦ h) (fun _ ↦ ⟨rfl, rfl⟩) s
  | listFlowLogs =>
    exact ends_of_listing .listFlowLogs Inventory.flowLogs rfl (fun _ h ↦ h) (fun _ ↦ ⟨rfl, rfl⟩) s
  -- deletions look for the first record with the id and cut it out; a group takes its rules along
  | deleteRule id =>
    refine ends_of_attempt (.deleteRule id)
      (fun s ↦ dropFirst? (fun r ↦ r.id == id) s.inventory.rules) (fun _ ↦ ())
      (fun rules i ↦ { i with rules }) Store.created rfl
      (fun _ ↦ dropFirst?_eq_none_iff fun _ ↦ beq_iff_eq) (fun s rules h ↦ ?_) s
    obtain ⟨before, r, after, hcut, rfl⟩ := exists_cut_of_dropFirst? (fun _ ↦ beq_iff_eq) h
    exact ⟨before, r, after, hcut, rfl⟩
  | deleteGroup id =>
    refine ends_of_attempt (.deleteGroup id)
      (fun s ↦ dropFirst? (fun g ↦ g.id == id) s.inventory.groups) (fun _ ↦ ())
      (fun groups i ↦ { i with groups, rules := i.rules.filter fun r ↦ r.groupId != id })
      Store.created rfl (fun _ ↦ dropFirst?_eq_none_iff fun _ ↦ beq_iff_eq) (fun s groups h ↦ ?_) s
    obtain ⟨before, g, after, hcut, rfl⟩ := exists_cut_of_dropFirst? (fun _ ↦ beq_iff_eq) h
    exact ⟨before, g, after, hcut, rfl⟩
  | deleteFlowLog id =>
    refine ends_of_attempt (.deleteFlowLog id)
      (fun s ↦ dropFirst? (fun f ↦ f.id == id) s.inventory.flowLogs) (fun _ ↦ ())
      (fun flowLogs i ↦ { i with flowLogs }) Store.created rfl
      (fun _ ↦ dropFirst?_eq_none_iff fun _ ↦ beq_iff_eq) (fun s flowLogs h ↦ ?_) s
    obtain ⟨before, f, after, hcut, rfl⟩ := exists_cut_of_dropFirst? (fun _ ↦ beq_iff_eq) h
    exact ⟨before, f, after, hcut, rfl⟩
  -- a switch cuts at the first record too, and puts the changed one in its place
  | updateFlowLog id adminState =>
    refine ends_of_attempt (.updateFlowLog id adminState)
      (fun s ↦ changeFirst (fun f ↦ f.id == id) ({ · with adminState }) s.inventory.flowLogs)
      Prod.fst (fun found i ↦ { i with flowLogs := found.2 }) Store.created rfl
      (fun _ ↦ changeFirst_eq_none_iff fun _ ↦ beq_iff_eq) (fun s found h ↦ ?_) s
    obtain ⟨before, f, after, hcut, hchanged, hall⟩ :=
      exists_cut_of_changeFirst (fun _ ↦ beq_iff_eq) h
    refine ⟨before, f, after, hcut, hchanged, ?_⟩
    rw [hall]
  -- creations miss nothing either: what they make, with the next ids, is put at the end
  | createRules groupId templates =>
    refine ends_of_attempt (.createRules groupId templates)
      (fun s ↦ some ((s.withIds templates).map fun t ↦ t.2.toRule t.1 groupId)) id
      (fun rules i ↦ { i with rules := i.rules ++ rules })
      (fun s ↦ s.created + templates.length) rfl (fun _ ↦ ⟨nofun, nofun⟩) (fun s rules h ↦ ?_) s
    cases h
    exact ⟨s.forall₂_makes_withIds groupId templates, rfl⟩
  | createFlowLog resourceType resourceId template =>
    refine ends_of_attempt (.createFlowLog resourceType resourceId template)
      (fun s ↦ some
        (template.toFlowLog (s.supply.resource (s.created + 1)) resourceType resourceId))
      id (fun f i ↦ { i with flowLogs := i.flowLogs ++ [f] }) (fun s ↦ s.created + 1) rfl
      (fun _ ↦ ⟨nofun, nofun⟩) (fun s f h ↦ ?_) s
    cases h
    exact ⟨template.makes_toFlowLog _ _ _, rfl⟩

end

namespace Ends

variable {s t : Store} {c : Call} {r : Except TransportError c.Answer}

/-- No call changes the faults or the supply. -/
theorem sameSetting (h : Ends s c r t) : SameSetting s t := by
  cases h with
  | held _ _ h => exact h
  | missed _ _ _ h => exact h
  | succeeded _ _ h => exact h

/-- A fault that is met is told. -/
theorem error_of_fault {f : Fault} (h : Ends s c r t) (hf : s.fault? c = some f) :
    ∃ e, r = .error e ∧ e.status = f.status ∧ e.reason = f.reason := by
  cases h with
  | held hf' he =>
    rw [hf] at hf'
    cases hf'
    subst he
    exact ⟨_, rfl, rfl, rfl⟩
  | missed hnone => exact absurd (hf.symm.trans hnone) nofun
  | succeeded hnone => exact absurd (hf.symm.trans hnone) nofun

/-- Without a fault, what is not there is told. -/
theorem error_of_isMissing (h : Ends s c r t) (hnone : s.fault? c = none)
    (hmissing : c.IsMissing s.inventory) :
    ∃ e, r = .error e ∧ e.status = 404 ∧ e.reason = c.notFound := by
  cases h with
  | held hf => exact absurd (hf.symm.trans hnone) nofun
  | missed _ _ he =>
    subst he
    exact ⟨_, rfl, rfl, rfl⟩
  | succeeded _ hthere => exact absurd hmissing hthere

/-- **A call fails for one of two reasons only.** -/
theorem exists_error_iff (h : Ends s c r t) :
    (∃ e, r = .error e) ↔ (∃ f, s.fault? c = some f) ∨ c.IsMissing s.inventory := by
  constructor
  · rintro ⟨e, rfl⟩
    cases h with
    | held hf => exact .inl ⟨_, hf⟩
    | missed _ hmissing => exact .inr hmissing
  · intro hcause
    rcases hf : s.fault? c with - | f
    · have hmissing : c.IsMissing s.inventory :=
        hcause.resolve_left fun ⟨f, hsome⟩ ↦ absurd (hsome.symm.trans hf) nofun
      obtain ⟨e, he, -⟩ := h.error_of_isMissing hf hmissing
      exact ⟨e, he⟩
    · obtain ⟨e, he, -⟩ := h.error_of_fault hf
      exact ⟨e, he⟩

/-- A call that fails changes no resources. -/
theorem inventory_of_error {e : TransportError} (h : Ends s c (.error e) t) :
    t.inventory = s.inventory := by
  cases h with
  | held _ _ _ h => exact h
  | missed _ _ _ _ h => exact h

/-- A call that succeeds does what it is for. -/
theorem does_of_ok {a : c.Answer} (h : Ends s c (.ok a) t) : c.Does s.inventory a t.inventory := by
  cases h with
  | succeeded _ _ _ h => exact h

end Ends

end Call

end NetWarden
