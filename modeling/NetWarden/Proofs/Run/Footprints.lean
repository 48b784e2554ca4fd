import NetWarden.Proofs.Run.Alike
import NetWarden.Proofs.Run.Integrity

/-!
# What policies look at and what they change

A policy of rules looks at the rules and changes nothing else. A policy of groups looks at groups
and ports; it changes groups, and takes away just the rules of the groups that it deletes. A policy
of flow logs looks at these and changes nothing else, and a policy of ports looks at ports and
changes nothing.

That a policy *looks* at nothing else is about two runs, and is `agree_policy`. That it *changes*
nothing else is read off its report, which tells all that it changed: the report of an action is of
one kind (`Executes.kind_eq`), and replaying it leaves alone what that kind leaves
(`leaves_replay`).

With both, policies of two kinds may change places where one of them is about flow logs or ports
(`swap_policies`). Neither changes what the other looks at, so each gives what it gave; and changes
that reports of the two kinds tell may be made in either order (`PolicyReport.replay_comm`).
-/

namespace NetWarden

open Inventory StoreM

/-! ### What reports tell -/

namespace ActionReport

variable {f : String → String} {r q : ActionReport}

/-- The kind of the resources that an action was done to. -/
def kind : ActionReport → ResourceKind
  | .deleteRules _ => .rule
  | .deleteGroups _ => .group
  | .removeRules _ => .rule
  | .setRules .. => .rule
  | .setFlowLog .. => .flowLog

/-- The groups that an action is told to have deleted. -/
def deletedGroups : ActionReport → List Group
  | .deleteGroups r => r.succeeded
  | _ => []

/-- What failed is not replayed. -/
theorem replay_relabel (r : ActionReport) : (r.relabel f).replay = r.replay := by
  cases r <;> rfl

/-- **Replaying leaves alone what the kind leaves.** -/
theorem leaves_replay (r : ActionReport) (i : Inventory) :
    r.kind.leaves (r.replay i) = r.kind.leaves i := by
  -- each step of a replay changes a part that the kind does not leave
  have hrules : ∀ (b : BulkResult Rule) (i : Inventory),
      ResourceKind.rule.leaves (b.redo dropRule i) = ResourceKind.rule.leaves i :=
    fun b i ↦ part_changeEach dropRule i fun _ _ _ ↦ rfl
  cases r with
  | deleteRules b => exact hrules b i
  | deleteGroups b => exact part_changeEach dropGroup i fun _ _ _ ↦ rfl
  | removeRules b => exact hrules b i
  | setRules added removed => exact hrules removed _
  | setFlowLog change b =>
    show ResourceKind.flowLog.leaves (replay (.setFlowLog change b) i) = _
    rw [replay]
    -- whatever the change is called
    split_ifs
    · exact part_changeEach _ i fun _ _ _ ↦ rfl
    · exact part_changeEach _ i fun _ _ _ ↦ rfl
    · exact part_changeEach _ i fun _ _ _ ↦ rfl
    · rfl
    · rfl

/-- What is told of flow logs may be replayed before or after any change that may be made before or
after each change of flow logs. -/
theorem replay_comm_of_steps (hr : r.kind = .flowLog) (change : Inventory → Inventory)
    (hswitch : ∀ on f i, (change i).switchFlowLog on f = change (i.switchFlowLog on f))
    (hdrop : ∀ f i, (change i).dropFlowLog f = change (i.dropFlowLog f))
    (hadd : ∀ fs i, (change i).addFlowLogs fs = change (i.addFlowLogs fs)) (i : Inventory) :
    r.replay (change i) = change (r.replay i) := by
  cases r with
  | setFlowLog name b =>
    simp only [replay]
    split_ifs
    · exact changeEach_comm _ i fun f _ i ↦ hswitch true f i
    · exact changeEach_comm _ i fun f _ i ↦ hswitch false f i
    · exact changeEach_comm _ i fun f _ i ↦ hdrop f i
    · exact hadd b.succeeded i
    · rfl
  | _ => cases hr

/-- **Changes of flow logs and other changes may be replayed in either order.** -/
theorem replay_comm (hr : r.kind = .flowLog) (hq : q.kind ≠ .flowLog) (i : Inventory) :
    r.replay (q.replay i) = q.replay (r.replay i) := by
  -- what commutes with each step commutes with all of them
  have hredo : ∀ {α : Type} {each : α → Inventory → Inventory} (b : BulkResult α),
      (∀ a i, r.replay (each a i) = each a (r.replay i)) →
      ∀ i, r.replay (b.redo each i) = b.redo each (r.replay i) :=
    fun b heach i ↦ (changeEach_comm _ i fun a _ i ↦ (heach a i).symm).symm
  have hdropRule : ∀ a i, r.replay (dropRule a i) = dropRule a (r.replay i) := fun a ↦
    replay_comm_of_steps hr (dropRule a) (fun _ _ _ ↦ rfl) (fun _ _ ↦ rfl) fun _ _ ↦ rfl
  cases q with
  | deleteRules b => exact hredo b hdropRule i
  | deleteGroups b =>
    exact hredo b (fun g ↦ replay_comm_of_steps hr (dropGroup g) (fun _ _ _ ↦ rfl)
      (fun _ _ ↦ rfl) fun _ _ ↦ rfl) i
  | removeRules b => exact hredo b hdropRule i
  -- first what was added, then what was removed
  | setRules added removed =>
    have hadded := replay_comm_of_steps hr (Inventory.addRules added.succeeded) (fun _ _ _ ↦ rfl)
      (fun _ _ ↦ rfl) (fun _ _ ↦ rfl) i
    exact (hredo removed hdropRule _).trans (congrArg (removed.redo dropRule) hadded)
  | setFlowLog change b => exact absurd rfl hq

/-- What is replayed of groups is that those told are deleted. -/
theorem replay_of_kind_group (hr : r.kind = .group) (i : Inventory) :
    r.replay i = changeEach dropGroup r.deletedGroups i := by
  cases r with
  | deleteGroups b => rfl
  | _ => cases hr

/-- No action is done to ports. -/
theorem kind_ne_port (r : ActionReport) : r.kind ≠ .port := by
  cases r <;> exact ResourceKind.noConfusion

end ActionReport

namespace PolicyReport

variable {f : String → String} {r q : PolicyReport} {k l : ResourceKind}

/-- The groups that a policy is told to have deleted. -/
def deletedGroups (r : PolicyReport) : List Group := r.actions.flatMap ActionReport.deletedGroups

/-- What failed is not replayed. -/
theorem replay_relabel (r : PolicyReport) : (r.relabel f).replay = r.replay := by
  funext i
  rw [replay, replay, relabel, changeEach, changeEach, List.foldl_map]
  simp only [ActionReport.replay_relabel]

/-- **Replaying leaves alone what the kind leaves.** -/
theorem leaves_replay (hr : ∀ a ∈ r.actions, a.kind = k) (i : Inventory) :
    k.leaves (r.replay i) = k.leaves i :=
  part_changeEach ActionReport.replay i fun a ha i ↦ hr a ha ▸ a.leaves_replay i

theorem replay_of_kind_group (hr : ∀ a ∈ r.actions, a.kind = .group) (i : Inventory) :
    r.replay i = changeEach dropGroup r.deletedGroups i := by
  rw [replay, deletedGroups, List.flatMap_def, changeEach_flatten, changeEach, changeEach,
    List.foldl_map]
  exact List.foldl_ext _ _ _ fun i a ha ↦ ActionReport.replay_of_kind_group (hr a ha) i

/-- **Reports of two kinds may be replayed in either order** where one of the kinds is that of flow
logs or of ports. -/
theorem replay_comm (hr : ∀ a ∈ r.actions, a.kind = k) (hq : ∀ a ∈ q.actions, a.kind = l)
    (hne : k ≠ l) (hfree : k ∈ [.flowLog, .port] ∨ l ∈ [.flowLog, .port]) (i : Inventory) :
    r.replay (q.replay i) = q.replay (r.replay i) := by
  -- actions of policies of flow logs, and of policies of another kind
  have hflowLogs : ∀ {r q : PolicyReport}, (∀ a ∈ r.actions, a.kind = .flowLog) →
      (∀ a ∈ q.actions, a.kind ≠ .flowLog) → ∀ i, r.replay (q.replay i) = q.replay (r.replay i) :=
    fun hr hq i ↦ changeEach_comm _ i fun a ha i ↦ (changeEach_comm _ i fun b hb i ↦
      (ActionReport.replay_comm (hr a ha) (hq b hb) i).symm).symm
  have hports : ∀ {r : PolicyReport}, (∀ a ∈ r.actions, a.kind = .port) → r.replay = id := by
    intro r hr
    have hnone : r.actions = [] := List.eq_nil_iff_forall_not_mem.mpr fun a ha ↦
      a.kind_ne_port (hr a ha)
    rw [replay, hnone]
    rfl
  rcases hfree with hk | hl
  · rcases List.mem_pair.mp hk with rfl | rfl
    · exact hflowLogs hr (fun a ha ↦ (hq a ha).trans_ne hne.symm) i
    · rw [hports hr]
      rfl
  · rcases List.mem_pair.mp hl with rfl | rfl
    · exact (hflowLogs hq (fun a ha ↦ (hr a ha).trans_ne hne) i).symm
    · rw [hports hq]
      rfl

end PolicyReport

/-- Of the ids of groups just those of the groups told are taken away, each once. -/
theorem Inventory.map_id_changeEach_dropGroup (gone : List Group) (i : Inventory) :
    (changeEach dropGroup gone i).groups.map Group.id =
      (i.groups.map Group.id).diff (gone.map Group.id) := by
  induction gone generalizing i with
  | nil => rfl
  | cons g gone ih =>
    rw [changeEach_cons, ih, List.map_cons, List.diff_cons, List.erase_eq_eraseP', List.eraseP_map]
    rfl

namespace Run

variable {f : String → String} {isDryRun : Bool} {p q : Policy} {s : Store} {report : PolicyReport}

/-! ### What a policy changes -/

/-- The report of an action is of the kind of the resources. -/
theorem Executes.kind_eq {resources : ResourceSet} {a : PolicyAction} {report : ActionReport}
    {t : Store} (h : Executes s resources a report t) : report.kind = resources.kind := by
  cases h <;> rfl

theorem kind_of_policy (hp : p.IsSupported) (h : result (policy isDryRun p).run s = .ok report) :
    ∀ a ∈ report.actions, a.kind = p.kind := by
  refine (policy_keeps (fun _ ↦ True) (fun a ↦ a.kind = p.kind) isDryRun hp rfl
    (fun _ _ ↦ trivial) fun a _ t told _ htold ↦ ⟨trivial, ?_⟩).2 report h
  rw [(executes_of_ok htold).kind_eq, ResourceSet.kind_keptBy, ResourceSet.kind_ofInventory]

/-- A policy that cannot be carried through has changed no resource. -/
theorem inventory_of_policy_error (hp : p.IsSupported) {e : RunError}
    (h : result (policy isDryRun p).run s = .error e) :
    (after (policy isDryRun p).run s).inventory = s.inventory := by
  rcases hselect : result (select p).run s with e' | sel
  · rw [(policy_of_select_error isDryRun hselect).2]
    exact (unchanged_select hp s).inventory
  · obtain ⟨_, -, hok, -⟩ := policy_of_select_ok hp isDryRun hselect
    cases h.symm.trans hok

/-- **A policy leaves alone what its kind leaves**, however its run ends. -/
theorem leaves_policy (hp : p.IsSupported) (isDryRun : Bool) (s : Store) :
    p.kind.leaves (after (policy isDryRun p).run s).inventory = p.kind.leaves s.inventory := by
  rcases h : result (policy isDryRun p).run s with e | report
  · rw [inventory_of_policy_error hp h]
  · rw [replay_policy hp h]
    exact PolicyReport.leaves_replay (kind_of_policy hp h) _

/-- A policy keeps the setting, and takes ids one after the other. -/
theorem takesIds_policy (hp : p.IsSupported) (isDryRun : Bool) (s : Store) :
    ∃ ids, s.TakesIds (after (policy isDryRun p).run s) ids := by
  refine (policy_keeps (fun t ↦ ∃ ids, s.TakesIds t ids) (fun _ ↦ True) isDryRun hp rfl
    (fun t ht ↦ ⟨[], ht.sameSupply⟩) fun a _ t told ht htold ↦ ⟨?_, trivial⟩).1
  obtain ⟨ids, hids⟩ := ht
  obtain ⟨rules, flowLogs, htakes, -⟩ := (executes_of_ok htold).step
  exact ⟨_, hids.append htakes⟩

/-! ### Two policies in either order -/

/-- What is seen as a success is one. -/
theorem exists_of_seen_eq {α β : Type} {g : α → β} {o o' : Except RunError α} {a : α}
    (h : seen f g o' = seen f g o) (ho : o = .ok a) : ∃ b, o' = .ok b ∧ g b = g a := by
  subst ho
  rcases o' with e | b
  · cases h
  · exact ⟨b, rfl, Except.ok.inj h⟩

/-- **After a policy that leaves alone what another one looks at, the other gives the same as
before it**, up to the ids of failed calls, if the first took no ids of resources. -/
theorem policy_after_policy (hp : p.IsSupported) (hne : p.kind ≠ q.kind)
    (hfree : p.kind ∈ [.flowLog, .port] ∨ q.kind ∈ [.flowLog, .port]) (hf : ∀ x y, f x = f y)
    {t : Store} (ht : after (policy isDryRun p).run s = t) (hcreated : t.created = s.created) :
    seen f (PolicyReport.relabel f) (result (policy isDryRun q).run t) =
        seen f (PolicyReport.relabel f) (result (policy isDryRun q).run s) ∧
      (after (policy isDryRun q).run t).created = (after (policy isDryRun q).run s).created ∧
      (after (policy isDryRun q).run t).failures + s.failures =
        (after (policy isDryRun q).run s).failures + t.failures := by
  obtain ⟨ids, hids⟩ := takesIds_policy hp isDryRun s
  have hleaves := leaves_policy hp isDryRun s
  rw [ht] at hids hleaves
  have hreads : q.kind.reads t.inventory = q.kind.reads s.inventory :=
    ResourceKind.reads_eq_of_leaves_eq hne hfree hleaves
  have halike := (Store.SameProspects.of_sameSetting hids.toSameSetting hcreated hf).alike hreads
  obtain ⟨hseen, hafter⟩ := agree_policy isDryRun q _ _ s t halike
  have hcreated' := hafter.created
  have hfailures := hafter.failures
  refine ⟨hseen, ?_, ?_⟩ <;> omega

/-- **Two policies may change places** if one of them is about flow logs or ports, the other is
about another kind, and no ids of resources are taken. -/
theorem swap_policies (hp : p.IsSupported) (hq : q.IsSupported) (hne : p.kind ≠ q.kind)
    (hfree : p.kind ∈ [.flowLog, .port] ∨ q.kind ∈ [.flowLog, .port]) (hf : ∀ x y, f x = f y)
    {first second : PolicyReport} (hfirst : result (policy isDryRun p).run s = .ok first)
    (hsecond : result (policy isDryRun q).run (after (policy isDryRun p).run s) = .ok second)
    (hcreated : (after (policy isDryRun q).run (after (policy isDryRun p).run s)).created =
      s.created) :
    ∃ second' first', result (policy isDryRun q).run s = .ok second' ∧
      result (policy isDryRun p).run (after (policy isDryRun q).run s) = .ok first' ∧
      second'.relabel f = second.relabel f ∧ first'.relabel f = first.relabel f ∧
      ({ after (policy isDryRun p).run (after (policy isDryRun q).run s) with log := [] } : Store) =
        { after (policy isDryRun q).run (after (policy isDryRun p).run s) with log := [] } := by
  obtain ⟨ids, hids⟩ := takesIds_policy hp isDryRun s
  obtain ⟨ids', hids'⟩ := takesIds_policy hq isDryRun (after (policy isDryRun p).run s)
  obtain ⟨jds, hjds⟩ := takesIds_policy hq isDryRun s
  obtain ⟨jds', hjds'⟩ := takesIds_policy hp isDryRun (after (policy isDryRun q).run s)
  -- ids are only ever taken, so none is
  have hcreatedFirst : (after (policy isDryRun p).run s).created = s.created := by
    have := hids.created
    have := hids'.created
    omega
  obtain ⟨hseen, hcreatedSecond, hfailures⟩ := policy_after_policy hp hne hfree hf rfl hcreatedFirst
  obtain ⟨second', hsecond', htold⟩ := exists_of_seen_eq hseen.symm hsecond
  obtain ⟨hseen', hcreated', hfailures'⟩ := policy_after_policy hq hne.symm hfree.symm hf
    rfl (hcreatedSecond.symm.trans hcreated)
  obtain ⟨first', hfirst', htold'⟩ := exists_of_seen_eq hseen' hfirst
  refine ⟨second', first', hsecond', hfirst', htold, htold', ?_⟩
  -- what is told is the same, so it is replayed as the same
  have hreplay : first'.replay = first.replay := by
    rw [← first'.replay_relabel, htold', first.replay_relabel]
  have hreplay' : second'.replay = second.replay := by
    rw [← second'.replay_relabel, htold, second.replay_relabel]
  have hinventory : (after (policy isDryRun p).run (after (policy isDryRun q).run s)).inventory =
      (after (policy isDryRun q).run (after (policy isDryRun p).run s)).inventory := by
    rw [replay_policy hp hfirst', replay_policy hq hsecond', replay_policy hq hsecond,
      replay_policy hp hfirst, hreplay, hreplay']
    exact PolicyReport.replay_comm (kind_of_policy hp hfirst) (kind_of_policy hq hsecond) hne hfree
      s.inventory
  have hsetting := (hids.toSameSetting.trans hids'.toSameSetting)
  have hsetting' := (hjds.toSameSetting.trans hjds'.toSameSetting)
  rw [Store.mk.injEq]
  refine ⟨hinventory, hsetting'.faults.trans hsetting.faults.symm,
    hsetting'.supply.trans hsetting.supply.symm, ?_, ?_, rfl⟩ <;> omega

/-! ### The whole of it -/

/-- Seen as it is, what a run gives is seen in full. -/
theorem seen_id (o : Except RunError PolicyReport) : seen id (PolicyReport.relabel id) o = o := by
  rcases o with e | report
  · cases e <;> rfl
  · exact congrArg (fun r ↦ Except.ok r) report.relabel_id

/-- **What a policy looks at, and what it changes.** From any store with the same faults and the
same ids to come that agrees on what policies of its kind look at, an accepted policy gives the same
report or the same error, and leaves the same of it. It leaves alone what its kind leaves, and all
resources if it cannot be carried through. Of a policy of groups more is said: the rules that go
are just those of the groups that it tells as deleted, and these are the groups that go.

So a policy of flow logs or of ports and a policy of another kind, of which neither takes ids for
resources, may change places: both succeed again, the store is the same afterwards but for the order
of its record of calls, and the reports are the same in the other order. Only the ids of failed
calls, which are taken from the supply as well, may be others. -/
theorem policy_footprint {d : PolicyDefinition} {p : Policy} (hp : Policy.ofDefinition d = .ok p)
    (isDryRun : Bool) (s : Store) :
    (∀ t, s.SameProspects id t → p.kind.reads t.inventory = p.kind.reads s.inventory →
      result (policy isDryRun p).run t = result (policy isDryRun p).run s ∧
      p.kind.reads (after (policy isDryRun p).run t).inventory =
        p.kind.reads (after (policy isDryRun p).run s).inventory) ∧
    p.kind.leaves (after (policy isDryRun p).run s).inventory = p.kind.leaves s.inventory ∧
    (∀ e, result (policy isDryRun p).run s = .error e →
      (after (policy isDryRun p).run s).inventory = s.inventory) ∧
    (p.kind = .group → ∀ report, result (policy isDryRun p).run s = .ok report →
      (after (policy isDryRun p).run s).inventory.rules =
        s.inventory.rules.filter (fun r ↦ report.deletedGroups.all fun g ↦ r.groupId != g.id) ∧
      (after (policy isDryRun p).run s).inventory.groups.map Group.id =
        (s.inventory.groups.map Group.id).diff (report.deletedGroups.map Group.id)) ∧
    ∀ e q, Policy.ofDefinition e = .ok q → p.kind ≠ q.kind →
      p.kind ∈ [.flowLog, .port] ∨ q.kind ∈ [.flowLog, .port] →
      ∀ reports, result (policies isDryRun [p, q]).run s = .ok reports →
      (after (policies isDryRun [p, q]).run s).created = s.created →
      ∃ swapped, result (policies isDryRun [q, p]).run s = .ok swapped ∧
        ({ after (policies isDryRun [q, p]).run s with log := [] } : Store) =
          { after (policies isDryRun [p, q]).run s with log := [] } ∧
        swapped.map (PolicyReport.relabel fun _ ↦ "") =
          (reports.map (PolicyReport.relabel fun _ ↦ "")).reverse ∧
        ((∀ r ∈ reports, r.failureCount = 0) → swapped = reports.reverse) := by
  have hsupported := Policy.isSupported_of_ofDefinition hp
  refine ⟨fun t hprospects hreads ↦ ?_, leaves_policy hsupported isDryRun s,
    fun e he ↦ inventory_of_policy_error hsupported he, fun hkind report hrun ↦ ?_,
    fun e q hq hne hfree reports hrun hcreated ↦ ?_⟩
  · -- the run looks at nothing but what its kind reads
    obtain ⟨hseen, hafter⟩ := agree_policy isDryRun p _ _ s t (hprospects.alike hreads)
    rw [seen_id, seen_id] at hseen
    exact ⟨hseen, hafter.reads⟩
  · -- its report tells all that it changed, and tells of deleted groups only
    have htold := kind_of_policy hsupported hrun
    rw [hkind] at htold
    rw [replay_policy hsupported hrun, PolicyReport.replay_of_kind_group htold]
    exact ⟨rules_changeEach_dropGroup _ _, Inventory.map_id_changeEach_dropGroup _ _⟩
  · -- neither changes what the other reads, so each gives in its new place what it gave before
    obtain ⟨first, rest, hfirst, hrest, rfl⟩ := policies_cons_eq_ok_iff.mp hrun
    obtain ⟨second, last, hsecond, hlast, rfl⟩ := policies_cons_eq_ok_iff.mp hrest
    cases hlast
    have hafter : after (policies isDryRun [p, q]).run s =
        after (policy isDryRun q).run (after (policy isDryRun p).run s) := by
      rw [after_policies_cons_of_ok hfirst, after_policies_cons_of_ok hsecond]
      rfl
    rw [hafter] at hcreated ⊢
    obtain ⟨second', first', hsecond', hfirst', htold, htold', hstore⟩ :=
      swap_policies (f := fun _ ↦ "") hsupported (Policy.isSupported_of_ofDefinition hq) hne hfree
        (fun _ _ ↦ rfl) hfirst hsecond hcreated
    refine ⟨[second', first'], ?_, ?_, ?_, fun hnone ↦ ?_⟩
    · exact policies_cons_eq_ok_iff.mpr ⟨_, _, hsecond',
        policies_cons_eq_ok_iff.mpr ⟨_, [], hfirst', rfl, rfl⟩, rfl⟩
    · rw [after_policies_cons_of_ok hsecond', after_policies_cons_of_ok hfirst']
      exact hstore
    · exact congrArg₂ (fun r r' ↦ [r, r']) htold htold'
    · -- reports without failures tell no ids of calls, so they are equal as they are
      rw [List.forall_mem_cons, List.forall_mem_singleton] at hnone
      exact congrArg₂ (fun r r' ↦ [r, r']) (PolicyReport.eq_of_relabel_eq htold hnone.2)
        (PolicyReport.eq_of_relabel_eq htold' hnone.1)

/-! ### Groups and flow logs

One of four groups goes with its rule, and a flow log is switched off, in either order. Without the
rules and flow logs, and with other ids taken before, the policy of groups tells the same. -/

/-- Groups with rules, a port and a flow log. -/
def furnishedStore : Store where
  inventory := { (nestedStore []).inventory with
    rules := [{ id := "going", groupId := "named", direction := .ingress },
      { id := "staying", groupId := "bound", direction := .egress }]
    flowLogs := [{ id := "log", resourceType := "port", resourceId := "p", adminState := true }] }
  supply := ⟨fun _ ↦ "new", fun _ ↦ "req"⟩
  created := 3

theorem policy_footprint_nested :
    Policy.ofDefinition nestedDefinition = .ok nestedPolicy ∧
      Policy.ofDefinition quietDefinition = .ok quietPolicy ∧
      furnishedStore.SameProspects id (nestedStore []) ∧
      result (policy false nestedPolicy).run (nestedStore []) =
        result (policy false nestedPolicy).run furnishedStore ∧
      (after (policy false nestedPolicy).run furnishedStore).inventory.rules.map Rule.id =
        ["staying"] ∧
      ∃ reports, result (policies false [nestedPolicy, quietPolicy]).run furnishedStore =
          .ok reports ∧
        (after (policies false [nestedPolicy, quietPolicy]).run furnishedStore).created = 3 ∧
        (∀ r ∈ reports, r.failureCount = 0) ∧
        result (policies false [quietPolicy, nestedPolicy]).run furnishedStore =
          .ok reports.reverse := by
  have hnested : Policy.ofDefinition nestedDefinition = .ok nestedPolicy := rfl
  have hquiet : Policy.ofDefinition quietDefinition = .ok quietPolicy := rfl
  have hprospects : furnishedStore.SameProspects id (nestedStore []) :=
    ⟨fun _ _ ↦ rfl, fun _ ↦ rfl, fun _ ↦ rfl⟩
  obtain ⟨hreads, -, -, -, hswap⟩ := policy_footprint hnested false furnishedStore
  have hcounts : (result (policies false [nestedPolicy, quietPolicy]).run furnishedStore).map
      (List.map PolicyReport.failureCount) = .ok [0, 0] := by
    decide +kernel
  -- both succeed, and nothing fails for them
  rcases hrun : result (policies false [nestedPolicy, quietPolicy]).run furnishedStore with
    e | reports
  · rw [hrun] at hcounts
    cases hcounts
  · have hnone : ∀ r ∈ reports, r.failureCount = 0 := by
      rw [hrun] at hcounts
      have hzero : reports.map PolicyReport.failureCount = [0, 0] := Except.ok.inj hcounts
      intro r hr
      have hmem := List.mem_map_of_mem (f := PolicyReport.failureCount) hr
      rw [hzero] at hmem
      simpa using hmem
    have hcreated : (after (policies false [nestedPolicy, quietPolicy]).run
        furnishedStore).created = 3 := by decide +kernel
    obtain ⟨swapped, hswapped, -, -, hsame⟩ := hswap quietDefinition quietPolicy hquiet (by decide)
      (.inr (by decide)) reports hrun hcreated
    rw [hsame hnone] at hswapped
    exact ⟨hnested, hquiet, hprospects, (hreads (nestedStore []) hprospects rfl).1,
      by decide +kernel, reports, rfl, hcreated, hnone, hswapped⟩

end Run

end NetWarden
