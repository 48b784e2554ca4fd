import NetWarden.Proofs.Run.Narrowing

/-!
# Running a policy

A policy that was accepted ends in one of three ways. Its listing fails; or it looks up ports on
the way and that fails; or everything succeeds and its actions run (`policy_listing_fails`,
`policy_lookup_fails`, `policy_succeeds`). Two facts make these all there are. A filter that is
about the policy's kind never meets other resources, which is part of `asks_narrow`. An action that
is about the policy's kind never fails, whatever comes of its calls (`result_execute`); so **no
action can fail after another one has changed the store**, and a policy that fails has changed
nothing. `Executes` is what an action that succeeds has done, case by case, and what is needed of
all actions is proved over it.

What a run that succeeds has kept is `policy_resources`, and when a run fails is `policy_fails_iff`.
-/

namespace NetWarden

open StoreM

/-- The operation that lists the resources of a kind. -/
def ResourceKind.listing : ResourceKind → Operation
  | .rule => .listRules
  | .group => .listGroups
  | .flowLog => .listFlowLogs
  | .port => .listPorts

namespace Run

variable {α β : Type} {s : Store}

/-! ### Listing -/

/-- A step that only looks at the store, and fails just if an operation is blocked. -/
structure Lists (op : Operation) (error : TransportError → RunError) (look : Store → α)
    (x : RunM α) : Prop where
  /-- Nothing but the record of calls is different. -/
  unchanged : Keeps Store.Unchanged x.run
  /-- What the step gives if the operation is not blocked. -/
  result_ok : ∀ s : Store, s.blocks op = false → result x.run s = .ok (look s)
  /-- Else it fails. -/
  result_error : ∀ s : Store, s.blocks op = true → ∃ e, result x.run s = .error (error e)

/-- A step that lists and succeeds gives what there is. -/
theorem Lists.eq_of_ok {op : Operation} {error : TransportError → RunError} {look : Store → α}
    {x : RunM α} (h : Lists op error look x) {s : Store} {a : α} (hok : result x.run s = .ok a) :
    a = look s := by
  rcases hs : s.blocks op with - | -
  · exact Except.ok.inj (hok.symm.trans (h.result_ok s hs))
  · obtain ⟨e, he⟩ := h.result_error s hs
    cases hok.symm.trans he

theorem Lists.map {op : Operation} {error : TransportError → RunError} {look : Store → α}
    {x : RunM α} (h : Lists op error look x) (f : α → β) : Lists op error (fun s ↦ f (look s))
      (f <$> x) where
  unchanged := by
    intro s
    rw [ExceptT.run_map, after_map]
    exact h.unchanged s
  result_ok s hs := by
    rw [ExceptT.run_map, result_map, h.result_ok s hs]
    rfl
  result_error s hs := by
    obtain ⟨e, he⟩ := h.result_error s hs
    exact ⟨e, by rw [ExceptT.run_map, result_map, he]; rfl⟩

/-- A call about no one thing fails just if its operation is blocked. -/
theorem lists_require (call : Call) (hkey : call.key = Call.anyKey)
    (error : TransportError → RunError) (look : Store → α) :
    Lists call.operation error look (require error (Store.attempt call fun s ↦ some (look s, s)))
    where
  unchanged := by
    intro s
    rw [after_require]
    exact Store.unchanged_attempt look s
  result_ok s hs := by
    have hpermits : s.permits call = true := by rw [Store.permits_eq_not_blocks hkey, hs]; rfl
    rw [result_require, Store.result_attempt_of_permits look hpermits]
    rfl
  result_error s hs := by
    have hpermits : s.permits call = false := by rw [Store.permits_eq_not_blocks hkey, hs]; rfl
    obtain ⟨f, hf⟩ := Store.exists_fault_of_not_permits hpermits
    rw [result_require, Store.result_attempt_of_fault hf]
    exact ⟨_, rfl⟩

/-- **All resources of the kind are listed**, unless their operation is blocked. -/
theorem lists_list (kind : ResourceKind) : Lists kind.listing (.listing kind)
    (fun s ↦ .ofInventory kind s.inventory) (list kind) := by
  cases kind with
  | rule =>
    -- the query that says nothing selects every rule
    have hall : (fun s : Store ↦ ResourceSet.ofInventory .rule s.inventory) =
        fun s ↦ .rules (s.inventory.rules.filter (RuleQuery.selects {})) := by
      funext s
      exact congrArg ResourceSet.rules (List.filter_eq_self.mpr fun r _ ↦ rfl).symm
    rw [hall]
    exact (lists_require (.listRules {}) rfl (.listing .rule) fun s ↦
      s.inventory.rules.filter (RuleQuery.selects {})).map ResourceSet.rules
  | group =>
    exact (lists_require .listGroups rfl (.listing .group) fun s ↦ s.inventory.groups).map
      ResourceSet.groups
  | flowLog =>
    exact (lists_require .listFlowLogs rfl (.listing .flowLog) fun s ↦ s.inventory.flowLogs).map
      ResourceSet.flowLogs
  | port =>
    exact (lists_require .listAllPorts rfl (.listing .port) fun s ↦ s.inventory.ports).map
      ResourceSet.ports

/-! ### Actions -/

/-- **An action on resources that it is about never fails**, whatever comes of its calls. -/
theorem result_execute {a : PolicyAction} {resources : ResourceSet}
    (ha : a.supports resources.kind = true) (s : Store) :
    ∃ report, result (execute resources a).run s = .ok report := by
  -- a kind that the action supports picks out its operation, which cannot fail
  cases a with
  | delete =>
    cases resources with
    | rules items => exact ⟨_, rfl⟩
    | groups items => exact ⟨_, rfl⟩
    | _ => cases ha
  | removeRules plan =>
    cases resources with
    | rules items => exact ⟨_, rfl⟩
    | _ => cases ha
  | setRules add remove =>
    cases resources with
    | rules items => exact ⟨_, rfl⟩
    | _ => cases ha
  | setFlowLog change =>
    cases resources with
    | flowLogs items => exact ⟨_, rfl⟩
    | _ => cases ha

/-- **What an action that succeeds has done**: one operation, on resources of its kind. It ends in
the report of what came of it, and in the store that is left. -/
inductive Executes (s : Store) : ResourceSet → PolicyAction → ActionReport → Store → Prop
  | deleteRules (items : List Rule) :
      Executes s (.rules items) .delete (.deleteRules (result (Bulk.deleteRules items) s))
        (after (Bulk.deleteRules items) s)
  | deleteGroups (items : List Group) :
      Executes s (.groups items) .delete (.deleteGroups (result (Bulk.deleteGroups items) s))
        (after (Bulk.deleteGroups items) s)
  | removeRules (items : List Rule) (plan : RemovalPlan) :
      Executes s (.rules items) (.removeRules plan)
        (.removeRules (result (Bulk.removeRules items plan) s))
        (after (Bulk.removeRules items plan) s)
  | setRules (items : List Rule) (add : RuleTemplates) (remove : RemovalPlan) :
      Executes s (.rules items) (.setRules add remove)
        (.setRules (result (Bulk.setRules items add remove) s).1
          (result (Bulk.setRules items add remove) s).2)
        (after (Bulk.setRules items add remove) s)
  | setFlowLog (items : List FlowLog) (change : FlowLogChange) :
      Executes s (.flowLogs items) (.setFlowLog change)
        (.setFlowLog change.name (result (Bulk.changeFlowLogs items change) s))
        (after (Bulk.changeFlowLogs items change) s)

/-- An action on other resources than it is about does not succeed, so these are all the ways. -/
theorem executes_of_ok {a : PolicyAction} {resources : ResourceSet} {report : ActionReport}
    (h : result (execute resources a).run s = .ok report) :
    Executes s resources a report (after (execute resources a).run s) := by
  -- an action and its kind of resources pick out an operation, and every other pair is an error
  cases a with
  | delete =>
    cases resources with
    | rules items =>
      cases h
      exact .deleteRules items
    | groups items =>
      cases h
      exact .deleteGroups items
    | _ => cases h
  | removeRules plan =>
    cases resources with
    | rules items =>
      cases h
      exact .removeRules items plan
    | _ => cases h
  | setRules add remove =>
    cases resources with
    | rules items =>
      cases h
      exact .setRules items add remove
    | _ => cases h
  | setFlowLog change =>
    cases resources with
    | flowLogs items =>
      cases h
      exact .setFlowLog items change
    | _ => cases h

/-- The actions of a policy; a dry run leaves them out. -/
def perform (isDryRun : Bool) (actions : List PolicyAction) (resources : ResourceSet) :
    RunM (List ActionReport) :=
  if isDryRun then pure [] else actions.mapM (execute resources)

theorem result_perform {actions : List PolicyAction} (isDryRun : Bool) (resources : ResourceSet)
    (hactions : ∀ a ∈ actions, a.supports resources.kind = true) (s : Store) :
    ∃ reports, result (perform isDryRun actions resources).run s = .ok reports := by
  cases isDryRun with
  | true => exact ⟨[], rfl⟩
  | false =>
    show ∃ reports, result (actions.mapM (execute resources)).run s = .ok reports
    -- by induction over the actions, from any store that the ones before may have left
    induction actions generalizing s with
    | nil => exact ⟨[], rfl⟩
    | cons a actions ih =>
      obtain ⟨report, hreport⟩ := result_execute (hactions a List.mem_cons_self) s
      obtain ⟨reports, hreports⟩ := ih (fun b hb ↦ hactions b (List.mem_cons_of_mem _ hb))
        (after (execute resources a).run s)
      refine ⟨report :: reports, ?_⟩
      rw [List.mapM_cons, result_run_bind_of_ok hreport, result_run_bind_of_ok hreports]
      rfl

/-- An only action is all that is done. -/
theorem perform_singleton {a : PolicyAction} {resources : ResourceSet} {report : ActionReport}
    (h : result (execute resources a).run s = .ok report) :
    result (perform false [a] resources).run s = .ok [report] ∧
      after (perform false [a] resources).run s = after (execute resources a).run s := by
  have hperform : perform false [a] resources = do
      let report ← execute resources a
      return [report] := by
    show [a].mapM (execute resources) = _
    simp only [List.mapM_cons, List.mapM_nil, pure_bind]
  rw [hperform, result_run_bind_of_ok h, after_run_bind_of_ok h]
  exact ⟨rfl, rfl⟩

/-! ### The ways in which a run of a policy ends -/

/-- The three steps of a run. -/
theorem policy_eq (isDryRun : Bool) (p : Policy) : policy isDryRun p = do
    let listed ← list p.kind
    let kept ← narrow listed {} p.filters
    let actions ← perform isDryRun p.actions kept.1
    return {
      policy := p.name, isDryRun, scanned := listed.size, resources := kept.1
      notes := keptNotes kept.1 kept.2, actions } := by
  rw [policy]
  cases isDryRun <;> rfl

section

variable {p : Policy} (isDryRun : Bool)

theorem policy_listing_fails (h : s.blocks p.kind.listing = true) :
    (∃ e, result (policy isDryRun p).run s = .error (.listing p.kind e)) ∧
      s.Unchanged (after (policy isDryRun p).run s) := by
  obtain ⟨e, he⟩ := (lists_list p.kind).result_error s h
  rw [policy_eq, result_run_bind_of_error he, after_run_bind_of_error he]
  exact ⟨⟨e, rfl⟩, (lists_list p.kind).unchanged s⟩

/-- What the filters of a policy are asked about, and what they answer. -/
theorem asks_filters (hp : p.IsSupported) (i : Inventory) :
    Asks i.ports ((ResourceSet.ofInventory p.kind i).reachesLookup i.ports p.filters)
      ((ResourceSet.ofInventory p.kind i).keptBy i.ports p.filters,
        (ResourceSet.ofInventory p.kind i).notedBy i.ports {} p.filters)
      (narrow (.ofInventory p.kind i) {} p.filters) :=
  asks_narrow (fun f hf ↦ by rw [ResourceSet.kind_ofInventory]; exact hp.filters f hf) {}

theorem policy_lookup_fails (hp : p.IsSupported) (hlist : s.blocks p.kind.listing = false)
    (h : ((ResourceSet.ofInventory p.kind s.inventory).reachesLookup s.inventory.ports p.filters &&
      s.blocks .listPorts) = true) :
    (∃ e, result (policy isDryRun p).run s = .error (.portLookup e)) ∧
      s.Unchanged (after (policy isDryRun p).run s) := by
  have hlisted := (lists_list p.kind).unchanged s
  have hports := congrArg Inventory.ports hlisted.inventory
  obtain ⟨e, he⟩ := (asks_filters hp s.inventory).result_error _ hports
    (by rw [hlisted.blocks_eq]; exact h)
  have hthere := (asks_filters hp s.inventory).unchanged _ hports
  have hok := (lists_list p.kind).result_ok s hlist
  rw [policy_eq, result_run_bind_of_ok hok, result_run_bind_of_error he, after_run_bind_of_ok hok,
    after_run_bind_of_error he]
  exact ⟨⟨e, rfl⟩, hlisted.trans hthere⟩

/-- **If nothing fails, the actions run on what the filters kept**, from a store in which nothing
was changed. -/
theorem policy_succeeds (hp : p.IsSupported) (hlist : s.blocks p.kind.listing = false)
    (h : ((ResourceSet.ofInventory p.kind s.inventory).reachesLookup s.inventory.ports p.filters &&
      s.blocks .listPorts) = false) :
    let all := ResourceSet.ofInventory p.kind s.inventory
    let kept := all.keptBy s.inventory.ports p.filters
    ∃ t actions, s.Unchanged t ∧ result (perform isDryRun p.actions kept).run t = .ok actions ∧
      after (policy isDryRun p).run s = after (perform isDryRun p.actions kept).run t ∧
      result (policy isDryRun p).run s = .ok {
        policy := p.name, isDryRun, scanned := all.size, resources := kept
        notes := keptNotes kept (all.notedBy s.inventory.ports {} p.filters), actions } := by
  intro all kept
  -- the listing changes nothing, so the filters find the ports as they are
  have hlisted := (lists_list p.kind).unchanged s
  have hports := congrArg Inventory.ports hlisted.inventory
  have hthere := (asks_filters hp s.inventory).unchanged _ hports
  have hnarrow := (asks_filters hp s.inventory).result_ok _ hports
    (by rw [hlisted.blocks_eq]; exact h)
  have hok := (lists_list p.kind).result_ok s hlist
  -- filters leave resources of the same kind, which the actions support
  have hkind : kept.kind = p.kind := by
    rw [ResourceSet.kind_keptBy, ResourceSet.kind_ofInventory]
  obtain ⟨actions, hactions⟩ := result_perform isDryRun kept
    (fun a ha ↦ by rw [hkind]; exact hp.actions a ha) _
  refine ⟨_, actions, hlisted.trans hthere, hactions, ?_, ?_⟩
  · rw [policy_eq, after_run_bind_of_ok hok, after_run_bind_of_ok hnarrow,
      after_run_bind_of_ok hactions]
    rfl
  · rw [policy_eq, result_run_bind_of_ok hok, result_run_bind_of_ok hnarrow,
      result_run_bind_of_ok hactions]
    rfl

/-- A run that succeeds has listed and looked up what it needed. -/
theorem not_blocked_of_ok (hp : p.IsSupported) {report : PolicyReport}
    (hrun : result (policy isDryRun p).run s = .ok report) :
    s.blocks p.kind.listing = false ∧
      ((ResourceSet.ofInventory p.kind s.inventory).reachesLookup s.inventory.ports p.filters &&
        s.blocks .listPorts) = false := by
  rcases hlist : s.blocks p.kind.listing with - | -
  · refine ⟨rfl, ?_⟩
    by_contra hlookup
    obtain ⟨⟨e, he⟩, -⟩ := policy_lookup_fails isDryRun hp hlist (Bool.not_eq_false _ ▸ hlookup)
    cases hrun.symm.trans he
  · obtain ⟨⟨e, he⟩, -⟩ := policy_listing_fails isDryRun hlist
    cases hrun.symm.trans he

/-- What a run that succeeds has kept, and what its actions were given. -/
theorem policy_of_ok (hp : p.IsSupported) {report : PolicyReport}
    (hrun : result (policy isDryRun p).run s = .ok report) :
    let all := ResourceSet.ofInventory p.kind s.inventory
    let kept := all.keptBy s.inventory.ports p.filters
    report.resources = kept ∧ report.scanned = all.size ∧ report.isDryRun = isDryRun ∧
      ∃ t, s.Unchanged t ∧
        result (perform isDryRun p.actions kept).run t = .ok report.actions ∧
        after (policy isDryRun p).run s = after (perform isDryRun p.actions kept).run t := by
  intro all kept
  obtain ⟨hlist, hlookup⟩ := not_blocked_of_ok isDryRun hp hrun
  obtain ⟨t, actions, ht, hactions, hafter, hreport⟩ := policy_succeeds isDryRun hp hlist hlookup
  cases hrun.symm.trans hreport
  exact ⟨rfl, rfl, rfl, t, ht, hactions, hafter⟩

/-- The notes of a run that succeeds are on what it has kept. -/
theorem notes_of_ok (hp : p.IsSupported) {report : PolicyReport}
    (hrun : result (policy isDryRun p).run s = .ok report) :
    report.notes = keptNotes report.resources
      ((ResourceSet.ofInventory p.kind s.inventory).notedBy s.inventory.ports {} p.filters) := by
  obtain ⟨hlist, hlookup⟩ := not_blocked_of_ok isDryRun hp hrun
  obtain ⟨t, actions, -, -, -, hreport⟩ := policy_succeeds isDryRun hp hlist hlookup
  cases hrun.symm.trans hreport
  rfl

end

/-! ### What is kept -/

/-- **A run that succeeds keeps just the resources of which every filter holds**, in the order of
the store, and tells how many there were and how many are left; its actions are given what is kept.
Of groups, no two may have the same id. The order of the filters does not matter. -/
theorem policy_resources {d : PolicyDefinition} {p : Policy} (hp : Policy.ofDefinition d = .ok p)
    (isDryRun : Bool) (s : Store)
    (hids : p.kind = .group → (s.inventory.groups.map Group.id).Nodup) {report : PolicyReport}
    (hrun : result (policy isDryRun p).run s = .ok report) :
    let all := ResourceSet.ofInventory p.kind s.inventory
    let kept := all.filter fun r ↦ p.filters.all fun f ↦ f.holds s.inventory.ports r
    report.resources = kept ∧ report.scanned = all.size ∧ report.matched = kept.size ∧
      (∃ t, s.Unchanged t ∧
        result (perform isDryRun p.actions kept).run t = .ok report.actions ∧
        after (policy isDryRun p).run s = after (perform isDryRun p.actions kept).run t) ∧
      ∀ filters, filters.Perm p.filters → ∀ other,
        result (policy isDryRun { p with filters }).run s = .ok other → other.resources = kept := by
  intro all kept
  have hsupported := Policy.isSupported_of_ofDefinition hp
  -- listed groups differ in their ids, and a listing of another kind has no groups
  have hdistinct : (all.groupItems.map Group.id).Nodup := by
    rcases hkind : p.kind <;> simp only [all, hkind, ResourceSet.ofInventory]
    case group => exact hids hkind
    all_goals exact List.nodup_nil
  -- one filter after the other is all of them at once, in whatever order
  have hkept : ∀ filters : List PolicyFilter, filters.Perm p.filters →
      all.keptBy s.inventory.ports filters = kept := by
    intro filters hperm
    rw [ResourceSet.keptBy_eq_filter hdistinct]
    simp only [hperm.all_eq, kept]
  obtain ⟨hresources, hscanned, -, t, ht, hactions, hafter⟩ :=
    policy_of_ok isDryRun hsupported hrun
  rw [hkept _ (.refl _)] at hresources hactions hafter
  refine ⟨hresources, hscanned, congrArg ResourceSet.size hresources, ⟨t, ht, hactions, hafter⟩, ?_⟩
  intro filters hperm other hother
  have hsame : ({ p with filters } : Policy).IsSupported :=
    ⟨fun f hf ↦ hsupported.filters f (hperm.mem_iff.mp hf), hsupported.actions⟩
  exact (policy_of_ok isDryRun hsame hother).1.trans (hkept filters hperm)

/-! ### A combination

Three filters of groups, two of them in a combination: of the groups that are free or have a name,
one is left out by its id. -/

/-- A policy with a combination. -/
def nestedDefinition : PolicyDefinition where
  name := "tidy"
  resource := "vpc-security-group"
  filters := [
    .obj [("or", .arr [.str "unattached",
      .obj [("type", .str "value"), ("key", .str "name"), ("value", .str "test")]])],
    .obj [("type", .str "value"), ("key", .str "id"), ("op", .str "ne"), ("value", .str "free")]]
  actions := [.str "delete"]

/-- The policy of the definition. -/
def nestedPolicy : Policy where
  name := "tidy"
  description := none
  kind := .group
  filters := [.anyOf [.unattached, .value ⟨"name", .eq, .str "test"⟩],
    .value ⟨"id", .ne, .str "free"⟩]
  actions := [.delete]

/-- A store with one port, bound to two of four groups. -/
def nestedStore (faults : List Fault) : Store where
  inventory := {
    groups := [⟨"given", "default", none, none, none⟩, ⟨"bound", "web", none, none, none⟩,
      ⟨"free", "old", none, none, none⟩, ⟨"named", "test", none, none, none⟩]
    ports := [⟨"port", none, none, ["bound", "named"]⟩] }
  faults := faults
  supply := ⟨fun _ ↦ "new", fun _ ↦ "req"⟩

theorem policy_resources_nested :
    Policy.ofDefinition nestedDefinition = .ok nestedPolicy ∧
      (((nestedStore []).inventory.groups.map Group.id).Nodup) ∧
      ∃ report, result (policy false nestedPolicy).run (nestedStore []) = .ok report ∧
        report.resources = .groups [⟨"named", "test", none, none, none⟩] ∧ report.scanned = 4 := by
  have hp : Policy.ofDefinition nestedDefinition = .ok nestedPolicy := rfl
  have hids : ((nestedStore []).inventory.groups.map Group.id).Nodup := by decide
  obtain ⟨t, actions, -, -, -, hrun⟩ := policy_succeeds (s := nestedStore []) false
    (Policy.isSupported_of_ofDefinition hp) rfl rfl
  obtain ⟨hresources, hscanned, -⟩ := policy_resources hp false _ (fun _ ↦ hids) hrun
  refine ⟨hp, hids, _, hrun, hresources.trans ?_, hscanned⟩
  decide +kernel

/-! ### When a run fails -/

/-- Where the filters of an accepted policy come to one that asks for ports, the resources that are
left are groups. -/
theorem reachesLookup_filters_iff {p : Policy} (hp : p.IsSupported) {i : Inventory} :
    (ResourceSet.ofInventory p.kind i).reachesLookup i.ports p.filters = true ↔
      ∃ before f behind, p.filters = before ++ f :: behind ∧ f.looksUpPorts = true ∧
        ((ResourceSet.ofInventory p.kind i).keptBy i.ports before).groupItems ≠ [] := by
  rw [ResourceSet.reachesLookup_iff]
  refine exists_congr fun before ↦ exists_congr fun f ↦ exists_congr fun behind ↦ ?_
  refine and_congr_right fun hfs ↦ and_congr_right fun hlook ↦ ?_
  have hf : f.supports p.kind = true := hp.filters f (by rw [hfs]; simp)
  refine (ResourceSet.groupItems_ne_nil_iff ?_).symm
  rw [ResourceSet.kind_keptBy, ResourceSet.kind_ofInventory]
  exact PolicyFilter.kind_of_looksUpPorts hf hlook

/-- **When a run of an accepted policy fails**: just if the listing of its kind is blocked, or if
port listings are blocked and the filters come to one that asks for ports, at any depth, while
groups are left. It then says which of the two it was, and has changed no resource and no fault. -/
theorem policy_fails_iff {d : PolicyDefinition} {p : Policy} (hp : Policy.ofDefinition d = .ok p)
    (isDryRun : Bool) (s : Store) :
    let all := ResourceSet.ofInventory p.kind s.inventory
    ((∃ e, result (policy isDryRun p).run s = .error e) ↔
        s.blocks p.kind.listing = true ∨
          s.blocks .listPorts = true ∧ ∃ before f behind, p.filters = before ++ f :: behind ∧
            f.looksUpPorts = true ∧ (all.keptBy s.inventory.ports before).groupItems ≠ []) ∧
      ∀ e, result (policy isDryRun p).run s = .error e →
        ((∃ cause, e = .listing p.kind cause) ∨ ∃ cause, e = .portLookup cause) ∧
        (after (policy isDryRun p).run s).inventory = s.inventory ∧
        (after (policy isDryRun p).run s).faults = s.faults := by
  intro all
  have hsupported := Policy.isSupported_of_ofDefinition hp
  rw [← reachesLookup_filters_iff hsupported]
  rcases hlist : s.blocks p.kind.listing with - | -
  · rcases hlookup : all.reachesLookup s.inventory.ports p.filters && s.blocks .listPorts with - | -
    · obtain ⟨t, actions, -, -, -, hreport⟩ := policy_succeeds isDryRun hsupported hlist hlookup
      rw [hreport]
      rw [Bool.and_eq_false_iff] at hlookup
      -- a report is no error, and what would be one did not happen
      refine ⟨⟨fun ⟨e, he⟩ ↦ (by cases he), ?_⟩, fun e he ↦ (by cases he)⟩
      rintro (h | ⟨hports, hreached⟩)
      · cases h
      · rcases hlookup with h | h
        · cases h.symm.trans hreached
        · cases h.symm.trans hports
    · obtain ⟨⟨e, he⟩, hthere⟩ := policy_lookup_fails isDryRun hsupported hlist hlookup
      rw [Bool.and_eq_true] at hlookup
      refine ⟨⟨fun _ ↦ .inr hlookup.symm, fun _ ↦ ⟨_, he⟩⟩, fun e' he' ↦ ?_⟩
      cases he.symm.trans he'
      exact ⟨.inr ⟨e, rfl⟩, hthere.inventory, hthere.faults⟩
  · obtain ⟨⟨e, he⟩, hthere⟩ := policy_listing_fails isDryRun hlist
    refine ⟨⟨fun _ ↦ .inl rfl, fun _ ↦ ⟨_, he⟩⟩, fun e' he' ↦ ?_⟩
    cases he.symm.trans he'
    exact ⟨.inl ⟨e, rfl⟩, hthere.inventory, hthere.faults⟩

/-- With port listings blocked, the policy comes to its combination while groups are left. -/
theorem policy_fails_nested :
    let blocked := nestedStore [⟨.listPorts, Call.anyKey, 503, "busy"⟩]
    Policy.ofDefinition nestedDefinition = .ok nestedPolicy ∧
      (∃ e, result (policy false nestedPolicy).run blocked = .error e) ∧
      ¬ ∃ e, result (policy false nestedPolicy).run (nestedStore []) = .error e := by
  intro blocked
  have hp : Policy.ofDefinition nestedDefinition = .ok nestedPolicy := rfl
  refine ⟨hp, (policy_fails_iff hp false blocked).1.mpr ?_, fun h ↦ ?_⟩
  · exact .inr ⟨rfl, [], _, _, rfl, rfl, by decide⟩
  · rcases (policy_fails_iff hp false (nestedStore [])).1.mp h with h | ⟨h, -⟩ <;> cases h

end Run

end NetWarden
