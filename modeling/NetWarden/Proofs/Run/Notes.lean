import NetWarden.Proofs.Matching.Notes
import NetWarden.Proofs.Run.Confinement

/-!
# Notes in a report

A filter of rules may stand anywhere in the filters of a policy, and each one is asked about all
rules that are left when its turn comes, whatever the others say. `PolicyFilter.ruleFilters` lists
them, so **what matches in a filter is what they match, one after the other** (`matchesIn_eq`).

A rule that all filters keep is there for every filter, so nothing is missed of it; what is noted of
other rules is left out at the end. Together, **the notes in a report are exact**: under each group
stand the rules that were kept and that some filter of the direction admits (`policy_notes`).
-/

namespace NetWarden

open MatchNotes StoreM

namespace PolicyFilter

/-! ### The filters of rules in a filter -/

mutual

/-- The filters of rules that stand anywhere in a filter, in their order. -/
def ruleFilters : PolicyFilter → List RuleFilter
  | .rules f => [f]
  | .anyOf fs => allRuleFilters fs
  | .allOf fs => allRuleFilters fs
  | .unattached => []
  | .value _ => []

/-- The filters of rules in several filters. -/
def allRuleFilters : List PolicyFilter → List RuleFilter
  | [] => []
  | f :: fs => ruleFilters f ++ allRuleFilters fs

end

section

variable {rules : List Rule} {r : Rule} {d : Direction}

/-- **What matches in a filter** is what the filters of rules in it match, one after the other. -/
theorem matchesIn_eq (rules : List Rule) (f : PolicyFilter) : f.matchesIn rules =
    f.ruleFilters.flatMap fun leaf ↦ (rules.filter leaf.admits).map (·, leaf.direction) := by
  -- what is shown of each part holds of the parts one after the other
  have hparts : ∀ fs : List PolicyFilter, (∀ g ∈ fs, g.matchesIn rules =
      g.ruleFilters.flatMap fun leaf ↦ (rules.filter leaf.admits).map (·, leaf.direction)) →
      allMatchesIn rules fs = (allRuleFilters fs).flatMap fun leaf ↦
        (rules.filter leaf.admits).map (·, leaf.direction) := by
    intro fs ih
    induction fs with
    | nil => rfl
    | cons g fs hrest =>
      rw [List.forall_mem_cons] at ih
      rw [allMatchesIn, allRuleFilters, List.flatMap_append, ih.1, hrest ih.2]
  induction f using induct with
  | rules f => simp [matchesIn, ruleFilters]
  | unattached => rfl
  | value f => rfl
  | anyOf fs ih => exact hparts fs ih
  | allOf fs ih => exact hparts fs ih

theorem mem_matchesIn_iff {f : PolicyFilter} : (r, d) ∈ f.matchesIn rules ↔
    r ∈ rules ∧ ∃ leaf ∈ f.ruleFilters, leaf.direction = d ∧ leaf.admits r = true := by
  simp only [matchesIn_eq, List.mem_flatMap, List.mem_map, List.mem_filter, Prod.mk.injEq]
  constructor
  · rintro ⟨leaf, hleaf, q, ⟨hq, hadmits⟩, rfl, rfl⟩
    exact ⟨hq, leaf, hleaf, rfl, hadmits⟩
  · rintro ⟨hr, leaf, hleaf, rfl, hadmits⟩
    exact ⟨leaf, hleaf, r, ⟨hr, hadmits⟩, rfl, rfl⟩

/-! ### What matches while rules are narrowed -/

/-- What matches in filters, one after the other, each on what the ones before it have kept. -/
def matchesAlong (ports : List NetworkPort) :
    List Rule → List PolicyFilter → List (Rule × Direction)
  | _, [] => []
  | rules, f :: fs =>
    f.matchesIn rules ++ matchesAlong ports (rules.filter fun r ↦ f.holds ports (.rule r)) fs

variable {ports : List NetworkPort} {fs : List PolicyFilter}

theorem fst_mem_of_mem_matchesAlong {f : Rule × Direction} (h : f ∈ matchesAlong ports rules fs) :
    f.1 ∈ rules := by
  induction fs generalizing rules with
  | nil => cases h
  | cons g fs ih =>
    rcases List.mem_append.mp h with h | h
    · exact (mem_matchesIn_iff.mp h).1
    · exact List.mem_of_mem_filter (ih h)

/-- **Nothing is missed of a rule that all filters keep**: it is there for each of them. -/
theorem mem_matchesAlong_iff (hr : r ∈ rules) (hkept : ∀ f ∈ fs, f.holds ports (.rule r) = true) :
    (r, d) ∈ matchesAlong ports rules fs ↔
      ∃ f ∈ fs, ∃ leaf ∈ f.ruleFilters, leaf.direction = d ∧ leaf.admits r = true := by
  induction fs generalizing rules with
  | nil => simp [matchesAlong]
  | cons f fs ih =>
    rw [List.forall_mem_cons] at hkept
    rw [matchesAlong, List.mem_append, mem_matchesIn_iff, and_iff_right hr,
      ih (List.mem_filter.mpr ⟨hr, hkept.1⟩) hkept.2, List.exists_mem_cons_iff]

end

end PolicyFilter

open PolicyFilter

namespace Run

/-- The notes that filters leave on rules are on what matches along the way. -/
theorem notedBy_rules (ports : List NetworkPort) (rules : List Rule) (n : MatchNotes)
    (fs : List PolicyFilter) : (ResourceSet.rules rules).notedBy ports n fs =
      n.noteAll (matchesAlong ports rules fs) := by
  induction fs generalizing rules n with
  | nil => rfl
  | cons f fs ih =>
    have hfirst : (ResourceSet.rules rules).filter
        (f.holdsAmong ports (ResourceSet.rules rules).groupItems) =
        .rules (rules.filter fun r ↦ f.holds ports (.rule r)) := by
      refine congrArg ResourceSet.rules (List.filter_congr fun r _ ↦ ?_)
      exact holdsWith_congr (fun g hg ↦ by cases hg) f
    rw [ResourceSet.notedBy, hfirst, ih, matchesAlong, noteAll_append]
    rfl

/-- **The notes in a report are exact.** If no rule id is doubled, then after a run that succeeds
there stand under each group and direction just the rules of the group that were kept and that some
filter of the direction, anywhere in the policy, admits; each of them once. No group stands there
without a note. -/
theorem policy_notes {d : PolicyDefinition} {p : Policy} (hp : Policy.ofDefinition d = .ok p)
    (hkind : p.kind = .rule) (isDryRun : Bool) (s : Store)
    (hids : (s.inventory.rules.map Rule.id).Nodup) {report : PolicyReport}
    (hrun : result (policy isDryRun p).run s = .ok report) :
    let kept := s.inventory.rules.filter fun r ↦
      p.filters.all fun f ↦ f.holds s.inventory.ports (.rule r)
    report.resources = .rules kept ∧
      (∀ g dir, (report.notes.matched g dir).Nodup ∧ ∀ r, r ∈ report.notes.matched g dir ↔
        r ∈ kept ∧ r.groupId = g ∧ ∃ f ∈ p.filters, ∃ leaf ∈ f.ruleFilters,
          leaf.direction = dir ∧ leaf.admits r = true) ∧
      ∀ g m, report.notes.groups.get? g = some m → ∃ dir, m.get dir ≠ [] := by
  intro kept
  have hsupported := Policy.isSupported_of_ofDefinition hp
  have hkept : (ResourceSet.ofInventory p.kind s.inventory).keptBy s.inventory.ports p.filters =
      .rules kept := keptBy_filters hkind s.inventory
  have hresources : report.resources = .rules kept :=
    (policy_of_ok isDryRun hsupported hrun).1.trans hkept
  have hfound : (ResourceSet.ofInventory p.kind s.inventory).notedBy s.inventory.ports {}
      p.filters = noteAll {} (matchesAlong s.inventory.ports s.inventory.rules p.filters) := by
    rw [hkind]
    exact notedBy_rules _ _ _ _
  have hnotes : report.notes = (noteAll {} (matchesAlong s.inventory.ports s.inventory.rules
      p.filters)).keepOnly (kept.map Rule.id) := by
    rw [notes_of_ok isDryRun hsupported hrun, hresources, hfound]
    rfl
  have hproper := hnotes ▸ isProper_keepOnly _ _
  -- two rules of the store with one id are the same
  have hinj : ∀ q ∈ s.inventory.rules, ∀ q' ∈ s.inventory.rules, q.id = q'.id → q = q' :=
    fun q hq q' hq' ↦ List.inj_on_of_nodup_map hids hq hq'
  refine ⟨hresources, fun g dir ↦ ⟨(hproper.nodup g dir).of_map _, fun r ↦ ?_⟩, hproper.nonempty⟩
  rw [hnotes, matched_keepOnly (isProper_empty.noteAll _), List.mem_filter,
    mem_matched_noteAll_iff fun f hf f' hf' ↦
      hinj _ (fst_mem_of_mem_matchesAlong hf) _ (fst_mem_of_mem_matchesAlong hf'),
    List.contains_iff_mem]
  constructor
  · -- what is noted and has the id of a rule that was kept is that rule
    rintro ⟨⟨hmatch, hgroup⟩, hid⟩
    have hr : r ∈ s.inventory.rules := fst_mem_of_mem_matchesAlong hmatch
    obtain ⟨q, hq, hqr⟩ := List.mem_map.mp hid
    obtain rfl := hinj q (List.mem_of_mem_filter hq) r hr hqr
    exact ⟨hq, hgroup,
      (mem_matchesAlong_iff hr (List.all_eq_true.mp (List.mem_filter.mp hq).2)).mp hmatch⟩
  · rintro ⟨hr, hgroup, hleaf⟩
    obtain ⟨hthere, hall⟩ := List.mem_filter.mp hr
    exact ⟨⟨(mem_matchesAlong_iff hthere (List.all_eq_true.mp hall)).mpr hleaf, hgroup⟩,
      List.mem_map_of_mem hr⟩

/-! ### Branches

One rule matches only in a branch that fails, and is kept by another; one matches and is not kept;
one is kept and matches nothing. -/

/-- The definition of a policy with branches. -/
def branchesDefinition : PolicyDefinition where
  name := "branches"
  resource := "vpc-security-group-rule"
  filters := [
    .obj [("or", .arr [
      .obj [("type", .str "ingress"), ("Protocols", .arr [.str "tcp"])],
      .obj [("and", .arr [.obj [("type", .str "ingress")],
        .obj [("type", .str "value"), ("key", .str "id"), ("value", .str "none")]])],
      .obj [("type", .str "value"), ("key", .str "protocol"), ("value", .str "udp")]])],
    .obj [("type", .str "value"), ("key", .str "id"), ("op", .str "ne"), ("value", .str "old")]]

/-- The policy of the definition. -/
def branchesPolicy : Policy where
  name := "branches"
  description := none
  kind := .rule
  filters := [
    .anyOf [.rules { direction := .ingress, protocols := some ["tcp"] },
      .allOf [.rules { direction := .ingress }, .value ⟨"id", .eq, .str "none"⟩],
      .value ⟨"protocol", .eq, .str "udp"⟩],
    .value ⟨"id", .ne, .str "old"⟩]
  actions := []

/-- A rule of a protocol. -/
def protocolRule (id groupId protocol : String) (d : Direction) : Rule :=
  { id, groupId, direction := d, protocol := some protocol }

/-- Rules of two groups. -/
def branchesStore : Store where
  inventory := {
    rules := [protocolRule "web" "a" "tcp" .ingress, protocolRule "old" "a" "tcp" .ingress,
      protocolRule "dns" "a" "udp" .ingress, protocolRule "out" "b" "udp" .egress] }
  supply := .strokes

theorem policy_notes_branches :
    Policy.ofDefinition branchesDefinition = .ok branchesPolicy ∧
      (branchesStore.inventory.rules.map Rule.id).Nodup ∧
      ∃ report, result (policy false branchesPolicy).run branchesStore = .ok report ∧
        protocolRule "dns" "a" "udp" .ingress ∈ report.notes.matched "a" .ingress ∧
        protocolRule "old" "a" "tcp" .ingress ∉ report.notes.matched "a" .ingress ∧
        report.notes.matched "b" .egress = [] := by
  have hp : Policy.ofDefinition branchesDefinition = .ok branchesPolicy := rfl
  have hids : (branchesStore.inventory.rules.map Rule.id).Nodup := by decide
  obtain ⟨t, actions, -, -, -, hrun⟩ := policy_succeeds (s := branchesStore) false
    (Policy.isSupported_of_ofDefinition hp) rfl rfl
  have hnotes := (policy_notes hp rfl false branchesStore hids hrun).2.1
  refine ⟨hp, hids, _, hrun, ((hnotes _ _).2 _).mpr (by decide +kernel),
    fun h ↦ absurd (((hnotes _ _).2 _).mp h) (by decide +kernel), ?_⟩
  -- no filter is about what goes out
  have hnone : ∀ f ∈ branchesPolicy.filters, ∀ leaf ∈ f.ruleFilters,
      leaf.direction ≠ .egress := by decide +kernel
  refine List.eq_nil_iff_forall_not_mem.mpr fun r hr ↦ ?_
  obtain ⟨-, -, f, hf, leaf, hleaf, hdirection, -⟩ := ((hnotes _ _).2 r).mp hr
  exact hnone f hf leaf hleaf hdirection

end Run

end NetWarden
