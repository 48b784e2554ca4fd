import NetWarden.Proofs.Run.FilterChains
import NetWarden.Proofs.Run.Notes

/-!
# Filters of rules one after the other

A filter of rules selects from a list by itself, and notes what it selects. A policy whose filters
are filters of rules comes to the same: **it keeps what is left when each filter selects from what
the one before it selected** (`selectInTurn`), **and its report has the notes of each filter
selecting from what is kept in the end** (`noteEach`), list by list in the same order
(`policy_selects_in_turn`).

On the way more was noted: a filter notes rules that only a later one drops. They are left out at
the end by their ids, and as the ids differ, what is left of each filter's notes is all that was
kept, in the order of the store (`filter_matchesAlong`). So at the end nothing has to be moved: the
test of the ids may as well come before each id is noted once (`distinctOn_filter`).
-/

namespace NetWarden

open MatchNotes StoreM PolicyFilter

variable {rules : List Rule} {fs : List RuleFilter}

namespace RuleFilter

/-! ### Selecting again and again -/

/-- What is left of rules when filters select, each from what the one before it selected, and the
notes after them. -/
def selectInTurn : List RuleFilter → List Rule → MatchNotes → List Rule × MatchNotes
  | [], rules, n => (rules, n)
  | f :: fs, rules, n => selectInTurn fs (f.selectNoting rules n).1 (f.selectNoting rules n).2

/-- The notes after filters select, each from the same rules. -/
def noteEach : List RuleFilter → List Rule → MatchNotes → MatchNotes
  | [], _, n => n
  | f :: fs, rules, n => noteEach fs rules (f.selectNoting rules n).2

/-- **What is left is what all filters admit.** -/
theorem selectInTurn_fst (fs : List RuleFilter) (rules : List Rule) (n : MatchNotes) :
    (selectInTurn fs rules n).1 = rules.filter fun r ↦ fs.all fun f ↦ f.admits r := by
  induction fs generalizing rules n with
  | nil => simp [selectInTurn]
  | cons f fs ih =>
    rw [selectInTurn, ih, selectNoting, List.filter_filter]
    simp only [List.all_cons, Bool.and_comm]

theorem noteEach_eq (fs : List RuleFilter) (rules : List Rule) (n : MatchNotes) :
    noteEach fs rules n =
      n.noteAll (fs.flatMap fun f ↦ (rules.filter f.admits).map (·, f.direction)) := by
  induction fs generalizing n with
  | nil => rfl
  | cons f fs ih => rw [noteEach, ih, selectNoting, List.flatMap_cons, noteAll_append]

end RuleFilter

/-! ### What is left of the notes -/

/-- If the ids differ, rules are known by them among those that pass a test. -/
theorem filter_contains_id (hids : (rules.map Rule.id).Nodup) (test : Rule → Bool) :
    rules.filter (fun r ↦ ((rules.filter test).map Rule.id).contains r.id) = rules.filter test := by
  refine List.filter_congr fun r hr ↦ ?_
  rw [Bool.eq_iff_iff, List.contains_iff_mem, List.mem_map]
  constructor
  · rintro ⟨q, hq, hid⟩
    obtain ⟨hthere, hpass⟩ := List.mem_filter.mp hq
    exact List.inj_on_of_nodup_map hids hthere hr hid ▸ hpass
  · exact fun hpass ↦ ⟨r, List.mem_filter.mpr ⟨hr, hpass⟩, rfl⟩

/-- **Of what matches along the way, each filter's part of what is kept is left**, which is all that
is kept. By induction over the filters: what the rest of them keep is the same. -/
theorem filter_matchesAlong (ports : List NetworkPort) (hids : (rules.map Rule.id).Nodup) :
    let kept := rules.filter fun r ↦ fs.all fun f ↦ f.admits r
    (matchesAlong ports rules (fs.map .rules)).filter
        (fun found ↦ (kept.map Rule.id).contains found.1.id) =
      fs.flatMap fun f ↦ (kept.filter f.admits).map (·, f.direction) := by
  induction fs generalizing rules with
  | nil => rfl
  | cons f fs ih =>
    intro kept
    have hselected : ((rules.filter f.admits).map Rule.id).Nodup :=
      hids.sublist (List.filter_sublist.map _)
    -- the rest of the filters keep the same rules of those that the first one selects
    have hkept : kept = (rules.filter f.admits).filter fun r ↦ fs.all fun f ↦ f.admits r := by
      simp only [kept, List.filter_filter, List.all_cons, Bool.and_comm]
    have hall : kept.filter f.admits = kept := List.filter_eq_self.mpr fun r hr ↦ by
      simp only [kept, List.all_cons, List.mem_filter, Bool.and_eq_true] at hr
      exact hr.2.1
    -- of what the first one matched, the rules with kept ids are the kept ones
    have hfirst : ((rules.filter f.admits).map (·, f.direction)).filter
        (fun found ↦ (kept.map Rule.id).contains found.1.id) = kept.map (·, f.direction) := by
      rw [List.filter_map, hkept]
      exact congrArg _ (filter_contains_id hselected _)
    have hrest := ih hselected
    rw [← hkept] at hrest
    rw [List.map_cons, matchesAlong, List.filter_append, List.flatMap_cons, hall]
    exact congrArg₂ _ hfirst hrest

/-- **What is left of the notes is what each filter notes of what is kept.** -/
theorem keepOnly_matchesAlong (ports : List NetworkPort) (hids : (rules.map Rule.id).Nodup) :
    let kept := rules.filter fun r ↦ fs.all fun f ↦ f.admits r
    (noteAll {} (matchesAlong ports rules (fs.map .rules))).keepOnly (kept.map Rule.id) =
      RuleFilter.noteEach fs kept {} := by
  intro kept
  have hproper : (RuleFilter.noteEach fs kept {}).IsProper := by
    rw [RuleFilter.noteEach_eq]
    exact isProper_empty.noteAll _
  refine (isProper_keepOnly _ _).ext hproper fun g d ↦ ?_
  -- both notes are proper, so they are equal if they tell the same rules of every group
  let test : String → Bool := fun id ↦ (kept.map Rule.id).contains id
  calc ((noteAll {} (matchesAlong ports rules (fs.map .rules))).keepOnly
        (kept.map Rule.id)).matched g d
      = (distinctOn Rule.id [] (foundIn g d (matchesAlong ports rules (fs.map .rules)))).filter
          fun r ↦ test r.id := by
        rw [matched_keepOnly (isProper_empty.noteAll _), matched_noteAll]
        rfl
    _ = distinctOn Rule.id [] (foundIn g d ((matchesAlong ports rules (fs.map .rules)).filter
          fun found ↦ test found.1.id)) := by
        rw [← distinctOn_filter, foundIn_filter fun r ↦ test r.id]
    _ = (RuleFilter.noteEach fs kept {}).matched g d := by
        rw [RuleFilter.noteEach_eq, matched_noteAll, filter_matchesAlong ports hids]
        rfl

namespace Run

/-- **A run of filters of rules is the filters selecting one after the other.** If no rule id is
doubled, a run of a policy of rules that has no other filters and succeeds keeps what is left when
each filter selects from what the one before it selected; its notes are those of the filters, in
their order, each selecting from what is kept. -/
theorem policy_selects_in_turn {p : Policy} (hkind : p.kind = .rule)
    (hfilters : p.filters = fs.map .rules) (isDryRun : Bool) (s : Store)
    (hids : (s.inventory.rules.map Rule.id).Nodup) {report : PolicyReport}
    (hrun : result (policy isDryRun p).run s = .ok report) :
    let kept := (RuleFilter.selectInTurn fs s.inventory.rules {}).1
    report.resources = .rules kept ∧ report.notes = RuleFilter.noteEach fs kept {} := by
  intro kept
  have hkept : kept = s.inventory.rules.filter fun r ↦ fs.all fun f ↦ f.admits r :=
    RuleFilter.selectInTurn_fst _ _ _
  have hsupports : ∀ f ∈ p.filters, f.supports .rule = true := by
    rw [hfilters]
    intro f hf
    obtain ⟨g, -, rfl⟩ := List.mem_map.mp hf
    rfl
  -- the run in its steps: what is listed, what is left of it, and the actions
  rw [policy_eq] at hrun
  obtain ⟨listed, hlisted, hrun⟩ := result_run_bind_eq_ok_iff.mp hrun
  obtain ⟨left, hleft, hrun⟩ := result_run_bind_eq_ok_iff.mp hrun
  obtain ⟨actions, -, hrun⟩ := result_run_bind_eq_ok_iff.mp hrun
  cases hrun
  obtain rfl : listed = .rules s.inventory.rules := by
    rw [(lists_list p.kind).eq_of_ok hlisted, hkind]
    rfl
  rw [narrow_rules hsupports, notedBy_rules, hfilters] at hleft
  cases hleft
  have hleft : ∀ ports, (s.inventory.rules.filter fun r ↦
      (fs.map PolicyFilter.rules).all fun f ↦ f.holds ports (.rule r)) = kept := fun ports ↦ by
    rw [hkept]
    simp only [List.all_map]
    rfl
  show ResourceSet.rules _ = _ ∧ keepOnly _ _ = _
  rw [hleft, hkept, keepOnly_matchesAlong _ hids]
  exact ⟨rfl, rfl⟩

/-! ### A chain

Three filters, each content with one of its answers, so that they match rules of the other direction
too. The first notes all rules, and each of the others drops one. -/

/-- The filters of the chain. -/
def chainFilters : List RuleFilter :=
  [{ direction := .ingress, operator := .or, protocols := some ["tcp"] },
    { direction := .egress, operator := .or, protocols := some ["tcp"] },
    { direction := .egress, operator := .or, ruleIds := some ["web"] }]

/-- A policy with the filters and nothing else. -/
def chainPolicy : Policy where
  name := "chain"
  description := none
  kind := .rule
  filters := chainFilters.map .rules
  actions := [.delete]

/-- Rules of two groups. -/
def chainStore : Store where
  inventory := {
    rules := [protocolRule "old" "a" "tcp" .ingress, protocolRule "web" "a" "tcp" .ingress,
      protocolRule "dns" "a" "udp" .ingress, protocolRule "out" "b" "tcp" .egress] }
  supply := .strokes

/-- Two rules are kept, and the notes on each stand under both directions. -/
theorem policy_selects_in_turn_chain :
    (chainStore.inventory.rules.map Rule.id).Nodup ∧
      ∃ report, result (policy false chainPolicy).run chainStore = .ok report ∧
        report.resources = .rules [protocolRule "web" "a" "tcp" .ingress,
          protocolRule "out" "b" "tcp" .egress] ∧
        report.notes.matched "a" .egress = [protocolRule "web" "a" "tcp" .ingress] ∧
        report.notes.matched "b" .ingress = [protocolRule "out" "b" "tcp" .egress] := by
  have hids : (chainStore.inventory.rules.map Rule.id).Nodup := by decide
  have hsupported : chainPolicy.IsSupported := ⟨by decide, by decide⟩
  obtain ⟨t, actions, -, -, -, hrun⟩ := policy_succeeds (s := chainStore) false hsupported rfl rfl
  obtain ⟨hresources, hnotes⟩ :=
    policy_selects_in_turn (p := chainPolicy) rfl rfl false chainStore hids hrun
  refine ⟨hids, _, hrun, hresources.trans (by decide +kernel), ?_, ?_⟩
  · rw [hnotes]
    decide +kernel
  · rw [hnotes]
    decide +kernel

end Run

end NetWarden
