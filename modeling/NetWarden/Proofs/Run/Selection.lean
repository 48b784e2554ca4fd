import NetWarden.Proofs.Run.Invariants

/-!
# What a policy selects

A run of a policy has two parts. The first is its *selection*: the resources of its kind are listed,
and its filters keep some of them. The second performs its actions on these. **All that can fail is
the selection, and it changes nothing**; all that a report tells but for the actions is settled with
it (`policy_of_select_error`, `policy_of_select_ok`).

A dry run ends with the selection. So it is a preview: it gives what the run itself would give from
the same store, without the actions, and where that run would fail it fails in the same way
(`dryRun_eq_preview`). **Dry runs of policies change nothing**, and no action is told
(`policies_dryRun`).
-/

namespace NetWarden

open Store StoreM

/-- What a policy has selected. -/
structure Selection where
  /-- The number of resources that were listed. -/
  scanned : Nat
  /-- The resources that the filters kept. -/
  resources : ResourceSet
  /-- The notes on the rules among them that matched. -/
  notes : MatchNotes

/-- What a run tells of a policy that has selected this. -/
def Selection.report (sel : Selection) (isDryRun : Bool) (p : Policy)
    (actions : List ActionReport) : PolicyReport where
  policy := p.name
  isDryRun := isDryRun
  scanned := sel.scanned
  resources := sel.resources
  notes := sel.notes
  actions := actions

/-- What a report tells but for the actions. -/
def PolicyReport.preview (r : PolicyReport) : PolicyReport :=
  { r with isDryRun := true, actions := [] }

namespace Run

variable {p : Policy} {s : Store} {sel : Selection}

/-- The first part of a run: resources are listed, and some of them are kept. -/
def select (p : Policy) : RunM Selection := do
  let listed ← list p.kind
  let kept ← narrow listed {} p.filters
  return { scanned := listed.size, resources := kept.1, notes := keptNotes kept.1 kept.2 }

/-- The two parts of a run. -/
theorem policy_eq_select (isDryRun : Bool) (p : Policy) : policy isDryRun p = do
    let sel ← select p
    let actions ← perform isDryRun p.actions sel.resources
    return sel.report isDryRun p actions := by
  rw [policy_eq, select]
  simp only [bind_assoc, pure_bind]
  rfl

/-! ### The selection -/

/-- **Selecting changes nothing**, whether it succeeds or not. -/
theorem unchanged_select (hp : p.IsSupported) : Keeps Unchanged (select p).run := by
  intro s
  have hlisted := (lists_list p.kind).unchanged s
  rcases hlist : s.blocks p.kind.listing with - | -
  · have hthere := (asks_filters hp s.inventory).unchanged _
      (congrArg Inventory.ports hlisted.inventory)
    rw [select, after_run_bind_of_ok ((lists_list p.kind).result_ok s hlist), ExceptT.run_bind,
      after_bind]
    split <;> exact hlisted.trans hthere
  · obtain ⟨e, he⟩ := (lists_list p.kind).result_error s hlist
    rw [select, after_run_bind_of_error he]
    exact hlisted

theorem kind_of_list {kind : ResourceKind} {resources : ResourceSet}
    (h : result (list kind).run s = .ok resources) : resources.kind = kind := by
  rw [(lists_list kind).eq_of_ok h]
  exact ResourceSet.kind_ofInventory kind _

theorem kind_of_narrow {fs : List PolicyFilter} {resources : ResourceSet} {notes : MatchNotes}
    {kept : ResourceSet × MatchNotes} (h : result (narrow resources notes fs).run s = .ok kept) :
    kept.1.kind = resources.kind := by
  induction fs generalizing resources notes s with
  | nil =>
    cases h
    rfl
  | cons f fs ih =>
    obtain ⟨m, -, h⟩ := result_run_bind_eq_ok_iff.mp h
    exact (ih h).trans (ResourceSet.kind_keep resources m)

/-- What is selected is of the policy's kind. -/
theorem kind_of_select (h : result (select p).run s = .ok sel) : sel.resources.kind = p.kind := by
  obtain ⟨listed, hlisted, h⟩ := result_run_bind_eq_ok_iff.mp h
  obtain ⟨kept, hkept, h⟩ := result_run_bind_eq_ok_iff.mp h
  cases h
  exact (kind_of_narrow hkept).trans (kind_of_list hlisted)

/-! ### The two parts together -/

/-- **Where the selection fails, the run ends.** -/
theorem policy_of_select_error (isDryRun : Bool) {e : RunError}
    (h : result (select p).run s = .error e) :
    result (policy isDryRun p).run s = .error e ∧
      after (policy isDryRun p).run s = after (select p).run s := by
  rw [policy_eq_select]
  exact ⟨result_run_bind_of_error h, after_run_bind_of_error h⟩

/-- **Where the selection succeeds, so does the run**: its actions are performed, and its report
tells of both. -/
theorem policy_of_select_ok (hp : p.IsSupported) (isDryRun : Bool)
    (h : result (select p).run s = .ok sel) :
    ∃ actions,
      result (perform isDryRun p.actions sel.resources).run (after (select p).run s) =
        .ok actions ∧
      result (policy isDryRun p).run s = .ok (sel.report isDryRun p actions) ∧
      after (policy isDryRun p).run s =
        after (perform isDryRun p.actions sel.resources).run (after (select p).run s) := by
  obtain ⟨actions, hactions⟩ := result_perform isDryRun sel.resources
    (fun a ha ↦ by rw [kind_of_select h]; exact hp.actions a ha) (after (select p).run s)
  rw [policy_eq_select]
  refine ⟨actions, hactions, ?_, ?_⟩
  · rw [result_run_bind_of_ok h, result_run_bind_of_ok hactions]
    rfl
  · rw [after_run_bind_of_ok h, after_run_bind_of_ok hactions]
    rfl

/-! ### Dry runs -/

/-- **A dry run gives a preview of the run**, and fails in the same way. -/
theorem dryRun_eq_preview (hp : p.IsSupported) (s : Store) :
    result (policy true p).run s = (result (policy false p).run s).map PolicyReport.preview := by
  rcases h : result (select p).run s with e | sel
  · rw [(policy_of_select_error true h).1, (policy_of_select_error false h).1]
    rfl
  · obtain ⟨actions, hactions, htrue, -⟩ := policy_of_select_ok hp true h
    obtain ⟨_, -, hfalse, -⟩ := policy_of_select_ok hp false h
    -- no action is performed
    cases hactions
    rw [htrue, hfalse]
    rfl

/-- A dry run that succeeds is the preview of a run that succeeds. -/
theorem exists_of_dryRun_eq_ok (hp : p.IsSupported) {preview : PolicyReport}
    (h : result (policy true p).run s = .ok preview) :
    ∃ report, result (policy false p).run s = .ok report ∧ report.preview = preview := by
  rw [dryRun_eq_preview hp] at h
  rcases hreal : result (policy false p).run s with e | report
  · rw [hreal] at h
    cases h
  · rw [hreal] at h
    exact ⟨report, rfl, Except.ok.inj h⟩

/-- A dry run fails just where the run itself fails, and says the same. -/
theorem dryRun_eq_error_iff (hp : p.IsSupported) {e : RunError} :
    result (policy true p).run s = .error e ↔ result (policy false p).run s = .error e := by
  rw [dryRun_eq_preview hp]
  rcases result (policy false p).run s with e' | report
  · exact Iff.rfl
  · constructor <;> intro h <;> cases h

/-- **A dry run changes nothing.** -/
theorem unchanged_dryRun (hp : p.IsSupported) : Keeps Unchanged (policy true p).run := by
  intro s
  rcases h : result (select p).run s with e | sel
  · rw [(policy_of_select_error true h).2]
    exact unchanged_select hp s
  · obtain ⟨actions, -, -, hafter⟩ := policy_of_select_ok hp true h
    rw [hafter]
    exact unchanged_select hp s

/-- What holds of the report of each policy holds of all reports of a run. -/
theorem forall_mem_of_policies {tells : PolicyReport → Prop} {isDryRun : Bool} {ps : List Policy}
    (hpolicy : ∀ p ∈ ps, ∀ t report, result (policy isDryRun p).run t = .ok report → tells report)
    {reports : List PolicyReport} (hrun : result (policies isDryRun ps).run s = .ok reports) :
    ∀ r ∈ reports, tells r := by
  induction ps generalizing s reports with
  | nil =>
    cases hrun
    exact fun r hr ↦ absurd hr List.not_mem_nil
  | cons p ps ih =>
    obtain ⟨report, rest, hreport, hrest, rfl⟩ := policies_cons_eq_ok_iff.mp hrun
    exact List.forall_mem_cons.mpr ⟨hpolicy p List.mem_cons_self s report hreport,
      ih (fun q hq ↦ hpolicy q (List.mem_cons_of_mem _ hq)) hrest⟩

/-- **Dry runs change nothing, and show what would be done.** However policies end, nothing but the
record of calls is different after a dry run of them, and no action is told. Of a single policy the
dry run fails just where the run itself fails, with the same error; else the two tell the same of
what was listed, what was kept, and the notes on it. -/
theorem policies_dryRun {ps : List Policy} (hps : ∀ p ∈ ps, ∃ d, Policy.ofDefinition d = .ok p)
    (s : Store) :
    s.Unchanged (after (policies true ps).run s) ∧
      (∀ reports, result (policies true ps).run s = .ok reports →
        ∀ r ∈ reports, r.isDryRun = true ∧ r.actions = []) ∧
      ∀ p ∈ ps,
        (∀ e, result (policy true p).run s = .error e ↔ result (policy false p).run s = .error e) ∧
        ∀ preview, result (policy true p).run s = .ok preview →
          ∃ report, result (policy false p).run s = .ok report ∧
            preview.scanned = report.scanned ∧ preview.matched = report.matched ∧
            preview.resources = report.resources ∧ preview.notes = report.notes := by
  have hsupported : ∀ p ∈ ps, p.IsSupported := fun p hp ↦ by
    obtain ⟨d, hd⟩ := hps p hp
    exact Policy.isSupported_of_ofDefinition hd
  refine ⟨?_, fun reports hreports ↦ ?_, fun p hp ↦ ?_⟩
  · exact policies_keep (s.Unchanged ·) true
      (fun p hp t ht ↦ ht.trans (unchanged_dryRun (hsupported p hp) t)) (.refl s)
  · refine forall_mem_of_policies (fun p hp t report hreport ↦ ?_) hreports
    obtain ⟨_, -, rfl⟩ := exists_of_dryRun_eq_ok (hsupported p hp) hreport
    exact ⟨rfl, rfl⟩
  · refine ⟨fun e ↦ dryRun_eq_error_iff (hsupported p hp), fun preview hpreview ↦ ?_⟩
    obtain ⟨report, hreport, rfl⟩ := exists_of_dryRun_eq_ok (hsupported p hp) hpreview
    exact ⟨report, hreport, rfl, rfl, rfl, rfl⟩

/-- A group that is deleted by the run is only shown by the dry run. -/
theorem policies_dryRun_nested :
    (∀ p ∈ [nestedPolicy], ∃ d, Policy.ofDefinition d = .ok p) ∧
      (nestedStore []).Unchanged (after (policies true [nestedPolicy]).run (nestedStore [])) ∧
      ((after (policies false [nestedPolicy]).run (nestedStore [])).inventory.groups.map Group.id =
        ["given", "bound", "free"]) ∧
      ∃ preview report, result (policy true nestedPolicy).run (nestedStore []) = .ok preview ∧
        result (policy false nestedPolicy).run (nestedStore []) = .ok report ∧
        preview.scanned = report.scanned ∧ preview.matched = report.matched ∧
        preview.resources = report.resources ∧ preview.notes = report.notes := by
  have hp : Policy.ofDefinition nestedDefinition = .ok nestedPolicy := rfl
  have haccepted : ∀ p ∈ [nestedPolicy], ∃ d, Policy.ofDefinition d = .ok p := fun p hmem ↦
    ⟨nestedDefinition, by rw [List.mem_singleton.mp hmem]; exact hp⟩
  obtain ⟨hunchanged, -, hsame⟩ := policies_dryRun haccepted (nestedStore [])
  obtain ⟨_, _, -, -, -, hpreview⟩ := policy_succeeds (s := nestedStore []) true
    (Policy.isSupported_of_ofDefinition hp) rfl rfl
  obtain ⟨report, hreport, htold⟩ := (hsame nestedPolicy List.mem_cons_self).2 _ hpreview
  exact ⟨haccepted, hunchanged, by decide +kernel, _, report, hpreview, hreport, htold⟩

end Run

end NetWarden
