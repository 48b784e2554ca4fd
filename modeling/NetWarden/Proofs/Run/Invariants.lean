import NetWarden.Proofs.Run.Policies

/-!
# What holds throughout a run

A property of the store that every action keeps holds throughout a run. Listings and filters change
nothing but the record of calls, and where they fail nothing else comes after them; so **a run of a
policy keeps what its actions keep, whether it succeeds or not** (`policy_keeps`), and with the
store one can follow what each action tells. Policies one after the other keep what each of them
keeps, up to the one that fails (`policies_keep`).
-/

namespace NetWarden.Run

open StoreM

variable (keeps : Store → Prop) (tells : ActionReport → Prop) (isDryRun : Bool) {s : Store}

/-- **What every action keeps, all of them keep**, and so it is with what they tell. -/
theorem perform_keeps {actions : List PolicyAction} {resources : ResourceSet}
    (hactions : ∀ a ∈ actions, a.supports resources.kind = true)
    (hstep : ∀ a ∈ actions, ∀ t report, keeps t → result (execute resources a).run t = .ok report →
      keeps (after (execute resources a).run t) ∧ tells report) (hs : keeps s) :
    keeps (after (perform isDryRun actions resources).run s) ∧
      ∀ reports, result (perform isDryRun actions resources).run s = .ok reports →
        ∀ r ∈ reports, tells r := by
  cases isDryRun with
  | true =>
    refine ⟨hs, fun reports hreports ↦ ?_⟩
    cases hreports
    exact fun r hr ↦ absurd hr List.not_mem_nil
  | false =>
    show keeps (after (actions.mapM (execute resources)).run s) ∧
      ∀ reports, result (actions.mapM (execute resources)).run s = .ok reports →
        ∀ r ∈ reports, tells r
    -- by induction over the actions, from any store that the ones before may have left
    induction actions generalizing s with
    | nil =>
      refine ⟨hs, fun reports hreports ↦ ?_⟩
      cases hreports
      exact fun r hr ↦ absurd hr List.not_mem_nil
    | cons a actions ih =>
      obtain ⟨report, hreport⟩ := result_execute (hactions a List.mem_cons_self) s
      obtain ⟨hnext, htells⟩ := hstep a List.mem_cons_self s report hs hreport
      obtain ⟨hafter, hrest⟩ := ih (fun b hb ↦ hactions b (List.mem_cons_of_mem _ hb))
        (fun b hb ↦ hstep b (List.mem_cons_of_mem _ hb)) hnext
      rw [List.mapM_cons, after_run_bind_of_ok hreport]
      refine ⟨?_, fun reports h ↦ ?_⟩
      · rw [ExceptT.run_bind, after_bind]
        split <;> exact hafter
      · rw [result_run_bind_of_ok hreport] at h
        obtain ⟨rest, hrest', h⟩ := result_run_bind_eq_ok_iff.mp h
        cases h
        exact List.forall_mem_cons.mpr ⟨htells, hrest rest hrest'⟩

/-- **A run of a policy keeps what its actions keep**, however it ends. -/
theorem policy_keeps {p : Policy} (hp : p.IsSupported) {kept : ResourceSet}
    (hkept : (ResourceSet.ofInventory p.kind s.inventory).keptBy s.inventory.ports p.filters = kept)
    (hstart : ∀ t, s.Unchanged t → keeps t)
    (hstep : ∀ a ∈ p.actions, ∀ t report, keeps t → result (execute kept a).run t = .ok report →
      keeps (after (execute kept a).run t) ∧ tells report) :
    keeps (after (policy isDryRun p).run s) ∧
      ∀ report, result (policy isDryRun p).run s = .ok report → ∀ r ∈ report.actions, tells r := by
  have hkind : kept.kind = p.kind := by
    rw [← hkept, ResourceSet.kind_keptBy, ResourceSet.kind_ofInventory]
  rcases hlist : s.blocks p.kind.listing with - | -
  · rcases hlookup : (ResourceSet.ofInventory p.kind s.inventory).reachesLookup s.inventory.ports
      p.filters && s.blocks .listPorts with - | -
    · obtain ⟨t, actions, ht, hactions, hafter, hreport⟩ :=
        policy_succeeds isDryRun hp hlist hlookup
      rw [hkept] at hactions hafter
      -- the actions begin at a store in which nothing was changed
      obtain ⟨hkeeps, htells⟩ := perform_keeps keeps tells isDryRun
        (fun a ha ↦ hkind ▸ hp.actions a ha) hstep (hstart t ht)
      rw [hafter, hreport]
      refine ⟨hkeeps, fun report h ↦ ?_⟩
      cases h
      exact htells actions hactions
    · obtain ⟨⟨e, he⟩, hthere⟩ := policy_lookup_fails isDryRun hp hlist hlookup
      exact ⟨hstart _ hthere, fun report h ↦ by cases he.symm.trans h⟩
  · obtain ⟨⟨e, he⟩, hthere⟩ := policy_listing_fails isDryRun hlist
    exact ⟨hstart _ hthere, fun report h ↦ by cases he.symm.trans h⟩

/-- **Policies succeed one after the other**: the first from where the run begins, and the others
from where it ended. -/
theorem policies_cons_eq_ok_iff {isDryRun : Bool} {p : Policy} {ps : List Policy}
    {reports : List PolicyReport} : result (policies isDryRun (p :: ps)).run s = .ok reports ↔
      ∃ report rest, result (policy isDryRun p).run s = .ok report ∧
        result (policies isDryRun ps).run (after (policy isDryRun p).run s) = .ok rest ∧
        reports = report :: rest := by
  rw [policies, result_run_bind_eq_ok_iff]
  constructor
  · rintro ⟨report, hreport, h⟩
    obtain ⟨rest, hrest, h⟩ := result_run_bind_eq_ok_iff.mp h
    cases h
    -- only the failure of a policy is told under its name; its report is the same
    exact ⟨report, rest, mapError_eq_ok_iff.mp hreport, hrest, rfl⟩
  · rintro ⟨report, rest, hreport, hrest, rfl⟩
    exact ⟨report, mapError_eq_ok_iff.mpr hreport,
      result_run_bind_eq_ok_iff.mpr ⟨rest, hrest, rfl⟩⟩

theorem after_policies_cons_of_ok {isDryRun : Bool} {p : Policy} {report : PolicyReport}
    (h : result (policy isDryRun p).run s = .ok report) (ps : List Policy) :
    after (policies isDryRun (p :: ps)).run s =
      after (policies isDryRun ps).run (after (policy isDryRun p).run s) := by
  have hfirst : result ((policy isDryRun p).adapt (PolicyFailure.mk p.name)).run s = .ok report :=
    mapError_eq_ok_iff.mpr h
  rw [policies, after_run_bind_of_ok hfirst, ExceptT.run_bind, after_bind]
  split <;> rfl

/-- **Policies keep what each of them keeps**, also those up to one that fails. -/
theorem policies_keep {ps : List Policy}
    (hpolicy : ∀ p ∈ ps, ∀ t, keeps t → keeps (after (policy isDryRun p).run t)) (hs : keeps s) :
    keeps (after (policies isDryRun ps).run s) := by
  induction ps generalizing s with
  | nil => exact hs
  | cons p ps ih =>
    -- under its name, the failure of a policy leaves the same store
    have hfirst : keeps (after ((policy isDryRun p).adapt (PolicyFailure.mk p.name)).run s) :=
      hpolicy p List.mem_cons_self s hs
    rw [policies, ExceptT.run_bind, after_bind]
    split
    · have hrest := ih (fun q hq ↦ hpolicy q (List.mem_cons_of_mem _ hq)) hfirst
      show keeps (after (policies isDryRun ps >>= fun reports ↦ _).run _)
      rw [ExceptT.run_bind, after_bind]
      split <;> exact hrest
    · exact hfirst

end NetWarden.Run
