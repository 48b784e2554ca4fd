import NetWarden.CommandLine.PolicyCommands
import NetWarden.Proofs.Policy.Accepted
import NetWarden.Proofs.Run.Verdicts

/-!
# The names of policies

A document is read one definition after the other, and a name that was there before ends the
reading. What it comes to does not depend on that order: **definitions become policies just if each
of them does alone and no two have the same name**, blanks around a name left out
(`PolicySet.ofDefinitions_eq_ok_iff` for a rest of the document, whose names must also differ from
those taken before).

In a list whose keys are all different, an element is all there is with its key
(`filter_key_eq_singleton`). So a policy of a set is found by its name, and chosen by it for a run,
alone (`PolicySet.holds_each_by_name`).
-/

namespace NetWarden

open CommandLine

/-! ### Different keys -/

section

variable {α : Type} {key : α → String} {as : List α}

/-- If all keys are different, an element is all there is with its key. -/
theorem filter_key_eq_singleton (hkeys : (as.map key).Nodup) {a : α} (ha : a ∈ as) :
    as.filter (fun b ↦ key b == key a) = [a] := by
  induction as with
  | nil => exact absurd ha List.not_mem_nil
  | cons b as ih =>
    rw [List.map_cons, List.nodup_cons] at hkeys
    rcases List.mem_cons.mp ha with rfl | ha
    · rw [List.filter_cons, if_pos BEq.rfl, List.filter_eq_nil_iff.mpr fun b hb heq ↦ ?_]
      exact hkeys.1 (beq_iff_eq.mp heq ▸ List.mem_map_of_mem hb)
    · have hne : ¬ (key b == key a) = true := fun heq ↦
        hkeys.1 (beq_iff_eq.mp heq ▸ List.mem_map_of_mem ha)
      rw [List.filter_cons, if_neg hne, ih hkeys.2 ha]

end

/-! ### The parts of a filter -/

/-- A filter stands in another one, at any depth, or is that one. -/
inductive PolicyFilter.IsWithin (part : PolicyFilter) : PolicyFilter → Prop
  /-- It is the filter itself. -/
  | self : IsWithin part part
  /-- It stands in one of the filters of which one must hold. -/
  | anyOf {fs : List PolicyFilter} {f : PolicyFilter} (hf : f ∈ fs) (h : IsWithin part f) :
    IsWithin part (.anyOf fs)
  /-- It stands in one of the filters which must all hold. -/
  | allOf {fs : List PolicyFilter} {f : PolicyFilter} (hf : f ∈ fs) (h : IsWithin part f) :
    IsWithin part (.allOf fs)

/-- **What a filter is about, everything in it is about.** -/
theorem PolicyFilter.IsWithin.supports {part f : PolicyFilter} {kind : ResourceKind}
    (h : part.IsWithin f) (hf : f.supports kind = true) : part.supports kind = true := by
  induction h with
  | self => exact hf
  | anyOf hmem _ ih => exact ih (supports_of_mem hf hmem)
  | allOf hmem _ ih => exact ih (supports_of_mem hf hmem)

/-! ### Reading definitions -/

/-- **A policy has the name of its definition**, without the blanks around it. -/
theorem Policy.name_of_ofDefinition {d : PolicyDefinition} {p : Policy}
    (h : ofDefinition d = .ok p) : p.name = Text.trim d.name ∧ p.name ≠ "" := by
  rw [ofDefinition] at h
  split at h
  · cases h
  · rename_i hname
    obtain ⟨kind, -, h⟩ := bind_eq_ok_iff.mp (mapError_eq_ok_iff.mp h)
    obtain ⟨filters, -, h⟩ := bind_eq_ok_iff.mp h
    obtain ⟨⟨⟩, -, h⟩ := bind_eq_ok_iff.mp h
    obtain ⟨actions, -, h⟩ := bind_eq_ok_iff.mp h
    obtain ⟨⟨⟩, -, h⟩ := bind_eq_ok_iff.mp h
    cases h
    exact ⟨rfl, fun hempty ↦ hname (String.isEmpty_iff.mpr hempty)⟩

namespace PolicySet

variable {ds : List PolicyDefinition} {ps : List Policy} {taken : List String}

/-- **Definitions become policies just if each does alone and all names differ**, also from those
that are taken. By induction over the definitions: the name of one is taken for the rest. -/
theorem ofDefinitions_eq_ok_iff : ofDefinitions taken ds = .ok ps ↔
    List.Forall₂ (fun d p ↦ Policy.ofDefinition d = .ok p) ds ps ∧
      (ps.map Policy.name).Nodup ∧ ∀ p ∈ ps, p.name ∉ taken := by
  induction ds generalizing taken ps with
  | nil => cases ps <;> simp [ofDefinitions]
  | cons d ds ih =>
    rw [ofDefinitions, bind_eq_ok_iff, List.forall₂_cons_left_iff]
    constructor
    · rintro ⟨p, hp, h⟩
      split at h
      · cases h
      · rename_i hfree
        -- the name is free, and so it is taken for the rest
        obtain ⟨qs, hqs, h⟩ := bind_eq_ok_iff.mp h
        cases h
        obtain ⟨hread, hnodup, hnew⟩ := ih.mp hqs
        refine ⟨⟨p, qs, hp, hread, rfl⟩, ?_, ?_⟩
        · rw [List.map_cons, List.nodup_cons, List.mem_map]
          refine ⟨?_, hnodup⟩
          rintro ⟨q, hq, hname⟩
          exact hnew q hq (hname ▸ List.mem_cons_self)
        · rw [List.forall_mem_cons]
          exact ⟨fun h ↦ hfree (List.contains_iff_mem.mpr h),
            fun q hq h ↦ hnew q hq (List.mem_cons_of_mem _ h)⟩
    · rintro ⟨⟨p, qs, hp, hread, rfl⟩, hnodup, hnew⟩
      rw [List.map_cons, List.nodup_cons] at hnodup
      rw [List.forall_mem_cons] at hnew
      -- names that differ from one another differ from the first of them
      have hrest : ofDefinitions (p.name :: taken) ds = .ok qs := by
        refine ih.mpr ⟨hread, hnodup.2, fun q hq hmem ↦ ?_⟩
        rcases List.mem_cons.mp hmem with heq | hmem
        · exact hnodup.1 (heq ▸ List.mem_map_of_mem hq)
        · exact hnew.2 q hq hmem
      refine ⟨p, hp, ?_⟩
      rw [if_neg fun h ↦ hnew.1 (List.contains_iff_mem.mp h), hrest]
      rfl

/-- The policies of definitions have their names. -/
theorem map_name_of_forall₂ (h : List.Forall₂ (fun d p ↦ Policy.ofDefinition d = .ok p) ds ps) :
    ps.map Policy.name = ds.map fun d ↦ Text.trim d.name := by
  induction h with
  | nil => rfl
  | cons hp _ ih => rw [List.map_cons, List.map_cons, ih, (Policy.name_of_ofDefinition hp).1]

/-- When definitions become policies, said of the definitions. -/
theorem exists_ofDefinitions_iff : (∃ ps, ofDefinitions [] ds = .ok ps) ↔
    (∀ d ∈ ds, ∃ p, Policy.ofDefinition d = .ok p) ∧
      (ds.map fun d ↦ Text.trim d.name).Nodup := by
  simp only [ofDefinitions_eq_ok_iff]
  constructor
  · rintro ⟨ps, hread, hnodup, -⟩
    exact ⟨fun d hd ↦ exists_ok_of_mem (mapM_eq_ok_iff.mpr hread) hd,
      map_name_of_forall₂ hread ▸ hnodup⟩
  · rintro ⟨hread, hnodup⟩
    rcases h : ds.mapM Policy.ofDefinition with e | ps
    · obtain ⟨d, hd, he⟩ := exists_of_mapM_eq_error h
      obtain ⟨p, hp⟩ := hread d hd
      cases he.symm.trans hp
    · have hread := mapM_eq_ok_iff.mp h
      exact ⟨ps, hread, map_name_of_forall₂ hread ▸ hnodup, fun _ _ ↦ List.not_mem_nil⟩

/-! ### Finding policies -/

variable {set : PolicySet}

/-- Where the names differ, a policy is found by its name and chosen by it, alone. -/
theorem selected_name (hnames : (set.policies.map Policy.name).Nodup) {p : Policy}
    (hp : p ∈ set.policies) :
    set.get? p.name = some p ∧ selected set (some p.name) = .ok ⟨[p]⟩ := by
  have hfilter := filter_key_eq_singleton hnames hp
  refine ⟨?_, ?_⟩
  · rw [get?, ← List.head?_filter, hfilter]
    rfl
  · rw [selected, select?, hfilter]

/-- By another name none is found. -/
theorem selected_of_forall_ne {name : String} (h : ∀ p ∈ set.policies, p.name ≠ name) :
    set.get? name = none ∧ selected set (some name) =
      .error (.of ("Policy '" ++ name ++ "' not found in document")) := by
  have hfilter : set.policies.filter (fun p ↦ p.name == name) = [] :=
    List.filter_eq_nil_iff.mpr fun p hp heq ↦ h p hp (beq_iff_eq.mp heq)
  refine ⟨?_, ?_⟩
  · rw [get?, ← List.head?_filter, hfilter]
    rfl
  · rw [selected, select?, hfilter]

/-- **A set of policies has each definition under its own name.** A document gives a set just if
each definition alone gives a policy and no two have the same name but for the blanks around it. The
set has one policy for each definition, in their order; its name is not empty, and all its filters,
at any depth, and its actions are about its kind. By its name, letter for letter, it is found, and
chosen for a run, it and no other; by any name else, none is. -/
theorem holds_each_by_name (doc : PolicyDocument) :
    ((∃ set, ofDocument doc = .ok set) ↔
        (∀ d ∈ doc.policies, ∃ p, Policy.ofDefinition d = .ok p) ∧
          (doc.policies.map fun d ↦ Text.trim d.name).Nodup) ∧
      ∀ set, ofDocument doc = .ok set →
        List.Forall₂ (fun d p ↦ Policy.ofDefinition d = .ok p ∧
          p.name = Text.trim d.name ∧ p.name ≠ "") doc.policies set.policies ∧
        (∀ p ∈ set.policies,
          (∀ f ∈ p.filters, ∀ part : PolicyFilter, part.IsWithin f → part.supports p.kind = true) ∧
            (∀ a ∈ p.actions, a.supports p.kind = true) ∧
            set.get? p.name = some p ∧ selected set (some p.name) = .ok ⟨[p]⟩) ∧
        ∀ name, (∀ p ∈ set.policies, p.name ≠ name) → set.get? name = none ∧
          selected set (some name) =
            .error (.of ("Policy '" ++ name ++ "' not found in document")) := by
  have hdocument : ∀ set, ofDocument doc = .ok set ↔
      ofDefinitions [] doc.policies = .ok set.policies := fun set ↦ by
    rw [ofDocument, map_eq_ok_iff]
    constructor
    · rintro ⟨ps, hps, rfl⟩
      exact hps
    · exact fun h ↦ ⟨set.policies, h, rfl⟩
  refine ⟨?_, fun set hset ↦ ?_⟩
  · rw [← exists_ofDefinitions_iff]
    simp only [hdocument]
    exact ⟨fun ⟨set, h⟩ ↦ ⟨set.policies, h⟩, fun ⟨ps, h⟩ ↦ ⟨⟨ps⟩, h⟩⟩
  · obtain ⟨hread, hnames, -⟩ := ofDefinitions_eq_ok_iff.mp ((hdocument set).mp hset)
    refine ⟨hread.imp fun d p hp ↦ ⟨hp, Policy.name_of_ofDefinition hp⟩, fun p hp ↦ ?_,
      fun name ↦ selected_of_forall_ne⟩
    -- a policy is about what its own definition was found to be about
    obtain ⟨d, -, hd⟩ := exists_of_mem_ofDocument hset hp
    have hsupported := Policy.isSupported_of_ofDefinition hd
    exact ⟨fun f hf part hpart ↦ hpart.supports (hsupported.filters f hf), hsupported.actions,
      selected_name hnames hp⟩

/-- Two definitions whose names differ by more than blanks. -/
def paddedDocument : PolicyDocument where
  policies := [
    { name := " tidy\u00a0", resource := "vpc-security-group"
      filters := [.obj [("or", .arr [.obj [("and", .arr [.str "unattached"])]])]]
      actions := [.str "delete"] },
    { name := "tidy ports", resource := "huaweicloud.vpc-port" }]

/-- The policies of the document. -/
def paddedPolicies : PolicySet where
  policies := [
    { name := "tidy", description := none, kind := .group
      filters := [.anyOf [.allOf [.unattached]]], actions := [.delete] },
    { name := "tidy ports", description := none, kind := .port, filters := [], actions := [] }]

/-- The first of them is found without the blanks, and not with them. -/
theorem holds_each_by_name_padded : ofDocument paddedDocument = .ok paddedPolicies ∧
    (∃ p, paddedPolicies.get? "tidy" = some p ∧
      selected paddedPolicies (some "tidy") = .ok ⟨[p]⟩) ∧
    paddedPolicies.get? " tidy\u00a0" = none := by
  have hset : ofDocument paddedDocument = .ok paddedPolicies := rfl
  obtain ⟨-, hfound, hnone⟩ := (holds_each_by_name paddedDocument).2 paddedPolicies hset
  exact ⟨hset, ⟨_, (hfound _ List.mem_cons_self).2.2⟩, (hnone _ (by decide)).1⟩

end PolicySet

end NetWarden
