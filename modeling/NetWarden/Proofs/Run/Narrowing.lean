import NetWarden.Proofs.Bulk.Distinct
import NetWarden.Proofs.Policy.Accepted
import NetWarden.Proofs.Run.Verdicts
import NetWarden.Proofs.Store.Effects

/-!
# Narrowing

What the filters of a policy keep of the resources that were listed. All that a filter learns from
the store is which ports there are, and only a group filter can fail, by not learning it. `Asks`
says this of a step: what it gives is decided by the ports, it fails just if it asks for them and
the store does not list any, and it changes nothing. `Asks.bind` joins two such steps, so **one
lemma for each kind of filter carries trees of filters and sequences of them** (`asks_mask`,
`asks_narrow`).

What is kept is said by `ResourceSet.keptBy`, filter after filter, and `keptBy_eq_filter` makes one
test of all of them. Whether ports are asked for is said by `ResourceSet.reachesLookup`: the filters
must come to one that asks while resources are left.
-/

namespace NetWarden

open StoreM

namespace ResourceSet

variable (ports : List NetworkPort)

/-- The resources that filters keep, each filter looking at what the one before it kept. -/
def keptBy : ResourceSet → List PolicyFilter → ResourceSet
  | resources, [] => resources
  | resources, f :: fs =>
    (resources.filter (f.holdsAmong ports resources.groupItems)).keptBy fs

/-- The notes that filters leave, each on what the one before it kept. -/
def notedBy : ResourceSet → MatchNotes → List PolicyFilter → MatchNotes
  | _, notes, [] => notes
  | resources, notes, f :: fs =>
    (resources.filter (f.holdsAmong ports resources.groupItems)).notedBy
      (notes.noteAll (f.matchesIn resources.ruleItems)) fs

/-- Whether filters come to one that asks for ports while resources are left. -/
def reachesLookup : ResourceSet → List PolicyFilter → Bool
  | _, [] => false
  | resources, f :: fs =>
    (f.looksUpPorts && resources.size != 0) ||
      (resources.filter (f.holdsAmong ports resources.groupItems)).reachesLookup fs

variable {ports}

@[simp] theorem kind_keptBy (resources : ResourceSet) (fs : List PolicyFilter) :
    (resources.keptBy ports fs).kind = resources.kind := by
  induction fs generalizing resources with
  | nil => rfl
  | cons f fs ih => rw [keptBy, ih, kind_filter]

theorem ruleItems_keptBy_sublist (resources : ResourceSet) (fs : List PolicyFilter) :
    (resources.keptBy ports fs).ruleItems.Sublist resources.ruleItems := by
  induction fs generalizing resources with
  | nil => exact .refl _
  | cons f fs ih => exact (ih _).trans (ruleItems_filter_sublist _ _)

/-- **What one filter after the other keeps is what all of them hold of**, if the ids of the groups
are all different. -/
theorem keptBy_eq_filter {resources : ResourceSet}
    (hids : (resources.groupItems.map Group.id).Nodup) (fs : List PolicyFilter) :
    resources.keptBy ports fs = resources.filter fun r ↦ fs.all fun f ↦ f.holds ports r := by
  induction fs generalizing resources with
  | nil => exact resources.filter_true.symm
  | cons f fs ih =>
    have hfirst : resources.filter (f.holdsAmong ports resources.groupItems) =
        resources.filter fun r ↦ f.holds ports r := by
      refine resources.filter_congr fun r hr ↦ ?_
      exact PolicyFilter.holdsAmong_eq_holds ports hids (fun g hg ↦ mem_groupItems (hg ▸ hr)) f
    have hleft := (groupItems_filter_sublist resources fun r ↦ f.holds ports r).map Group.id
    rw [keptBy, hfirst, ih (hids.sublist hleft), filter_filter]
    simp only [List.all_cons]

/-- Filters come to a lookup if one that asks for ports stands where resources are left. -/
theorem reachesLookup_iff {resources : ResourceSet} {fs : List PolicyFilter} :
    resources.reachesLookup ports fs = true ↔ ∃ before f behind, fs = before ++ f :: behind ∧
      f.looksUpPorts = true ∧ (resources.keptBy ports before).size ≠ 0 := by
  induction fs generalizing resources with
  | nil => simp [reachesLookup]
  | cons f fs ih =>
    rw [reachesLookup, Bool.or_eq_true, Bool.and_eq_true, bne_iff_ne, ih]
    constructor
    · rintro (h | ⟨before, g, behind, rfl, h⟩)
      · exact ⟨[], f, fs, rfl, h⟩
      · exact ⟨f :: before, g, behind, rfl, h⟩
    · rintro ⟨before, g, behind, hfs, h⟩
      rcases List.cons_eq_append_iff.mp hfs with ⟨rfl, hgs⟩ | ⟨before, rfl, rfl⟩
      · cases hgs
        exact .inl h
      · exact .inr ⟨before, g, behind, rfl, h⟩

end ResourceSet

namespace Run

variable {α β : Type} {s t : Store}

/-! ### Steps that ask for ports -/

/-- With these ports in the store, a step changes nothing and gives an answer, unless it asks for
ports and the store lists none. -/
structure Asks (ports : List NetworkPort) (asks : Bool) (answer : α) (x : RunM α) : Prop where
  /-- Nothing but the record of calls is different. -/
  unchanged : ∀ s : Store, s.inventory.ports = ports → s.Unchanged (after x.run s)
  /-- If nothing is asked or ports are listed, the step gives the answer. -/
  result_ok : ∀ s : Store, s.inventory.ports = ports → (asks && s.blocks .listPorts) = false →
    result x.run s = .ok answer
  /-- Else it fails, and says that ports could not be listed. -/
  result_error : ∀ s : Store, s.inventory.ports = ports → (asks && s.blocks .listPorts) = true →
    ∃ e, result x.run s = .error (.portLookup e)

namespace Asks

variable {ports : List NetworkPort} {asks asks' : Bool} {a : α} {b : β}

theorem pure (ports : List NetworkPort) (a : α) : Asks ports false a (Pure.pure a : RunM α) :=
  ⟨fun s _ ↦ .refl s, fun _ _ _ ↦ rfl, fun _ _ h ↦ absurd h (by simp)⟩

theorem bind {x : RunM α} {f : α → RunM β} (hx : Asks ports asks a x)
    (hf : Asks ports asks' b (f a)) : Asks ports (asks || asks') b (x >>= f) := by
  -- where the first step succeeds, the second begins at a store that answers in the same way
  have hnext : ∀ s : Store, s.inventory.ports = ports → (after x.run s).inventory.ports = ports ∧
      (after x.run s).blocks .listPorts = s.blocks .listPorts := fun s hs ↦
    ⟨by rw [(hx.unchanged s hs).inventory, hs], (hx.unchanged s hs).blocks_eq _⟩
  refine ⟨fun s hs ↦ ?_, fun s hs h ↦ ?_, fun s hs h ↦ ?_⟩
  · rcases hb : asks && s.blocks .listPorts with - | -
    · rw [after_run_bind_of_ok (hx.result_ok s hs hb)]
      exact (hx.unchanged s hs).trans (hf.unchanged _ (hnext s hs).1)
    · obtain ⟨e, he⟩ := hx.result_error s hs hb
      rw [after_run_bind_of_error he]
      exact hx.unchanged s hs
  · rw [Bool.and_or_distrib_right, Bool.or_eq_false_iff] at h
    rw [result_run_bind_of_ok (hx.result_ok s hs h.1)]
    exact hf.result_ok _ (hnext s hs).1 (by rw [(hnext s hs).2]; exact h.2)
  · rcases hb : asks && s.blocks .listPorts with - | -
    · rw [Bool.and_or_distrib_right, hb, Bool.false_or] at h
      rw [result_run_bind_of_ok (hx.result_ok s hs hb)]
      exact hf.result_error _ (hnext s hs).1 (by rw [(hnext s hs).2]; exact h)
    · obtain ⟨e, he⟩ := hx.result_error s hs hb
      exact ⟨e, result_run_bind_of_error he⟩

/-- What comes after a step without asking asks for no more. -/
theorem and_pure {x : RunM α} (hx : Asks ports asks a x) (f : α → β) :
    Asks ports asks (f a) (x >>= fun c ↦ Pure.pure (f c)) := by
  have h : Asks ports (asks || false) (f a) (x >>= fun c ↦ Pure.pure (f c)) :=
    hx.bind (.pure ports (f a))
  rwa [Bool.or_false] at h

end Asks

/-! ### Groups without ports -/

@[simp] theorem result_require (error : TransportError → RunError) (call : Attempt α) (s : Store) :
    result (require error call).run s = (call.result s).mapError error := by
  have hcall : result (liftM call : RunM (Except TransportError α)).run s = .ok (call.result s) :=
    rfl
  rw [require, result_run_bind_of_ok hcall]
  rcases call.result s with e | a <;> rfl

@[simp] theorem after_require (error : TransportError → RunError) (call : Attempt α) (s : Store) :
    after (require error call).run s = call.after s := by
  have hcall : result (liftM call : RunM (Except TransportError α)).run s = .ok (call.result s) :=
    rfl
  rw [require, after_run_bind_of_ok hcall]
  rcases call.result s with e | a <;> rfl

/-- The ports bound to some groups are all that must be known of each of them. -/
theorem isUnattached_filter {ports : List NetworkPort} {ids : List String} {g : Group}
    (hg : g.id ∈ ids) :
    Bulk.isUnattached (ports.filter fun p ↦ p.groupIds.any ids.contains) g = g.isFree ports := by
  have hbound : ∀ p : NetworkPort,
      (p.groupIds.any ids.contains && p.groupIds.contains g.id) = p.groupIds.contains g.id := by
    intro p
    rcases h : p.groupIds.contains g.id with - | -
    · rw [Bool.and_false]
    · rw [Bool.and_true, List.any_eq_true]
      exact ⟨g.id, List.contains_iff_mem.mp h, List.contains_iff_mem.mpr hg⟩
  rw [Bulk.isUnattached, Group.isFree, List.any_filter, List.not_any_eq_all_not]
  simp only [hbound]

/-- **The groups without ports are asked for with one call**, and with none if there are no
groups. -/
theorem asks_unattachedGroups (ports : List NetworkPort) (groups : List Group) :
    Asks ports (!groups.isEmpty) (groups.filter (Group.isFree ports))
      (require .portLookup (Bulk.unattachedGroups groups)) := by
  rcases hempty : groups.isEmpty with - | -
  · -- some groups: the call is made, and its answer is cut down to ports of these groups
    have hcall : Bulk.unattachedGroups groups = do
        let ports ← Store.listPorts (sortedDistinct (groups.map Group.id))
        return ports.map fun ports ↦ groups.filter (Bulk.isUnattached ports) := by
      rw [Bulk.unattachedGroups, hempty]
      rfl
    rw [hcall]
    refine ⟨fun s _ ↦ ?_, fun s hs h ↦ ?_, fun s hs h ↦ ?_⟩
    · rw [after_require]
      exact Store.unchanged_listPorts _ s
    · rw [Bool.not_false, Bool.true_and] at h
      have hlist : result (Store.listPorts (sortedDistinct (groups.map Group.id))) s = .ok _ :=
        Store.result_attempt_of_permits _
          (by rw [Store.permits_eq_not_blocks rfl]; exact Bool.not_eq_true' _ ▸ h)
      rw [result_require, result_bind, hlist, hs]
      -- a port of one of the groups is among those that were asked for
      refine congrArg Except.ok (List.filter_congr fun g hg ↦ ?_)
      exact isUnattached_filter (mem_sortedDistinct.mpr (List.mem_map_of_mem hg))
    · rw [Bool.not_false, Bool.true_and] at h
      have hblocked : s.permits (.listPorts (sortedDistinct (groups.map Group.id))) = false := by
        rw [Store.permits_eq_not_blocks rfl]
        exact congrArg not h
      obtain ⟨f, hf⟩ := Store.exists_fault_of_not_permits hblocked
      rw [result_require, result_bind, Store.listPorts, Store.result_attempt_of_fault hf]
      exact ⟨_, rfl⟩
  · -- no groups: no call is made
    obtain rfl := List.isEmpty_iff.mp hempty
    exact .pure ports []

theorem asks_unattachedMask (ports : List NetworkPort) (groups : List Group) :
    Asks ports (!groups.isEmpty)
      (groups.map fun g ↦ groups.any fun u ↦ u.isFree ports && u.id == g.id)
      (unattachedMask groups) := by
  have h := (asks_unattachedGroups ports groups).and_pure fun free ↦
    groups.map fun g ↦ free.any fun u ↦ u.id == g.id
  simp only [List.any_filter] at h
  exact h

/-! ### Masks -/

section

variable (ports : List NetworkPort) (resources : ResourceSet)

/-- The verdicts that a filter is to give. -/
def verdicts (f : PolicyFilter) : List Bool :=
  resources.toList.map fun r ↦ f.holdsAmong ports resources.groupItems r

/-- The verdicts of one of several filters are joined from the verdicts of each. -/
theorem verdicts_anyOf (fs : List PolicyFilter) : verdicts ports resources (.anyOf fs) =
    anyMask resources.size (fs.map (verdicts ports resources)) := by
  have hjoin := anyMask_map resources.toList
    (fs.map fun f r ↦ f.holdsAmong ports resources.groupItems r)
  rw [List.map_map, ResourceSet.length_toList] at hjoin
  refine Eq.trans (List.map_congr_left fun r _ ↦ ?_) hjoin.symm
  rw [List.any_map]
  exact PolicyFilter.holdsWith_anyOf ..

/-- So are the verdicts of all of them. -/
theorem verdicts_allOf (fs : List PolicyFilter) : verdicts ports resources (.allOf fs) =
    allMask resources.size (fs.map (verdicts ports resources)) := by
  have hjoin := allMask_map resources.toList
    (fs.map fun f r ↦ f.holdsAmong ports resources.groupItems r)
  rw [List.map_map, ResourceSet.length_toList] at hjoin
  refine Eq.trans (List.map_congr_left fun r _ ↦ ?_) hjoin.symm
  rw [List.all_map]
  exact PolicyFilter.holdsWith_allOf ..

variable {ports resources}

/-- The masks of several filters, if each of them gives its own. -/
theorem asks_masks {fs : List PolicyFilter}
    (h : ∀ f ∈ fs, Asks ports (f.looksUpPorts && resources.size != 0) (verdicts ports resources f)
      (mask resources f)) :
    Asks ports (PolicyFilter.anyLooksUpPorts fs && resources.size != 0)
      (fs.map (verdicts ports resources)) (masks resources fs) := by
  induction fs with
  | nil => exact .pure ports []
  | cons f fs ih =>
    have hrest := ih fun g hg ↦ h g (List.mem_cons_of_mem _ hg)
    rw [masks, PolicyFilter.anyLooksUpPorts, Bool.and_or_distrib_right, List.map_cons]
    exact (h f List.mem_cons_self).bind (hrest.and_pure _)

/-- **A filter gives each resource its own verdict.** By induction over the filter: a combination
asks all its parts about all resources, and joins what they say place by place. -/
theorem asks_mask {f : PolicyFilter} (hf : f.supports resources.kind = true) :
    Asks ports (f.looksUpPorts && resources.size != 0) (verdicts ports resources f)
      (mask resources f) := by
  induction f using PolicyFilter.induct with
  | rules f =>
    cases resources with
    | rules items =>
      have hmask : verdicts ports (.rules items) (.rules f) = items.map f.admits := by
        rw [verdicts, ResourceSet.toList, List.map_map]
        rfl
      rw [hmask, mask]
      exact .pure ports _
    | _ => cases hf
  | unattached =>
    cases resources with
    | groups items =>
      -- a group is free if its id is among those of the free ones
      have hmask : verdicts ports (.groups items) .unattached =
          items.map fun g ↦ items.any fun u ↦ u.isFree ports && u.id == g.id := by
        rw [verdicts, ResourceSet.toList, List.map_map]
        rfl
      have hsize : (PolicyFilter.unattached.looksUpPorts && (ResourceSet.groups items).size != 0) =
          !items.isEmpty := by
        cases items <;> rfl
      rw [hmask, hsize, mask]
      exact asks_unattachedMask ports items
    | _ => cases hf
  | value f =>
    have hmask : verdicts ports resources (.value f) = resources.toJsons.map f.admits := by
      rw [verdicts, ResourceSet.toJsons_eq_map, List.map_map]
      rfl
    rw [hmask, mask]
    exact .pure ports _
  -- the parts of a filter that is about the kind are about it too
  | anyOf fs ih =>
    have hparts := asks_masks fun g hg ↦ ih g hg (PolicyFilter.supports_of_mem hf hg)
    rw [verdicts_anyOf, mask]
    exact hparts.and_pure _
  | allOf fs ih =>
    have hparts := asks_masks fun g hg ↦ ih g hg (PolicyFilter.supports_of_mem hf hg)
    rw [verdicts_allOf, mask]
    exact hparts.and_pure _

/-- **Filters keep what they say.** One filter after the other, each on what is left. -/
theorem asks_narrow {fs : List PolicyFilter} (hfs : ∀ f ∈ fs, f.supports resources.kind = true)
    (notes : MatchNotes) :
    Asks ports (resources.reachesLookup ports fs)
      (resources.keptBy ports fs, resources.notedBy ports notes fs)
      (narrow resources notes fs) := by
  induction fs generalizing resources notes with
  | nil => exact .pure ports _
  | cons f fs ih =>
    -- the first filter is asked about all, and the others about what it leaves
    have hf : Asks ports _ _ (mask resources f) := asks_mask (hfs f List.mem_cons_self)
    have hrest : ∀ g ∈ fs, g.supports
        (resources.filter fun r ↦ f.holdsAmong ports resources.groupItems r).kind = true := by
      intro g hg
      rw [ResourceSet.kind_filter]
      exact hfs g (List.mem_cons_of_mem _ hg)
    have htail := ih hrest (notes.noteAll (f.matchesIn resources.ruleItems))
    rw [← ResourceSet.keep_map_toList] at htail
    rw [narrow, ResourceSet.keptBy, ResourceSet.notedBy, ResourceSet.reachesLookup,
      ← ResourceSet.keep_map_toList]
    exact hf.bind htail

end

end Run

end NetWarden
