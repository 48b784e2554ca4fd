import Mathlib.Data.List.Nodup
import NetWarden.Proofs.Run.ResourceSets

/-!
# When a filter holds

What a filter says of one resource, without calls, masks and other resources: `PolicyFilter.holds`
follows the filter, and is told of the store only which ports there are. Of a group it looks through
all ports for one that is bound to it; a combination holds if one of its parts does, or if all do.

A run asks less directly: of a group it asks whether *some* group with the same id may go.
`PolicyFilter.holdsAmong` is what comes of that. The two are one function with two answers for a
group at the leaves (`holdsWith`), and **they agree if the ids of the groups are all different**
(`holdsAmong_eq_holds`).

`PolicyFilter.induct` is the induction by which all this is shown: over a filter, with the parts of
a combination as members of a list.
-/

namespace NetWarden

/-- Whether a group may go: no port is bound to it, and it is not the one that every project has. -/
def Group.isFree (ports : List NetworkPort) (g : Group) : Bool :=
  ports.all (fun p ↦ !p.groupIds.contains g.id) && g.name != defaultName

namespace PolicyFilter

mutual

/-- Whether a filter holds of a resource, if it is known which groups may go. -/
def holdsWith (free : Group → Bool) (r : Resource) : PolicyFilter → Bool
  | .rules f =>
    match r with
    | .rule rule => f.admits rule
    | _ => false
  | .unattached =>
    match r with
    | .group g => free g
    | _ => false
  | .value f => f.admits r.toJson
  | .anyOf fs => anyHoldsWith free r fs
  | .allOf fs => allHoldWith free r fs

/-- Whether one of several filters holds. -/
def anyHoldsWith (free : Group → Bool) (r : Resource) : List PolicyFilter → Bool
  | [] => false
  | f :: fs => holdsWith free r f || anyHoldsWith free r fs

/-- Whether all of several filters hold. -/
def allHoldWith (free : Group → Bool) (r : Resource) : List PolicyFilter → Bool
  | [] => true
  | f :: fs => holdsWith free r f && allHoldWith free r fs

end

/-- **Whether a filter holds of a resource**, in a store with these ports. -/
def holds (ports : List NetworkPort) (r : Resource) (f : PolicyFilter) : Bool :=
  f.holdsWith (Group.isFree ports) r

/-- Whether a filter holds of a resource among groups: a group may go if one with its id may. -/
def holdsAmong (ports : List NetworkPort) (among : List Group) (r : Resource) (f : PolicyFilter) :
    Bool :=
  f.holdsWith (fun g ↦ among.any fun u ↦ u.isFree ports && u.id == g.id) r

mutual

/-- Whether a filter asks for groups without ports, at any depth. -/
def looksUpPorts : PolicyFilter → Bool
  | .rules _ => false
  | .unattached => true
  | .value _ => false
  | .anyOf fs => anyLooksUpPorts fs
  | .allOf fs => anyLooksUpPorts fs

/-- Whether one of several filters does. -/
def anyLooksUpPorts : List PolicyFilter → Bool
  | [] => false
  | f :: fs => looksUpPorts f || anyLooksUpPorts fs

end

/-! ### Combinations as lists -/

section

variable (free : Group → Bool) (r : Resource) (kind : ResourceKind) (fs : List PolicyFilter)

@[simp] theorem holdsWith_anyOf : holdsWith free r (.anyOf fs) = fs.any (holdsWith free r) := by
  rw [holdsWith]
  induction fs with
  | nil => rfl
  | cons f fs ih => rw [anyHoldsWith, ih, List.any_cons]

@[simp] theorem holdsWith_allOf : holdsWith free r (.allOf fs) = fs.all (holdsWith free r) := by
  rw [holdsWith]
  induction fs with
  | nil => rfl
  | cons f fs ih => rw [allHoldWith, ih, List.all_cons]

theorem anyLooksUpPorts_eq_any : anyLooksUpPorts fs = fs.any looksUpPorts := by
  induction fs with
  | nil => rfl
  | cons f fs ih => rw [anyLooksUpPorts, ih, List.any_cons]

theorem allSupport_eq_all : allSupport kind fs = fs.all (supports kind) := by
  induction fs with
  | nil => rfl
  | cons f fs ih => rw [allSupport, ih, List.all_cons]

end

theorem supports_of_mem {kind : ResourceKind} {fs : List PolicyFilter}
    (h : allSupport kind fs = true) {f : PolicyFilter} (hf : f ∈ fs) : f.supports kind = true := by
  rw [allSupport_eq_all, List.all_eq_true] at h
  exact h f hf

/-- Induction over a filter: of a combination, all parts come first. -/
@[elab_as_elim]
theorem induct {motive : PolicyFilter → Prop} (rules : ∀ f, motive (.rules f))
    (unattached : motive .unattached) (value : ∀ f, motive (.value f))
    (anyOf : ∀ fs, (∀ f ∈ fs, motive f) → motive (.anyOf fs))
    (allOf : ∀ fs, (∀ f ∈ fs, motive f) → motive (.allOf fs)) : ∀ f, motive f
  | .rules f => rules f
  | .unattached => unattached
  | .value f => value f
  | .anyOf fs => anyOf fs fun f _ ↦ induct rules unattached value anyOf allOf f
  | .allOf fs => allOf fs fun f _ ↦ induct rules unattached value anyOf allOf f

/-- A filter that asks for ports is about groups only. -/
theorem kind_of_looksUpPorts {kind : ResourceKind} {f : PolicyFilter}
    (hf : f.supports kind = true) (hlook : f.looksUpPorts = true) : kind = .group := by
  -- one of the parts looks ports up, and it is about the same kind
  have hpart : ∀ fs : List PolicyFilter,
      (∀ g ∈ fs, g.supports kind = true → g.looksUpPorts = true → kind = .group) →
      allSupport kind fs = true → anyLooksUpPorts fs = true →
      kind = .group := by
    intro fs ih hall hany
    rw [anyLooksUpPorts_eq_any, List.any_eq_true] at hany
    obtain ⟨g, hg, hlook⟩ := hany
    exact ih g hg (supports_of_mem hall hg) hlook
  induction f using induct with
  | rules f => cases hlook
  | unattached => exact beq_iff_eq.mp hf
  | value f => cases hlook
  | anyOf fs ih => exact hpart fs ih hf hlook
  | allOf fs ih => exact hpart fs ih hf hlook

/-! ### One answer for each group -/

/-- Only the answer for the resource itself counts. -/
theorem holdsWith_congr {free free' : Group → Bool} {r : Resource}
    (h : ∀ g, r = .group g → free g = free' g) (f : PolicyFilter) :
    f.holdsWith free r = f.holdsWith free' r := by
  induction f using induct with
  | rules f => rfl
  | unattached =>
    cases r with
    | group g => exact h g rfl
    | _ => rfl
  | value f => rfl
  | anyOf fs ih =>
    have hany := congrArg (List.any · id) (List.map_congr_left ih)
    simpa only [holdsWith_anyOf, List.any_map, Function.id_comp] using hany
  | allOf fs ih =>
    have hall := congrArg (List.all · id) (List.map_congr_left ih)
    simpa only [holdsWith_allOf, List.all_map, Function.id_comp] using hall

/-- **If no two groups have the same id, each group is asked about itself.** -/
theorem holdsAmong_eq_holds (ports : List NetworkPort) {among : List Group}
    (hids : (among.map Group.id).Nodup) {r : Resource} (hr : ∀ g, r = .group g → g ∈ among)
    (f : PolicyFilter) : f.holdsAmong ports among r = f.holds ports r := by
  refine holdsWith_congr (fun g hg ↦ ?_) f
  rw [Bool.eq_iff_iff, List.any_eq_true]
  constructor
  · rintro ⟨u, hu, h⟩
    rw [Bool.and_eq_true, beq_iff_eq] at h
    rw [← List.inj_on_of_nodup_map hids hu (hr g hg) h.2]
    exact h.1
  · intro h
    exact ⟨g, hr g hg, by rw [h, beq_self_eq_true]; rfl⟩

end PolicyFilter

end NetWarden
