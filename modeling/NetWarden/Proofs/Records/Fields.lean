import NetWarden.Proofs.Policy.ValueFilters
import NetWarden.Proofs.Records.Sources
import NetWarden.Proofs.Text.Trimming
import NetWarden.Rule

/-!
# Fields of records

What a record says under the name of a field is found in its object by that name
(`Json.field?_record`): **a field that is set holds its value, and one that is not set is not
there**. So the record of a rule is known field by field (`Rule.field?_toJson`), without a look at
the others.

A filter by a value comes to the same field on a way of its own, through a pointer that is made of
the name. Points, slashes and tildes have a meaning on that way. **A name without them leads to the
field of that name** (`ValueFilter.at?_obj`).
-/

namespace NetWarden

open Dictionary

/-! ### Fields by name -/

namespace Json

/-- What an object holds under a name. -/
def field? (v : Json) (name : String) : Option Json :=
  match v with
  | .obj fields => lookupIn name fields
  | _ => none

/-- **A field holds its value if it is set, and else is not there.** -/
theorem field?_record {es : List (String × Option Json)} (hnodup : (es.map Prod.fst).Nodup)
    (name : String) : (record es).field? name = (lookupIn name es).join := by
  show lookupIn name (es.filterMap fun f ↦ f.2.map (Prod.mk f.1)) = _
  induction es with
  | nil => rfl
  | cons e es ih =>
    obtain ⟨key, v⟩ := e
    rw [List.map_cons, List.nodup_cons] at hnodup
    have hrest := ih hnodup.2
    cases v with
    -- a field that is not set is left out, and no other has its name
    | none =>
      rw [List.filterMap_cons_none rfl, hrest, lookupIn]
      split
      · rename_i heq
        subst heq
        rw [lookupIn_eq_none_iff.mpr hnodup.1]
        rfl
      · rfl
    | some v =>
      show lookupIn name ((key, v) :: es.filterMap fun f ↦ f.2.map (Prod.mk f.1)) = _
      rw [lookupIn, lookupIn, hrest]
      split <;> rfl

end Json

namespace Rule

/-- The fields of a rule's record, set or not. -/
def fields (r : Rule) : List (String × Option Json) :=
  [("id", Json.text r.id), ("security_group_id", Json.text r.groupId),
    ("direction", Json.text r.direction.name), ("protocol", Json.optionalText r.protocol),
    ("ethertype", Json.optionalText r.ethertype),
    ("remote_ip_prefix", Json.optionalText r.remotePrefix),
    ("remote_group_id", Json.optionalText r.remoteGroupId),
    ("remote_address_group_id", Json.optionalText r.remoteAddressGroupId),
    ("multiport", Json.optionalText r.multiport), ("priority", Json.optionalInt r.priority),
    ("action", Json.optionalText (r.action.map RuleAction.name)),
    ("description", Json.optionalText r.description)]

/-- **The record of a rule holds under each name what the rule states there.** -/
theorem field?_toJson (r : Rule) (name : String) :
    r.toJson.field? name = (lookupIn name r.fields).join := by
  have hnodup : (r.fields.map Prod.fst).Nodup := show fieldNames.Nodup by decide
  exact Json.field?_record hnodup name

end Rule

/-! ### Fields by pointer -/

namespace Text

/-- Nothing is replaced where the first character of what is looked for does not occur. -/
theorem replace_of_not_mem {c : Char} {old new cs : List Char} (h : c ∉ cs) :
    replace (c :: old) new cs = cs := by
  induction cs with
  | nil => rw [replace]
  | cons d cs ih =>
    obtain ⟨hd, hcs⟩ := not_or.mp (mt List.mem_cons.mpr h)
    have hprefix : ¬ ((c :: old).isPrefixOf (d :: cs) = true ∧ c :: old ≠ []) := by
      rw [List.isPrefixOf_cons_cons, beq_false_of_ne hd]
      simp
    rw [replace, if_neg hprefix, ih hcs]

end Text

/-- A name without points, slashes and tildes. -/
def IsPlain (name : String) : Prop := ∀ c ∈ ['.', '/', '~'], c ∉ name.toList

-- only the three characters are tried, not all that there are
instance (name : String) : Decidable (IsPlain name) :=
  decidable_of_iff (['.', '/', '~'].all fun c ↦ !name.toList.contains c) (by simp [IsPlain])

/-- **A plain name leads to the field of that name.** -/
theorem ValueFilter.at?_obj {name : String} (h : IsPlain name) (fields : List (String × Json)) :
    at? name (.obj fields) = (lookupIn name fields).filter fun v ↦ !v.isNull := by
  have hpoint : '.' ∉ name.toList := h '.' (by decide)
  have hslash : '/' ∉ name.toList := h '/' (by decide)
  have htilde : '~' ∉ name.toList := h '~' (by decide)
  -- a plain name has no mark that a path would change or be cut at
  have hpointer (w : Json) : pointer ⟨name, .eq, w⟩ = '/' :: name.toList :=
    congrArg ('/' :: ·) (Text.replace_of_not_mem hpoint)
  have hstep : Json.pointerStep name.toList = name.toList := by
    rw [Json.pointerStep, Text.replace_of_not_mem htilde, Text.replace_of_not_mem htilde]
  -- so the path has one step
  have hpart : (Json.obj fields).part? ('/' :: name.toList) = lookupIn name fields := by
    show (Text.splitOn '/' name.toList).foldlM _ _ = _
    rw [Text.splitOn_of_not_mem hslash, List.foldlM_cons, hstep]
    show (lookupIn (String.ofList name.toList) fields).bind some = _
    rw [String.ofList_toList]
    exact Option.bind_fun_some _
  rw [at?, actual?, hpointer, hpart]

end NetWarden
