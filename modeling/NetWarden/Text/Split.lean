/-!
# Cutting text at a separator

`splitOn` cuts at every occurrence of a separator and always gives at least one piece; `splitOnce`
cuts at the first occurrence only.
-/

namespace NetWarden.Text

/-- The pieces between the occurrences of a separator, in order. The empty text has one piece. -/
def splitOn (sep : Char) : List Char → List (List Char)
  | [] => [[]]
  | c :: cs =>
    if c = sep then [] :: splitOn sep cs
    else
      match splitOn sep cs with
      | [] => [[c]]
      | piece :: pieces => (c :: piece) :: pieces

/-- What stands before and after the first occurrence of a separator, if there is one. -/
def splitOnce (sep : Char) : List Char → Option (List Char × List Char)
  | [] => none
  | c :: cs =>
    if c = sep then some ([], cs)
    else (splitOnce sep cs).map fun p ↦ (c :: p.1, p.2)

/-- The text with every occurrence of one text written as another. The first text must not be
empty: an empty one is never found. -/
def replace (old new : List Char) (cs : List Char) : List Char :=
  match cs with
  | [] => []
  | c :: rest =>
    if old.isPrefixOf (c :: rest) ∧ old ≠ [] then
      new ++ replace old new ((c :: rest).drop old.length)
    else c :: replace old new rest
termination_by cs.length
decreasing_by
  · rename_i h
    have : 0 < old.length := List.length_pos_iff.mpr h.2
    simp only [List.length_drop, List.length_cons]
    omega
  · simp

/-- What stands before and after the first separator. -/
theorem splitOnce_eq_some_iff {sep : Char} {cs before after : List Char} :
    splitOnce sep cs = some (before, after) ↔ cs = before ++ sep :: after ∧ sep ∉ before := by
  induction cs generalizing before with
  | nil => simp [splitOnce]
  | cons c cs ih =>
    rw [splitOnce]
    by_cases hc : c = sep
    · -- nothing stands before, for it would start with the separator
      subst hc
      cases before with
      | nil => simp [eq_comm]
      | cons d before => simp +contextual
    · cases before with
      | nil => simp [hc]
      | cons d before =>
        simp only [hc, if_false, Option.map_eq_some_iff, Prod.mk.injEq, List.cons.injEq,
          List.cons_append, List.mem_cons, not_or]
        constructor
        · rintro ⟨⟨first, rest⟩, hsplit, ⟨rfl, rfl⟩, rfl⟩
          exact ⟨⟨rfl, (ih.mp hsplit).1⟩, Ne.symm hc, (ih.mp hsplit).2⟩
        · rintro ⟨⟨rfl, hcs⟩, -, hbefore⟩
          exact ⟨(before, after), ih.mpr ⟨hcs, hbefore⟩, ⟨rfl, rfl⟩, rfl⟩

end NetWarden.Text
