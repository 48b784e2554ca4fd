import Mathlib.Data.List.Nodup
import NetWarden.MatchNotes
import NetWarden.Proofs.Bulk.Distinct

/-!
# What is noted

Notes are made one by one in a dictionary by groups, but of one group and one direction they say no
more than a list does: **what is noted is what was found there, each id once, in the order in which
it was found** (`matched_noteAll`, where `foundIn` is what was found there). No other fact about
insertion is needed.

Notes that were made like this are *proper*: what stands under a group belongs to it, no id stands
twice in a list, and no group is without a note. So proper notes are known by their lists
(`IsProper.ext`). Of proper notes, all that is noted can be found again where it stands
(`foundIn_toList`), so **keeping the notes on some rules leaves out just the others**
(`matched_keepOnly`).
-/

namespace NetWarden

variable {α : Type} {g : String} {d e : Direction} {r : Rule}

/-! ### Each key once -/

section

variable {key : α → String}

/-- Only which keys of the elements were seen counts. -/
theorem distinctOn_congr {seen seen' : List String} {as : List α}
    (h : ∀ a ∈ as, key a ∈ seen ↔ key a ∈ seen') :
    distinctOn key seen as = distinctOn key seen' as := by
  induction as generalizing seen seen' with
  | nil => rfl
  | cons a as ih =>
    rw [List.forall_mem_cons] at h
    have hseen : seen.contains (key a) = seen'.contains (key a) := by
      rw [Bool.eq_iff_iff, List.contains_iff_mem, List.contains_iff_mem, h.1]
    have hnext : ∀ b ∈ as, key b ∈ key a :: seen ↔ key b ∈ key a :: seen' := fun b hb ↦ by
      rw [List.mem_cons, List.mem_cons, h.2 b hb]
    rw [distinctOn, distinctOn, hseen, ih h.2, ih hnext]

/-- **A test of the keys may come first or last**, since elements with one key all pass or all fail.
-/
theorem distinctOn_filter (test : String → Bool) (seen : List String) (as : List α) :
    distinctOn key seen (as.filter fun a ↦ test (key a)) =
      (distinctOn key seen as).filter fun a ↦ test (key a) := by
  induction as generalizing seen with
  | nil => rfl
  | cons a as ih =>
    rw [distinctOn]
    cases htest : test (key a) with
    | true =>
      rw [List.filter_cons, if_pos htest, distinctOn]
      split
      · exact ih seen
      · rw [List.filter_cons, if_pos htest, ih]
    | false =>
      rw [List.filter_cons, if_neg (ne_true_of_eq_false htest)]
      split
      · exact ih seen
      · rw [List.filter_cons, if_neg (ne_true_of_eq_false htest), ← ih]
        -- a key that fails is not among those that pass
        refine distinctOn_congr fun b hb ↦ ?_
        have hpass : test (key b) = true := (List.mem_filter.mp hb).2
        have hne : key b ≠ key a := fun heq ↦ by
          rw [heq, htest] at hpass
          cases hpass
        rw [List.mem_cons, or_iff_right hne]

/-- Elements with different keys, none of them seen, all stay. -/
theorem distinctOn_eq_self {seen : List String} {as : List α} (hnodup : (as.map key).Nodup)
    (hseen : ∀ a ∈ as, key a ∉ seen) : distinctOn key seen as = as := by
  induction as generalizing seen with
  | nil => rfl
  | cons a as ih =>
    rw [List.map_cons, List.nodup_cons] at hnodup
    rw [List.forall_mem_cons] at hseen
    rw [distinctOn, if_neg (by rw [List.contains_iff_mem]; exact hseen.1),
      ih hnodup.2 fun b hb hmem ↦ ?_]
    rcases List.mem_cons.mp hmem with hab | hmem
    · exact hnodup.1 (hab ▸ List.mem_map_of_mem hb)
    · exact hseen.2 b hb hmem

end

/-! ### What was found -/

/-- The rules of a group among what was found for a direction. -/
def foundIn (g : String) (d : Direction) (found : List (Rule × Direction)) : List Rule :=
  (found.filter fun f ↦ f.1.groupId == g && f.2 == d).map Prod.fst

theorem mem_foundIn_iff {found : List (Rule × Direction)} :
    r ∈ foundIn g d found ↔ (r, d) ∈ found ∧ r.groupId = g := by
  simp only [foundIn, List.mem_map, List.mem_filter, Bool.and_eq_true, beq_iff_eq]
  constructor
  · rintro ⟨⟨q, c⟩, ⟨hq, rfl, rfl⟩, rfl⟩
    exact ⟨hq, rfl⟩
  · rintro ⟨hr, rfl⟩
    exact ⟨(r, d), ⟨hr, rfl, rfl⟩, rfl⟩

theorem foundIn_append (found found' : List (Rule × Direction)) :
    foundIn g d (found ++ found') = foundIn g d found ++ foundIn g d found' := by
  rw [foundIn, List.filter_append, List.map_append]
  rfl

theorem foundIn_filter (test : Rule → Bool) (found : List (Rule × Direction)) :
    foundIn g d (found.filter fun f ↦ test f.1) = (foundIn g d found).filter test := by
  rw [foundIn, foundIn, List.filter_filter, List.filter_map, List.filter_filter]
  simp only [Function.comp_apply, Bool.and_comm]

namespace MatchNotes

variable {n : MatchNotes}

/-! ### One note -/

theorem matched_eq (n : MatchNotes) (g : String) (d : Direction) :
    n.matched g d = ((n.groups.get? g).getD .none).get d := by
  rw [matched]
  rcases n.groups.get? g with - | m
  · exact (ByDirection.get_both [] d).symm
  · rfl

theorem isNoted_iff : n.isNoted r d = true ↔ r.id ∈ (n.matched r.groupId d).map Rule.id := by
  simp [isNoted]

/-- What is noted is added to its list if its id does not stand there yet. -/
theorem matched_note_self (n : MatchNotes) (r : Rule) (d : Direction) :
    (n.note r d).matched r.groupId d = if n.isNoted r d then n.matched r.groupId d
      else n.matched r.groupId d ++ [r] := by
  rw [note]
  split
  · rfl
  · rw [matched_eq, Dictionary.get?_insert, if_pos rfl, Option.getD_some, ByDirection.get_set_self,
      ← matched_eq]

/-- Other lists stay as they are. -/
theorem matched_note_of_ne (n : MatchNotes) (h : ¬ (r.groupId = g ∧ d = e)) :
    (n.note r d).matched g e = n.matched g e := by
  rw [note]
  split
  · rfl
  · rw [matched_eq, matched_eq, Dictionary.get?_insert]
    split
    · rename_i hg
      rw [Option.getD_some, ByDirection.get_set_of_ne _ _ fun he ↦ h ⟨hg.symm, he.symm⟩, hg]
    · rfl

/-! ### Notes on all that was found -/

theorem noteAll_append (n : MatchNotes) (found found' : List (Rule × Direction)) :
    n.noteAll (found ++ found') = (n.noteAll found).noteAll found' :=
  List.foldl_append

/-- **What is noted is what was found, each id once.** By induction over what was found: a note
counts as seen what was noted before it. -/
theorem matched_noteAll (n : MatchNotes) (found : List (Rule × Direction)) (g : String)
    (d : Direction) : (n.noteAll found).matched g d =
      n.matched g d ++ distinctOn Rule.id ((n.matched g d).map Rule.id) (foundIn g d found) := by
  induction found generalizing n with
  | nil => exact (List.append_nil _).symm
  | cons f found ih =>
    obtain ⟨r, e⟩ := f
    rw [noteAll, List.foldl_cons, ← noteAll, ih]
    by_cases h : r.groupId = g ∧ e = d
    · obtain ⟨rfl, rfl⟩ := h
      have hfound : foundIn r.groupId e ((r, e) :: found) = r :: foundIn r.groupId e found := by
        simp [foundIn]
      rw [matched_note_self, hfound, distinctOn]
      rcases hnoted : n.isNoted r e with - | -
      · rw [if_neg Bool.false_ne_true, if_neg (by
          rw [List.contains_iff_mem, ← isNoted_iff, hnoted]; exact Bool.false_ne_true),
          List.append_assoc, List.singleton_append]
        congr 2
        -- the new id comes last among those noted, and first among those seen
        exact distinctOn_congr fun q _ ↦ by simp [or_comm]
      · rw [if_pos rfl, if_pos (List.contains_iff_mem.mpr (isNoted_iff.mp hnoted))]
    · have hfound : foundIn g d ((r, e) :: found) = foundIn g d found := by
        rw [foundIn, List.filter_cons_of_neg (by simpa using h), foundIn]
      rw [matched_note_of_ne n h, hfound]

/-- **What is noted of rules that their ids tell apart** is all that was found. -/
theorem mem_matched_noteAll_iff {found : List (Rule × Direction)}
    (hids : ∀ f ∈ found, ∀ f' ∈ found, f.1.id = f'.1.id → f.1 = f'.1) :
    r ∈ (noteAll {} found).matched g d ↔ (r, d) ∈ found ∧ r.groupId = g := by
  have hfound : ∀ q ∈ foundIn g d found, ∀ q' ∈ foundIn g d found, q.id = q'.id → q = q' :=
    fun q hq q' hq' ↦ hids _ (mem_foundIn_iff.mp hq).1 _ (mem_foundIn_iff.mp hq').1
  rw [matched_noteAll, ← mem_foundIn_iff]
  exact mem_distinctOn_iff Rule.id hfound

/-! ### Proper notes -/

/-- Notes as they are made. -/
structure IsProper (n : MatchNotes) : Prop where
  /-- What stands under a group belongs to it. -/
  groupId : ∀ g d, ∀ r ∈ n.matched g d, r.groupId = g
  /-- No id stands twice in a list. -/
  nodup : ∀ g d, ((n.matched g d).map Rule.id).Nodup
  /-- No group stands there without a note. -/
  nonempty : ∀ g m, n.groups.get? g = some m → ∃ d, m.get d ≠ []

theorem isProper_empty : IsProper {} :=
  ⟨fun _ _ _ h ↦ absurd h List.not_mem_nil, fun _ _ ↦ List.nodup_nil, fun _ _ h ↦ by cases h⟩

theorem IsProper.note (h : n.IsProper) (r : Rule) (d : Direction) : (n.note r d).IsProper := by
  rcases hnoted : n.isNoted r d with - | -
  · -- the rule is new: its list goes on with it, and other lists stay as they are
    have hself : (n.note r d).matched r.groupId d = n.matched r.groupId d ++ [r] := by
      rw [matched_note_self, if_neg (by rw [hnoted]; exact Bool.false_ne_true)]
    have hnew : r.id ∉ (n.matched r.groupId d).map Rule.id := fun hmem ↦ by
      rw [← isNoted_iff, hnoted] at hmem
      cases hmem
    refine ⟨fun g e q hq ↦ ?_, fun g e ↦ ?_, fun g m hm ↦ ?_⟩
    · by_cases hge : r.groupId = g ∧ d = e
      · obtain ⟨rfl, rfl⟩ := hge
        rw [hself] at hq
        rcases List.mem_append.mp hq with hq | hq
        · exact h.groupId _ _ q hq
        · rw [List.mem_singleton.mp hq]
      · rw [matched_note_of_ne n hge] at hq
        exact h.groupId g e q hq
    · by_cases hge : r.groupId = g ∧ d = e
      · obtain ⟨rfl, rfl⟩ := hge
        rw [hself, List.map_append, List.map_singleton, List.nodup_append_comm]
        exact List.nodup_cons.mpr ⟨hnew, h.nodup _ _⟩
      · rw [matched_note_of_ne n hge]
        exact h.nodup g e
    · rw [MatchNotes.note, if_neg (by rw [hnoted]; exact Bool.false_ne_true),
        Dictionary.get?_insert] at hm
      split at hm
      · cases hm
        exact ⟨d, by simp⟩
      · exact h.nonempty g m hm
  · -- it is noted already, and nothing changes
    rwa [MatchNotes.note, if_pos hnoted]

theorem IsProper.noteAll (h : n.IsProper) (found : List (Rule × Direction)) :
    (n.noteAll found).IsProper := by
  induction found generalizing n with
  | nil => exact h
  | cons f found ih => exact ih (h.note f.1 f.2)

/-- **Proper notes are known by their lists**: a group stands there just if it has a note. -/
theorem IsProper.ext {n' : MatchNotes} (h : n.IsProper) (h' : n'.IsProper)
    (heq : ∀ g d, n.matched g d = n'.matched g d) : n = n' := by
  have hgroups : ∀ g, n.groups.get? g = n'.groups.get? g := by
    intro g
    have hlists : ∀ d, ((n.groups.get? g).getD .none).get d =
        ((n'.groups.get? g).getD .none).get d := fun d ↦ by
      rw [← matched_eq, ← matched_eq, heq]
    -- a group that stands in one only would have a note there, and none in the other
    rcases hm : n.groups.get? g with - | m <;> rcases hm' : n'.groups.get? g with - | m' <;>
      simp only [hm, hm', Option.getD_none, Option.getD_some] at hlists
    · rfl
    · obtain ⟨d, hd⟩ := h'.nonempty g m' hm'
      exact absurd ((hlists d).symm.trans (ByDirection.get_both [] d)) hd
    · obtain ⟨d, hd⟩ := h.nonempty g m hm
      exact absurd ((hlists d).trans (ByDirection.get_both [] d)) hd
    · exact congrArg some (congrArg₂ ByDirection.mk (hlists .ingress) (hlists .egress))
  obtain ⟨groups⟩ := n
  obtain ⟨groups'⟩ := n'
  exact congrArg MatchNotes.mk (Dictionary.ext_get? hgroups)

/-! ### Keeping some notes -/

/-- What is noted of one group. -/
def listed (m : GroupMatches) : List (Rule × Direction) :=
  Direction.all.flatMap fun d ↦ (m.get d).map (·, d)

theorem foundIn_listed {m : GroupMatches} {h : String} (hm : ∀ e, ∀ r ∈ m.get e, r.groupId = h) :
    foundIn g d (listed m) = if g = h then m.get d else [] := by
  -- what is listed for one direction is found there, if it is of the group
  have hone : ∀ e, foundIn g d ((m.get e).map (·, e)) = if g = h ∧ e = d then m.get e else [] := by
    intro e
    rw [foundIn, List.filter_map, List.map_map]
    split
    · rename_i hge
      rw [List.filter_eq_self.mpr fun r hr ↦ by simp [hm e r hr, hge.1, hge.2]]
      exact List.map_id _
    · rename_i hge
      rw [List.filter_eq_nil_iff.mpr fun r hr hpass ↦ ?_, List.map_nil]
      rw [Function.comp_apply, Bool.and_eq_true, beq_iff_eq, beq_iff_eq, hm e r hr] at hpass
      exact hge ⟨hpass.1.symm, hpass.2⟩
  rw [listed, Direction.all, List.flatMap_cons, List.flatMap_cons, List.flatMap_nil,
    List.append_nil, foundIn_append, hone, hone]
  cases d <;> by_cases hg : g = h <;> simp [hg]

/-- **Proper notes are found again where they stand.** -/
theorem foundIn_toList (h : n.IsProper) (g : String) (d : Direction) :
    foundIn g d n.toList = n.matched g d := by
  -- by induction over the entries, whose keys are all different
  have hentries : ∀ es : List (String × GroupMatches), (es.Pairwise fun a b ↦ a.1 < b.1) →
      (∀ e ∈ es, ∀ c, ∀ r ∈ e.2.get c, r.groupId = e.1) →
      foundIn g d ((es.map Prod.snd).flatMap listed) =
        ((Dictionary.lookupIn g es).getD .none).get d := by
    intro es
    induction es with
    | nil => exact fun _ _ ↦ (ByDirection.get_both [] d).symm
    | cons e es ih =>
      intro hsorted hes
      rw [List.pairwise_cons] at hsorted
      rw [List.forall_mem_cons] at hes
      rw [List.map_cons, List.flatMap_cons, foundIn_append, foundIn_listed hes.1,
        ih hsorted.2 hes.2, Dictionary.lookupIn]
      split
      · rename_i hg
        have hrest : Dictionary.lookupIn g es = none :=
          Dictionary.lookupIn_eq_none_of_lt fun e' he' ↦ hg ▸ hsorted.1 e' he'
        rw [hrest, Option.getD_none, GroupMatches.none, ByDirection.get_both, List.append_nil]
        rfl
      · rfl
  rw [matched_eq]
  refine hentries n.groups.entries n.groups.sorted fun e he c r hr ↦ h.groupId e.1 c r ?_
  rw [matched_eq, (n.groups.get?_eq_some_iff e.1 e.2).mpr he]
  exact hr

/-- **Keeping the notes on some rules leaves out just the others.** -/
theorem matched_keepOnly (h : n.IsProper) (ids : List String) (g : String) (d : Direction) :
    (n.keepOnly ids).matched g d = (n.matched g d).filter fun r ↦ ids.contains r.id := by
  rw [keepOnly, matched_noteAll, foundIn_filter (fun r ↦ ids.contains r.id), foundIn_toList h]
  exact distinctOn_eq_self ((h.nodup g d).sublist (List.filter_sublist.map _))
    fun _ _ ↦ List.not_mem_nil

theorem isProper_keepOnly (n : MatchNotes) (ids : List String) : (n.keepOnly ids).IsProper :=
  isProper_empty.noteAll _

end MatchNotes

end NetWarden
