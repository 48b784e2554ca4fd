import NetWarden.Files
import NetWarden.Proofs.Dictionaries

/-!
# A file that is written is read

A name leads to a file if every part of it but the last leads to a directory. Writing a file takes
no directory away, so **the name still leads there, to what was written** (`FileTree.read?_write?`).
-/

namespace NetWarden

namespace FileTree

variable {t u : FileTree} {name text : String} {ps passed : List String}

/-- A name leads to a place for a file: its directory is there, and it is not a directory itself. -/
def TakesFile (t : FileTree) (name : String) : Prop :=
  ∃ ps, t.resolve? name = some ps ∧ t.isDirectory ps = false ∧ t.isDirectory ps.dropLast = true

/-- A file can be written just where a name leads to a place for one. -/
theorem takesFile_iff (t : FileTree) (name text : String) :
    t.TakesFile name ↔ ∃ u, t.write? name text = some u := by
  rw [write?, TakesFile]
  rcases t.resolve? name with - | ps
  · simp
  · by_cases hps : t.isDirectory ps = true <;>
      by_cases hparent : t.isDirectory ps.dropLast = true <;> simp [hps, hparent]

/-- Where the directories of one tree are directories of another, a name leads to the same place. -/
theorem follow_of_isDirectory (h : ∀ qs, t.isDirectory qs = true → u.isDirectory qs = true)
    {names : List String} (hfollow : t.follow passed names = some ps) :
    u.follow passed names = some ps := by
  induction names generalizing passed with
  | nil => exact hfollow
  | cons p names ih =>
    rw [follow] at hfollow ⊢
    cases hpassed : t.isDirectory passed with
    | false =>
      rw [hpassed] at hfollow
      cases hfollow
    | true =>
      rw [hpassed] at hfollow
      rw [h passed hpassed]
      -- the four ways to go on are the same in both trees
      simp only [Bool.not_true, Bool.false_eq_true, if_false] at hfollow ⊢
      split at hfollow
      · rename_i hstay
        rw [if_pos hstay]
        exact ih hfollow
      · rename_i hstay
        rw [if_neg hstay]
        split at hfollow
        · rename_i hup
          rw [if_pos hup]
          split at hfollow
          · cases hfollow
          · rename_i hinside
            rw [if_neg hinside]
            exact ih hfollow
        · rename_i hup
          rw [if_neg hup]
          exact ih hfollow

theorem resolve?_of_isDirectory (hdirectory : u.directory = t.directory)
    (h : ∀ qs, t.isDirectory qs = true → u.isDirectory qs = true)
    (hresolve : t.resolve? name = some ps) : u.resolve? name = some ps := by
  rw [resolve?] at hresolve ⊢
  split at hresolve
  · cases hresolve
  · rw [hdirectory]
    split at hresolve
    · rename_i hp
      rw [if_pos hp]
      exact follow_of_isDirectory h hresolve
    · rename_i hp
      rw [if_neg hp]
      exact follow_of_isDirectory h hresolve
  · cases hresolve

/-- Where a directory was, there still is one with a file more. -/
theorem isDirectory_insert (t : FileTree) (file text : String) {qs : List String}
    (h : t.isDirectory qs = true) :
    isDirectory { t with files := t.files.insert file text } qs = true := by
  rw [isDirectory, Bool.or_eq_true, List.any_eq_true] at h ⊢
  refine h.imp id fun ⟨k, hk, hprefix⟩ ↦ ⟨k, ?_, hprefix⟩
  exact (Dictionary.mem_keys_insert t.files file k text).mpr (.inr hk)

/-- **What was written is read**, by the same name. -/
theorem read?_write? (h : t.write? name text = some u) : u.read? name = some text := by
  obtain ⟨ps, hps, hfile, hparent⟩ := (takesFile_iff t name text).mpr ⟨u, h⟩
  rw [write?, hps] at h
  simp only [Option.bind_eq_bind, Option.bind_some, hfile, hparent, Bool.not_true,
    Bool.false_eq_true, if_false, Option.some.injEq] at h
  have hkept : ∀ qs, t.isDirectory qs = true → u.isDirectory qs = true := fun qs hqs ↦
    h ▸ isDirectory_insert t (joined ps) text hqs
  have hdirectory : u.directory = t.directory := h ▸ rfl
  have hthere : u.resolve? name = some ps := resolve?_of_isDirectory hdirectory hkept hps
  have htext : u.files.get? (joined ps) = some text := by
    rw [← h, Dictionary.get?_insert, if_pos rfl]
  rw [read?, hthere]
  exact htext

/-! ### Steps on a tree -/

theorem run_read? (t : FileTree) (name : String) :
    (FileAccess.read? name : StateM FileTree _).run t = (t.read? name, t) := rfl

/-- What a step that writes a file leaves is the tree with the file, or else the tree as it was. -/
theorem run_write (t : FileTree) (name text : String) :
    (FileAccess.write name text : StateM FileTree _).run t =
      ((t.write? name text).isSome, (t.write? name text).getD t) := by
  simp only [FileAccess.write, StateT.run_bind, StateT.run_get, pure_bind]
  cases t.write? name text <;> rfl

end FileTree

end NetWarden
