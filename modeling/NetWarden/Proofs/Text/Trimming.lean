import Mathlib.Data.List.TakeWhile
import NetWarden.Text.Blank
import NetWarden.Text.Split

/-!
# Readers that trim

A reader that trims what it reads does not see the blanks around it (`IgnoresBlanks`). **If a text
is cut at a separator that is no blank and each piece is read by such a reader, then it does not
matter whether the text was trimmed before** (`IgnoresBlanks.map_splitOn`): the blanks that are
gone stood at the start of the first piece and at the end of the last one.

Cutting is what the standard library does (`splitOn_eq`), so that pieces that were joined come
apart again (`splitOn_intercalate`).
-/

namespace NetWarden.Text

variable {α : Type} {sep : Char} {cs before after : List Char}

/-! ### Cutting -/

theorem splitOn_eq (sep : Char) (cs : List Char) : splitOn sep cs = cs.splitOn sep := by
  induction cs with
  | nil => rfl
  | cons c cs ih =>
    rw [splitOn, List.splitOn_cons_eq_if_modifyHead, ih]
    by_cases hc : c = sep
    · rw [if_pos hc, if_pos (beq_iff_eq.mpr hc)]
    · rw [if_neg hc, if_neg (mt beq_iff_eq.mp hc)]
      rcases hpieces : cs.splitOn sep with - | ⟨piece, pieces⟩
      · exact absurd hpieces (List.splitOn_ne_nil sep cs)
      · rfl

/-- **Pieces that were joined come apart again**, if there is one and none holds the separator. -/
theorem splitOn_intercalate {pieces : List (List Char)} (hfree : ∀ p ∈ pieces, sep ∉ p)
    (hne : pieces ≠ []) : splitOn sep ([sep].intercalate pieces) = pieces := by
  rw [splitOn_eq, List.splitOn_intercalate sep hfree hne]

theorem splitOn_of_not_mem (h : sep ∉ cs) : splitOn sep cs = [cs] := by
  rw [splitOn_eq, List.splitOn_eq_singleton h]

theorem splitOn_append_cons (sep : Char) (before after : List Char) :
    splitOn sep (before ++ sep :: after) = splitOn sep before ++ splitOn sep after := by
  simp only [splitOn_eq, List.splitOn_append_cons_self]

theorem splitOnce_eq_none_iff : splitOnce sep cs = none ↔ sep ∉ cs := by
  induction cs with
  | nil => simp [splitOnce]
  | cons c cs ih =>
    rw [splitOnce]
    by_cases hc : c = sep
    · simp [hc]
    · simp [hc, ih, Ne.symm hc]

/-- What stands before the first separator goes on with what stood there before. -/
theorem splitOnce_append_left (h : sep ∉ before) (cs : List Char) :
    splitOnce sep (before ++ cs) = (splitOnce sep cs).map fun p ↦ (before ++ p.1, p.2) := by
  induction before with
  | nil => exact Option.map_id'.symm
  | cons c before ih =>
    rw [List.mem_cons, not_or] at h
    rw [List.cons_append, splitOnce, if_neg (Ne.symm h.1), ih h.2, Option.map_map]
    rfl

/-- What stands behind the first separator goes on to the end. -/
theorem splitOnce_append_right (h : sep ∉ after) (cs : List Char) :
    splitOnce sep (cs ++ after) = (splitOnce sep cs).map fun p ↦ (p.1, p.2 ++ after) := by
  induction cs with
  | nil => exact splitOnce_eq_none_iff.mpr h
  | cons c cs ih =>
    rw [List.cons_append, splitOnce, splitOnce]
    split
    · rfl
    · rw [ih, Option.map_map, Option.map_map]
      rfl

/-! ### Blanks around a text -/

/-- All characters are blank. -/
def AllBlank (cs : List Char) : Prop := ∀ c ∈ cs, isBlank c = true

theorem allBlank_nil : AllBlank [] := fun _ hc ↦ absurd hc List.not_mem_nil

theorem not_mem_of_allBlank (hsep : isBlank sep = false) (h : AllBlank cs) : sep ∉ cs :=
  fun hmem ↦ Bool.false_ne_true (hsep.symm.trans (h sep hmem))

theorem trimStart_append (h : AllBlank before) : trimStart (before ++ cs) = trimStart cs :=
  List.dropWhile_append_of_pos h

theorem trimEnd_append (h : AllBlank after) : trimEnd (cs ++ after) = trimEnd cs := by
  rw [trimEnd, List.reverse_append, trimStart_append fun c hc ↦ h c (List.mem_reverse.mp hc),
    trimEnd]

/-- **What is left does not depend on the blanks around it.** -/
theorem trimChars_append (hbefore : AllBlank before) (cs : List Char) (hafter : AllBlank after) :
    trimChars (before ++ cs ++ after) = trimChars cs := by
  rw [List.append_assoc, trimChars, trimChars, trimStart_append hbefore, trimStart,
    List.dropWhile_append]
  split
  · rename_i hempty
    have hcs : trimStart cs = [] := List.isEmpty_iff.mp hempty
    have hnone : after.dropWhile isBlank = [] := List.dropWhile_eq_nil_iff.mpr hafter
    rw [hcs, hnone]
  · exact trimEnd_append hafter

/-- A text without blanks is left alone. -/
theorem trimChars_eq_self (h : ∀ c ∈ cs, isBlank c = false) : trimChars cs = cs :=
  trim_of_not_blank (fun c hc ↦ h c (List.mem_of_mem_head? hc))
    fun c hc ↦ h c (List.mem_of_mem_getLast? hc)

/-- A text is what is left of it, with blanks around. -/
theorem exists_blanks (cs : List Char) : ∃ before after, AllBlank before ∧ AllBlank after ∧
    cs = before ++ trimChars cs ++ after := by
  refine ⟨cs.takeWhile isBlank, ((trimStart cs).reverse.takeWhile isBlank).reverse,
    fun c hc ↦ List.mem_takeWhile_imp hc,
    fun c hc ↦ List.mem_takeWhile_imp (List.mem_reverse.mp hc), ?_⟩
  have hend : trimEnd (trimStart cs) ++ ((trimStart cs).reverse.takeWhile isBlank).reverse =
      trimStart cs := by
    rw [trimEnd, trimStart, ← List.reverse_append, List.takeWhile_append_dropWhile,
      List.reverse_reverse]
  rw [trimChars, List.append_assoc, hend]
  exact (List.takeWhile_append_dropWhile).symm

/-! ### Readers -/

/-- A reader reads the same whether or not what it reads was trimmed. -/
def IgnoresBlanks (read : List Char → α) : Prop := ∀ cs, read (trimChars cs) = read cs

namespace IgnoresBlanks

variable {read : List Char → α}

theorem append_left (h : IgnoresBlanks read) (hbefore : AllBlank before) (cs : List Char) :
    read (before ++ cs) = read cs := by
  have htrim := trimChars_append hbefore cs allBlank_nil
  rw [List.append_nil] at htrim
  rw [← h, htrim, h]

theorem append_right (h : IgnoresBlanks read) (hafter : AllBlank after) (cs : List Char) :
    read (cs ++ after) = read cs := by
  have htrim := trimChars_append allBlank_nil cs hafter
  rw [List.nil_append] at htrim
  rw [← h, htrim, h]

/-- A reader ignores blanks if it ignores those before and those behind. -/
theorem of_append (hleft : ∀ before cs, AllBlank before → read (before ++ cs) = read cs)
    (hright : ∀ cs after, AllBlank after → read (cs ++ after) = read cs) : IgnoresBlanks read := by
  intro cs
  obtain ⟨before, after, hbefore, hafter, hcs⟩ := exists_blanks cs
  calc
    read (trimChars cs) = read (before ++ trimChars cs) := (hleft before _ hbefore).symm
    _ = read (before ++ trimChars cs ++ after) := (hright _ after hafter).symm
    _ = read cs := (congrArg read hcs).symm

theorem of_trimChars (read : List Char → α) : IgnoresBlanks fun cs ↦ read (trimChars cs) := by
  intro cs
  obtain ⟨before, after, hbefore, hafter, hcs⟩ := exists_blanks cs
  have htrim : trimChars cs = trimChars (trimChars cs) :=
    (congrArg trimChars hcs).trans (trimChars_append hbefore _ hafter)
  exact congrArg read htrim.symm

/-- **Cutting a text into pieces for a reader ignores blanks too**, if the separator is none. -/
theorem map_splitOn (h : IgnoresBlanks read) (hsep : isBlank sep = false) :
    IgnoresBlanks fun cs ↦ (splitOn sep cs).map read := by
  have hfree : ∀ {bs}, AllBlank bs → sep ∉ bs := not_mem_of_allBlank hsep
  refine of_append (fun before cs hbefore ↦ ?_) fun cs after hafter ↦ ?_
  · by_cases hcs : sep ∈ cs
    · -- the blanks stand before the first separator
      obtain ⟨first, rest, rfl, hfirst⟩ := List.eq_append_cons_of_mem hcs
      rw [← List.append_assoc, splitOn_append_cons, splitOn_append_cons, splitOn_of_not_mem hfirst,
        splitOn_of_not_mem (List.not_mem_append (hfree hbefore) hfirst)]
      simp only [List.map_append, List.map_singleton, h.append_left hbefore]
    · rw [splitOn_of_not_mem hcs, splitOn_of_not_mem (List.not_mem_append (hfree hbefore) hcs),
        List.map_singleton, List.map_singleton, h.append_left hbefore]
  · by_cases hcs : sep ∈ cs
    · -- the blanks stand behind the last separator
      obtain ⟨last, rest, hsplit, hlast⟩ :=
        List.eq_append_cons_of_mem (List.mem_reverse.mpr hcs)
      obtain rfl : cs = rest.reverse ++ sep :: last.reverse := by
        rw [← List.reverse_reverse cs, hsplit, List.reverse_append, List.reverse_cons,
          List.append_assoc, List.singleton_append]
      have hlast : sep ∉ last.reverse := mt List.mem_reverse.mp hlast
      rw [List.append_assoc, List.cons_append, splitOn_append_cons, splitOn_append_cons,
        splitOn_of_not_mem hlast,
        splitOn_of_not_mem (List.not_mem_append hlast (hfree hafter))]
      simp only [List.map_append, List.map_singleton, h.append_right hafter]
    · rw [splitOn_of_not_mem hcs, splitOn_of_not_mem (List.not_mem_append hcs (hfree hafter)),
        List.map_singleton, List.map_singleton, h.append_right hafter]

end IgnoresBlanks

end NetWarden.Text
