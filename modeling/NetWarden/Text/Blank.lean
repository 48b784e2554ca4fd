/-!
# Blank characters and trimming

The white space that the library ignores around a port item, a numeral or a policy's name: the
characters with the Unicode property `White_Space`. A zero-width space and a byte order mark do not
have the property, so they stay.

`trim` drops blanks at both ends and nothing else: `trim_of_not_blank` says that a text whose first
and last characters are not blank is its own trimming.
-/

namespace NetWarden.Text

/-- Whether a code point lies in one of the ranges, whose ends belong to them. -/
def inRanges (ranges : List (Nat × Nat)) (n : Nat) : Bool :=
  ranges.any fun r ↦ decide (r.1 ≤ n) && decide (n ≤ r.2)

/-- The code points with the property `White_Space`. -/
def blankRanges : List (Nat × Nat) :=
  [(0x0009, 0x000D), (0x0020, 0x0020), (0x0085, 0x0085), (0x00A0, 0x00A0), (0x1680, 0x1680),
   (0x2000, 0x200A), (0x2028, 0x2029), (0x202F, 0x202F), (0x205F, 0x205F), (0x3000, 0x3000)]

/-- A blank character. -/
def isBlank (c : Char) : Bool := inRanges blankRanges c.toNat

/-- The characters without the blanks at their start. -/
def trimStart (cs : List Char) : List Char := cs.dropWhile isBlank

/-- The characters without the blanks at their end. -/
def trimEnd (cs : List Char) : List Char := (trimStart cs.reverse).reverse

/-- The characters without the blanks at either end. -/
def trimChars (cs : List Char) : List Char := trimEnd (trimStart cs)

/-- The text without the blanks at either end. -/
def trim (s : String) : String := String.ofList (trimChars s.toList)

theorem trimStart_cons_of_not_blank {c : Char} {cs : List Char} (h : isBlank c = false) :
    trimStart (c :: cs) = c :: cs := by
  simp [trimStart, h]

/-- A text that neither starts nor ends with a blank is left alone. -/
theorem trim_of_not_blank {cs : List Char} (hfirst : ∀ c ∈ cs.head?, isBlank c = false)
    (hlast : ∀ c ∈ cs.getLast?, isBlank c = false) : trimChars cs = cs := by
  have key : ∀ ds : List Char, (∀ c ∈ ds.head?, isBlank c = false) → trimStart ds = ds := by
    intro ds h
    cases ds with
    | nil => rfl
    | cons d ds => exact trimStart_cons_of_not_blank (h d (by simp))
  have hrev : trimStart cs.reverse = cs.reverse := key _ (by simpa using hlast)
  rw [trimChars, key cs hfirst, trimEnd, hrev, List.reverse_reverse]

end NetWarden.Text
