import NetWarden.Policy.ValueFilter

/-!
# Operators and their negations

Of the four operators, two are named as the negations of the others. **A list is never both, the
value being among its items and not** (`admits_notIn`). With a single value it is so for every value
but two.

The texts `absent` and `present` ask whether there is a value at all, but only where they are
compared by equality; compared by its negation they are texts like any other. So nothing is the
negation of such a question. Where the value looked for is not there, it is `absent`, and it is also
not the text `absent`: **both filters match** (`absent_admitted_both_ways`).
-/

namespace NetWarden.ValueFilter

variable {w : Json}

/-- The value that a key leads to, if there is one. -/
def at? (key : String) (resource : Json) : Option Json :=
  actual? { key, operator := .eq, value := .null } resource

section

variable (key : String) (resource : Json)

theorem admits_ne (w : Json) :
    admits ⟨key, .ne, w⟩ resource = !(at? key resource).any fun v ↦ v.same w := by
  cases w <;> rfl

theorem admits_eq_absent :
    admits ⟨key, .eq, .str "absent"⟩ resource = (at? key resource).isNone := rfl

theorem admits_eq_present :
    admits ⟨key, .eq, .str "present"⟩ resource = (at? key resource).isSome := rfl

/-- Any other value is compared. -/
theorem admits_eq (habsent : w ≠ .str "absent") (hpresent : w ≠ .str "present") :
    admits ⟨key, .eq, w⟩ resource = (at? key resource).any fun v ↦ v.same w := by
  rw [admits]
  split <;> simp_all [at?, actual?, pointer]

/-- **Being among the items of a list and not being among them exclude each other**, and one of
them holds. -/
theorem admits_notIn (items : List Json) :
    admits ⟨key, .notIn, .arr items⟩ resource = !admits ⟨key, .isIn, .arr items⟩ resource := rfl

end

theorem same_str_iff {v : Json} {s : String} : v.same (.str s) = true ↔ v = .str s := by
  cases v with
  | str t => rw [Json.same, beq_iff_eq, Json.str.injEq]
  | _ => simp [Json.same]

/-- **Which operators negate each other.** Being among the items of a list is negated by not being
among them. Being a value is negated by not being it, but for the two texts that equality takes for
a question: `absent` where the value is there and is not that text, and `present` where it is not
there or is that text. -/
theorem negates_iff (key : String) (w resource : Json) :
    ((admits ⟨key, .ne, w⟩ resource = !admits ⟨key, .eq, w⟩ resource) ↔
        (w = .str "absent" → ∃ v, at? key resource = some v ∧ v ≠ .str "absent") ∧
          (w = .str "present" → ∀ v, at? key resource = some v → v = .str "present")) ∧
      ∀ items, admits ⟨key, .notIn, .arr items⟩ resource =
        !admits ⟨key, .isIn, .arr items⟩ resource := by
  refine ⟨?_, admits_notIn key resource⟩
  rw [admits_ne]
  -- two texts are questions to equality, but not to inequality
  by_cases habsent : w = .str "absent"
  · subst habsent
    rw [admits_eq_absent]
    rcases at? key resource with - | v
    · simp
    · have hsame : v.same (.str "absent") = true ↔ v = .str "absent" := same_str_iff
      simp [← hsame]
  by_cases hpresent : w = .str "present"
  · subst hpresent
    rw [admits_eq_present]
    rcases at? key resource with - | v
    · simp
    · have hsame : v.same (.str "present") = true ↔ v = .str "present" := same_str_iff
      simp [← hsame]
  · -- with any other value the two operators are opposites
    rw [admits_eq key resource habsent hpresent]
    exact iff_of_true rfl ⟨fun h ↦ absurd h habsent, fun h ↦ absurd h hpresent⟩

/-- **Both filters match a resource without the value**, the one for `absent` and its negation. -/
theorem absent_admitted_both_ways :
    let block op := Dictionary.ofList [("key", .str "description"), ("op", .str op),
      ("type", .str "value"), ("value", .str "absent")]
    let resource := Json.obj [("id", .str "web")]
    ∃ f g, ofBlock (block "eq") = .ok f ∧ ofBlock (block "ne") = .ok g ∧
      f.operator = .eq ∧ g = { f with operator := .ne } ∧
      ¬ (g.admits resource = true ↔ ¬ f.admits resource = true) := by
  refine ⟨⟨"description", .eq, .str "absent"⟩, ⟨"description", .ne, .str "absent"⟩, rfl, rfl, rfl,
    rfl, ?_⟩
  have hnone : (at? "description" (.obj [("id", .str "web")])).isNone = true := by decide +kernel
  rw [admits_ne, admits_eq_absent, hnone, Option.isNone_iff_eq_none.mp hnone]
  simp

end NetWarden.ValueFilter
