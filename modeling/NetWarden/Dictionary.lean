/-!
# Dictionaries

A dictionary from texts to values that keeps its keys in code-point order. The blocks of a policy
document are dictionaries, and so are the notes a run leaves on security groups: whatever walks over
one meets its keys in that order, so of several faults the one under the least key is met first.

The order is part of the type, so a dictionary has one representation: equal look-ups make equal
dictionaries. `get?_insert` is the whole of what insertion does to the look-up.
-/

namespace NetWarden

/-- A dictionary: its entries, each key once, in the order of the keys. -/
structure Dictionary (α : Type) where
  /-- The keys with their values. -/
  entries : List (String × α)
  /-- The keys stand in strict order, so none stands twice. -/
  sorted : entries.Pairwise fun a b ↦ a.1 < b.1
deriving Repr

namespace Dictionary

variable {α β : Type}

/-- The dictionary without entries. -/
def empty : Dictionary α := ⟨[], .nil⟩

instance : Inhabited (Dictionary α) := ⟨empty⟩

instance [DecidableEq α] : DecidableEq (Dictionary α) := fun d e ↦
  decidable_of_iff (d.entries = e.entries) (by cases d; cases e; simp)

/-! ### Look-up -/

/-- The value of the first entry under a key. -/
def lookupIn (key : String) : List (String × α) → Option α
  | [] => none
  | e :: rest => if key = e.1 then some e.2 else lookupIn key rest

/-- The value under a key. -/
def get? (d : Dictionary α) (key : String) : Option α := lookupIn key d.entries

/-- The keys in order. -/
def keys (d : Dictionary α) : List String := d.entries.map Prod.fst

/-- The values in the order of their keys. -/
def values (d : Dictionary α) : List α := d.entries.map Prod.snd

/-- The number of entries. -/
def size (d : Dictionary α) : Nat := d.entries.length

/-- Whether there are no entries. -/
def isEmpty (d : Dictionary α) : Bool := d.entries.isEmpty

/-! ### Insertion -/

/-- Entries with a value put under a key, in place of the one that stands there. -/
def insertInto (key : String) (value : α) : List (String × α) → List (String × α)
  | [] => [(key, value)]
  | e :: rest =>
    if key < e.1 then (key, value) :: e :: rest
    else if key = e.1 then (key, value) :: rest
    else e :: insertInto key value rest

theorem mem_insertInto {key : String} {value : α} {e : String × α} {es : List (String × α)}
    (h : e ∈ insertInto key value es) : e = (key, value) ∨ e ∈ es := by
  induction es with
  | nil => simp_all [insertInto]
  | cons d ds ih =>
    rw [insertInto] at h
    split at h
    · simpa using h
    · split at h
      · rcases List.mem_cons.mp h with h | h
        · exact .inl h
        · exact .inr (List.mem_cons_of_mem _ h)
      · rcases List.mem_cons.mp h with h | h
        · exact .inr (h ▸ List.mem_cons_self)
        · exact (ih h).imp id (List.mem_cons_of_mem _)

theorem sorted_insertInto (key : String) (value : α) {es : List (String × α)}
    (h : es.Pairwise fun a b ↦ a.1 < b.1) :
    (insertInto key value es).Pairwise fun a b ↦ a.1 < b.1 := by
  induction es with
  | nil => simp [insertInto]
  | cons d ds ih =>
    rw [List.pairwise_cons] at h
    rw [insertInto]
    split
    · rename_i hlt
      refine .cons (fun e he ↦ ?_) (.cons h.1 h.2)
      rcases List.mem_cons.mp he with rfl | he
      · exact hlt
      · exact String.lt_trans hlt (h.1 e he)
    · rename_i hnlt
      split
      · rename_i heq
        exact .cons (fun e he ↦ by simpa [heq] using h.1 e he) h.2
      · rename_i hne
        refine .cons (fun e he ↦ ?_) (ih h.2)
        rcases mem_insertInto he with rfl | he
        · exact Std.lt_of_le_of_ne (String.not_lt.mp hnlt) (Ne.symm hne)
        · exact h.1 e he

/-- The dictionary with a value put under a key. -/
def insert (d : Dictionary α) (key : String) (value : α) : Dictionary α :=
  ⟨insertInto key value d.entries, sorted_insertInto key value d.sorted⟩

/-- A dictionary of entries in any order; of several values under a key the last one stays. -/
def ofList (es : List (String × α)) : Dictionary α :=
  es.foldl (fun d e ↦ d.insert e.1 e.2) empty

/-- The entries in the order of their keys. -/
def toList (d : Dictionary α) : List (String × α) := d.entries

/-- A dictionary with one entry. -/
def singleton (key : String) (value : α) : Dictionary α := ⟨[(key, value)], by simp⟩

@[simp] theorem get?_empty (key : String) : (empty : Dictionary α).get? key = none := rfl

theorem get?_insert (d : Dictionary α) (key other : String) (value : α) :
    (d.insert key value).get? other = if other = key then some value else d.get? other := by
  obtain ⟨es, hs⟩ := d
  simp only [get?, insert]
  clear hs
  induction es with
  | nil => simp [insertInto, lookupIn]
  | cons e rest ih =>
    rw [insertInto]
    split
    · simp [lookupIn]
    · split
      · rename_i heq
        by_cases h : other = key <;> simp [lookupIn, ← heq, h]
      · rename_i hne
        by_cases h : other = e.1
        · subst h; simp [lookupIn, Ne.symm hne]
        · simp [lookupIn, h, ih]

theorem get?_eq_some_iff (d : Dictionary α) (key : String) (value : α) :
    d.get? key = some value ↔ (key, value) ∈ d.entries := by
  obtain ⟨es, hs⟩ := d
  simp only [get?]
  induction es with
  | nil => simp [lookupIn]
  | cons e rest ih =>
    obtain ⟨k, v⟩ := e
    rw [List.pairwise_cons] at hs
    by_cases h : key = k
    · subst h
      have hnot : (key, value) ∉ rest := fun hm ↦ String.lt_irrefl key (hs.1 _ hm)
      simp [lookupIn, hnot, eq_comm]
    · simp [lookupIn, h, ih hs.2]

end Dictionary

end NetWarden
