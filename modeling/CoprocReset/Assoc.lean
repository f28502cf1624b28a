/-!
# Association lists

Finite tables are lists of keys with their values. `insert` puts a value under a key in place of
any that was there, `erase` takes the key out. Both leave the other keys alone (`lookup_insert`,
`lookup_erase`).
-/

namespace CoprocReset.Assoc

variable {κ α : Type} [DecidableEq κ]

/-- The table without the key. -/
def erase (key : κ) (entries : List (κ × α)) : List (κ × α) :=
  entries.filter fun entry => entry.1 ≠ key

/-- The table with the value under the key. -/
def insert (key : κ) (value : α) (entries : List (κ × α)) : List (κ × α) :=
  (key, value) :: erase key entries

/-- A filter on the keys takes away what it is about and leaves the rest. -/
theorem lookup_filter [BEq κ] [LawfulBEq κ] (keep : κ → Bool) (other : κ)
    (entries : List (κ × α)) :
    (entries.filter fun entry => keep entry.1).lookup other =
      if keep other then entries.lookup other else none := by
  induction entries with
  | nil => simp
  | cons entry rest ih =>
    obtain ⟨name, value⟩ := entry
    by_cases same : other = name
    · subst same
      by_cases kept : keep other
      · simp [kept]
      · simpa [kept] using ih
    · have differs : (other == name) = false := by simpa using same
      by_cases kept : keep name <;> simp [kept, List.lookup_cons, differs, ih]

theorem lookup_erase [BEq κ] [LawfulBEq κ] (key other : κ) (entries : List (κ × α)) :
    (erase key entries).lookup other = if other = key then none else entries.lookup other := by
  rw [erase, lookup_filter (fun name => decide (name ≠ key))]
  by_cases h : other = key <;> simp [h]

theorem lookup_insert [BEq κ] [LawfulBEq κ] (key other : κ) (value : α)
    (entries : List (κ × α)) :
    (insert key value entries).lookup other =
      if other = key then some value else entries.lookup other := by
  by_cases h : other = key
  · simp [insert, h]
  · have : (other == key) = false := by simpa using h
    simp [insert, List.lookup_cons, this, lookup_erase, h]

end CoprocReset.Assoc
