/-
Lookup tables: lists of keys with values. `Table.set` writes, and core's
`List.lookup` reads; the laws at the end say that a read gives what was
written last.
-/
namespace QueryText.Table

variable {α β : Type} [DecidableEq α]

/-- Writes the value of a key, in place of an older one. -/
def set (key : α) (value : β) : List (α × β) → List (α × β)
  | [] => [(key, value)]
  | (k, v) :: rest => if k = key then (k, value) :: rest else (k, v) :: set key value rest

/-- The key that was written reads back. -/
@[simp]
theorem lookup_set_self (key : α) (value : β) (table : List (α × β)) :
    (set key value table).lookup key = some value := by
  induction table with
  | nil => simp [set]
  | cons entry rest ih =>
      obtain ⟨k, v⟩ := entry
      by_cases hk : k = key
      · simp [set, hk]
      · have hne : (key == k) = false := beq_false_of_ne (Ne.symm hk)
        simp [set, hk, List.lookup_cons, hne, ih]

/-- Every other key reads as before. -/
theorem lookup_set_of_ne {key other : α} (hne : other ≠ key) (value : β)
    (table : List (α × β)) :
    (set key value table).lookup other = table.lookup other := by
  induction table with
  | nil => simp [set, hne]
  | cons entry rest ih =>
      obtain ⟨k, v⟩ := entry
      by_cases hk : k = key
      · have hother : (other == key) = false := beq_false_of_ne hne
        simp [set, hk, List.lookup_cons, hother]
      · simp [set, hk, List.lookup_cons, ih]

end QueryText.Table
