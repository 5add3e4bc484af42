/-
The search for a free name. The candidates of one base name, numbered from
one on, are pairwise distinct whatever the separator is: with the empty
separator, or one made of digits, two of them still differ in the digits at
their end (`candidate_injective`). So among more candidates than there are
names in use one is free, and the bounded search finds the first such
(`name_firstFree_not_mem`, `mem_of_lt_firstFree`).

The candidates of two different base names may coincide: `t` with number 12
and `t1` with number 2 are both `t12` when nothing stands between. Nothing
here excludes that; the search passes over such a name because it is taken.
-/
import Mathlib.Data.List.Nodup
import Mathlib.Data.List.Perm.Subperm
import QueryText.Naming

namespace QueryText.Naming

-- ======================================================= the candidates

/-- The first candidate is the base name itself. -/
theorem candidate_of_le_one {number : Nat} (h : number ≤ 1) (separator base : String) :
    candidate separator base number = base := by
  simp [candidate, h]

/-- What the later candidates look like. -/
theorem toList_candidate {number : Nat} (h : 2 ≤ number) (separator base : String) :
    (candidate separator base number).toList
      = base.toList ++ (separator.toList ++ Text.digits number) := by
  have hne : ¬ number ≤ 1 := by omega
  simp [candidate, hne, List.append_assoc]

/-- A numbered candidate is longer than its base name. -/
theorem candidate_ne_base {number : Nat} (h : 2 ≤ number) (separator base : String) :
    candidate separator base number ≠ base := by
  intro heq
  have hlist := congrArg String.toList heq
  rw [toList_candidate h] at hlist
  have hlength := congrArg List.length hlist
  have hpos := List.length_pos_iff.mpr (Text.digits_ne_nil number)
  simp only [List.length_append] at hlength
  omega

/-- Different numbers make different candidates. -/
theorem candidate_injective {separator base : String} {i j : Nat} (hi : 1 ≤ i) (hj : 1 ≤ j)
    (h : candidate separator base i = candidate separator base j) : i = j := by
  rcases Nat.lt_or_ge i 2 with hi' | hi' <;> rcases Nat.lt_or_ge j 2 with hj' | hj'
  · omega
  · rw [candidate_of_le_one (show i ≤ 1 by omega)] at h
    exact absurd h.symm (candidate_ne_base hj' separator base)
  · rw [candidate_of_le_one (show j ≤ 1 by omega)] at h
    exact absurd h (candidate_ne_base hi' separator base)
  · have hlist := congrArg String.toList h
    rw [toList_candidate hi', toList_candidate hj'] at hlist
    exact Text.digits_injective (List.append_cancel_left (List.append_cancel_left hlist))

-- =========================================================== the search

variable {taken : List String} {name : Nat → String}

/-- The search does not go back. -/
theorem le_firstFree (more start : Nat) : start ≤ firstFree taken name more start := by
  induction more generalizing start with
  | zero => exact Nat.le_refl start
  | succ more ih =>
      rw [firstFree]
      split
      · exact Nat.le_trans (Nat.le_succ start) (ih (start + 1))
      · exact Nat.le_refl start

/-- The search passes over at most as many numbers as it may. -/
theorem firstFree_le (more start : Nat) : firstFree taken name more start ≤ start + more := by
  induction more generalizing start with
  | zero => exact Nat.le_refl start
  | succ more ih =>
      rw [firstFree]
      split
      · have := ih (start + 1)
        omega
      · omega

/-- Only names in use are passed over. -/
theorem mem_of_lt_firstFree {more start number : Nat} (hstart : start ≤ number)
    (hlt : number < firstFree taken name more start) : name number ∈ taken := by
  induction more generalizing start with
  | zero =>
      rw [firstFree] at hlt
      omega
  | succ more ih =>
      rw [firstFree] at hlt
      split at hlt
      · next htaken =>
        rcases Nat.eq_or_lt_of_le hstart with heq | hgt
        · exact heq ▸ htaken
        · exact ih hgt hlt
      · omega

/-- A search that ends early has found a free name. -/
theorem name_firstFree_not_mem_of_lt {more start : Nat}
    (hlt : firstFree taken name more start < start + more) :
    name (firstFree taken name more start) ∉ taken := by
  induction more generalizing start with
  | zero =>
      rw [firstFree] at hlt
      omega
  | succ more ih =>
      rw [firstFree] at hlt ⊢
      split at hlt
      · next htaken =>
        rw [if_pos htaken]
        exact ih (by omega)
      · next hfree =>
        rwa [if_neg hfree]

/-- Names that are all in use and pairwise distinct are at most as many as
the names in use. -/
theorem count_le_length {count start : Nat}
    (hinj : ∀ i j, start ≤ i → start ≤ j → name i = name j → i = j)
    (hmem : ∀ i, i < count → name (start + i) ∈ taken) : count ≤ taken.length := by
  have hnodup : ((List.range count).map fun i => name (start + i)).Nodup := by
    refine List.nodup_range.map_on fun i _ j _ h => ?_
    have := hinj _ _ (Nat.le_add_right start i) (Nat.le_add_right start j) h
    omega
  have hsubset : ((List.range count).map fun i => name (start + i)) ⊆ taken := by
    intro x hx
    obtain ⟨i, hi, rfl⟩ := List.mem_map.mp hx
    exact hmem i (List.mem_range.mp hi)
  simpa using (hnodup.subperm hsubset).length_le

/-- With as many steps as there are names in use, the search finds a free
name. -/
theorem name_firstFree_not_mem {start : Nat}
    (hinj : ∀ i j, start ≤ i → start ≤ j → name i = name j → i = j) :
    name (firstFree taken name taken.length start) ∉ taken := by
  rcases Nat.lt_or_ge (firstFree taken name taken.length start) (start + taken.length)
    with hlt | hge
  · exact name_firstFree_not_mem_of_lt hlt
  · -- every number before the last one is passed over, so its name is in
    -- use; if the last one were in use too, there would be one name too many
    intro hlast
    have hend : firstFree taken name taken.length start = start + taken.length :=
      Nat.le_antisymm (firstFree_le _ _) hge
    have hcount : taken.length + 1 ≤ taken.length := by
      refine count_le_length hinj fun i hi => ?_
      rcases Nat.lt_or_ge i taken.length with hi' | hi'
      · have hlt : start + i < firstFree taken name taken.length start := by omega
        exact mem_of_lt_firstFree (Nat.le_add_right start i) hlt
      · rw [hend] at hlast
        rwa [show i = taken.length by omega]
    omega

-- ===================================================== the chosen number

/-- Numbers begin with one. -/
theorem one_le_nextNumber (n : Naming) (base : String) : 1 ≤ n.nextNumber base :=
  Nat.le_trans (Nat.le_add_left 1 _) (le_firstFree _ _)

/-- The name that a new relation gets is not in use. -/
theorem nextName_not_mem (n : Naming) (base : String) : n.nextName base ∉ n.taken :=
  name_firstFree_not_mem fun _ _ hi hj h =>
    candidate_injective (Nat.le_trans (Nat.le_add_left 1 _) hi)
      (Nat.le_trans (Nat.le_add_left 1 _) hj) h

end QueryText.Naming
