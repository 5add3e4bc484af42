/-
The decimal text of a finite binary64 number is a numeral: digits, a point
and more digits where there is a fraction, and a minus sign at most. That a
point stands between two runs of digits is in the layout; what has to be seen
is that there are digits. Zeros at the end are dropped, so nothing would be
left of zero. But zero lies below the interval of every other number
(`interval_low_pos`), so that no grid of the search offers it
(`Interval.onGrid_pos`).
-/
import QueryText.Literal
import QueryText.Proofs.Text.Numeral

namespace QueryText

open Text

theorem twoTo_pos (n : Nat) : 0 < twoTo n :=
  Nat.pow_pos (by decide)

theorem tenTo_pos (n : Nat) : 0 < tenTo n :=
  Nat.pow_pos (by decide)

-- ======================================================== the digits chosen

namespace Binary64

variable {x : Binary64} {i : Interval} {tie : Tie}

theorem significand_pos (h : x.isZero = false) : 0 < x.significand := by
  have hhidden := twoTo_pos 52
  unfold significand
  split
  · next hexponent =>
    simp only [isZero, hexponent, beq_self_eq_true, Bool.true_and, beq_eq_false_iff_ne] at h
    omega
  · omega

theorem interval_low_pos (h : x.isZero = false) : 0 < x.interval.low := by
  have hm := significand_pos h
  have hunit := twoTo_pos (x.exponent - 2).natAbs
  unfold interval
  apply Nat.mul_pos
  · split <;> omega
  · split <;> omega

theorem interval_value_pos (h : x.isZero = false) : 0 < x.interval.value := by
  have hm := significand_pos h
  have hunit := twoTo_pos (x.exponent - 2).natAbs
  unfold interval
  apply Nat.mul_pos
  · omega
  · split <;> omega

theorem Interval.holds_zero (hlow : 0 < i.low) {scale : Nat} (hscale : 0 < scale) :
    i.holds scale 0 = false := by
  have hpos := Nat.mul_pos hlow hscale
  unfold Interval.holds
  split
  · rw [Bool.and_eq_false_iff]
    exact .inl (decide_eq_false (by omega))
  · rw [Bool.and_eq_false_iff]
    exact .inl (decide_eq_false (by omega))

/-- A neighbour that lies in the interval is not zero. -/
theorem Interval.onGrid_pos (hlow : 0 < i.low) {step : Int} {n : Nat}
    (h : i.onGrid tie step = some n) : 0 < n := by
  have hscale : 0 < if step < 0 then tenTo step.natAbs else 1 := by
    have hten := tenTo_pos step.natAbs
    split <;> omega
  simp only [Interval.onGrid] at h
  generalize (if step < 0 then tenTo step.natAbs else 1) = scale at h hscale
  generalize (if step < 0 then i.den else i.den * tenTo step.natAbs) = den at h
  generalize i.value * scale / den = floor at h
  -- only the lower neighbour can be zero, and then it is not in the interval
  have hlower : i.holds scale (floor * den) = true → 0 < floor := by
    intro hholds
    by_contra hzero
    obtain rfl : floor = 0 := by omega
    rw [Nat.zero_mul, Interval.holds_zero hlow hscale] at hholds
    cases hholds
  split at h
  · cases h
  · next hholds _ =>
    cases h
    exact hlower hholds
  · cases h
    exact Nat.succ_pos floor
  · next hholds _ =>
    have hfloor := hlower hholds
    split at h
    · cases h
      exact hfloor
    · split at h
      · cases h
        exact Nat.succ_pos floor
      · cases tie with
        | up =>
            cases h
            exact Nat.succ_pos floor
        | even =>
            cases h
            omega

theorem Interval.search_pos (hlow : 0 < i.low) (hvalue : 0 < i.value) (top : Int)
    (more count : Nat) : 0 < (i.search tie top more count).1 := by
  induction more generalizing count with
  | zero => exact hvalue
  | succ more ih =>
      rw [Interval.search]
      split
      · next n hgrid => exact Interval.onGrid_pos hlow hgrid
      · exact ih (count + 1)

theorem digitRun_digits_ne_nil {n : Nat} (hn : 0 < n) (step : Int) :
    (digitRun n step).digits ≠ [] := by
  intro hnil
  have hzeros : ∀ c ∈ digits n, c = '0' := by
    have hdropped := List.dropWhile_eq_nil_iff.mp (List.reverse_eq_nil_iff.mp hnil)
    intro c hc
    simpa using hdropped c (List.mem_reverse.mpr hc)
  have hnumber := Numeral.number_of_zeros hzeros
  rw [number_digits] at hnumber
  omega

theorem isDigit_of_mem_digitRun {n : Nat} {step : Int} :
    ∀ c ∈ (digitRun n step).digits, isDigit c = true := by
  intro c hc
  have hmem := (List.dropWhile_sublist _).subset (List.mem_reverse.mp hc)
  exact isDigit_of_mem_digits (List.mem_reverse.mp hmem)

/-- The shortest text of a number that is not zero has digits. -/
theorem isDigits_shortest (h : x.isZero = false) : isDigits (x.shortest tie).digits = true := by
  have hpos : 0 < (x.interval.search tie (floorLog10 x.interval.value x.interval.den) 17 1).1 :=
    Interval.search_pos (interval_low_pos h) (interval_value_pos h) _ _ _
  unfold shortest
  dsimp only
  generalize x.interval.search _ _ 17 1 = chosen at hpos ⊢
  exact isDigits_iff.mpr ⟨digitRun_digits_ne_nil hpos _, isDigit_of_mem_digitRun⟩

end Binary64

-- ============================================================= the layout

/-- Laid out without an exponent, digits are a numeral. -/
theorem DigitRun.exists_unsigned_eq_plain {r : DigitRun} (hr : isDigits r.digits = true) :
    ∃ n : Numeral, n.HasDigits ∧ n.unsigned = r.plain := by
  obtain ⟨hne, hall⟩ := isDigits_iff.mp hr
  have hlength := List.length_pos_iff.mpr hne
  have hzeros : ∀ count, ∀ c ∈ List.replicate count '0', isDigit c = true := by
    intro count c hc
    rw [List.eq_of_mem_replicate hc]
    decide
  rw [plain]
  split
  · refine ⟨⟨false, ['0'], some (List.replicate r.point.natAbs '0' ++ r.digits)⟩,
      ⟨by rfl, ?_⟩, rfl⟩
    intro digits hdigits
    cases hdigits
    refine isDigits_iff.mpr ⟨by simp [hne], fun c hc => ?_⟩
    rcases List.mem_append.mp hc with hc | hc
    · exact hzeros _ c hc
    · exact hall c hc
  · next hpoint =>
    split
    · refine ⟨⟨false, r.digits ++ List.replicate (r.point.natAbs - r.digits.length) '0', none⟩,
        ⟨?_, by simp⟩, rfl⟩
      refine isDigits_iff.mpr ⟨by simp [hne], fun c hc => ?_⟩
      rcases List.mem_append.mp hc with hc | hc
      · exact hall c hc
      · exact hzeros _ c hc
    · next hinside =>
      -- the point falls between two digits
      refine ⟨⟨false, r.digits.take r.point.natAbs, some (r.digits.drop r.point.natAbs)⟩,
        ⟨?_, ?_⟩, rfl⟩
      · refine isDigits_iff.mpr ⟨?_, fun c hc => hall c (List.mem_of_mem_take hc)⟩
        rw [ne_eq, ← List.length_eq_zero_iff, List.length_take]
        omega
      · intro digits hdigits
        cases hdigits
        refine isDigits_iff.mpr ⟨?_, fun c hc => hall c (List.mem_of_mem_drop hc)⟩
        rw [ne_eq, ← List.length_eq_zero_iff, List.length_drop]
        omega

/-- A finite binary64 number is written as a numeral. -/
theorem Binary64.isNumeral_write {x : Binary64} (h : x.isFinite = true) : IsNumeral x.write := by
  have hsize : ∃ n : Numeral, n.HasDigits ∧ n.unsigned
      = if x.isZero then ['0'] else if x.isFinite then (x.shortest .up).plain else "inf".toList := by
    split
    · exact ⟨⟨false, ['0'], none⟩, ⟨by decide, by simp⟩, rfl⟩
    · next hzero =>
      rw [Bool.not_eq_true] at hzero
      exact DigitRun.exists_unsigned_eq_plain (isDigits_shortest hzero)
  obtain ⟨n, hdigits, hn⟩ := hsize
  have hnan : x.isNaN = false := by simp [isNaN, h]
  simp only [write, hnan, ← hn]
  split
  · next hfalse => cases hfalse
  · split
    · exact hdigits.isNumeral_minus
    · exact hdigits.isNumeral

end QueryText
