/-
Runs of digits: what a reader takes from a text that begins with a written
number. A run ends at the first character that is no digit, so the readers
are looked at on the digits of a number with a text behind them that a run
does not go on into.
-/
import QueryText.Number.Power
import QueryText.Text.Blank
import QueryText.Text.Digits

namespace QueryText.Text

-- ================================================ where a run of digits ends

/-- A text that no run of digits goes on into. -/
def EndsRun (rest : List Char) : Prop :=
  ∀ c ∈ rest.head?, isDigit c = false

theorem endsRun_nil : EndsRun [] := by
  simp [EndsRun]

theorem endsRun_cons {c : Char} (h : isDigit c = false) (rest : List Char) :
    EndsRun (c :: rest) := by
  simpa [EndsRun] using h

theorem EndsRun.takeWhile {rest : List Char} (h : EndsRun rest) :
    rest.takeWhile isDigit = [] := by
  cases rest with
  | nil => rfl
  | cons c s => simp [h c rfl]

theorem EndsRun.dropWhile {rest : List Char} (h : EndsRun rest) :
    rest.dropWhile isDigit = rest := by
  cases rest with
  | nil => rfl
  | cons c s => simp [h c rfl]

/-- Digits before the end of a run are taken, all of them. -/
theorem spanDigits_append {s rest : List Char} (hs : ∀ c ∈ s, isDigit c = true)
    (hrest : EndsRun rest) : spanDigits (s ++ rest) = (s, rest) := by
  unfold spanDigits
  rw [List.takeWhile_append_of_pos hs, List.dropWhile_append_of_pos hs, hrest.takeWhile,
    hrest.dropWhile, List.append_nil]

theorem isBlank_of_isDigit {c : Char} (h : isDigit c = true) : isBlank c = false := by
  simp only [isDigit, Bool.and_eq_true, decide_eq_true_eq, Char.reduceToNat] at h
  simp only [isBlank, Bool.or_eq_false_iff, Bool.and_eq_false_iff, decide_eq_false_iff_not,
    beq_eq_false_iff_ne]
  omega

/-- There are no blanks before a digit. -/
theorem trimStart_digit {c : Char} (h : isDigit c = true) (s : List Char) :
    trimStart (c :: s) = c :: s := by
  simp [trimStart, isBlank_of_isDigit h]

-- ============================================================ leading zeros

/-- Only zero is written with a zero in front. -/
theorem eq_zero_of_digits {n : Nat} {s : List Char} (h : digits n = '0' :: s) : n = 0 := by
  induction n using Nat.strongRecOn generalizing s with
  | ind n ih =>
    have hten : 1 < 10 := by decide
    unfold digits at h
    by_cases hn : n < 10
    · rw [Nat.toDigits_of_lt_base hn] at h
      have hfirst : n.digitChar = '0' := by injection h
      have hall : ∀ m < 10, m.digitChar = '0' → m = 0 := by decide
      exact hall n hn hfirst
    · rw [Nat.toDigits_of_base_le hten (by omega)] at h
      -- The first digit of `n` is that of `n / 10`, which is not zero.
      cases hd : Nat.toDigits 10 (n / 10) with
      | nil => exact absurd hd Nat.toDigits_ne_nil
      | cons c t =>
        rw [hd] at h
        have hc : c = '0' := by injection h
        have hzero : n / 10 = 0 := ih (n / 10) (by omega) (hc ▸ hd)
        omega

-- =========================================================== padded numbers

theorem isDigit_of_mem_padded {width n : Nat} {c : Char} (h : c ∈ padded width n) :
    isDigit c = true := by
  rw [padded, List.mem_append] at h
  rcases h with hzero | hdigit
  · rw [List.eq_of_mem_replicate hzero]
    decide
  · exact isDigit_of_mem_digits hdigit

theorem padded_ne_nil (width n : Nat) : padded width n ≠ [] := by
  simp [padded, digits_ne_nil]

/-- Zeros in front do not change a number. -/
@[simp]
theorem number_padded (width n : Nat) : number (padded width n) = n := by
  unfold number padded
  rw [Nat.ofDigitChars_append, Nat.ofDigitChars_replicate_zero, Nat.mul_zero]
  exact number_digits n

/-- A number that fits its width has that width. -/
theorem length_padded {width n : Nat} (hwidth : 0 < width) (hn : n < tenTo width) :
    (padded width n).length = width := by
  have hlength : (digits n).length ≤ width := (Nat.length_toDigits_le_iff (by decide) hwidth).mpr hn
  simp only [padded, List.length_append, List.length_replicate]
  omega

theorem padded_eq_cons (width n : Nat) :
    ∃ c s, padded width n = c :: s ∧ isDigit c = true := by
  obtain ⟨c, s, h⟩ := List.exists_cons_of_ne_nil (padded_ne_nil width n)
  exact ⟨c, s, h, isDigit_of_mem_padded (by rw [h]; exact List.mem_cons_self)⟩

theorem trimStart_padded (width n : Nat) (rest : List Char) :
    trimStart (padded width n ++ rest) = padded width n ++ rest := by
  obtain ⟨c, s, h, hc⟩ := padded_eq_cons width n
  rw [h, List.cons_append, trimStart_digit hc]

end QueryText.Text
