/-
The grammar of decimal numerals, and what a numeral denotes. A numeral is an
optional sign, digits, and perhaps a point with more digits. The reader
divides a text at its first point and asks both parts for digits; that it
accepts this grammar and nothing else (`read_eq_some_iff`) rests on two
facts: digits hold no point, so the first point is the only one, and a text
that begins with a digit has no sign.

A numeral denotes a rational number: its digits in base ten, those of the
fraction divided by the power of ten that is as long as they are, and the
sign. As a text spells one numeral at most, it denotes that number and no
other (`denotes_iff`).
-/
import Mathlib.Algebra.Field.Rat
import Mathlib.Data.List.TakeWhile
import QueryText.Proofs.Text.Runs
import QueryText.Text.Numeral

namespace QueryText.Text

-- ============================================================ the grammar

namespace Numeral

/-- The two runs of digits of a numeral. -/
structure HasDigits (n : Numeral) : Prop where
  whole : isDigits n.whole = true
  fraction : ∀ digits ∈ n.fraction, isDigits digits = true

/-- A numeral without its sign. -/
def unsigned (n : Numeral) : List Char :=
  match n.fraction with
  | none => n.whole
  | some fraction => n.whole ++ '.' :: fraction

/-- The signs that a numeral can have in front: a plus sign may be left
out. -/
def signs (n : Numeral) : List (List Char) :=
  if n.negative then [['-']] else [[], ['+']]

/-- The texts of a numeral. -/
def Spells (n : Numeral) (s : List Char) : Prop :=
  n.HasDigits ∧ ∃ sign ∈ n.signs, s = sign ++ n.unsigned

end Numeral

/-- A text of the form `[+-]digits[.digits]`, where the sign may be missing. -/
def IsNumeral (s : List Char) : Prop :=
  ∃ n : Numeral, n.Spells s

/-- A numeral with no other digits than zeros behind the point, if there is
a point. -/
def IsWhole (s : List Char) : Prop :=
  ∃ n : Numeral, n.Spells s ∧ ∀ digits ∈ n.fraction, ∀ c ∈ digits, c = '0'

theorem IsWhole.isNumeral {s : List Char} (h : IsWhole s) : IsNumeral s := by
  obtain ⟨n, hn, -⟩ := h
  exact ⟨n, hn⟩

-- ============================================================= the reader

theorem isDigits_iff {s : List Char} :
    isDigits s = true ↔ s ≠ [] ∧ ∀ c ∈ s, isDigit c = true := by
  simp [isDigits]

theorem ne_of_isDigit {c d : Char} (h : isDigit c = true) (hd : isDigit d = false) : c ≠ d := by
  rintro rfl
  rw [h] at hd
  cases hd

namespace Numeral

variable {n : Numeral} {s : List Char}

/-- Digits hold no point. -/
theorem ne_point_of_mem (h : isDigits s = true) : ∀ c ∈ s, (c != '.') = true := by
  intro c hc
  rw [bne_iff_ne]
  exact ne_of_isDigit ((isDigits_iff.mp h).2 c hc) (by decide)

theorem readUnsigned_eq_some_iff {negative : Bool} :
    readUnsigned negative s = some n
      ↔ n.negative = negative ∧ n.HasDigits ∧ s = n.unsigned := by
  constructor
  · intro h
    have hparts : s.takeWhile (· != '.') ++ s.dropWhile (· != '.') = s :=
      List.takeWhile_append_dropWhile
    rw [readUnsigned] at h
    split at h
    · next hrest =>
      split at h
      · next hwhole =>
        cases h
        rw [hrest, List.append_nil] at hparts
        exact ⟨rfl, ⟨hwhole, by simp⟩, hparts.symm⟩
      · cases h
    · next point fraction hrest =>
      split at h
      · next hboth =>
        cases h
        rw [Bool.and_eq_true] at hboth
        have hpoint : point = '.' := by
          have hhead := List.head?_dropWhile_not (· != '.') s
          rw [hrest] at hhead
          simpa using hhead
        rw [hrest, hpoint] at hparts
        exact ⟨rfl, ⟨hboth.1, by simpa using hboth.2⟩, hparts.symm⟩
      · cases h
  · intro h
    obtain ⟨rfl, hdigits, rfl⟩ := h
    obtain ⟨negative, whole, fraction⟩ := n
    have hwhole := ne_point_of_mem hdigits.whole
    cases fraction with
    | none =>
        have htake : whole.takeWhile (· != '.') = whole :=
          List.takeWhile_eq_self_iff.mpr hwhole
        have hdrop : whole.dropWhile (· != '.') = [] :=
          List.dropWhile_eq_nil_iff.mpr hwhole
        simp [readUnsigned, unsigned, htake, hdrop, hdigits.whole]
    | some fraction =>
        have hfraction := hdigits.fraction fraction rfl
        simp [readUnsigned, unsigned, List.takeWhile_append_of_pos hwhole,
          List.dropWhile_append_of_pos hwhole, hdigits.whole, hfraction]

/-- Without a sign, a numeral begins with a digit. -/
theorem HasDigits.unsigned_eq_cons (h : n.HasDigits) :
    ∃ c rest, n.unsigned = c :: rest ∧ isDigit c = true := by
  obtain ⟨hne, hall⟩ := isDigits_iff.mp h.whole
  obtain ⟨c, rest, hwhole⟩ := List.exists_cons_of_ne_nil hne
  have hc : isDigit c = true := hall c (by simp [hwhole])
  unfold unsigned
  split
  · exact ⟨c, rest, hwhole, hc⟩
  · exact ⟨c, _, by rw [hwhole, List.cons_append], hc⟩

/-- The reader accepts the texts of the grammar, and divides them as the
grammar does. -/
theorem read_eq_some_iff : read s = some n ↔ n.Spells s := by
  constructor
  · intro h
    unfold read at h
    split at h
    · obtain ⟨hnegative, hdigits, rfl⟩ := readUnsigned_eq_some_iff.mp h
      exact ⟨hdigits, ['-'], by simp [signs, hnegative], rfl⟩
    · obtain ⟨hnegative, hdigits, rfl⟩ := readUnsigned_eq_some_iff.mp h
      exact ⟨hdigits, ['+'], by simp [signs, hnegative], rfl⟩
    · obtain ⟨hnegative, hdigits, rfl⟩ := readUnsigned_eq_some_iff.mp h
      exact ⟨hdigits, [], by simp [signs, hnegative], rfl⟩
  · intro h
    obtain ⟨hdigits, sign, hsign, rfl⟩ := h
    have hread := readUnsigned_eq_some_iff.mpr ⟨rfl, hdigits, rfl⟩
    cases hnegative : n.negative with
    | true =>
        obtain rfl : sign = ['-'] := by simpa [signs, hnegative] using hsign
        rwa [hnegative] at hread
    | false =>
        rw [hnegative] at hread
        obtain rfl | rfl : sign = [] ∨ sign = ['+'] := by simpa [signs, hnegative] using hsign
        · -- the first character is a digit, so it is not taken for a sign
          obtain ⟨c, rest, hcons, hc⟩ := hdigits.unsigned_eq_cons
          rw [hcons] at hread
          rw [List.nil_append, hcons]
          have hminus : c ≠ '-' := ne_of_isDigit hc (by decide)
          have hplus : c ≠ '+' := ne_of_isDigit hc (by decide)
          unfold read
          split
          · next heq => exact absurd (List.cons.inj heq).1 hminus
          · next heq => exact absurd (List.cons.inj heq).1 hplus
          · exact hread
        · exact hread

/-- Whether the fraction is zero, as the grammar of whole numbers asks. -/
theorem isIntegral_iff : n.isIntegral = true ↔ ∀ digits ∈ n.fraction, ∀ c ∈ digits, c = '0' := by
  unfold isIntegral
  cases n.fraction with
  | none => simp
  | some fraction => simp

-- ======================================================= what is written

theorem eq_of_mem_signs {sign : List Char} (h : sign ∈ n.signs) :
    sign = [] ∨ sign = ['+'] ∨ sign = ['-'] := by
  unfold signs at h
  split at h
  · exact .inr (.inr (List.mem_singleton.mp h))
  · rcases List.mem_cons.mp h with rfl | h
    · exact .inl rfl
    · exact .inr (.inl (List.mem_singleton.mp h))

/-- A numeral holds digits, signs and points. -/
theorem Spells.mem (h : n.Spells s) {c : Char} (hc : c ∈ s) :
    isDigit c = true ∨ c = '+' ∨ c = '-' ∨ c = '.' := by
  obtain ⟨hdigits, sign, hsign, rfl⟩ := h
  have hwhole := (isDigits_iff.mp hdigits.whole).2
  rcases List.mem_append.mp hc with hc | hc
  · right
    rcases eq_of_mem_signs hsign with rfl | rfl | rfl
    · cases hc
    · exact .inl (List.mem_singleton.mp hc)
    · exact .inr (.inl (List.mem_singleton.mp hc))
  · unfold unsigned at hc
    split at hc
    · exact .inl (hwhole c hc)
    · next fraction hfraction =>
      have hdigit := (isDigits_iff.mp (hdigits.fraction fraction hfraction)).2
      rcases List.mem_append.mp hc with hc | hc
      · exact .inl (hwhole c hc)
      · rcases List.mem_cons.mp hc with hpoint | hc
        · exact .inr (.inr (.inr hpoint))
        · exact .inl (hdigit c hc)

theorem Spells.isBlank_eq_false (h : n.Spells s) : ∀ c ∈ s, isBlank c = false := by
  intro c hc
  rcases h.mem hc with hdigit | rfl | rfl | rfl
  · exact isBlank_of_isDigit hdigit
  · rfl
  · rfl
  · rfl

/-- Digits with a point, without a sign. -/
theorem HasDigits.isNumeral (h : n.HasDigits) : IsNumeral n.unsigned :=
  ⟨⟨false, n.whole, n.fraction⟩, ⟨h.whole, h.fraction⟩, [], by simp [signs], rfl⟩

theorem HasDigits.isNumeral_minus (h : n.HasDigits) : IsNumeral ('-' :: n.unsigned) :=
  ⟨⟨true, n.whole, n.fraction⟩, ⟨h.whole, h.fraction⟩, ['-'], by simp [signs], rfl⟩

/-- Without fraction and plus sign it is a numeral still. -/
theorem HasDigits.spells_writeWhole (h : n.HasDigits) :
    (⟨n.negative, n.whole, none⟩ : Numeral).Spells n.writeWhole := by
  refine ⟨⟨h.whole, by simp⟩, ?_⟩
  unfold writeWhole
  cases hnegative : n.negative with
  | true => exact ⟨['-'], by simp [signs], rfl⟩
  | false => exact ⟨[], by simp [signs], rfl⟩

/-- The number that a numeral stands for. -/
def value (n : Numeral) : ℚ :=
  let fraction := n.fraction.getD []
  let size : ℚ := number n.whole + number fraction / 10 ^ fraction.length
  if n.negative then -size else size

theorem number_of_zeros (h : ∀ c ∈ s, c = '0') : number s = 0 := by
  rw [List.eq_replicate_of_mem h, number, Nat.ofDigitChars_replicate_zero, Nat.mul_zero]

/-- Zeros behind the point add nothing. -/
theorem value_of_zeros (h : ∀ digits ∈ n.fraction, ∀ c ∈ digits, c = '0') :
    (⟨n.negative, n.whole, none⟩ : Numeral).value = n.value := by
  have hzero : number (n.fraction.getD []) = 0 := by
    apply number_of_zeros
    cases hfraction : n.fraction with
    | none => simp
    | some fraction => exact h fraction hfraction
  have hnone : number [] = 0 := rfl
  simp [value, hzero, hnone]

end Numeral

theorem not_isNumeral_of_read {s : List Char} (h : Numeral.read s = none) : ¬ IsNumeral s := by
  intro hnumeral
  obtain ⟨n, hn⟩ := hnumeral
  rw [Numeral.read_eq_some_iff.mpr hn] at h
  cases h

theorem isNumeral_digit {c : Char} (h : isDigit c = true) : IsNumeral [c] :=
  Numeral.HasDigits.isNumeral (n := ⟨false, [c], none⟩) ⟨by simp [isDigits, h], by simp⟩

/-- A whole number is written as a numeral. -/
theorem isNumeral_int (n : Int) : IsNumeral (int n) := by
  have hdigits : (⟨false, digits n.natAbs, none⟩ : Numeral).HasDigits :=
    ⟨isDigits_iff.mpr ⟨digits_ne_nil _, fun _ hc => isDigit_of_mem_digits hc⟩, by simp⟩
  unfold int
  split
  · exact hdigits.isNumeral_minus
  · exact hdigits.isNumeral

/-- Trimming leaves a text without blanks as it is. -/
theorem trim_eq_self {s : List Char} (h : ∀ c ∈ s, isBlank c = false) : trim s = s := by
  have hdrop : ∀ t : List Char, (∀ c ∈ t, isBlank c = false) → t.dropWhile isBlank = t := by
    intro t ht
    cases t with
    | nil => rfl
    | cons c rest => simp [ht c List.mem_cons_self]
  unfold trim trimEnd trimStart
  rw [hdrop s h, hdrop s.reverse fun c hc => h c (List.mem_reverse.mp hc), List.reverse_reverse]

theorem IsNumeral.trim_eq {s : List Char} (h : IsNumeral s) : trim s = s := by
  obtain ⟨n, hn⟩ := h
  exact trim_eq_self hn.isBlank_eq_false

-- ========================================================== what is denoted

/-- The text is a numeral that stands for the number. -/
def Denotes (s : List Char) (x : ℚ) : Prop :=
  ∃ n : Numeral, n.Spells s ∧ n.value = x

/-- The number of a text is that of the numeral that it spells. -/
theorem denotes_iff {n : Numeral} {s : List Char} (h : n.Spells s) {x : ℚ} :
    Denotes s x ↔ n.value = x := by
  constructor
  · intro hx
    obtain ⟨m, hm, rfl⟩ := hx
    have hread := Numeral.read_eq_some_iff.mpr h
    rw [Numeral.read_eq_some_iff.mpr hm, Option.some_inj] at hread
    rw [hread]
  · intro hvalue
    exact ⟨n, h, hvalue⟩

end QueryText.Text
