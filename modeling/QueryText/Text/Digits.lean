/-
Decimal digits: the readers' view of them (which characters are digits,
the number that a run of them stands for) and the writers' (a whole
number, with its sign or padded to a width).
-/
namespace QueryText.Text

-- ============================================================= reading

/-- The ten ASCII digits. -/
def isDigit (c : Char) : Bool :=
  '0'.toNat ≤ c.toNat && c.toNat ≤ '9'.toNat

/-- Whether a text is made of digits, at least one of them. -/
def isDigits (s : List Char) : Bool :=
  !s.isEmpty && s.all isDigit

/-- The number that a run of digits stands for. -/
def number (s : List Char) : Nat :=
  Nat.ofDigitChars 10 s 0

/-- The longest run of digits at the start, and what follows it. -/
def spanDigits (s : List Char) : List Char × List Char :=
  (s.takeWhile isDigit, s.dropWhile isDigit)

-- ============================================================= writing

/-- The decimal digits of a number, without leading zeros. -/
def digits (n : Nat) : List Char :=
  Nat.toDigits 10 n

/-- A whole number, with a minus sign when it is negative. -/
def int (n : Int) : List Char :=
  if n < 0 then '-' :: digits n.natAbs else digits n.natAbs

/-- A number in at least `width` digits, filled with zeros. -/
def padded (width n : Nat) : List Char :=
  let d := digits n
  List.replicate (width - d.length) '0' ++ d

-- ================================================================ laws

/-- The digits of a number stand for it. -/
@[simp]
theorem number_digits (n : Nat) : number (digits n) = n :=
  Nat.ofDigitChars_ten_toDigits

/-- Different numbers have different digits. -/
theorem digits_injective {m n : Nat} (h : digits m = digits n) : m = n := by
  have hnumber := congrArg number h
  rwa [number_digits, number_digits] at hnumber

/-- A number has at least one digit. -/
theorem digits_ne_nil (n : Nat) : digits n ≠ [] :=
  Nat.toDigits_ne_nil

/-- Digits are all that a number is written with. -/
theorem isDigit_of_mem_digits {n : Nat} {c : Char} (hc : c ∈ digits n) : isDigit c = true := by
  have hdigit : c.isDigit = true :=
    Nat.isDigit_of_mem_toDigits (by decide) (by decide) hc
  simpa [isDigit, Char.isDigit, UInt32.le_iff_toNat_le] using hdigit

end QueryText.Text
