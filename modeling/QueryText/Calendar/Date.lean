/-
Dates of the proleptic Gregorian calendar, with years of either sign. The
written form is year-month-day; a year outside of 0 to 9999 carries its
sign. The reader allows blanks before each number and between a number and
the hyphen after it, and short months and days.
-/
import QueryText.Text.Blank
import QueryText.Text.Digits

namespace QueryText

-- ========================================================= the calendar

/-- Every fourth year, of the centuries every fourth one. -/
def isLeapYear (y : Int) : Bool :=
  y % 4 = 0 && (y % 100 ≠ 0 || y % 400 = 0)

/-- The number of days of a month. -/
def daysInMonth (y : Int) (m : Nat) : Nat :=
  if m = 2 then (if isLeapYear y then 29 else 28)
  else if m = 4 ∨ m = 6 ∨ m = 9 ∨ m = 11 then 30
  else 31

/-- Whether the calendar has a day, within the years that dates cover. -/
def IsDay (y : Int) (m d : Nat) : Prop :=
  -262143 ≤ y ∧ y ≤ 262142 ∧ 1 ≤ m ∧ m ≤ 12 ∧ 1 ≤ d ∧ d ≤ daysInMonth y m

instance (y : Int) (m d : Nat) : Decidable (IsDay y m d) := by
  unfold IsDay
  infer_instance

/-- A day of the calendar. -/
structure Date where
  year : Int
  month : Nat
  day : Nat
  isDay : IsDay year month day
deriving DecidableEq

namespace Date

/-- The date of three numbers, if the calendar has it. -/
def ofParts? (y : Int) (m d : Nat) : Option Date :=
  if h : IsDay y m d then some ⟨y, m, d, h⟩ else none

-- ============================================================= writing

/-- A year: four digits, with a sign outside of 0 to 9999. -/
def writeYear (y : Int) : List Char :=
  if 0 ≤ y ∧ y ≤ 9999 then Text.padded 4 y.natAbs
  else (if y < 0 then '-' else '+') :: Text.padded 4 y.natAbs

/-- Year, month and day with hyphens between them. -/
def write (d : Date) : List Char :=
  writeYear d.year ++ '-' :: Text.padded 2 d.month ++ '-' :: Text.padded 2 d.day

-- ============================================================= reading

/-- At least one and at most `most` digits after blanks, with what follows. -/
def readNumber (most : Nat) (s : List Char) : Option (Nat × List Char) :=
  let s := Text.trimStart s
  let d := (s.takeWhile Text.isDigit).take most
  if d.isEmpty then none else some (Text.number d, s.drop d.length)

/-- Any number of digits, at least one and without blanks before them. -/
def readLongNumber (s : List Char) : Option (Nat × List Char) :=
  let (d, s) := Text.spanDigits s
  if d.isEmpty then none else some (Text.number d, s)

/-- A year: a sign and digits, or at most four digits. -/
def readYear (s : List Char) : Option (Int × List Char) :=
  match Text.trimStart s with
  | '-' :: s => (readLongNumber s).map fun (n, s) => (-(n : Int), s)
  | '+' :: s => (readLongNumber s).map fun (n, s) => ((n : Int), s)
  | s => (readNumber 4 s).map fun (n, s) => ((n : Int), s)

/-- The character, after blanks. -/
def readMark (mark : Char) (s : List Char) : Option (List Char) :=
  match Text.trimStart s with
  | c :: s => if c = mark then some s else none
  | [] => none

/-- A date at the start of a text, with what follows it. -/
def readFrom (s : List Char) : Option (Date × List Char) := do
  let (y, s) ← readYear s
  let s ← readMark '-' s
  let (m, s) ← readNumber 2 s
  let s ← readMark '-' s
  let (d, s) ← readNumber 2 s
  return (← ofParts? y m d, s)

/-- The date that a text holds. -/
def read (s : List Char) : Option Date := do
  let (d, s) ← readFrom s
  if (Text.trimStart s).isEmpty then some d else none

end Date
end QueryText
