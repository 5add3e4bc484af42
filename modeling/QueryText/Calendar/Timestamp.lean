/-
Points of time without a zone: a date and a time of day down to the
nanosecond. A leap second has no number of its own. It is the time behind a
second in which the nanoseconds count on past the end of it, and it may be
behind any second, also where no clock has ever put one.

A leap second is written as the second after. Behind second 59 that is 60,
and read as such; behind another second the text is that of an ordinary
time. Documents write the nanoseconds too, with a T between date and time and
the fraction in three, six or nine digits; SQL text has a space there and
leaves the fraction out.
-/
import QueryText.Calendar.Date
import QueryText.Number.Power

namespace QueryText

/-- Whether this is a time of day. A second and its leap second are two
thousand million nanoseconds. -/
def IsTime (hour minute second nanosecond : Nat) : Prop :=
  hour < 24 ∧ minute < 60 ∧ second < 60 ∧ nanosecond < 2000000000

instance (h m s n : Nat) : Decidable (IsTime h m s n) := by
  unfold IsTime
  infer_instance

/-- A date and a time of day. -/
structure Timestamp where
  date : Date
  hour : Nat
  minute : Nat
  second : Nat
  nanosecond : Nat
  isTime : IsTime hour minute second nanosecond
deriving DecidableEq

namespace Timestamp

/-- The timestamp of its numbers, if they are a time of day. -/
def ofParts? (date : Date) (h m s n : Nat) : Option Timestamp :=
  if ok : IsTime h m s n then some ⟨date, h, m, s, n, ok⟩ else none

-- ============================================================= writing

/-- The second that is written. In a leap second it is the one after. -/
def shownSecond (t : Timestamp) : Nat :=
  t.second + t.nanosecond / 1000000000

/-- The nanoseconds that are written, of that second. -/
def shownNanosecond (t : Timestamp) : Nat :=
  t.nanosecond % 1000000000

/-- Hour, minute and second in two digits each. -/
def writeClock (t : Timestamp) : List Char :=
  Text.padded 2 t.hour ++ ':' :: Text.padded 2 t.minute ++ ':' :: Text.padded 2 t.shownSecond

/-- The fraction of the second, in the fewest groups of three digits. -/
def writeFraction (n : Nat) : List Char :=
  if n = 0 then []
  else if n % 1000000 = 0 then '.' :: Text.padded 3 (n / 1000000)
  else if n % 1000 = 0 then '.' :: Text.padded 6 (n / 1000)
  else '.' :: Text.padded 9 n

/-- The form of SQL text, without the fraction. -/
def write (t : Timestamp) : List Char :=
  t.date.write ++ ' ' :: t.writeClock

/-- The form of documents. -/
def writeExact (t : Timestamp) : List Char :=
  t.date.write ++ 'T' :: t.writeClock ++ writeFraction t.shownNanosecond

-- ============================================================= reading

/-- A point and digits, as nanoseconds; digits after the ninth are dropped. -/
def readFraction : List Char → Option (Nat × List Char)
  | '.' :: s =>
    let (d, s) := Text.spanDigits s
    let d := d.take 9
    if d.isEmpty then none else some (Text.number d * tenTo (9 - d.length), s)
  | s => some (0, s)

/-- The timestamp of the numbers in a text. Second 60 is the leap second behind
second 59. -/
def ofShown? (date : Date) (h m s n : Nat) : Option Timestamp :=
  if s = 60 then ofParts? date h m 59 (1000000000 + n) else ofParts? date h m s n

/-- The timestamp that a text holds: a date, a T, and a time with seconds. -/
def read (s : List Char) : Option Timestamp := do
  let (date, s) ← Date.readFrom s
  let s ← Date.readMark 'T' s
  let (hour, s) ← Date.readNumber 2 s
  let s ← Date.readMark ':' s
  let (minute, s) ← Date.readNumber 2 s
  let s ← Date.readMark ':' s
  let (second, s) ← Date.readNumber 2 s
  let (nanosecond, s) ← readFraction s
  if (Text.trimStart s).isEmpty then ofShown? date hour minute second nanosecond else none

end Timestamp
end QueryText
