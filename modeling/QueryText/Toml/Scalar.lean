/-
The TOML values that are single words: truth values, numbers and points of
time. A word is read whole, then asked which of them it is.
-/
import QueryText.Calendar.Date
import QueryText.Toml.Quoted

namespace QueryText.Toml

-- =============================================================== digits

/-- A run of digits in which single underscores may stand between two of
them; the digits without the underscores. -/
def plainDigits (isDigit : Char → Bool) : List Char → Option (List Char)
  | [] => none
  | [c] => if isDigit c then some [c] else none
  | c :: '_' :: s =>
    if isDigit c then (plainDigits isDigit s).map (c :: ·) else none
  | c :: s => if isDigit c then (plainDigits isDigit s).map (c :: ·) else none

/-- The digits of a decimal number: a zero alone, or no zero in front. -/
def decimalDigits (s : List Char) : Option (List Char) :=
  match plainDigits Text.isDigit s with
  | some ('0' :: _ :: _) => none
  | d => d

/-- A sign, if there is one, and the rest: whether it is a minus sign. -/
def splitSign : List Char → Bool × List Char
  | '-' :: s => (true, s)
  | '+' :: s => (false, s)
  | s => (false, s)

-- ============================================================= integers

/-- Digits of a base, given by their letter after a zero. -/
def basedInteger (base : Nat) (s : List Char) : Option Int :=
  let isDigit := fun c => match hexValue c with
    | some n => n < base
    | none => false
  match plainDigits isDigit s with
  | some d =>
    let n := d.foldl (fun n c => base * n + (hexValue c).getD 0) 0
    if n < twoTo 63 then some n else none
  | none => none

/-- A whole number of sixty-four bits. -/
def integer? : List Char → Option Int
  | '0' :: 'x' :: s => basedInteger 16 s
  | '0' :: 'o' :: s => basedInteger 8 s
  | '0' :: 'b' :: s => basedInteger 2 s
  | s =>
    let (negative, s) := splitSign s
    match decimalDigits s with
    | some d =>
      let n : Int := Text.number d
      let n := if negative then -n else n
      if -(twoTo 63 : Int) ≤ n && n < twoTo 63 then some n else none
    | none => none

-- =============================================================== floats

/-- An exponent: a sign, if there is one, and digits. -/
def powerDigits (s : List Char) : Option (List Char) :=
  match s with
  | '-' :: s => (plainDigits Text.isDigit s).map ('-' :: ·)
  | '+' :: s => plainDigits Text.isDigit s
  | s => plainDigits Text.isDigit s

/-- The parts of a float without underscores: digits, then a point with
digits, or an exponent, or both. -/
def floatDigits (s : List Char) : Option (List Char) := do
  let isPower := fun c => c == 'e' || c == 'E'
  let mantissa := s.takeWhile fun c => !isPower c
  let whole ← decimalDigits (mantissa.takeWhile (· != '.'))
  let fraction ← match mantissa.dropWhile (· != '.') with
    | _ :: f => (plainDigits Text.isDigit f).map ('.' :: ·)
    | [] => some []
  match s.dropWhile fun c => !isPower c with
  | _ :: power =>
    let power ← powerDigits power
    return whole ++ fraction ++ 'e' :: power
  | [] => if fraction.isEmpty then none else return whole ++ fraction

/-- A binary64 number. One that is too large is refused, one that is too
small in the negative is an infinity. -/
def float? (s : List Char) : Option Binary64 :=
  let (negative, s) := splitSign s
  if s = "inf".toList then some (.infinity negative)
  else if s = "nan".toList then some .nan
  else match (floatDigits s).bind Binary64.read with
    | some x => if x.isFinite || negative then some (x.withSign negative) else none
    | none => none

-- ====================================================== points of time

/-- The number of exactly so many digits at the start, with what follows. -/
def readFixed (width : Nat) : Reader Nat := fun s =>
  let d := s.take width
  if d.length = width && d.all Text.isDigit then some (Text.number d, s.drop width) else none

/-- The text after a character that has to be there. -/
def readMark (mark : Char) : List Char → Option (List Char)
  | c :: s => if c = mark then some s else none
  | [] => none

/-- A day of the calendar: year, month and day. -/
def readDay (s : List Char) : Option (List Char) := do
  let (y, s) ← readFixed 4 s
  let (m, s) ← readFixed 2 (← readMark '-' s)
  let (d, s) ← readFixed 2 (← readMark '-' s)
  if IsDay y m d then some s else none

/-- A fraction of a second, if there is one. -/
def readFraction : List Char → Option (List Char)
  | '.' :: s =>
    let (d, s) := Text.spanDigits s
    if d.isEmpty then none else some s
  | s => some s

/-- A time of day. -/
def readTime (s : List Char) : Option (List Char) := do
  let (h, s) ← readFixed 2 s
  let (m, s) ← readFixed 2 (← readMark ':' s)
  let (sec, s) ← readFixed 2 (← readMark ':' s)
  if h < 24 && m < 60 && sec ≤ 60 then readFraction s else none

/-- The end of a word, or an offset from universal time and then the end. -/
def isOffset : List Char → Bool
  | [] => true
  | [c] => c == 'Z' || c == 'z'
  | c :: s =>
    (c == '+' || c == '-') && (do
      let (h, s) ← readFixed 2 s
      let (m, s) ← readFixed 2 (← readMark ':' s)
      return h < 24 && m < 60 && s.isEmpty : Option Bool).getD false

/-- Whether a word is a date, a time, or both with an offset or without. -/
def isMoment (s : List Char) : Bool :=
  match readDay s with
  | some [] => true
  | some (c :: s) =>
    (c == 'T' || c == 't' || c == ' ') && match readTime s with
      | some s => isOffset s
      | none => false
  | none =>
    match readTime s with
    | some s => s.isEmpty
    | none => false

-- ================================================================ words

/-- The characters of words. -/
def isWordChar (c : Char) : Bool :=
  c.isAlphanum || c == '_' || c == '+' || c == '-' || c == '.' || c == ':'

/-- A word. One that is a date goes on over a space if a digit follows. -/
def spanWord (s : List Char) : List Char × List Char :=
  let word := s.takeWhile isWordChar
  match readDay word, s.dropWhile isWordChar with
  | some [], ' ' :: c :: rest =>
    if Text.isDigit c then
      (word ++ ' ' :: (c :: rest).takeWhile isWordChar, (c :: rest).dropWhile isWordChar)
    else (word, ' ' :: c :: rest)
  | _, rest => (word, rest)

/-- The value that a word is. -/
def ofWord (s : List Char) : Option Toml :=
  if s = "true".toList then some (.boolean true)
  else if s = "false".toList then some (.boolean false)
  else if isMoment s then some (.moment (String.ofList s))
  else match integer? s with
    | some n => some (.integer n)
    | none => (float? s).map .float

end QueryText.Toml
