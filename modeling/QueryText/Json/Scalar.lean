/-
The parts of a JSON text that have no parts themselves: blanks, texts and
numbers. A text holds no raw control character, and its escapes give whole
characters, never half of a surrogate pair. A number has no zero in front
and a digit on each side of its point.

Each reader takes the characters that are left and returns what it read
with what is left after it.
-/
import QueryText.Json.Basic

namespace QueryText.Json

/-- A reader: what it read, and the characters after it. -/
abbrev Reader (α : Type) := List Char → Option (α × List Char)

/-- The text without the blanks it begins with: space, tab, line feed and
carriage return. -/
def skipBlanks (s : List Char) : List Char :=
  s.dropWhile fun c => c == ' ' || c == '\t' || c == '\n' || c == '\r'

-- ================================================================ texts

/-- The value of a hexadecimal digit of either case. -/
def hexValue (c : Char) : Option Nat :=
  if Text.isDigit c then some (c.toNat - '0'.toNat)
  else if 'a' ≤ c && c ≤ 'f' then some (c.toNat - 'a'.toNat + 10)
  else if 'A' ≤ c && c ≤ 'F' then some (c.toNat - 'A'.toNat + 10)
  else none

/-- The code unit that four hexadecimal digits stand for. -/
def codeUnit (a b c d : Char) : Option Nat := do
  return (← hexValue a) * 4096 + (← hexValue b) * 256 + (← hexValue c) * 16 + (← hexValue d)

/-- The first half of a surrogate pair. -/
def isHighSurrogate (n : Nat) : Bool :=
  0xD800 ≤ n && n ≤ 0xDBFF

/-- The second half of a surrogate pair. -/
def isLowSurrogate (n : Nat) : Bool :=
  0xDC00 ≤ n && n ≤ 0xDFFF

/-- The character that a short escape stands for. -/
def unescape (c : Char) : Option Char :=
  match c with
  | '"' => some '"'
  | '\\' => some '\\'
  | '/' => some '/'
  | 'b' => some '\x08'
  | 'f' => some '\x0c'
  | 'n' => some '\n'
  | 'r' => some '\r'
  | 't' => some '\t'
  | _ => none

/-- The rest of a text, after its opening quotation mark and up to the
closing one. -/
def readQuoted : Reader (List Char)
  | [] => none
  | '"' :: s => some ([], s)
  | '\\' :: 'u' :: a :: b :: c :: d :: s =>
    match codeUnit a b c d with
    | none => none
    | some unit =>
      if isHighSurrogate unit then
        match s with
        | '\\' :: 'u' :: e :: f :: g :: h :: s =>
          match codeUnit e f g h with
          | none => none
          | some second =>
            if isLowSurrogate second then
              let c := Char.ofNat (0x10000 + (unit - 0xD800) * 1024 + (second - 0xDC00))
              (readQuoted s).map fun (t, s) => (c :: t, s)
            else none
        | _ => none
      else if isLowSurrogate unit then none
      else (readQuoted s).map fun (t, s) => (Char.ofNat unit :: t, s)
  | '\\' :: c :: s =>
    match unescape c with
    | none => none
    | some c => (readQuoted s).map fun (t, s) => (c :: t, s)
  | c :: s =>
    if c.toNat < 0x20 then none
    else (readQuoted s).map fun (t, s) => (c :: t, s)

-- ============================================================== numbers

/-- The parts of a number as it is written. -/
structure Numeral where
  negative : Bool
  whole : List Char
  /-- The digits after the point; none without a point. -/
  fraction : List Char
  /-- The exponent, if one is written. -/
  exponent : Option Int

/-- Whether a number is written without point and exponent. -/
def Numeral.isWhole (n : Numeral) : Bool :=
  n.fraction.isEmpty && n.exponent.isNone

/-- The digits before the point: a zero alone, or no zero in front. -/
def readWhole : Reader (List Char)
  | [] => none
  | '0' :: s => if (Text.spanDigits s).1.isEmpty then some (['0'], s) else none
  | s =>
    let (d, s) := Text.spanDigits s
    if d.isEmpty then none else some (d, s)

/-- A point and at least one digit, or nothing. -/
def readFraction : Reader (List Char)
  | '.' :: s =>
    let (d, s) := Text.spanDigits s
    if d.isEmpty then none else some (d, s)
  | s => some ([], s)

/-- The digits of an exponent. -/
def readPower (negative : Bool) : Reader (Option Int) := fun s =>
  let (d, s) := Text.spanDigits s
  if d.isEmpty then none
  else
    let n : Int := Text.number d
    some (some (if negative then -n else n), s)

/-- A letter e, an optional sign and at least one digit, or nothing. -/
def readExponent : Reader (Option Int)
  | [] => some (none, [])
  | c :: s =>
    if c = 'e' || c = 'E' then
      match s with
      | '-' :: s => readPower true s
      | '+' :: s => readPower false s
      | s => readPower false s
    else some (none, c :: s)

/-- A number without its sign. -/
def readUnsigned (negative : Bool) : Reader Numeral := fun s => do
  let (digits, s) ← readWhole s
  let (fraction, s) ← readFraction s
  let (exponent, s) ← readExponent s
  return (⟨negative, digits, fraction, exponent⟩, s)

/-- Puts digits after those of a number for as long as it stays below
`2 ^ 64`, and drops the rest of them. The number comes with the count of the
digits that it took. -/
def takeDigits (n : Nat) : List Char → Nat × Nat
  | [] => (n, 0)
  | c :: rest =>
    let longer := Nat.ofDigitChars 10 [c] n
    if longer < twoTo 64 then
      let (all, count) := takeDigits longer rest
      (all, count + 1)
    else (n, 0)

/-- Ten to the power, rounded. -/
def powerOfTen (n : Nat) : Binary64 :=
  Binary64.ofNat (tenTo n)

/-- Scales a size by `10 ^ e`: one product or one quotient of rounded
numbers, two quotients where the power is too small for one. A product that
is not finite is refused. -/
def scale (x : Binary64) (e : Int) : Option Binary64 :=
  if e < 0 then
    if e.natAbs ≤ 308 then some (x.div (powerOfTen e.natAbs))
    else if e.natAbs ≤ 616 then
      some ((x.div (powerOfTen 308)).div (powerOfTen (e.natAbs - 308)))
    else some (Binary64.zero false)
  else if x.isZero then some x
  else if e ≤ 308 then
    let y := x.mul (powerOfTen e.natAbs)
    if y.isFinite then some y else none
  else none

/-- The binary64 number that a numeral is read as: the digits that fit in
sixty-four bits, rounded, then scaled. Both before and after the point the
later digits are dropped. -/
def Numeral.toReal? (n : Numeral) : Option Binary64 :=
  let (whole, before) := takeDigits 0 n.whole
  let (size, after) := takeDigits whole n.fraction
  let e : Int := n.exponent.getD 0 + n.whole.length - (before + after)
  (scale (Binary64.ofNat size) e).map (Binary64.withSign n.negative)

/-- The value of a numeral. A whole one is kept as it is while it fits in
sixty-four bits, signed when negative; minus zero is a binary64 number. -/
def Numeral.toJson? (n : Numeral) : Option Json :=
  let size := Text.number n.whole
  if n.isWhole && !n.negative && size < twoTo 64 then some (.whole size)
  else if n.isWhole && n.negative && 0 < size && size ≤ twoTo 63 then some (.whole (-size))
  else n.toReal?.map .real

/-- A number as it is written. -/
def readNumeral : Reader Numeral
  | '-' :: s => readUnsigned true s
  | s => readUnsigned false s

/-- A number. -/
def readNumber : Reader Json := fun s => do
  let (n, s) ← readNumeral s
  return (← n.toJson?, s)

end QueryText.Json
