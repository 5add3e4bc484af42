/-
Numbers of the binary64 format, by their sixty-four bits: the sign, eleven
bits of exponent and fifty-two of fraction. Everything is exact arithmetic
on naturals. A finite number is `significand * 2 ^ exponent`, and one
function, `ofRatio`, rounds a quotient to the nearest such number; products,
quotients and the reading of decimal texts go through it.
-/
import QueryText.Number.Power
import QueryText.Text.Digits

namespace QueryText

/-- A number of the binary64 format. -/
structure Binary64 where
  bits : UInt64
deriving DecidableEq

namespace Binary64

-- ============================================================ the parts

/-- Whether the sign bit is set. -/
def isNegative (x : Binary64) : Bool :=
  twoTo 63 ≤ x.bits.toNat

/-- The eleven bits between sign and fraction. -/
def exponentBits (x : Binary64) : Nat :=
  x.bits.toNat / twoTo 52 % twoTo 11

/-- The low fifty-two bits. -/
def fractionBits (x : Binary64) : Nat :=
  x.bits.toNat % twoTo 52

/-- Neither an infinity nor a NaN. -/
def isFinite (x : Binary64) : Bool :=
  x.exponentBits < twoTo 11 - 1

/-- Not a number: the largest exponent with a fraction. -/
def isNaN (x : Binary64) : Bool :=
  !x.isFinite && x.fractionBits != 0

/-- Zero of either sign. -/
def isZero (x : Binary64) : Bool :=
  x.exponentBits == 0 && x.fractionBits == 0

/-- The whole factor of a finite number; below `2 ^ 52` for the subnormal
ones, which have no hidden bit. -/
def significand (x : Binary64) : Nat :=
  if x.exponentBits = 0 then x.fractionBits else twoTo 52 + x.fractionBits

/-- The power of two that the significand is scaled by. -/
def exponent (x : Binary64) : Int :=
  (max x.exponentBits 1 : Nat) - 1075

/-- The size of a finite number as a quotient of naturals. -/
def toRatio (x : Binary64) : Nat × Nat :=
  if x.exponent < 0 then (x.significand, twoTo x.exponent.natAbs)
  else (x.significand * twoTo x.exponent.natAbs, 1)

-- ============================================================= building

/-- The bits of a sign and a size; every size at or past the largest
exponent is infinite. -/
def ofParts (negative : Bool) (size : Nat) : Binary64 :=
  ⟨UInt64.ofNat ((if negative then twoTo 63 else 0) + min size (2047 * twoTo 52))⟩

/-- Zero, of the given sign. -/
def zero (negative : Bool) : Binary64 :=
  ofParts negative 0

/-- Infinity, of the given sign. -/
def infinity (negative : Bool) : Binary64 :=
  ofParts negative (2047 * twoTo 52)

/-- The quiet NaN without payload. -/
def nan : Binary64 :=
  ⟨UInt64.ofNat (4095 * twoTo 51)⟩

-- ============================================================= rounding

/-- The whole number nearest to a quotient; halfway goes to the even one. -/
def roundToEven (num den : Nat) : Nat :=
  let whole := num / den
  let twice := 2 * (num % den)
  if twice < den then whole
  else if twice = den then whole + whole % 2
  else whole + 1

/-- The largest `k` with `2 ^ k * den ≤ num`, for positive arguments. -/
def floorLog2 (num den : Nat) : Int :=
  let k : Int := (num.log2 : Int) - den.log2
  let fits := if k < 0 then den ≤ num * twoTo k.natAbs else den * twoTo k.natAbs ≤ num
  if fits then k else k - 1

/-- The number nearest to `num / den`, halfway to the even significand. The
scale leaves fifty-three bits before the point, fewer only below the
smallest exponent; a significand that rounds up to the next power of two
carries into the exponent bits by the addition. -/
def ofRatio (negative : Bool) (num den : Nat) : Binary64 :=
  if num = 0 then zero negative
  else
    let scale := max (floorLog2 num den - 52) (-1074)
    let m :=
      if scale < 0 then roundToEven (num * twoTo scale.natAbs) den
      else roundToEven num (den * twoTo scale.natAbs)
    ofParts negative ((scale + 1074).toNat * twoTo 52 + m)

/-- The double nearest to a natural number. -/
def ofNat (n : Nat) : Binary64 :=
  ofRatio false n 1

/-- The rounded product of two finite sizes. -/
def mul (x y : Binary64) : Binary64 :=
  ofRatio false (x.toRatio.1 * y.toRatio.1) (x.toRatio.2 * y.toRatio.2)

/-- The rounded quotient of two finite sizes; the divisor is not zero. -/
def div (x y : Binary64) : Binary64 :=
  ofRatio false (x.toRatio.1 * y.toRatio.2) (x.toRatio.2 * y.toRatio.1)

/-- The same size with the given sign. -/
def withSign (negative : Bool) (x : Binary64) : Binary64 :=
  ofParts negative (x.bits.toNat % twoTo 63)

-- ====================================================== decimal numbers

/-- The number nearest to `m * 10 ^ e`. Outside of the exponents that the
format reaches the answer is known without the power. -/
def ofDecimal (negative : Bool) (m : Nat) (e : Int) : Binary64 :=
  let top := (Text.digits m).length + e
  if m = 0 then zero negative
  else if top < -330 then zero negative
  else if 310 < top then infinity negative
  else if e < 0 then ofRatio negative m (tenTo e.natAbs)
  else ofRatio negative (m * tenTo e.natAbs) 1

/-- An optional exponent part: a letter e, an optional sign, digits; then the
end of the text. -/
def readExponent : List Char → Option Int
  | [] => some 0
  | c :: s =>
    if c = 'e' || c = 'E' then
      match s with
      | '-' :: t => if Text.isDigits t then some (-(Text.number t : Int)) else none
      | '+' :: t => if Text.isDigits t then some (Text.number t) else none
      | t => if Text.isDigits t then some (Text.number t) else none
    else none

/-- Reads a decimal number without sign: digits with an optional point, which
may stand first or last but not alone, and an optional exponent. -/
def readUnsigned (negative : Bool) (s : List Char) : Option Binary64 :=
  let (whole, s) := Text.spanDigits s
  let (fraction, s) := match s with
    | '.' :: t => Text.spanDigits t
    | t => ([], t)
  if whole.isEmpty && fraction.isEmpty then none
  else (readExponent s).map fun e =>
    ofDecimal negative (Text.number (whole ++ fraction)) (e - fraction.length)

/-- Reads a decimal number, rounded to the nearest. A size past the largest
finite one gives an infinity. -/
def read : List Char → Option Binary64
  | '-' :: s => readUnsigned true s
  | '+' :: s => readUnsigned false s
  | s => readUnsigned false s

end Binary64
end QueryText
