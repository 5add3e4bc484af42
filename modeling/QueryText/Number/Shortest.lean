/-
The decimal text of a binary64 number: the fewest digits that read back,
the nearest of those. The choice works on the interval of reals that round
to the number, whose ends belong to it when the significand is even. For
each count of digits the number has two neighbours on the decimal grid; the
first grid with a neighbour in the interval wins. Which way an exact tie
goes, and how the digits are laid out, is the caller's choice.
-/
import QueryText.Number.Binary64

namespace QueryText

-- ========================================================== the choice

/-- Where a number goes that is halfway between two candidates. -/
inductive Tie
  | up
  | even
deriving DecidableEq

/-- Decimal digits with a scale: `0.d₁d₂… * 10 ^ point`. -/
structure DigitRun where
  digits : List Char
  point : Int
deriving DecidableEq

namespace Binary64

/-- A finite number between the midpoints to its neighbours, all three over
one denominator. The gap below a power of two is half of the one above. -/
structure Interval where
  low : Nat
  value : Nat
  high : Nat
  den : Nat
  closed : Bool

/-- The reals that round to a finite number. -/
def interval (x : Binary64) : Interval :=
  let m := x.significand
  let below := if m = twoTo 52 ∧ 1 < x.exponentBits then 1 else 2
  let e := x.exponent - 2
  let unit := if e < 0 then 1 else twoTo e.natAbs
  { low := (4 * m - below) * unit
    value := 4 * m * unit
    high := (4 * m + 2) * unit
    den := if e < 0 then twoTo e.natAbs else 1
    closed := m % 2 = 0 }

/-- Whether `num / den` lies in the interval, all scaled by `scale`. -/
def Interval.holds (i : Interval) (scale num : Nat) : Bool :=
  if i.closed then i.low * scale ≤ num && num ≤ i.high * scale
  else i.low * scale < num && num < i.high * scale

/-- The `p` with `10 ^ p ≤ num / den < 10 ^ (p + 1)`, for positive arguments. -/
def floorLog10 (num den : Nat) : Int :=
  let p : Int := ((Text.digits num).length : Int) - (Text.digits den).length
  let fits := if p < 0 then den ≤ num * tenTo p.natAbs else den * tenTo p.natAbs ≤ num
  if fits then p else p - 1

/-- The better neighbour of the number on the grid of step `10 ^ step`, if one
of them lies in the interval. -/
def Interval.onGrid (i : Interval) (tie : Tie) (step : Int) : Option Nat :=
  let scale := if step < 0 then tenTo step.natAbs else 1
  let den := if step < 0 then i.den else i.den * tenTo step.natAbs
  let floor := i.value * scale / den
  let rest := i.value * scale % den
  let lower := i.holds scale (floor * den)
  let upper := i.holds scale ((floor + 1) * den)
  match lower, upper with
  | false, false => none
  | true, false => some floor
  | false, true => some (floor + 1)
  | true, true =>
    if 2 * rest < den then some floor
    else if den < 2 * rest then some (floor + 1)
    else match tie with
      | .up => some (floor + 1)
      | .even => some (floor + floor % 2)

/-- Tries the grids from `count` digits on, `more` further ones at most. -/
def Interval.search (i : Interval) (tie : Tie) (top : Int) : Nat → Nat → Nat × Int
  | 0, count => (i.value, top + 1 - count)
  | more + 1, count =>
    let step := top + 1 - count
    match i.onGrid tie step with
    | some n => (n, step)
    | none => i.search tie top more (count + 1)

/-- The digits of `n * 10 ^ step`, without zeros at the end. -/
def digitRun (n : Nat) (step : Int) : DigitRun :=
  let d := Text.digits n
  { digits := (d.reverse.dropWhile (· == '0')).reverse, point := d.length + step }

/-- The fewest digits that read back as the number, which is finite and not
zero. Seventeen always do. -/
def shortest (tie : Tie) (x : Binary64) : DigitRun :=
  let i := x.interval
  let (n, step) := i.search tie (floorLog10 i.value i.den) 17 1
  digitRun n step

end Binary64

-- ========================================================== the layouts

namespace DigitRun

/-- Written without an exponent; a whole number has no point. -/
def plain (r : DigitRun) : List Char :=
  let n := r.digits.length
  if r.point ≤ 0 then '0' :: '.' :: (List.replicate r.point.natAbs '0' ++ r.digits)
  else if n ≤ r.point then r.digits ++ List.replicate (r.point.natAbs - n) '0'
  else r.digits.take r.point.natAbs ++ '.' :: r.digits.drop r.point.natAbs

/-- Written with one digit before the point and a signed exponent. -/
def scientific (r : DigitRun) : List Char :=
  let e := r.point - 1
  let sign := if e < 0 then '-' else '+'
  let mantissa := match r.digits with
    | [] => []
    | [d] => [d]
    | d :: rest => d :: '.' :: rest
  mantissa ++ 'e' :: sign :: Text.digits e.natAbs

end DigitRun
end QueryText
