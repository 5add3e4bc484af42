/-
Plain decimal numerals: an optional sign, digits, and perhaps a point with
more digits. Both runs of digits hold at least one. Text of this grammar is
a number in every dialect, so it may stand in a query without quotes.
-/
import QueryText.Text.Digits

namespace QueryText.Text

/-- The parts of a decimal numeral. -/
structure Numeral where
  negative : Bool
  whole : List Char
  /-- The digits after the point, if there is a point. -/
  fraction : Option (List Char)
deriving DecidableEq

namespace Numeral

/-- The parts of an unsigned numeral, divided at its first point. -/
def readUnsigned (negative : Bool) (s : List Char) : Option Numeral :=
  let whole := s.takeWhile (· != '.')
  match s.dropWhile (· != '.') with
  | [] => if isDigits whole then some ⟨negative, whole, none⟩ else none
  | _ :: fraction =>
    if isDigits whole && isDigits fraction then some ⟨negative, whole, some fraction⟩
    else none

/-- The parts of the numeral that a text is, if it is one. -/
def read : List Char → Option Numeral
  | '-' :: s => readUnsigned true s
  | '+' :: s => readUnsigned false s
  | s => readUnsigned false s

/-- Whether the fraction is missing or zero. -/
def isIntegral (n : Numeral) : Bool :=
  (n.fraction.getD []).all (· == '0')

/-- The numeral without fraction and plus sign. -/
def writeWhole (n : Numeral) : List Char :=
  if n.negative then '-' :: n.whole else n.whole

end Numeral
end QueryText.Text
