/-
The compact JSON text of a value: no blanks, fields in their order. In a
text only the quotation mark, the backslash and the control characters are
escaped, with the short escape where there is one. A binary64 number always
shows a fraction or an exponent, so it never reads back as a whole one. What
has no text, a number that is not finite or an invalid part, is null.
-/
import QueryText.Json.Basic
import QueryText.Number.Shortest

namespace QueryText.Json

-- ================================================================ texts

/-- The short escape of a character, the letter after the backslash. -/
def shortEscape (c : Char) : Option Char :=
  match c with
  | '"' => some '"'
  | '\\' => some '\\'
  | '\x08' => some 'b'
  | '\t' => some 't'
  | '\n' => some 'n'
  | '\x0c' => some 'f'
  | '\r' => some 'r'
  | _ => none

/-- A hexadecimal digit, in lower case. -/
def hexDigit (n : Nat) : Char :=
  Nat.digitChar (n % 16)

/-- How a character stands inside a JSON text. -/
def escape (c : Char) : List Char :=
  match shortEscape c with
  | some e => ['\\', e]
  | none =>
    if c.toNat < 0x20 then
      ['\\', 'u', '0', '0', hexDigit (c.toNat / 16), hexDigit c.toNat]
    else [c]

/-- A text between its quotation marks. -/
def writeText (s : String) : List Char :=
  '"' :: s.toList.flatMap escape ++ ['"']

-- ============================================================== numbers

/-- A finite binary64 number. Decimal exponents from -5 to 15 are written
positionally and keep a fraction, others with an exponent; a tie between
two shortest texts goes to the even digit. -/
def writeReal (x : Binary64) : List Char :=
  let size :=
    if x.isZero then ['0', '.', '0']
    else
      let r := x.shortest .even
      if -5 < r.point && r.point ≤ 16 then
        if r.digits.length ≤ r.point then r.plain ++ ['.', '0'] else r.plain
      else r.scientific
  if !x.isFinite then "null".toList
  else if x.isNegative then '-' :: size
  else size

-- =============================================================== values

mutual

/-- The characters of a value. -/
def write : Json → List Char
  | .null => "null".toList
  | .bool true => "true".toList
  | .bool false => "false".toList
  | .whole n => Text.int n
  | .real x => writeReal x
  | .text s => writeText s
  | .list items => '[' :: writeItems items ++ [']']
  | .object fields => '\x7b' :: writeFields fields ++ ['\x7d']
  | .invalid => "null".toList

/-- Items with commas between them. -/
def writeItems : List Json → List Char
  | [] => []
  | [item] => item.write
  | item :: next :: rest => item.write ++ ',' :: writeItems (next :: rest)

/-- Fields with commas between them. -/
def writeFields : List (String × Json) → List Char
  | [] => []
  | [(name, value)] => writeText name ++ ':' :: value.write
  | (name, value) :: next :: rest =>
    writeText name ++ ':' :: value.write ++ ',' :: writeFields (next :: rest)

end

/-- The compact text of a value. -/
def print (j : Json) : String :=
  String.ofList j.write

end QueryText.Json
