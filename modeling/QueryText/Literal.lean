/-
Literal values. Each has a bare text, valid SQL in the places where a value
passes through as it is; `Quoting` turns it into quoted text elsewhere.
-/
import QueryText.Calendar.Timestamp
import QueryText.Dialect
import QueryText.Number.Shortest

namespace QueryText

/-- The text of a binary64 number: the fewest digits that read back, a tie
going up, never an exponent. -/
def Binary64.write (x : Binary64) : List Char :=
  let size :=
    if x.isZero then ['0']
    else if x.isFinite then (x.shortest .up).plain
    else "inf".toList
  if x.isNaN then "NaN".toList
  else if x.isNegative then '-' :: size
  else size

/-- A value as it is written in a query. -/
inductive Literal
  | null
  | bool (value : Bool)
  | int (value : Int64)
  | float (value : Binary64)
  /-- A decimal number, kept as the text it came in. -/
  | decimal (text : String)
  | string (text : String)
  | date (value : Date)
  | timestamp (value : Timestamp)
deriving DecidableEq

namespace Literal

/-- The kind of a literal, as messages and documents name it. -/
def typeName : Literal → String
  | .null => "null"
  | .bool _ => "bool"
  | .int _ => "int"
  | .float _ => "float"
  | .decimal _ => "decimal"
  | .string _ => "string"
  | .date _ => "date"
  | .timestamp _ => "timestamp"

/-- Whether this is the null value. -/
def isNull : Literal → Bool
  | .null => true
  | _ => false

/-- The bare text, without quotes. -/
def bare : Literal → String
  | .null => "NULL"
  | .bool b => BooleanStyle.keyword.write b
  | .int n => String.ofList (Text.int n.toInt)
  | .float x => String.ofList x.write
  | .decimal s => s
  | .string s => s
  | .date d => String.ofList d.write
  | .timestamp t => String.ofList t.write

end Literal
end QueryText
