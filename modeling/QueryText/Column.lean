/-
Columns and their types. A type is known only as far as it changes how a
literal is quoted: the numeric ones take bare numbers, the textual ones
quoted text.
-/
import QueryText.Text.Digits

namespace QueryText

/-- The type of a column. -/
inductive LogicalType
  | bool
  | int
  | float
  | decimal (precision scale : Option UInt16)
  | string
  | date
  | timestamp
  | json
  | unknown
deriving DecidableEq

namespace LogicalType

/-- Values are written as bare numbers. -/
def isNumeric : LogicalType → Bool
  | .int | .float | .decimal _ _ => true
  | _ => false

/-- Values are written as quoted text. -/
def isTextual : LogicalType → Bool
  | .string | .json => true
  | _ => false

/-- The type as messages name it. A scale without a precision is not shown. -/
def describe : LogicalType → String
  | .bool => "BOOL"
  | .int => "INT"
  | .float => "FLOAT"
  | .decimal (some p) (some s) =>
    "DECIMAL(" ++ String.ofList (Text.digits p.toNat) ++ ", "
      ++ String.ofList (Text.digits s.toNat) ++ ")"
  | .decimal (some p) none => "DECIMAL(" ++ String.ofList (Text.digits p.toNat) ++ ")"
  | .decimal none _ => "DECIMAL"
  | .string => "STRING"
  | .date => "DATE"
  | .timestamp => "TIMESTAMP"
  | .json => "JSON"
  | .unknown => "UNKNOWN"

end LogicalType

/-- The column that a value is compared with or stored into. -/
structure Column where
  name : String
  logicalType : LogicalType
deriving DecidableEq

end QueryText
