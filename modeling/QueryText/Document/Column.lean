/-
Columns as documents. The type is a tagged value; a decimal type always
writes its precision and scale, as null when they are not known.
-/
import QueryText.Column
import QueryText.Document.Shape

namespace QueryText

open Document

namespace LogicalType

/-- The tags of types, in the order of their numbers. -/
def tags : List String :=
  ["bool", "int", "float", "decimal", "string", "date", "timestamp", "json", "unknown"]

/-- A precision or scale, or null. -/
def ofSize : Option UInt16 → Json
  | some n => .whole n.toNat
  | none => .null

/-- The document of a type. -/
def toJson : LogicalType → Json
  | .bool => tagging "type" "bool" []
  | .int => tagging "type" "int" []
  | .float => tagging "type" "float" []
  | .decimal precision scale =>
    tagging "type" "decimal" [("precision", ofSize precision), ("scale", ofSize scale)]
  | .string => tagging "type" "string" []
  | .date => tagging "type" "date" []
  | .timestamp => tagging "type" "timestamp" []
  | .json => tagging "type" "json" []
  | .unknown => tagging "type" "unknown" []

/-- The type of a document. -/
def ofJson? (inner : Bool) (j : Json) : Option LogicalType := do
  let (tag, rest) ← tagged inner "type" tags j
  match tag with
  | "decimal" =>
    let fields ← record ["precision", "scale"] rest
    return .decimal (← optional fields "precision" uint16?) (← optional fields "scale" uint16?)
  | tag =>
    noFields rest
    match tag with
    | "bool" => return .bool
    | "int" => return .int
    | "float" => return .float
    | "string" => return .string
    | "date" => return .date
    | "timestamp" => return .timestamp
    | "json" => return .json
    | "unknown" => return .unknown
    | _ => none

end LogicalType

namespace Column

/-- The document of a column. -/
def toJson (c : Column) : Json :=
  .object [("name", .text c.name), ("logical_type", c.logicalType.toJson)]

/-- The column of a document. -/
def ofJson? (inner : Bool) (j : Json) : Option Column := do
  let fields ← record ["name", "logical_type"] j
  return {
    name := ← required fields "name" Json.text?
    logicalType := ← required fields "logical_type" (LogicalType.ofJson? inner) }

end Column
end QueryText
