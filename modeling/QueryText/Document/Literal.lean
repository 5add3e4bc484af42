/-
Literals as documents: the type and, beside it, the value. Null may go
without a value, and has no other than null. In an object the type is a
constant, and fields of other names are ignored; as a list a literal is
exactly the two, and its type is given like a tag.
-/
import QueryText.Document.Shape
import QueryText.Literal

namespace QueryText

open Document

namespace Literal

/-- The document of a value, for all literals but null. -/
def valueJson : Literal → Json
  | .null => .null
  | .bool b => .bool b
  | .int n => .whole n.toInt
  | .float x => .real x
  | .decimal s => .text s
  | .string s => .text s
  | .date d => .text (String.ofList d.write)
  | .timestamp t => .text (String.ofList t.writeExact)

/-- The document of a literal. -/
def toJson (l : Literal) : Json :=
  match l with
  | .null => tagging "type" "null" []
  | l => tagging "type" l.typeName [("value", l.valueJson)]

/-- The names of the types, in the order of their numbers. -/
def tags : List String :=
  ["null", "bool", "int", "float", "decimal", "string", "date", "timestamp"]

/-- The literal of a type and a value. -/
def ofParts? (type : String) (value : Json) : Option Literal :=
  match type with
  | "null" => match value with
    | .null => some .null
    | _ => none
  | "bool" => (bool? value).map .bool
  | "int" => (int64? value).map .int
  | "float" => (float? value).map .float
  | "decimal" => value.text?.map .decimal
  | "string" => value.text?.map .string
  | "date" => do return .date (← Date.read (← value.text?).toList)
  | "timestamp" => do return .timestamp (← Timestamp.read (← value.text?).toList)
  | _ => none

/-- The literal of a document. -/
def ofJson? (inner : Bool) (j : Json) : Option Literal :=
  match j with
  | .object fields =>
    match fields.filter (·.1 == "type"), fields.filter (·.1 == "value") with
    | [(_, type)], [] => do
      if (← constantName inner type) = "null" then some .null else none
    | [(_, type)], [(_, value)] => do ofParts? (← constantName inner type) value
    | _, _ => none
  | .list [type, value] => do ofParts? (← tagName inner tags type) value
  | _ => none

end Literal
end QueryText
