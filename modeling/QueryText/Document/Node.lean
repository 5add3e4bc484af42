/-
Relations and nodes as documents. A node is a tagged value, so everything
inside of it is read as inner; the first `inner` is that of the node
itself.
-/
import QueryText.Document.Column
import QueryText.Document.Literal
import QueryText.Node

namespace QueryText

open Document

-- ============================================================ relations

namespace Relation

/-- The fields of a relation's document. An occurrence of zero is left out. -/
def fields (r : Relation) : Fields :=
  ("name", .text r.name) :: written "alias" (r.label.map .text)
    ++ written "instance" (if r.occurrence = 0 then none else some (.whole r.occurrence.toNat))

/-- The document of a relation. -/
def toJson (r : Relation) : Json :=
  .object r.fields

/-- The relation of a document. -/
def ofJson? (j : Json) : Option Relation := do
  let fields ← record ["name", "alias", "instance"] j
  return {
    name := ← required fields "name" Json.text?
    label := ← optional fields "alias" Json.text?
    occurrence := ← defaulted fields "instance" uint32? 0 }

end Relation

-- =============================================================== leaves

/-- The fields of a column reference's document. -/
def Attribute.fields (a : Attribute) : Fields :=
  [("name", .text a.name), ("relation", a.relation.toJson)]
    ++ written "alias" (a.label.map .text) ++ written "column" (a.column.map Column.toJson)

/-- The column reference of a tagged value's fields. -/
def Attribute.ofFields? (j : Json) : Option Attribute := do
  let fields ← record ["name", "relation", "alias", "column"] j
  return {
    name := ← required fields "name" Json.text?
    relation := ← required fields "relation" Relation.ofJson?
    label := ← optional fields "alias" Json.text?
    column := ← optional fields "column" (Column.ofJson? true) }

/-- The fields of a literal node's document. -/
def Scalar.fields (s : Scalar) : Fields :=
  ("value", s.value.toJson) :: written "column" (s.column.map Column.toJson)

/-- The literal node of a tagged value's fields. -/
def Scalar.ofFields? (j : Json) : Option Scalar := do
  let fields ← record ["value", "column"] j
  return {
    value := ← required fields "value" (Literal.ofJson? true)
    column := ← optional fields "column" (Column.ofJson? true) }

/-- The fields of an inner query's document. -/
def Subselect.fields (s : Subselect) : Fields :=
  [("sql", .text s.sql), ("source_table", s.source.toJson)]

/-- The inner query of a tagged value's fields. -/
def Subselect.ofFields? (j : Json) : Option Subselect := do
  let fields ← record ["sql", "source_table"] j
  return {
    sql := ← required fields "sql" Json.text?
    source := ← required fields "source_table" Relation.ofJson? }

-- ================================================================ nodes

namespace Node

mutual

/-- The document of a node. -/
def toJson : Node → Json
  | .attr a => tagging "kind" "attribute" a.fields
  | .expression function operand label =>
    tagging "kind" "expression"
      ([("function_sql", .text function), ("operand", operand.toJson)]
        ++ written "alias" (label.map .text))
  | .scalar s => tagging "kind" "scalar" s.fields
  | .value operand => tagging "kind" "value" [("operand", operand.toJson)]
  | .array items => tagging "kind" "array" [("items", .list (toJsonAll items))]
  | .range low high => tagging "kind" "range" [("low", low.toJson), ("high", high.toJson)]
  | .table r => tagging "kind" "table" r.fields
  | .subselect s => tagging "kind" "subselect" s.fields

/-- The documents of several nodes. -/
def toJsonAll : List Node → List Json
  | [] => []
  | node :: rest => node.toJson :: toJsonAll rest

end

/-- The tags of nodes, in the order of their numbers. -/
def tags : List String :=
  ["attribute", "expression", "scalar", "value", "array", "range", "table", "subselect"]

/-- The node of a document, for documents of at most the given depth. -/
def ofJsonWithin? : Nat → Bool → Json → Option Node
  | 0, _, _ => none
  | depth + 1, inner, j => do
    let (tag, rest) ← tagged inner "kind" tags j
    match tag with
    | "attribute" => return .attr (← Attribute.ofFields? rest)
    | "expression" =>
      let fields ← record ["function_sql", "operand", "alias"] rest
      let function ← required fields "function_sql" Json.text?
      let operand ← required fields "operand" (ofJsonWithin? depth true)
      return .expression function operand (← optional fields "alias" Json.text?)
    | "scalar" => return .scalar (← Scalar.ofFields? rest)
    | "value" =>
      let fields ← record ["operand"] rest
      return .value (← required fields "operand" (ofJsonWithin? depth true))
    | "array" =>
      let fields ← record ["items"] rest
      return .array (← required fields "items" (listOf (ofJsonWithin? depth true)))
    | "range" =>
      let fields ← record ["low", "high"] rest
      let low ← required fields "low" (ofJsonWithin? depth true)
      return .range low (← required fields "high" (ofJsonWithin? depth true))
    | "table" => return .table (← Relation.ofJson? rest)
    | "subselect" => return .subselect (← Subselect.ofFields? rest)
    | _ => none

/-- The node of a document. -/
def ofJson? (inner : Bool) (j : Json) : Option Node :=
  ofJsonWithin? j.depth inner j

end Node
end QueryText
