/-
Conditions as documents. They are tagged values like nodes, and the groups
have a tag for each connective.
-/
import QueryText.Document.Node
import QueryText.Predicate

namespace QueryText

open Document

namespace Predicate

mutual

/-- The document of a condition. -/
def toJson : Predicate → Json
  | .binary operator left right =>
    tagging "kind" "binary"
      [("operator", .text operator.name), ("operand1", left.toJson), ("operand2", right.toJson)]
  | .group connective members =>
    tagging "kind" connective.name [("predicates", .list (toJsonAll members))]
  | .raw sql => tagging "kind" "raw" [("sql", sql.toJson)]

/-- The documents of several conditions. -/
def toJsonAll : List Predicate → List Json
  | [] => []
  | p :: rest => p.toJson :: toJsonAll rest

end

/-- The tags of conditions, in the order of their numbers. -/
def tags : List String :=
  ["binary", "and", "or", "raw"]

/-- The condition of a document, for documents of at most the given depth. -/
def ofJsonWithin? : Nat → Bool → Json → Option Predicate
  | 0, _, _ => none
  | depth + 1, inner, j => do
    let (tag, rest) ← tagged inner "kind" tags j
    match tag with
    | "binary" =>
      let fields ← record ["operator", "operand1", "operand2"] rest
      let operator ← required fields "operator" (constant true Operator.all Operator.name)
      let left ← required fields "operand1" (Node.ofJson? true)
      return .binary operator left (← required fields "operand2" (Node.ofJson? true))
    | "and" =>
      let fields ← record ["predicates"] rest
      return .group .and (← required fields "predicates" (listOf (ofJsonWithin? depth true)))
    | "or" =>
      let fields ← record ["predicates"] rest
      return .group .or (← required fields "predicates" (listOf (ofJsonWithin? depth true)))
    | "raw" =>
      let fields ← record ["sql"] rest
      return .raw (← required fields "sql" (Node.ofJson? true))
    | _ => none

/-- The condition of a document. -/
def ofJson? (inner : Bool) (j : Json) : Option Predicate :=
  ofJsonWithin? j.depth inner j

end Predicate
end QueryText
