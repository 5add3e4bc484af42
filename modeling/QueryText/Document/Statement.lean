/-
Statements as documents. Every list of clauses is written, empty or not;
the two counts only when there are any. A statement is a record, so the
values directly in it are not inner ones.
-/
import QueryText.Document.Predicate
import QueryText.Statement

namespace QueryText

open Document

namespace Join

/-- The document of a join. -/
def toJson (j : Join) : Json :=
  .object [("kind", .text j.kind.name), ("relation", j.relation.toJson),
    ("on", .list (Predicate.toJsonAll j.conditions))]

/-- The join of a document. -/
def ofJson? (j : Json) : Option Join := do
  let fields ← record ["kind", "relation", "on"] j
  return {
    kind := ← required fields "kind" (constant false JoinKind.all JoinKind.name)
    relation := ← required fields "relation" (Node.ofJson? false)
    conditions := ← defaulted fields "on" (listOf (Predicate.ofJson? false)) [] }

end Join

/-- The direction of a document. -/
def Direction.ofJson? : Json → Option Direction :=
  constant false Direction.all Direction.name

namespace Ordering

/-- The document of a sort. -/
def toJson (o : Ordering) : Json :=
  .object (("node", o.node.toJson)
    :: written "direction" (o.direction.map fun d => .text d.name))

/-- The sort of a document. -/
def ofJson? (j : Json) : Option Ordering := do
  let fields ← record ["node", "direction"] j
  return {
    node := ← required fields "node" (Node.ofJson? false)
    direction := ← optional fields "direction" Direction.ofJson? }

end Ordering

namespace Statement

/-- The document of a statement. -/
def toJson (s : Statement) : Json :=
  .object ([("projections", .list (Node.toJsonAll s.projections)), ("from", s.source.toJson),
      ("joins", .list (s.joins.map Join.toJson)),
      ("wheres", .list (Predicate.toJsonAll s.conditions)),
      ("groups", .list (Node.toJsonAll s.groups)),
      ("orders", .list (s.orders.map Ordering.toJson))]
    ++ written "limit" (s.limit.map fun n => .whole n.toNat)
    ++ written "offset" (s.offset.map fun n => .whole n.toNat))

/-- The statement of a document. -/
def ofJson? (j : Json) : Option Statement := do
  let fields ← record
    ["projections", "from", "joins", "wheres", "groups", "orders", "limit", "offset"] j
  return {
    projections := ← defaulted fields "projections" (listOf (Node.ofJson? false)) []
    source := ← required fields "from" (Node.ofJson? false)
    joins := ← defaulted fields "joins" (listOf Join.ofJson?) []
    conditions := ← defaulted fields "wheres" (listOf (Predicate.ofJson? false)) []
    groups := ← defaulted fields "groups" (listOf (Node.ofJson? false)) []
    orders := ← defaulted fields "orders" (listOf Ordering.ofJson?) []
    limit := ← optional fields "limit" uint64?
    offset := ← optional fields "offset" uint64? }

end Statement
end QueryText
