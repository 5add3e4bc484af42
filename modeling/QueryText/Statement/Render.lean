/-
The SQL text of a statement: its clauses in their fixed order, each rendered
in its own context, with single spaces between them. A clause without
members is left out.
-/
import QueryText.Predicate.Render
import QueryText.Statement

namespace QueryText

-- ============================================================ the clauses

/-- A joined relation and its conditions. -/
def Join.render (env : Environment) (j : Join) : Except RenderError String := do
  let relation ← j.relation.render env .tableReference none
  let sql := j.kind.keywords ++ " " ++ relation
  if j.conditions.isEmpty then return sql
  else
    let conditions ← Predicate.renderConjunction env j.conditions
    return sql ++ " ON " ++ conditions

/-- What to sort by. -/
def Ordering.render (env : Environment) (o : Ordering) : Except RenderError String := do
  let sql ← o.node.render env .order none
  return match o.direction with
    | some d => sql ++ " " ++ d.keyword
    | none => sql

namespace Statement

/-- The columns. -/
def renderProjections (env : Environment) (nodes : List Node) : Except RenderError String := do
  if nodes.isEmpty then return "SELECT *"
  else
    let parts ← Node.renderAll env .selectList none nodes
    return "SELECT " ++ ", ".intercalate parts

/-- The table to select from. -/
def renderSource (env : Environment) (source : Node) : Except RenderError String := do
  let sql ← source.render env .tableReference none
  return "FROM " ++ sql

/-- The conditions, none or one clause. -/
def renderConditions (env : Environment) (ps : List Predicate) :
    Except RenderError (List String) := do
  if ps.isEmpty then return []
  else
    let sql ← Predicate.renderConjunction env ps
    return ["WHERE " ++ sql]

/-- The groups, none or one clause. -/
def renderGroups (env : Environment) (nodes : List Node) :
    Except RenderError (List String) := do
  if nodes.isEmpty then return []
  else
    let parts ← Node.renderAll env .group none nodes
    return ["GROUP BY " ++ ", ".intercalate parts]

/-- The sort order, none or one clause. -/
def renderOrders (env : Environment) (orders : List Ordering) :
    Except RenderError (List String) := do
  if orders.isEmpty then return []
  else
    let parts ← orders.mapM (Ordering.render env)
    return ["ORDER BY " ++ ", ".intercalate parts]

/-- A clause with a number, none or one. -/
def renderCount (keyword : String) : Option UInt64 → List String
  | some n => [keyword ++ " " ++ String.ofList (Text.digits n.toNat)]
  | none => []

-- ========================================================== the statement

/-- The text of a statement. -/
def render (env : Environment) (s : Statement) : Except RenderError String := do
  let projections ← renderProjections env s.projections
  let source ← renderSource env s.source
  let joins ← s.joins.mapM (Join.render env)
  let conditions ← renderConditions env s.conditions
  let groups ← renderGroups env s.groups
  let orders ← renderOrders env s.orders
  return " ".intercalate ([projections, source] ++ joins ++ conditions ++ groups ++ orders
    ++ renderCount "LIMIT" s.limit ++ renderCount "OFFSET" s.offset)

/-- The statement as an inner query that stands for a relation. -/
def toSubselect (env : Environment) (s : Statement) (source : Relation) :
    Except RenderError Subselect := do
  let sql ← s.render env
  return { sql, source }

end Statement
end QueryText
