/-
The SQL text of a condition. The left operand decides how the right one is
rendered: beside a column, literals are quoted for that column, and lists
and ranges are possible beside a column or a call. A group of several
members stands in brackets, a group of one is that member, and an empty one
is refused.
-/
import QueryText.Node.Render
import QueryText.Predicate

namespace QueryText

namespace Node

/-- The right operand of a comparison, as the left one asks for it. -/
def renderBeside (env : Environment) (left right : Node) : Except RenderError String :=
  match left with
  | .attr a => right.render env .attributeOperand a.column
  | .expression _ _ _ => right.render env .attributeOperand none
  | _ => right.render env .whereCondition none

end Node

namespace Predicate

/-- The members of a group with its word between them. -/
def join (connective : Connective) (members : List String) : String :=
  "(" ++ (" " ++ connective.keyword ++ " ").intercalate members ++ ")"

mutual

/-- The text of a condition where conditions stand. -/
def renderWhere (env : Environment) : Predicate → Except RenderError String
  | .binary operator left right => do
    let leftSql ← left.render env .whereCondition none
    let rightSql ← left.renderBeside env right
    return leftSql ++ " " ++ operator.sqlFor right ++ " " ++ rightSql
  | .group connective [] => .error (.emptyGroup connective .whereClause)
  | .group _ [member] => member.renderWhere env
  | .group connective (first :: second :: rest) => do
    let head ← first.renderWhere env
    let members ← renderAll env (second :: rest)
    return join connective (head :: members)
  | .raw sql => sql.render env .whereClause none

/-- The texts of several conditions; the first failure counts. -/
def renderAll (env : Environment) : List Predicate → Except RenderError (List String)
  | [] => .ok []
  | p :: rest => do
    let sql ← p.renderWhere env
    let others ← renderAll env rest
    return sql :: others

end

/-- The text of a condition in a context. -/
def render (env : Environment) (context : Context) (p : Predicate) :
    Except RenderError String := do
  context.demand .predicate
  p.renderWhere env

/-- Conditions that all have to hold. -/
def renderConjunction (env : Environment) (ps : List Predicate) : Except RenderError String := do
  let parts ← renderAll env ps
  return " AND ".intercalate parts

end Predicate
end QueryText
