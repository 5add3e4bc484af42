/-
Conditions: comparisons, groups joined by AND or OR, and pieces of SQL. The
operator of a comparison is written for its right operand: null is compared
with IS, a range is tested with BETWEEN.
-/
import QueryText.RenderError

namespace QueryText

-- ========================================================== the operators

/-- The operators of comparisons. -/
inductive Operator
  | equal
  | notEqual
  | lessThan
  | lessThanOrEqual
  | greaterThan
  | greaterThanOrEqual
  | like
  | isIn
  | notIn
deriving DecidableEq

namespace Operator

/-- The operator's name in documents. -/
def name : Operator → String
  | .equal => "equal"
  | .notEqual => "not_equal"
  | .lessThan => "less_than"
  | .lessThanOrEqual => "less_than_or_equal"
  | .greaterThan => "greater_than"
  | .greaterThanOrEqual => "greater_than_or_equal"
  | .like => "like"
  | .isIn => "in"
  | .notIn => "not_in"

/-- Every operator, in the order that documents number them. -/
def all : List Operator :=
  [.equal, .notEqual, .lessThan, .lessThanOrEqual, .greaterThan, .greaterThanOrEqual,
    .like, .isIn, .notIn]

/-- The operator in SQL, before its right operand. -/
def sqlFor (op : Operator) (right : Node) : String :=
  match op with
  | .equal => if right.isNull then "IS" else "="
  | .notEqual => if right.isNull then "IS NOT" else "!="
  | .lessThan => "<"
  | .lessThanOrEqual => "<="
  | .greaterThan => ">"
  | .greaterThanOrEqual => ">="
  | .like => "LIKE"
  | .isIn => if right.isRange then "BETWEEN" else "IN"
  | .notIn => if right.isRange then "NOT BETWEEN" else "NOT IN"

end Operator

-- ========================================================= the conditions

/-- A condition. -/
inductive Predicate where
  | binary (operator : Operator) (left right : Node)
  | group (connective : Connective) (members : List Predicate)
  | raw (sql : Node)
deriving Inhabited

namespace Predicate

/-- A condition written as SQL. -/
def sql (text : String) : Predicate :=
  .raw (Node.sql text)

mutual

/-- The relations of a condition, from left to right. -/
def relations : Predicate → List Relation
  | .binary _ left right => left.relations ++ right.relations
  | .group _ members => relationsOfAll members
  | .raw sql => sql.relations

/-- The relations of several conditions. -/
def relationsOfAll : List Predicate → List Relation
  | [] => []
  | p :: rest => p.relations ++ relationsOfAll rest

end

end Predicate
end QueryText
