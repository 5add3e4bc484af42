/-
The places of a query in which something is rendered, and the table of what
each place admits. Whatever is not in the table is refused.

| context           | column | call | value        | literal | list, range | inner query  | table |
|-------------------|--------|------|--------------|---------|-------------|--------------|-------|
| select list       | yes    | yes  | as it stands | -       | -           | named        | -     |
| where             | -      | -    | as it stands | -       | -           | -            | -     |
| order, group      | yes    | -    | as it stands | -       | -           | -            | -     |
| where condition   | yes    | yes  | as operand   | yes     | -           | in brackets  | -     |
| attribute operand | yes    | yes  | as operand   | yes     | yes         | in brackets  | -     |
| table reference   | -      | -    | -            | -       | -           | named        | yes   |
| select statement  | -      | -    | -            | -       | -           | bare         | -     |
-/
import QueryText.Node

namespace QueryText

/-- A place in a query. -/
inductive Context
  | selectList
  /-- The whole of a WHERE or ON condition. -/
  | whereClause
  | order
  | group
  /-- A side of a comparison. -/
  | whereCondition
  /-- The right side of a comparison with a column or a call. -/
  | attributeOperand
  /-- A place in FROM or JOIN. -/
  | tableReference
  /-- A query by itself. -/
  | selectStatement
deriving DecidableEq

namespace Context

/-- The name of a context. -/
def name : Context → String
  | .selectList => "select_list"
  | .whereClause => "where"
  | .order => "order"
  | .group => "group"
  | .whereCondition => "where_condition"
  | .attributeOperand => "attribute_operand"
  | .tableReference => "table_reference"
  | .selectStatement => "select_statement"

/-- Every context, in the order of the table. -/
def all : List Context :=
  [.selectList, .whereClause, .order, .group, .whereCondition, .attributeOperand,
    .tableReference, .selectStatement]

/-- The context of a name. -/
def ofName? (s : String) : Option Context :=
  all.find? (·.name = s)

/-- Only a select list gives names to its columns. -/
def allowsAlias : Context → Bool
  | .selectList => true
  | _ => false

/-- Whether a value stands there as it is, and not as an operand. -/
def passesValues : Context → Bool
  | .selectList | .whereClause | .order | .group => true
  | _ => false

/-- The table: whether a context has a rule for a kind of node. -/
def admits : Context → NodeKind → Bool
  | .selectList, .attr | .selectList, .expression | .selectList, .value
  | .selectList, .subselect => true
  | .whereClause, .value | .whereClause, .predicate => true
  | .order, .attr | .order, .value => true
  | .group, .attr | .group, .value => true
  | .whereCondition, .attr | .whereCondition, .expression | .whereCondition, .value
  | .whereCondition, .scalar | .whereCondition, .subselect => true
  | .attributeOperand, .attr | .attributeOperand, .expression | .attributeOperand, .value
  | .attributeOperand, .scalar | .attributeOperand, .array | .attributeOperand, .range
  | .attributeOperand, .subselect => true
  | .tableReference, .subselect | .tableReference, .table => true
  | .selectStatement, .subselect => true
  | _, _ => false

end Context
end QueryText
