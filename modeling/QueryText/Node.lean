/-
Expression trees. A node is a column reference, a call, a literal, a list or
range of nodes, a relation or a rendered inner query; a `value` node marks
its operand as text that is already SQL where values pass through.

`relations` lists the relations of a tree from left to right. Naming works
on that list, rendering on the tree; that every relation which rendering
asks for is in the list is what ties the two together.
-/
import QueryText.Column
import QueryText.Literal
import QueryText.Relation

namespace QueryText

-- ============================================================= the types

/-- A reference to a column of a relation. A name that is no simple
identifier is a piece of SQL. -/
structure Attribute where
  name : String
  relation : Relation
  /-- The name in the result, for select lists. -/
  label : Option String := none
  /-- The column, as a hint for the values compared with it. -/
  column : Option Column := none
deriving DecidableEq

/-- A literal, perhaps with the column it is meant for. -/
structure Scalar where
  value : Literal
  column : Option Column := none
deriving DecidableEq

/-- The text of an inner query, and the relation it stands for. -/
structure Subselect where
  sql : String
  source : Relation
deriving DecidableEq

/-- A node of an expression tree. -/
inductive Node where
  | attr (reference : Attribute)
  /-- A function, or the word DISTINCT, applied to one operand. -/
  | expression (function : String) (operand : Node) (label : Option String)
  | scalar (scalar : Scalar)
  | value (operand : Node)
  | array (items : List Node)
  | range (low high : Node)
  | table (relation : Relation)
  | subselect (subselect : Subselect)
deriving Inhabited

/-- The kinds of things that are rendered. -/
inductive NodeKind
  | attr
  | expression
  | scalar
  | value
  | array
  | range
  | table
  | subselect
  | predicate
deriving DecidableEq

/-- The name of a kind. -/
def NodeKind.name : NodeKind → String
  | .attr => "attribute"
  | .expression => "expression"
  | .scalar => "scalar"
  | .value => "value"
  | .array => "array"
  | .range => "range"
  | .table => "table"
  | .subselect => "subselect"
  | .predicate => "predicate"

namespace Node

-- ============================================================== building

/-- A literal without a column. -/
def literal (value : Literal) : Node :=
  .scalar { value }

/-- Text that is already SQL. -/
def sql (text : String) : Node :=
  .value (.literal (.string text))

/-- The function name that is a modifier and not a call. -/
def distinctWord : String := "DISTINCT"

/-- The operand without its duplicates. -/
def distinct (operand : Node) (label : Option String := none) : Node :=
  .expression distinctWord operand label

-- =============================================================== looking

/-- The kind of a node. -/
def kind : Node → NodeKind
  | .attr _ => .attr
  | .expression _ _ _ => .expression
  | .scalar _ => .scalar
  | .value _ => .value
  | .array _ => .array
  | .range _ _ => .range
  | .table _ => .table
  | .subselect _ => .subselect

/-- The node inside of all value wrappers. -/
def unwrapped : Node → Node
  | .value operand => operand.unwrapped
  | node => node

/-- Whether this is the null value, however wrapped. -/
def isNull (node : Node) : Bool :=
  match node.unwrapped with
  | .scalar s => s.value.isNull
  | _ => false

/-- Whether this is a range, however wrapped. -/
def isRange (node : Node) : Bool :=
  match node.unwrapped with
  | .range _ _ => true
  | _ => false

/-- Whether an expression is the DISTINCT modifier; none for other nodes. -/
def isDistinct? : Node → Option Bool
  | .expression function _ _ => some (function == distinctWord)
  | _ => none

-- ============================================================= relations

mutual

/-- The relations of a tree, from left to right, repetitions included. -/
def relations : Node → List Relation
  | .attr a => [a.relation]
  | .expression _ operand _ => operand.relations
  | .scalar _ => []
  | .value operand => operand.relations
  | .array items => relationsOfAll items
  | .range low high => low.relations ++ high.relations
  | .table r => [r]
  | .subselect s => [s.source]

/-- The relations of several trees. -/
def relationsOfAll : List Node → List Relation
  | [] => []
  | node :: rest => node.relations ++ relationsOfAll rest

end

end Node
end QueryText
