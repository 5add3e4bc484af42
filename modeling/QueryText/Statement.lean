/-
SELECT statements, as their clauses. The relations of a statement are
listed with FROM first and the joins next, so that the tables of a query
keep their plain names and the other clauses follow them.
-/
import QueryText.Predicate

namespace QueryText

-- ============================================================= the parts

/-- How a relation is joined. -/
inductive JoinKind
  | inner
  | leftOuter
deriving DecidableEq

namespace JoinKind

/-- The kind's name in documents. -/
def name : JoinKind → String
  | .inner => "inner"
  | .leftOuter => "left_outer"

/-- Both kinds, in the order that documents number them. -/
def all : List JoinKind :=
  [.inner, .leftOuter]

/-- The words in SQL. -/
def keywords : JoinKind → String
  | .inner => "INNER JOIN"
  | .leftOuter => "LEFT OUTER JOIN"

end JoinKind

/-- A joined relation with its conditions. -/
structure Join where
  kind : JoinKind
  relation : Node
  conditions : List Predicate

/-- The direction of a sort. -/
inductive Direction
  | ascending
  | descending
deriving DecidableEq

namespace Direction

/-- The direction's name in documents. -/
def name : Direction → String
  | .ascending => "asc"
  | .descending => "desc"

/-- Both directions, in the order that documents number them. -/
def all : List Direction :=
  [.ascending, .descending]

/-- The word in SQL. -/
def keyword : Direction → String
  | .ascending => "ASC"
  | .descending => "DESC"

end Direction

/-- What to sort by. -/
structure Ordering where
  node : Node
  direction : Option Direction

/-- A SELECT statement. Without projections it selects everything. -/
structure Statement where
  projections : List Node := []
  source : Node
  joins : List Join := []
  conditions : List Predicate := []
  groups : List Node := []
  orders : List Ordering := []
  limit : Option UInt64 := none
  offset : Option UInt64 := none

-- ============================================================= relations

/-- The relations of a join: the joined one, then those of its conditions. -/
def Join.relations (j : Join) : List Relation :=
  j.relation.relations ++ Predicate.relationsOfAll j.conditions

/-- The relations of a statement, in the order they are named. -/
def Statement.relations (s : Statement) : List Relation :=
  s.source.relations ++ s.joins.flatMap Join.relations
    ++ Node.relationsOfAll s.projections ++ Predicate.relationsOfAll s.conditions
    ++ Node.relationsOfAll s.groups ++ s.orders.flatMap (·.node.relations)

-- ============================================================== building

namespace Statement

/-- Everything of a table or an inner query. -/
def select (source : Node) : Statement :=
  { source }

/-- Selects one more column. -/
def project (s : Statement) (node : Node) : Statement :=
  { s with projections := s.projections ++ [node] }

/-- Joins one more relation. -/
def join (s : Statement) (kind : JoinKind) (relation : Node) (conditions : List Predicate) :
    Statement :=
  { s with joins := s.joins ++ [⟨kind, relation, conditions⟩] }

/-- Asks for one more condition. -/
def filter (s : Statement) (p : Predicate) : Statement :=
  { s with conditions := s.conditions ++ [p] }

/-- Groups by one more node. -/
def groupBy (s : Statement) (node : Node) : Statement :=
  { s with groups := s.groups ++ [node] }

/-- Sorts by one more node. -/
def orderBy (s : Statement) (node : Node) (direction : Option Direction) : Statement :=
  { s with orders := s.orders ++ [⟨node, direction⟩] }

/-- Takes at most so many rows. -/
def limitTo (s : Statement) (n : UInt64) : Statement :=
  { s with limit := some n }

/-- Skips so many rows. -/
def skip (s : Statement) (n : UInt64) : Statement :=
  { s with offset := some n }

end Statement
end QueryText
