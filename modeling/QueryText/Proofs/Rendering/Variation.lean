/-
Trees that are compared with each other. Two trees of one form vary in the
literals and in the output names that stand in them, each pair as a
`Variation` allows for the context it is rendered in; all else is the same.
`fragments` lists the other texts of a tree that are not quoted: pieces of
SQL, which go into the query as they are.

What naming and the choice of operators look at is the same in two trees
that vary: the relations (`Statement.Varies.relations_eq`), the context of a
right operand, and whether an operand is null or a range.
-/
import Mathlib.Data.List.Forall2
import QueryText.Proofs.Rendering.Induction

namespace QueryText

-- ========================================================== the variations

/-- How literals and output names may vary, by context and hint. -/
structure Variation where
  label : Context → Option String → Option String → Prop
  scalar : Context → Option Column → Scalar → Scalar → Prop

/-- Attributes that vary in their output name. -/
structure Attribute.Varies (v : Variation) (context : Context) (a b : Attribute) : Prop where
  name : b.name = a.name
  relation : b.relation = a.relation
  column : b.column = a.column
  label : v.label context a.label b.label

/-- Nodes of one form, rendered in one context. -/
inductive Node.Varies (v : Variation) (context : Context) (hint : Option Column) :
    Node → Node → Prop
  | attr {a b : Attribute} (h : a.Varies v context b) : Varies v context hint (.attr a) (.attr b)
  | expression {function : String} {x y : Node} {l m : Option String}
      (h : Varies v context hint x y) (hlabel : v.label context l m) :
      Varies v context hint (.expression function x l) (.expression function y m)
  | scalar {s t : Scalar} (h : v.scalar context hint s t) :
      Varies v context hint (.scalar s) (.scalar t)
  | value {x y : Node} (h : Varies v context hint x y) :
      Varies v context hint (.value x) (.value y)
  | array {xs ys : List Node} (h : List.Forall₂ (Varies v context hint) xs ys) :
      Varies v context hint (.array xs) (.array ys)
  | range {x y x' y' : Node} (hlow : Varies v context hint x x')
      (hhigh : Varies v context hint y y') :
      Varies v context hint (.range x y) (.range x' y')
  | table (r : Relation) : Varies v context hint (.table r) (.table r)
  | subselect (s : Subselect) : Varies v context hint (.subselect s) (.subselect s)

/-- Conditions of one form. -/
inductive Predicate.Varies (v : Variation) : Predicate → Predicate → Prop
  | binary {operator : Operator} {x y x' y' : Node} (hleft : x.Varies v .whereCondition none x')
      (hright : y.Varies v x.besideContext x.besideHint y') :
      Varies v (.binary operator x y) (.binary operator x' y')
  | group {connective : Connective} {ps qs : List Predicate}
      (h : List.Forall₂ (Varies v) ps qs) :
      Varies v (.group connective ps) (.group connective qs)
  | raw {x y : Node} (h : x.Varies v .whereClause none y) : Varies v (.raw x) (.raw y)

/-- Joins of one form. -/
structure Join.Varies (v : Variation) (j k : Join) : Prop where
  kind : k.kind = j.kind
  relation : j.relation.Varies v .tableReference none k.relation
  conditions : List.Forall₂ (Predicate.Varies v) j.conditions k.conditions

/-- Orderings of one form. -/
structure Ordering.Varies (v : Variation) (o p : Ordering) : Prop where
  node : o.node.Varies v .order none p.node
  direction : p.direction = o.direction

/-- Statements of one form. -/
structure Statement.Varies (v : Variation) (s t : Statement) : Prop where
  projections : List.Forall₂ (Node.Varies v .selectList none) s.projections t.projections
  source : s.source.Varies v .tableReference none t.source
  joins : List.Forall₂ (Join.Varies v) s.joins t.joins
  conditions : List.Forall₂ (Predicate.Varies v) s.conditions t.conditions
  groups : List.Forall₂ (Node.Varies v .group none) s.groups t.groups
  orders : List.Forall₂ (Ordering.Varies v) s.orders t.orders
  limit : t.limit = s.limit
  offset : t.offset = s.offset

-- ===================================================== a tree beside itself

/-- A list beside itself. -/
theorem forall₂_self {α : Type} {R : α → α → Prop} {l : List α} (h : ∀ a ∈ l, R a a) :
    List.Forall₂ R l l :=
  List.forall₂_same.mpr h

/-- A variation that allows what it is given to stay. -/
structure Variation.Reflexive (v : Variation) : Prop where
  label (context : Context) (l : Option String) : v.label context l l
  scalar (context : Context) (hint : Option Column) (s : Scalar) : v.scalar context hint s s

theorem Node.varies_self {v : Variation} (hv : v.Reflexive) (node : Node) (context : Context)
    (hint : Option Column) : node.Varies v context hint node := by
  induction node with
  | attr a => exact .attr ⟨rfl, rfl, rfl, hv.label context a.label⟩
  | expression function operand label ih => exact .expression ih (hv.label context label)
  | scalar s => exact .scalar (hv.scalar context hint s)
  | value operand ih => exact .value ih
  | array items ih => exact .array (forall₂_self ih)
  | range low high ihlow ihhigh => exact .range ihlow ihhigh
  | table r => exact .table r
  | subselect s => exact .subselect s

-- =========================================================== the fragments

namespace Node

mutual

/-- The texts of a node that go into the query as they are. -/
def fragments (env : Environment) (context : Context) : Node → List String
  | .attr a => if Identifier.isSimple a.name then [] else [a.name]
  | .expression function operand _ => function :: operand.fragments env context
  | .scalar _ => []
  | .value operand =>
    match operand with
    | .scalar s => if context.passesValues then [s.value.bare] else []
    | node => node.fragments env context
  | .array items => fragmentsOfAll env context items
  | .range low high => low.fragments env context ++ high.fragments env context
  | .table r =>
    if Identifier.isSimpleTable r.name then [] else r.name :: (env.nameOf? r).toList
  | .subselect s => [s.sql]

/-- The texts of several nodes that go into the query as they are. -/
def fragmentsOfAll (env : Environment) (context : Context) : List Node → List String
  | [] => []
  | node :: rest => node.fragments env context ++ fragmentsOfAll env context rest

end

theorem fragmentsOfAll_eq (env : Environment) (context : Context) (nodes : List Node) :
    fragmentsOfAll env context nodes = nodes.flatMap (fragments env context) := by
  induction nodes with
  | nil => rfl
  | cons node rest ih => rw [fragmentsOfAll, ih, List.flatMap_cons]

theorem fragments_value {env : Environment} {context : Context} {operand : Node}
    (h : ∀ s, operand ≠ .scalar s) :
    (value operand).fragments env context = operand.fragments env context := by
  cases operand with
  | scalar s => exact absurd rfl (h s)
  | _ => rfl

end Node

namespace Predicate

mutual

/-- The texts of a condition that go into the query as they are. -/
def fragments (env : Environment) : Predicate → List String
  | .binary _ left right =>
    left.fragments env .whereCondition ++ right.fragments env left.besideContext
  | .group _ members => fragmentsOfAll env members
  | .raw sql => sql.fragments env .whereClause

/-- The texts of several conditions that go into the query as they are. -/
def fragmentsOfAll (env : Environment) : List Predicate → List String
  | [] => []
  | p :: rest => p.fragments env ++ fragmentsOfAll env rest

end

theorem fragmentsOfAll_eq (env : Environment) (ps : List Predicate) :
    fragmentsOfAll env ps = ps.flatMap (fragments env) := by
  induction ps with
  | nil => rfl
  | cons p rest ih => rw [fragmentsOfAll, ih, List.flatMap_cons]

end Predicate

/-- The texts of a join that go into the query as they are. -/
def Join.fragments (env : Environment) (j : Join) : List String :=
  j.relation.fragments env .tableReference ++ j.conditions.flatMap (Predicate.fragments env)

/-- The texts of a statement that go into the query as they are. -/
def Statement.fragments (env : Environment) (s : Statement) : List String :=
  s.projections.flatMap (Node.fragments env .selectList)
    ++ s.source.fragments env .tableReference ++ s.joins.flatMap (Join.fragments env)
    ++ s.conditions.flatMap (Predicate.fragments env)
    ++ s.groups.flatMap (Node.fragments env .group)
    ++ s.orders.flatMap fun o => o.node.fragments env .order

theorem Statement.mem_fragments {env : Environment} {s : Statement} {f : String} :
    f ∈ s.fragments env
      ↔ f ∈ s.projections.flatMap (Node.fragments env .selectList)
        ∨ f ∈ s.source.fragments env .tableReference ∨ f ∈ s.joins.flatMap (Join.fragments env)
        ∨ f ∈ s.conditions.flatMap (Predicate.fragments env)
        ∨ f ∈ s.groups.flatMap (Node.fragments env .group)
        ∨ f ∈ s.orders.flatMap fun o => o.node.fragments env .order := by
  simp only [Statement.fragments, List.mem_append, or_assoc]

-- ===================================================== what does not vary

variable {v : Variation} {context : Context} {hint : Option Column}

/-- What follows for the members of a list follows along two lists. -/
theorem forall₂_of_mem {α β : Type} {R S : α → β → Prop} {xs : List α} {ys : List β}
    (h : List.Forall₂ R xs ys) (hS : ∀ x ∈ xs, ∀ y, R x y → S x y) : List.Forall₂ S xs ys := by
  induction h with
  | nil => exact .nil
  | @cons x y xs ys hxy _ ih =>
      refine .cons (hS x List.mem_cons_self y hxy) (ih fun x' hx' => ?_)
      exact hS x' (List.mem_cons_of_mem x hx')

/-- Lists of one form give the same when their members do. -/
theorem flatMap_eq_of_forall₂ {α β : Type} {R : α → α → Prop} {f : α → List β} {xs ys : List α}
    (h : List.Forall₂ R xs ys) (hf : ∀ x ∈ xs, ∀ y, R x y → f y = f x) :
    ys.flatMap f = xs.flatMap f := by
  have hsame := forall₂_of_mem h hf
  clear h hf
  induction hsame with
  | nil => rfl
  | cons hxy _ ih => rw [List.flatMap_cons, List.flatMap_cons, hxy, ih]

theorem Node.Varies.relations_eq {node other : Node} (h : node.Varies v context hint other) :
    other.relations = node.relations := by
  induction node generalizing other with
  | attr a =>
      cases h with
      | attr h => rw [Node.relations, Node.relations, h.relation]
  | expression function operand label ih =>
      cases h with
      | expression h _ => rw [Node.relations, Node.relations, ih h]
  | scalar s =>
      cases h with
      | scalar _ => rfl
  | value operand ih =>
      cases h with
      | value h => rw [Node.relations, Node.relations, ih h]
  | array items ih =>
      cases h with
      | array h =>
          rw [Node.relations, Node.relations, Node.relationsOfAll_eq, Node.relationsOfAll_eq]
          exact flatMap_eq_of_forall₂ h fun item hitem _ hvary => ih item hitem hvary
  | range low high ihlow ihhigh =>
      cases h with
      | range hlow hhigh => rw [Node.relations, Node.relations, ihlow hlow, ihhigh hhigh]
  | table r =>
      cases h with
      | table => rfl
  | subselect s =>
      cases h with
      | subselect => rfl

theorem Predicate.Varies.relations_eq {p q : Predicate} (h : p.Varies v q) :
    q.relations = p.relations := by
  induction p generalizing q with
  | binary operator left right =>
      cases h with
      | binary hleft hright =>
          rw [Predicate.relations, Predicate.relations, hleft.relations_eq, hright.relations_eq]
  | group connective members ih =>
      cases h with
      | group h =>
          rw [Predicate.relations, Predicate.relations, Predicate.relationsOfAll_eq,
            Predicate.relationsOfAll_eq]
          exact flatMap_eq_of_forall₂ h fun p hp _ hvary => ih p hp hvary
  | raw sql =>
      cases h with
      | raw h => exact h.relations_eq

/-- Statements of one form mention the same relations, so they are named
alike. -/
theorem Statement.Varies.relations_eq {s t : Statement} (h : s.Varies v t) :
    t.relations = s.relations := by
  have hconditions : ∀ {ps qs : List Predicate}, List.Forall₂ (Predicate.Varies v) ps qs →
      qs.flatMap Predicate.relations = ps.flatMap Predicate.relations := fun hpq =>
    flatMap_eq_of_forall₂ hpq fun _ _ _ hvary => hvary.relations_eq
  have hnodes : ∀ {context : Context} {xs ys : List Node},
      List.Forall₂ (Node.Varies v context none) xs ys →
      ys.flatMap Node.relations = xs.flatMap Node.relations := fun hxy =>
    flatMap_eq_of_forall₂ hxy fun _ _ _ hvary => hvary.relations_eq
  have hjoins : t.joins.flatMap Join.relations = s.joins.flatMap Join.relations := by
    refine flatMap_eq_of_forall₂ h.joins fun j _ k hvary => ?_
    rw [Join.relations, Join.relations, Predicate.relationsOfAll_eq, Predicate.relationsOfAll_eq,
      hvary.relation.relations_eq, hconditions hvary.conditions]
  have horders : (t.orders.flatMap fun o => o.node.relations)
      = s.orders.flatMap fun o => o.node.relations :=
    flatMap_eq_of_forall₂ h.orders fun _ _ _ hvary => hvary.node.relations_eq
  simp only [Statement.relations, Node.relationsOfAll_eq, Predicate.relationsOfAll_eq]
  rw [h.source.relations_eq, hjoins, hnodes h.projections, hconditions h.conditions,
    hnodes h.groups, horders]

theorem Node.Varies.besideContext_eq {node other : Node} (h : node.Varies v context hint other) :
    other.besideContext = node.besideContext := by
  cases h <;> rfl

theorem Node.Varies.besideHint_eq {node other : Node} (h : node.Varies v context hint other) :
    other.besideHint = node.besideHint := by
  cases h with
  | attr h => exact h.column
  | _ => rfl

/-- Value wrappers are removed in step. -/
theorem Node.Varies.unwrapped {node other : Node} (h : node.Varies v context hint other) :
    node.unwrapped.Varies v context hint other.unwrapped := by
  induction node generalizing other with
  | value operand ih =>
      cases h with
      | value h =>
          have hoperand := ih h
          exact hoperand
  | _ =>
      cases h
      constructor
      all_goals assumption

theorem Node.Varies.isRange_eq {node other : Node} (h : node.Varies v context hint other) :
    other.isRange = node.isRange := by
  have hunwrapped := h.unwrapped
  rw [Node.isRange, Node.isRange]
  generalize node.unwrapped = x at hunwrapped
  generalize other.unwrapped = y at hunwrapped
  cases hunwrapped <;> rfl

/-- Null stays null when literals do not vary in that. -/
theorem Node.Varies.isNull_eq {node other : Node} (h : node.Varies v context hint other)
    (hnull : ∀ {s t : Scalar}, v.scalar context hint s t → t.value.isNull = s.value.isNull) :
    other.isNull = node.isNull := by
  have hunwrapped := h.unwrapped
  rw [Node.isNull, Node.isNull]
  generalize node.unwrapped = x at hunwrapped
  generalize other.unwrapped = y at hunwrapped
  cases hunwrapped with
  | scalar h => exact hnull h
  | _ => rfl

end QueryText
