/-
What documents give back. The text of a timestamp does not always tell it: a
leap second that is not behind the last second of a minute is written like the
second that follows. `settled` puts in the place of each timestamp the one that
its text stands for, in literals, trees, conditions and statements, and leaves
everything else as it is.

`Every` says something of all the literals in a tree, with a rule for each kind
of tree. A tree is settled already exactly when each of its literals is
(`settled_eq_self_iff`).
-/
import QueryText.Proofs.Calendar.ReadBack
import QueryText.Proofs.Rendering.Induction

namespace QueryText

/-- A list is left alone by what leaves each of its members alone. -/
private theorem map_eq_self_iff {α : Type} {f : α → α} {items : List α} :
    items.map f = items ↔ ∀ a ∈ items, f a = a := by
  have hid := List.map_inj_left (l := items) (f := f) (g := id)
  rwa [List.map_id] at hid

-- =============================================================== literals

namespace Literal

/-- Whether the text of a literal tells it. -/
def IsSettled (l : Literal) : Prop :=
  ∀ t, l = .timestamp t → t.IsSettled

/-- The literal that the text of a literal stands for. -/
def settled : Literal → Literal
  | .timestamp t => .timestamp t.settled
  | l => l

theorem settled_eq_self_iff (l : Literal) : l.settled = l ↔ l.IsSettled := by
  cases l with
  | timestamp t =>
    rw [settled, timestamp.injEq, t.settled_eq_self_iff]
    exact ⟨fun h _ heq => timestamp.inj heq ▸ h, fun h => h t rfl⟩
  | _ => exact iff_of_true rfl fun _ heq => nomatch heq

end Literal

/-- A literal node with its literal settled. -/
def Scalar.settled (s : Scalar) : Scalar :=
  { s with value := s.value.settled }

theorem Scalar.settled_eq_self_iff (s : Scalar) : s.settled = s ↔ s.value.IsSettled := by
  rw [← s.value.settled_eq_self_iff]
  exact ⟨fun h => congrArg Scalar.value h, fun h => congrArg (Scalar.mk · s.column) h⟩

-- ================================================================== nodes

namespace Node

/-- A tree whose literals all have a property. -/
inductive Every (P : Literal → Prop) : Node → Prop
  | attr (a : Attribute) : Every P (.attr a)
  | expression {operand : Node} (function : String) (label : Option String)
      (h : Every P operand) : Every P (.expression function operand label)
  | scalar {s : Scalar} (h : P s.value) : Every P (.scalar s)
  | value {operand : Node} (h : Every P operand) : Every P (.value operand)
  | array {items : List Node} (h : ∀ item ∈ items, Every P item) : Every P (.array items)
  | range {low high : Node} (hlow : Every P low) (hhigh : Every P high) :
      Every P (.range low high)
  | table (r : Relation) : Every P (.table r)
  | subselect (s : Subselect) : Every P (.subselect s)

mutual

/-- The tree with all of its literals settled. -/
def settled : Node → Node
  | .attr a => .attr a
  | .expression function operand label => .expression function operand.settled label
  | .scalar s => .scalar s.settled
  | .value operand => .value operand.settled
  | .array items => .array (settledAll items)
  | .range low high => .range low.settled high.settled
  | .table r => .table r
  | .subselect s => .subselect s

/-- The trees with all of their literals settled. -/
def settledAll : List Node → List Node
  | [] => []
  | node :: rest => node.settled :: settledAll rest

end

theorem settledAll_eq (nodes : List Node) : settledAll nodes = nodes.map settled := by
  induction nodes with
  | nil => rfl
  | cons node rest ih => rw [settledAll, ih, List.map_cons]

theorem Every.settled_eq_self {node : Node} (h : node.Every Literal.IsSettled) :
    node.settled = node := by
  induction h with
  | attr a => rfl
  | expression function label h ih => rw [settled, ih]
  | scalar h => rw [settled, (Scalar.settled_eq_self_iff _).mpr h]
  | value h ih => rw [settled, ih]
  | array h ih => rw [settled, settledAll_eq, map_eq_self_iff.mpr ih]
  | range hlow hhigh ihlow ihhigh => rw [settled, ihlow, ihhigh]
  | table r => rfl
  | subselect s => rfl

/-- A tree that is left alone has no part that is not. -/
theorem every_of_settled_eq_self {node : Node} (h : node.settled = node) :
    node.Every Literal.IsSettled := by
  induction node with
  | attr a => exact .attr a
  | expression function operand label ih =>
    rw [settled, expression.injEq] at h
    exact .expression function label (ih h.2.1)
  | scalar s =>
    rw [settled, scalar.injEq, s.settled_eq_self_iff] at h
    exact .scalar h
  | value operand ih =>
    rw [settled, value.injEq] at h
    exact .value (ih h)
  | array items ih =>
    rw [settled, settledAll_eq, array.injEq, map_eq_self_iff] at h
    exact .array fun item hitem => ih item hitem (h item hitem)
  | range low high ihlow ihhigh =>
    rw [settled, range.injEq] at h
    exact .range (ihlow h.1) (ihhigh h.2)
  | table r => exact .table r
  | subselect s => exact .subselect s

theorem settled_eq_self_iff (node : Node) : node.settled = node ↔ node.Every Literal.IsSettled :=
  ⟨every_of_settled_eq_self, Every.settled_eq_self⟩

end Node

-- ============================================================= conditions

namespace Predicate

/-- A condition whose literals all have a property. -/
inductive Every (P : Literal → Prop) : Predicate → Prop
  | binary (operator : Operator) {left right : Node} (hleft : left.Every P)
      (hright : right.Every P) : Every P (.binary operator left right)
  | group (connective : Connective) {members : List Predicate}
      (h : ∀ p ∈ members, Every P p) : Every P (.group connective members)
  | raw {sql : Node} (h : sql.Every P) : Every P (.raw sql)

mutual

/-- The condition with all of its literals settled. -/
def settled : Predicate → Predicate
  | .binary operator left right => .binary operator left.settled right.settled
  | .group connective members => .group connective (settledAll members)
  | .raw sql => .raw sql.settled

/-- The conditions with all of their literals settled. -/
def settledAll : List Predicate → List Predicate
  | [] => []
  | p :: rest => p.settled :: settledAll rest

end

theorem settledAll_eq (ps : List Predicate) : settledAll ps = ps.map settled := by
  induction ps with
  | nil => rfl
  | cons p rest ih => rw [settledAll, ih, List.map_cons]

theorem Every.settled_eq_self {p : Predicate} (h : p.Every Literal.IsSettled) :
    p.settled = p := by
  induction h with
  | binary operator hleft hright => rw [settled, hleft.settled_eq_self, hright.settled_eq_self]
  | group connective h ih => rw [settled, settledAll_eq, map_eq_self_iff.mpr ih]
  | raw h => rw [settled, h.settled_eq_self]

theorem every_of_settled_eq_self {p : Predicate} (h : p.settled = p) :
    p.Every Literal.IsSettled := by
  induction p with
  | binary operator left right =>
    rw [settled, binary.injEq, left.settled_eq_self_iff, right.settled_eq_self_iff] at h
    exact .binary operator h.2.1 h.2.2
  | group connective members ih =>
    rw [settled, settledAll_eq, group.injEq, map_eq_self_iff] at h
    exact .group connective fun p hp => ih p hp (h.2 p hp)
  | raw sql =>
    rw [settled, raw.injEq, sql.settled_eq_self_iff] at h
    exact .raw h

theorem settled_eq_self_iff (p : Predicate) : p.settled = p ↔ p.Every Literal.IsSettled :=
  ⟨every_of_settled_eq_self, Every.settled_eq_self⟩

end Predicate

-- ============================================================= statements

namespace Join

/-- A join whose literals all have a property. -/
structure Every (P : Literal → Prop) (j : Join) : Prop where
  relation : j.relation.Every P
  conditions : ∀ p ∈ j.conditions, p.Every P

/-- The join with all of its literals settled. -/
def settled (j : Join) : Join where
  kind := j.kind
  relation := j.relation.settled
  conditions := j.conditions.map Predicate.settled

theorem settled_eq_self_iff (j : Join) : j.settled = j ↔ j.Every Literal.IsSettled := by
  obtain ⟨kind, relation, conditions⟩ := j
  rw [settled, mk.injEq, relation.settled_eq_self_iff, map_eq_self_iff]
  simp only [Predicate.settled_eq_self_iff, true_and]
  exact ⟨fun h => ⟨h.1, h.2⟩, fun h => ⟨h.relation, h.conditions⟩⟩

end Join

namespace Ordering

/-- The ordering with all of its literals settled. -/
def settled (o : Ordering) : Ordering where
  node := o.node.settled
  direction := o.direction

theorem settled_eq_self_iff (o : Ordering) : o.settled = o ↔ o.node.Every Literal.IsSettled := by
  obtain ⟨node, direction⟩ := o
  rw [settled, mk.injEq, node.settled_eq_self_iff]
  exact and_iff_left rfl

end Ordering

namespace Statement

/-- A statement whose literals all have a property. -/
structure Every (P : Literal → Prop) (s : Statement) : Prop where
  projections : ∀ node ∈ s.projections, node.Every P
  source : s.source.Every P
  joins : ∀ j ∈ s.joins, j.Every P
  conditions : ∀ p ∈ s.conditions, p.Every P
  groups : ∀ node ∈ s.groups, node.Every P
  orders : ∀ o ∈ s.orders, o.node.Every P

/-- The statement with all of its literals settled. -/
def settled (s : Statement) : Statement where
  projections := s.projections.map Node.settled
  source := s.source.settled
  joins := s.joins.map Join.settled
  conditions := s.conditions.map Predicate.settled
  groups := s.groups.map Node.settled
  orders := s.orders.map Ordering.settled
  limit := s.limit
  offset := s.offset

theorem settled_eq_self_iff (s : Statement) : s.settled = s ↔ s.Every Literal.IsSettled := by
  obtain ⟨projections, source, joins, conditions, groups, orders, limit, offset⟩ := s
  rw [settled, mk.injEq]
  simp only [map_eq_self_iff, Node.settled_eq_self_iff, Join.settled_eq_self_iff,
    Predicate.settled_eq_self_iff, Ordering.settled_eq_self_iff, and_true]
  constructor
  · intro h
    obtain ⟨hprojections, hsource, hjoins, hconditions, hgroups, horders⟩ := h
    exact ⟨hprojections, hsource, hjoins, hconditions, hgroups, horders⟩
  · intro h
    exact ⟨h.projections, h.source, h.joins, h.conditions, h.groups, h.orders⟩

end Statement
end QueryText
