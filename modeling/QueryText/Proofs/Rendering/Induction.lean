/-
Induction over the trees, and the renderers as equations. `Node.induct` and
`Predicate.induct` give an induction hypothesis for every member of a list,
so that no proof needs a second statement about lists of trees; to go with
them, the functions on lists of trees are written as `flatMap` and `mapM`
of those on one tree.
-/
import QueryText.Proofs.Rendering.Outcome
import QueryText.Statement.Render

namespace QueryText

/-- The contexts of the two sides of a comparison. -/
def Context.isSide : Context → Bool
  | .whereCondition | .attributeOperand => true
  | _ => false

/-- No output names are written on a side of a comparison. -/
theorem Environment.aliasSuffix_of_isSide {context : Context} (hside : context.isSide = true)
    (env : Environment) (label : Option String) : env.aliasSuffix context label = "" := by
  have hallows : context.allowsAlias = false := by
    revert hside
    cases context <;> decide
  cases label with
  | none => rfl
  | some label => simp [aliasSuffix, hallows]

-- ================================================================= nodes

namespace Node

/-- Induction over expression trees. -/
@[elab_as_elim, induction_eliminator]
theorem induct {P : Node → Prop} (attr : ∀ a, P (.attr a))
    (expression : ∀ function operand label, P operand → P (.expression function operand label))
    (scalar : ∀ s, P (.scalar s)) (value : ∀ operand, P operand → P (.value operand))
    (array : ∀ items, (∀ item ∈ items, P item) → P (.array items))
    (range : ∀ low high, P low → P high → P (.range low high))
    (table : ∀ r, P (.table r)) (subselect : ∀ s, P (.subselect s)) (node : Node) : P node :=
  Node.rec (motive_1 := P) (motive_2 := fun items => ∀ item ∈ items, P item)
    attr expression scalar value array range table subselect
    (fun _ h => absurd h List.not_mem_nil)
    (fun node _ hnode hrest item hitem => by
      rcases List.mem_cons.mp hitem with rfl | hitem
      · exact hnode
      · exact hrest item hitem)
    node

theorem relationsOfAll_eq (nodes : List Node) :
    relationsOfAll nodes = nodes.flatMap relations := by
  induction nodes with
  | nil => rfl
  | cons node rest ih => rw [relationsOfAll, ih, List.flatMap_cons]

theorem renderAll_eq (env : Environment) (context : Context) (hint : Option Column)
    (nodes : List Node) :
    renderAll env context hint nodes = nodes.mapM (render env context hint) := by
  induction nodes with
  | nil => rfl
  | cons node rest ih =>
      rw [renderAll, ih, List.mapM_cons]

variable {env : Environment} {context : Context} {hint : Option Column}

/-- A literal stands as it is where values pass. -/
theorem render_value_scalar (s : Scalar) :
    (value (.scalar s)).render env context hint = (do
      context.demand .value
      if context.passesValues then return s.value.bare else s.render env context hint) := by
  rw [render]

/-- A value around anything else is transparent. -/
theorem render_value {operand : Node} (h : ∀ s, operand ≠ .scalar s) :
    (value operand).render env context hint = (do
      context.demand .value
      operand.render env context hint) := by
  cases operand with
  | scalar s => exact absurd rfl (h s)
  | _ => rfl

/-- On a side of a comparison a value is transparent, whatever it holds. -/
theorem render_value_of_isSide (hside : context.isSide = true) (operand : Node) :
    (value operand).render env context hint = operand.render env context hint := by
  have hcontext : context.admits .value = true ∧ context.passesValues = false := by
    revert hside
    cases context <;> decide
  obtain ⟨hadmits, hpasses⟩ := hcontext
  by_cases hs : ∃ s, operand = .scalar s
  · obtain ⟨s, rfl⟩ := hs
    rw [render_value_scalar, Context.demand, if_pos hadmits, hpasses]
    rfl
  · rw [render_value (not_exists.mp hs), Context.demand, if_pos hadmits]
    rfl

/-- Only what the context has a rule for is rendered. -/
theorem admits_of_render {node : Node} {text : String}
    (h : node.render env context hint = .ok text) : context.admits node.kind = true := by
  have hdemand : ∃ u, context.demand node.kind = .ok u := by
    cases node with
    | attr _ | scalar _ | table _ | subselect _ =>
        obtain ⟨u, hu, -⟩ := bind_eq_ok.mp h
        exact ⟨u, hu⟩
    | expression _ _ _ | value _ | array _ | range _ _ =>
        unfold render at h
        obtain ⟨u, hu, -⟩ := bind_eq_ok.mp h
        exact ⟨u, hu⟩
  obtain ⟨u, hu⟩ := hdemand
  rw [Context.demand] at hu
  split at hu
  · next hadmits => exact hadmits
  · cases hu

/-- What the context has no rule for is refused as such. -/
theorem render_of_not_admits {node : Node} (h : context.admits node.kind = false) :
    node.render env context hint = .error (.unsupported node.kind context) := by
  have hdemand : context.demand node.kind = .error (.unsupported node.kind context) := by
    rw [Context.demand, h]
    rfl
  cases node with
  | attr _ | scalar _ | table _ | subselect _ => exact congrArg (· >>= _) hdemand
  | expression _ _ _ | value _ | array _ | range _ _ =>
      unfold render
      exact congrArg (· >>= _) hdemand

/-- The context of the right operand beside a left one. -/
def besideContext : Node → Context
  | .attr _ | .expression _ _ _ => .attributeOperand
  | _ => .whereCondition

/-- The hint for the right operand beside a left one. -/
def besideHint : Node → Option Column
  | .attr a => a.column
  | _ => none

theorem isSide_besideContext (left : Node) : left.besideContext.isSide = true := by
  cases left <;> rfl

/-- The right operand's context and hint are read off the left operand. -/
theorem renderBeside_eq (env : Environment) (left right : Node) :
    left.renderBeside env right = right.render env left.besideContext left.besideHint := by
  cases left <;> rfl

end Node

-- ============================================================ conditions

/-- An operator looks at two things only, whether its right operand is null
and whether it is a range. -/
theorem Operator.sqlFor_congr (op : Operator) {right right' : Node}
    (hnull : right'.isNull = right.isNull) (hrange : right'.isRange = right.isRange) :
    op.sqlFor right' = op.sqlFor right := by
  cases op <;> simp only [sqlFor, hnull, hrange]

/-- Trees that become one under a map that keeps both have the same operators. -/
theorem Operator.sqlFor_congr_of_map {f : Node → Node}
    (hnull : ∀ node, (f node).isNull = node.isNull)
    (hrange : ∀ node, (f node).isRange = node.isRange) (op : Operator) {right right' : Node}
    (h : f right' = f right) : op.sqlFor right' = op.sqlFor right := by
  refine op.sqlFor_congr ?_ ?_
  · rw [← hnull, h, hnull]
  · rw [← hrange, h, hrange]

namespace Predicate

/-- Induction over conditions. -/
@[elab_as_elim, induction_eliminator]
theorem induct {P : Predicate → Prop} (binary : ∀ operator left right, P (.binary operator left right))
    (group : ∀ connective members, (∀ p ∈ members, P p) → P (.group connective members))
    (raw : ∀ sql, P (.raw sql)) (p : Predicate) : P p :=
  Predicate.rec (motive_1 := P) (motive_2 := fun members => ∀ p ∈ members, P p)
    binary group raw
    (fun _ h => absurd h List.not_mem_nil)
    (fun p _ hp hrest q hq => by
      rcases List.mem_cons.mp hq with rfl | hq
      · exact hp
      · exact hrest q hq)
    p

theorem relationsOfAll_eq (ps : List Predicate) :
    relationsOfAll ps = ps.flatMap relations := by
  induction ps with
  | nil => rfl
  | cons p rest ih => rw [relationsOfAll, ih, List.flatMap_cons]

theorem renderAll_eq (env : Environment) (ps : List Predicate) :
    renderAll env ps = ps.mapM (renderWhere env) := by
  induction ps with
  | nil => rfl
  | cons p rest ih =>
      rw [renderAll, ih, List.mapM_cons]

/-- A group of two members or more is written in brackets. -/
theorem renderWhere_group (env : Environment) (connective : Connective)
    (first second : Predicate) (rest : List Predicate) :
    (group connective (first :: second :: rest)).renderWhere env = (do
      let members ← (first :: second :: rest).mapM (renderWhere env)
      return join connective members) := by
  rw [renderWhere, renderAll_eq]
  simp only [List.mapM_cons, bind_assoc, pure_bind]

end Predicate

-- ============================================================= statements

/-- The relations of a join are those of its entry and of its conditions. -/
theorem Join.mem_relations {j : Join} {r : Relation} :
    r ∈ j.relations
      ↔ r ∈ j.relation.relations ∨ r ∈ j.conditions.flatMap Predicate.relations := by
  rw [Join.relations, Predicate.relationsOfAll_eq, List.mem_append]

/-- The relations of a statement are those of its clauses. -/
theorem Statement.mem_relations {s : Statement} {r : Relation} :
    r ∈ s.relations
      ↔ r ∈ s.source.relations ∨ r ∈ s.joins.flatMap Join.relations
        ∨ r ∈ s.projections.flatMap Node.relations ∨ r ∈ s.conditions.flatMap Predicate.relations
        ∨ r ∈ s.groups.flatMap Node.relations ∨ r ∈ s.orders.flatMap (·.node.relations) := by
  simp only [Statement.relations, Node.relationsOfAll_eq, Predicate.relationsOfAll_eq,
    List.mem_append, or_assoc]

end QueryText
