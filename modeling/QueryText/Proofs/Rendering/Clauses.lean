/-
Which part of a statement a failure belongs to. A statement has parts that
could be rendered by themselves (`Statement.parts`), in the order in which it
is rendered: the columns, FROM, each join with its conditions, WHERE, GROUP BY
and ORDER BY. It fails as the first of them that fails
(`Statement.failure?_render`), so it is rendered when all of them are.

Each part is rendered in a context of its own, and a node never leaves the
context it is rendered in. So the context of a failure tells the clause. Only
conditions have more than one: the sides of a comparison have theirs, and what
fails in the context of the condition itself is a group without members or a
piece of SQL. For a condition fails as the first of its leaves
(`Predicate.failure?_renderWhere`), and each kind of leaf has its contexts.
-/
import QueryText.Proofs.Rendering.Acceptance
import QueryText.Proofs.Rendering.Failure

namespace QueryText

variable {env : Environment} {context : Context} {hint : Option Column} {e : RenderError}

-- ================================================================== nodes

namespace Node

/-- A node fails in the context that it is rendered in. -/
theorem context_of_render {node : Node} (h : node.render env context hint = .error e) :
    e.context = context :=
  List.mem_singleton.mp (node.render_failsOnly e h).context_mem

/-- A piece of SQL in the place of a condition fails for the kind of a node in
it, and for nothing else. -/
theorem unsupported_of_whereClause {node : Node}
    (h : node.render env .whereClause hint = .error e) :
    ∃ kind, e = .unsupported kind .whereClause := by
  rw [← failure?_eq_some, failure?_render] at h
  obtain ⟨m, -, hm⟩ := List.exists_of_findSome?_eq_some h
  -- Values are the only nodes that have a place there, and they cannot fail.
  cases m with
  | value operand => cases hm
  | _ => exact ⟨_, (Option.some.inj hm).symm⟩

end Node

-- ============================================================= conditions

namespace Predicate

mutual

/-- The conditions without members in a condition, from left to right:
comparisons, pieces of SQL and empty groups. -/
def leaves : Predicate → List Predicate
  | .binary operator left right => [.binary operator left right]
  | .group connective [] => [.group connective []]
  | .group _ (first :: rest) => first.leaves ++ leavesOfAll rest
  | .raw sql => [.raw sql]

/-- The leaves of several conditions. -/
def leavesOfAll : List Predicate → List Predicate
  | [] => []
  | p :: rest => p.leaves ++ leavesOfAll rest

end

/-- The kinds of leaves. -/
inductive IsLeaf : Predicate → Prop
  | binary (operator : Operator) (left right : Node) : IsLeaf (.binary operator left right)
  | empty (connective : Connective) : IsLeaf (.group connective [])
  | raw (sql : Node) : IsLeaf (.raw sql)

theorem leavesOfAll_eq (ps : List Predicate) : leavesOfAll ps = ps.flatMap leaves := by
  induction ps with
  | nil => rfl
  | cons p rest ih => rw [leavesOfAll, ih, List.flatMap_cons]

/-- A group with members has their leaves. -/
theorem leaves_group (connective : Connective) (first : Predicate) (rest : List Predicate) :
    (group connective (first :: rest)).leaves = (first :: rest).flatMap leaves := by
  rw [leaves, leavesOfAll_eq, List.flatMap_cons]

theorem isLeaf_of_mem_leaves {p leaf : Predicate} (h : leaf ∈ p.leaves) : leaf.IsLeaf := by
  induction p with
  | binary operator left right =>
      rw [List.mem_singleton.mp h]
      exact .binary operator left right
  | group connective members ih =>
      cases members with
      | nil =>
          rw [List.mem_singleton.mp h]
          exact .empty connective
      | cons first rest =>
          rw [leaves_group] at h
          obtain ⟨p, hp, hleaf⟩ := List.mem_flatMap.mp h
          exact ih p hp hleaf
  | raw sql =>
      rw [List.mem_singleton.mp h]
      exact .raw sql

/-- A condition fails as the first of its leaves that fails. -/
theorem failure?_renderWhere (p : Predicate) :
    failure? (p.renderWhere env)
      = p.leaves.findSome? fun leaf => failure? (leaf.renderWhere env) := by
  induction p with
  | binary _ _ _ | raw _ => exact List.findSome?_singleton.symm
  | group connective members ih =>
      match members with
      | [] => exact List.findSome?_singleton.symm
      | [member] =>
          rw [renderWhere, leaves_group, List.flatMap_singleton]
          exact ih member List.mem_cons_self
      | first :: second :: rest =>
          rw [renderWhere_group, leaves_group, failure?_return, failure?_mapM ih,
            findSome?_flatMap]

/-- A comparison fails on one of its sides. -/
theorem isSide_of_renderWhere {operator : Operator} {left right : Node}
    (h : (binary operator left right).renderWhere env = .error e) : e.context.isSide = true := by
  have hfailure : failure? ((binary operator left right).renderWhere env)
      = (failure? (left.render env .whereCondition none)).or
          (failure? (left.renderBeside env right)) := by
    rw [renderWhere, failure?_bind fun _ => failure?_return _ _]
  rw [← failure?_eq_some, hfailure, Option.or_eq_some_iff] at h
  rcases h with hleft | ⟨-, hright⟩
  · rw [Node.context_of_render (failure?_eq_some.mp hleft)]
    rfl
  · rw [Node.renderBeside_eq] at hright
    rw [Node.context_of_render (failure?_eq_some.mp hright)]
    exact left.isSide_besideContext

/-- In the context of the condition itself an empty group fails, and a piece of
SQL, which is of a kind that has no place there. -/
theorem context_eq_whereClause_iff {leaf : Predicate} (hleaf : leaf.IsLeaf)
    (h : leaf.renderWhere env = .error e) :
    e.context = .whereClause
      ↔ (∃ connective, leaf = .group connective [] ∧ e = .emptyGroup connective .whereClause)
        ∨ ∃ sql kind, leaf = .raw sql ∧ e = .unsupported kind .whereClause := by
  cases hleaf with
  | binary operator left right =>
      have hside := isSide_of_renderWhere h
      constructor
      · intro hcontext
        rw [hcontext] at hside
        cases hside
      · rintro (⟨_, hgroup, -⟩ | ⟨_, _, hraw, -⟩)
        · cases hgroup
        · cases hraw
  | empty connective =>
      have he : e = .emptyGroup connective .whereClause := by
        rw [renderWhere] at h
        exact (Except.error.inj h).symm
      exact iff_of_true (he ▸ rfl) (.inl ⟨connective, rfl, he⟩)
  | raw sql =>
      rw [renderWhere] at h
      obtain ⟨kind, he⟩ := Node.unsupported_of_whereClause h
      exact iff_of_true (he ▸ rfl) (.inr ⟨sql, kind, rfl, he⟩)

end Predicate

-- ============================================================== the parts

namespace Statement

/-- A part of a statement that can be rendered by itself. -/
inductive Part
  | projection (node : Node)
  | source (node : Node)
  | joined (node : Node)
  | joinCondition (p : Predicate)
  | condition (p : Predicate)
  | group (node : Node)
  | order (node : Node)

namespace Part

/-- The text of a part, in the context of its clause. -/
def render (env : Environment) : Part → Except RenderError String
  | .projection node => node.render env .selectList none
  | .source node | .joined node => node.render env .tableReference none
  | .joinCondition p | .condition p => p.render env .whereClause
  | .group node => node.render env .group none
  | .order node => node.render env .order none

/-- The contexts that a part can fail in. -/
def contexts : Part → List Context
  | .projection _ => [.selectList]
  | .source _ | .joined _ => [.tableReference]
  | .joinCondition _ | .condition _ => [.whereClause, .whereCondition, .attributeOperand]
  | .group _ => [.group]
  | .order _ => [.order]

theorem context_mem_contexts {part : Part} (h : part.render env = .error e) :
    e.context ∈ part.contexts := by
  cases part with
  | projection node | source node | joined node | group node | order node =>
      exact List.mem_singleton.mpr (Node.context_of_render h)
  | joinCondition p | condition p => exact (p.renderWhere_failsOnly e h).context_mem

/-- No part is a statement by itself. -/
theorem not_mem_contexts (part : Part) : .selectStatement ∉ part.contexts := by
  cases part <;> simp [contexts]

/-- The failure of the first part that fails. -/
def firstFailure? (env : Environment) (parts : List Part) : Option RenderError :=
  parts.findSome? fun part => failure? (part.render env)

theorem firstFailure?_cons (part : Part) (parts : List Part) :
    firstFailure? env (part :: parts)
      = (failure? (part.render env)).or (firstFailure? env parts) := by
  rw [firstFailure?, List.findSome?_cons]
  cases part.render env <;> rfl

theorem firstFailure?_append (parts others : List Part) :
    firstFailure? env (parts ++ others) = (firstFailure? env parts).or (firstFailure? env others) :=
  List.findSome?_append

/-- A list of parts fails as the list of their texts does. -/
theorem firstFailure?_map {α : Type} (part : α → Part) (l : List α) :
    firstFailure? env (l.map part) = failure? (l.mapM fun a => (part a).render env) := by
  rw [failure?_mapM fun _ _ => rfl, firstFailure?, List.findSome?_map]
  rfl

end Part

end Statement

/-- The parts of a join: the relation, then the conditions. -/
def Join.parts (j : Join) : List Statement.Part :=
  .joined j.relation :: j.conditions.map .joinCondition

/-- The parts of a statement, in the order in which it is rendered. -/
def Statement.parts (s : Statement) : List Part :=
  s.projections.map .projection ++ .source s.source :: s.joins.flatMap Join.parts
    ++ s.conditions.map .condition ++ s.groups.map .group ++ s.orders.map (.order ·.node)

-- ============================================================ the clauses

/-- A clause that is left out when it has no members fails as its members do. -/
theorem failure?_clause {ε α β γ : Type} {l : List α} {absent : γ} {x : Except ε β} {f : β → γ}
    (h : l = [] → failure? x = none) :
    failure? (if l.isEmpty then return absent else do let b ← x; return f b) = failure? x := by
  cases l with
  | nil => exact (h rfl).symm
  | cons a l => exact failure?_return x f

theorem Predicate.failure?_renderConjunction (ps : List Predicate) :
    failure? (renderConjunction env ps) = failure? (ps.mapM (renderWhere env)) := by
  rw [renderConjunction, failure?_return, renderAll_eq]

theorem Join.failure?_render (j : Join) :
    failure? (j.render env) = Statement.Part.firstFailure? env j.parts := by
  have hconditions : failure? (j.conditions.mapM (Predicate.renderWhere env))
      = Statement.Part.firstFailure? env (j.conditions.map .joinCondition) :=
    (Statement.Part.firstFailure?_map .joinCondition j.conditions).symm
  rw [Join.render, failure?_bind fun _ => failure?_clause fun h => by rw [h]; rfl,
    Predicate.failure?_renderConjunction, hconditions, parts, Statement.Part.firstFailure?_cons]
  rfl

namespace Statement

theorem failure?_renderProjections (nodes : List Node) :
    failure? (renderProjections env nodes) = Part.firstFailure? env (nodes.map .projection) := by
  rw [renderProjections, failure?_clause fun h => by rw [h]; rfl, Node.renderAll_eq,
    Part.firstFailure?_map]
  rfl

theorem failure?_renderSource (source : Node) :
    failure? (renderSource env source) = Part.firstFailure? env [.source source] := by
  rw [renderSource, failure?_return, Part.firstFailure?, List.findSome?_singleton]
  rfl

theorem failure?_renderConditions (ps : List Predicate) :
    failure? (renderConditions env ps) = Part.firstFailure? env (ps.map .condition) := by
  rw [renderConditions, failure?_clause fun h => by rw [h]; rfl,
    Predicate.failure?_renderConjunction, Part.firstFailure?_map]
  rfl

theorem failure?_renderGroups (nodes : List Node) :
    failure? (renderGroups env nodes) = Part.firstFailure? env (nodes.map .group) := by
  rw [renderGroups, failure?_clause fun h => by rw [h]; rfl, Node.renderAll_eq,
    Part.firstFailure?_map]
  rfl

/-- The direction of a sort cannot fail. -/
theorem failure?_renderOrders (orders : List Ordering) :
    failure? (renderOrders env orders) = Part.firstFailure? env (orders.map (.order ·.node)) := by
  rw [renderOrders, failure?_clause fun h => by rw [h]; rfl, Part.firstFailure?, List.findSome?_map]
  exact failure?_mapM fun o _ => failure?_return _ _

/-- A statement fails as the first of its parts that fails. -/
theorem failure?_render (s : Statement) :
    failure? (s.render env) = Part.firstFailure? env s.parts := by
  have hjoins : failure? (s.joins.mapM (Join.render env))
      = Part.firstFailure? env (s.joins.flatMap Join.parts) := by
    rw [Part.firstFailure?, findSome?_flatMap]
    exact failure?_mapM fun j _ => j.failure?_render
  rw [render, failure?_bind fun _ => failure?_bind fun _ => failure?_bind fun _ =>
    failure?_bind fun _ => failure?_bind fun _ => failure?_return _ _]
  rw [failure?_renderProjections, failure?_renderSource, hjoins, failure?_renderConditions,
    failure?_renderGroups, failure?_renderOrders]
  simp only [parts, ← Part.firstFailure?_append, List.append_assoc, List.cons_append,
    List.nil_append]

/-- In any environment, a statement fails as the first of its parts that fails,
all parts before it being rendered, and it is rendered when all its parts are.
The context of the failure is that of the part's clause, never that of a whole
statement. In a condition, which has three contexts, it is the condition's own
exactly when the first leaf that fails is an empty group or a piece of SQL that
has no place there. -/
theorem first_failure_reported (env : Environment) (s : Statement) :
    (∀ e, s.render env = .error e → ∃ part, FirstToFail (Part.render env) s.parts part e
        ∧ e.context ∈ part.contexts ∧ e.context ≠ .selectStatement
        ∧ ∀ p, part = .joinCondition p ∨ part = .condition p →
          ∃ leaf, FirstToFail (Predicate.renderWhere env) p.leaves leaf e
            ∧ (e.context = .whereClause
              ↔ (∃ connective, leaf = .group connective []
                  ∧ e = .emptyGroup connective .whereClause)
                ∨ ∃ sql kind, leaf = .raw sql ∧ e = .unsupported kind .whereClause))
      ∧ ((∃ text, s.render env = .ok text)
        ↔ ∀ part ∈ s.parts, ∃ text, part.render env = .ok text) := by
  constructor
  · intro e he
    rw [← failure?_eq_some, failure?_render, Part.firstFailure?, findSome?_failure?_eq_some] at he
    obtain ⟨part, hfirst⟩ := he
    have hcontext := Part.context_mem_contexts hfirst.eq_error
    refine ⟨part, hfirst, hcontext, fun h => part.not_mem_contexts (h ▸ hcontext), fun p hp => ?_⟩
    have hcondition : p.renderWhere env = .error e := by
      rcases hp with rfl | rfl <;> exact hfirst.eq_error
    rw [← failure?_eq_some, Predicate.failure?_renderWhere, findSome?_failure?_eq_some]
      at hcondition
    obtain ⟨leaf, hleaf⟩ := hcondition
    have hkind := Predicate.isLeaf_of_mem_leaves hleaf.mem
    exact ⟨leaf, hleaf, Predicate.context_eq_whereClause_iff hkind hleaf.eq_error⟩
  · rw [← failure?_eq_none, failure?_render, Part.firstFailure?, findSome?_failure?_eq_none]

/-- Users and their hosts are linked by a comparison or by a column that stands
alone. -/
private def linked : Predicate :=
  .group .or
    [.binary .equal (.attr { name := "host", relation := { name := "users" } })
      (.attr { name := "id", relation := { name := "hosts" } }),
    .group .and [.raw (.attr { name := "guest", relation := { name := "users" } })]]

/-- A join on that condition, and a group without members behind it. -/
private def misjoined : Statement where
  source := .table { name := "users" }
  joins := [⟨.inner, .table { name := "hosts" }, [linked]⟩]
  conditions := [.group .and []]

/-- The tables are rendered. The column that stands alone is reported, and not
the comparison before it in the condition, nor the group behind the join. -/
theorem first_failure_reported_join :
    ∃ env : Environment, misjoined.render env = .error (.unsupported .attr .whereClause)
      ∧ FirstToFail (Part.render env) misjoined.parts (.joinCondition linked)
        (.unsupported .attr .whereClause)
      ∧ ∃ sql, FirstToFail (Predicate.renderWhere env) linked.leaves (.raw sql)
        (.unsupported .attr .whereClause) := by
  have hfails : misjoined.render ((Environment.ofConfig {}).performAll [.statement misjoined])
      = .error (.unsupported .attr .whereClause) := by
    decide +kernel
  obtain ⟨hfailure, -⟩ := first_failure_reported
    ((Environment.ofConfig {}).performAll [.statement misjoined]) misjoined
  obtain ⟨part, hfirst, hcontext, -, hcondition⟩ := hfailure _ hfails
  have hpart : part = .joinCondition linked := by
    have hmem : part ∈ [.source (.table { name := "users" }), .joined (.table { name := "hosts" }),
        .joinCondition linked, .condition (.group .and [])] := hfirst.mem
    simp only [List.mem_cons, List.not_mem_nil, or_false] at hmem
    rcases hmem with rfl | rfl | rfl | rfl
    · exact absurd hcontext (by decide)
    · exact absurd hcontext (by decide)
    · rfl
    · cases hfirst.eq_error
  obtain ⟨leaf, hleaf, hwhere⟩ := hcondition linked (.inl hpart)
  rcases hwhere.mp rfl with ⟨_, -, hgroup⟩ | ⟨sql, _, rfl, -⟩
  · cases hgroup
  · exact ⟨_, hfails, hpart ▸ hfirst, sql, hleaf⟩

end Statement
end QueryText
