/-
Value wrappers. A value marks its operand as SQL where values pass, and says
nothing on a side of a comparison. Three places look at it, each in a way of
its own: the operator of a comparison looks through all wrappers, a side of a
comparison renders what is wrapped, and the places where values pass look at
one wrapper only, as a literal in it is written bare.

They agree on what does not count. `withoutValues` takes all wrappers out of a
tree, `singleValues` leaves one of each stack. The sides of a comparison are
rendered as they are without wrappers, and every context renders a stack as a
single wrapper. One wrapper does count: around a left operand that is a column
or a call it hides what the right operand is compared with
(`wrappers_transparent`).
-/
import QueryText.Proofs.Rendering.Induction

namespace QueryText

namespace Node

-- ========================================================= without wrappers

mutual

/-- The tree without value wrappers. -/
def withoutValues : Node → Node
  | .attr a => .attr a
  | .expression function operand label => .expression function operand.withoutValues label
  | .scalar s => .scalar s
  | .value operand => operand.withoutValues
  | .array items => .array (withoutValuesAll items)
  | .range low high => .range low.withoutValues high.withoutValues
  | .table r => .table r
  | .subselect s => .subselect s

/-- The trees without value wrappers. -/
def withoutValuesAll : List Node → List Node
  | [] => []
  | node :: rest => node.withoutValues :: withoutValuesAll rest

end

theorem withoutValuesAll_eq (nodes : List Node) :
    withoutValuesAll nodes = nodes.map withoutValues := by
  induction nodes with
  | nil => rfl
  | cons node rest ih => rw [withoutValuesAll, ih, List.map_cons]

@[simp]
theorem kind_withoutValues (node : Node) : node.withoutValues.kind = node.unwrapped.kind := by
  induction node with
  | value operand ih => rw [withoutValues, unwrapped, ih]
  | _ => rfl

@[simp]
theorem isNull_withoutValues (node : Node) : node.withoutValues.isNull = node.isNull := by
  induction node with
  | value operand ih => exact ih
  | _ => rfl

@[simp]
theorem isRange_withoutValues (node : Node) : node.withoutValues.isRange = node.isRange := by
  induction node with
  | value operand ih => exact ih
  | _ => rfl

variable {env : Environment} {context : Context} {hint : Option Column}

/-- On a side of a comparison a tree is rendered as it is without wrappers. -/
theorem render_withoutValues (hside : context.isSide = true) (node : Node) :
    node.withoutValues.render env context hint = node.render env context hint := by
  induction node with
  | attr a => rfl
  | expression function operand label ih => rw [withoutValues, render, render, ih]
  | scalar s => rfl
  | value operand ih => rw [withoutValues, ih, render_value_of_isSide hside]
  | array items ih =>
      rw [withoutValues, withoutValuesAll_eq, render, render, renderAll_eq, renderAll_eq,
        mapM_map_eq ih]
  | range low high ihlow ihhigh => rw [withoutValues, render, render, ihlow, ihhigh]
  | table r => rfl
  | subselect s => rfl

/-- Two trees that differ in value wrappers only, wherever these are. -/
def DiffersInValues (node other : Node) : Prop :=
  other.withoutValues = node.withoutValues

theorem DiffersInValues.render_eq {node other : Node} (h : node.DiffersInValues other)
    (hside : context.isSide = true) :
    other.render env context hint = node.render env context hint := by
  rw [← render_withoutValues hside other, h, render_withoutValues hside]

theorem DiffersInValues.sqlFor_eq {node other : Node} (h : node.DiffersInValues other)
    (op : Operator) : op.sqlFor other = op.sqlFor node :=
  op.sqlFor_congr_of_map isNull_withoutValues isRange_withoutValues h

-- =========================================================== left operands

/-- What is neither a column nor a call asks for nothing beside it. -/
theorem beside_of_kind_unwrapped {node : Node}
    (h : node.unwrapped.kind ∉ [NodeKind.attr, NodeKind.expression]) :
    node.besideContext = .whereCondition ∧ node.besideHint = none := by
  cases node with
  | attr _ | expression _ _ _ => exact absurd (by simp [unwrapped, kind]) h
  | _ => exact ⟨rfl, rfl⟩

/-- Left operands that differ in value wrappers strictly below their root, or
also there if they are neither columns nor calls. -/
structure DiffersOnLeft (left other : Node) : Prop where
  values : left.DiffersInValues other
  root : other.kind = left.kind ∨ left.unwrapped.kind ∉ [NodeKind.attr, NodeKind.expression]

/-- Such operands ask for the same beside them. -/
theorem DiffersOnLeft.beside_eq {left other : Node} (h : left.DiffersOnLeft other) :
    other.besideContext = left.besideContext ∧ other.besideHint = left.besideHint := by
  obtain ⟨hvalues, hkind | hkind⟩ := h
  · -- With the same root, a column is the same column, and nothing else has a hint.
    cases left with
    | attr a =>
        cases other with
        | attr b =>
            cases hvalues
            exact ⟨rfl, rfl⟩
        | _ => cases hkind
    | expression _ _ _ =>
        cases other with
        | expression _ _ _ => exact ⟨rfl, rfl⟩
        | _ => cases hkind
    | _ =>
        cases other with
        | attr _ | expression _ _ _ => cases hkind
        | _ => exact ⟨rfl, rfl⟩
  · have hother : other.unwrapped.kind = left.unwrapped.kind := by
      rw [← kind_withoutValues, hvalues, kind_withoutValues]
    obtain ⟨hcontext, hhint⟩ := beside_of_kind_unwrapped hkind
    rw [← hother] at hkind
    obtain ⟨hcontext', hhint'⟩ := beside_of_kind_unwrapped hkind
    rw [hcontext, hcontext', hhint, hhint']
    exact ⟨rfl, rfl⟩

-- ================================================================== stacks

/-- A node in so many value wrappers. -/
def wrapped : Nat → Node → Node
  | 0, node => node
  | n + 1, node => .value (wrapped n node)

/-- Every tree is what it unwraps to, in its wrappers. -/
theorem exists_wrapped_unwrapped (node : Node) : ∃ n, node = wrapped n node.unwrapped := by
  induction node with
  | value operand ih =>
      obtain ⟨n, hn⟩ := ih
      exact ⟨n + 1, congrArg value hn⟩
  | _ => exact ⟨0, rfl⟩

theorem unwrapped_wrapped (n : Nat) (node : Node) :
    (wrapped n node).unwrapped = node.unwrapped := by
  induction n with
  | zero => rfl
  | succ n ih => exact ih

/-- A node in a value wrapper, if it is not in one already. -/
def wrappedOnce : Node → Node
  | .value operand => .value operand
  | node => .value node

mutual

/-- The tree with one value wrapper for each stack of them. -/
def singleValues : Node → Node
  | .attr a => .attr a
  | .expression function operand label => .expression function operand.singleValues label
  | .scalar s => .scalar s
  | .value operand => operand.singleValues.wrappedOnce
  | .array items => .array (singleValuesAll items)
  | .range low high => .range low.singleValues high.singleValues
  | .table r => .table r
  | .subselect s => .subselect s

/-- The trees with one value wrapper for each stack of them. -/
def singleValuesAll : List Node → List Node
  | [] => []
  | node :: rest => node.singleValues :: singleValuesAll rest

end

theorem singleValuesAll_eq (nodes : List Node) :
    singleValuesAll nodes = nodes.map singleValues := by
  induction nodes with
  | nil => rfl
  | cons node rest ih => rw [singleValuesAll, ih, List.map_cons]

theorem kind_wrappedOnce (node : Node) : node.wrappedOnce.kind = .value := by
  cases node <;> rfl

theorem wrappedOnce_wrappedOnce (node : Node) :
    node.wrappedOnce.wrappedOnce = node.wrappedOnce := by
  cases node <;> rfl

@[simp]
theorem kind_singleValues (node : Node) : node.singleValues.kind = node.kind := by
  cases node with
  | value operand => exact kind_wrappedOnce _
  | _ => rfl

/-- A stack around a node counts as one wrapper. -/
theorem singleValues_wrapped (n : Nat) (node : Node) :
    (wrapped (n + 1) node).singleValues = (value node).singleValues := by
  induction n with
  | zero => rfl
  | succ n ih => rw [wrapped, singleValues, ih, singleValues, wrappedOnce_wrappedOnce]

/-- A second wrapper is rendered as the first one is. -/
theorem render_value_value (operand : Node) :
    (value (value operand)).render env context hint = (value operand).render env context hint := by
  cases hadmits : context.admits .value with
  | true =>
      rw [render_value (fun _ h => by cases h), Context.demand, if_pos hadmits]
      rfl
  | false =>
      -- The context refuses the wrapper inside as it refuses the one around it.
      rw [render_of_not_admits hadmits, render_of_not_admits hadmits]
      rfl

theorem render_wrappedOnce (node : Node) :
    node.wrappedOnce.render env context hint = (value node).render env context hint := by
  cases node with
  | value operand => exact (render_value_value operand).symm
  | _ => rfl

/-- Every context renders a stack of wrappers as a single one. -/
theorem render_singleValues (node : Node) :
    node.singleValues.render env context hint = node.render env context hint := by
  induction node with
  | attr a => rfl
  | expression function operand label ih => rw [singleValues, render, render, ih]
  | scalar s => rfl
  | value operand ih =>
      rw [singleValues, render_wrappedOnce]
      by_cases hs : ∃ s, operand = .scalar s
      · obtain ⟨s, rfl⟩ := hs
        rfl
      · have hs' : ∀ s, operand.singleValues ≠ .scalar s := by
          intro s h
          have hkind : operand.kind = .scalar := by
            rw [← kind_singleValues, h]
            rfl
          cases operand with
          | scalar s => exact hs ⟨s, rfl⟩
          | _ => cases hkind
        rw [render_value hs', render_value (not_exists.mp hs), ih]
  | array items ih =>
      rw [singleValues, singleValuesAll_eq, render, render, renderAll_eq, renderAll_eq,
        mapM_map_eq ih]
  | range low high ihlow ihhigh => rw [singleValues, render, render, ihlow, ihhigh]
  | table r => rfl
  | subselect s => rfl

/-- Two trees that differ in the heights of their stacks of wrappers only. -/
def DiffersInStacks (node other : Node) : Prop :=
  other.singleValues = node.singleValues

theorem DiffersInStacks.render_eq {node other : Node} (h : node.DiffersInStacks other) :
    other.render env context hint = node.render env context hint := by
  rw [← render_singleValues other, h, render_singleValues]

end Node

-- ============================================================== the theorem

/-- Value wrappers do not change a comparison: they can be put in or taken out
anywhere on its right side and below the root of its left side, also at that
root if it holds neither a column nor a call, and the comparison is written in
the same way, the operator's word included, or refused in the same way. Where
values pass, a stack of wrappers is rendered as a single one, around a node
and anywhere in it. -/
theorem wrappers_transparent (env : Environment) :
    (∀ (op : Operator) (left left' right right' : Node), left.DiffersOnLeft left' →
        right.DiffersInValues right' →
          op.sqlFor right' = op.sqlFor right
            ∧ ∀ context, (Predicate.binary op left' right').render env context
              = (Predicate.binary op left right).render env context)
      ∧ (∀ context ∈ [Context.selectList, .whereClause, .order, .group],
          ∀ (hint : Option Column) (node : Node),
            (∀ n, (Node.wrapped (n + 1) node).render env context hint
                = (Node.value node).render env context hint)
              ∧ ∀ other, node.DiffersInStacks other →
                other.render env context hint = node.render env context hint) := by
  refine ⟨fun op left left' right right' hleft hright => ⟨hright.sqlFor_eq op, ?comparison⟩,
    fun context _ hint node => ⟨?stack, fun other h => h.render_eq⟩⟩
  case comparison =>
    intro context
    obtain ⟨hcontext, hhint⟩ := hleft.beside_eq
    have hleftSql : left'.render env .whereCondition none = left.render env .whereCondition none :=
      hleft.values.render_eq rfl
    have hrightSql : left'.renderBeside env right' = left.renderBeside env right := by
      rw [Node.renderBeside_eq, Node.renderBeside_eq, hcontext, hhint]
      exact hright.render_eq left.isSide_besideContext
    rw [Predicate.render, Predicate.render, Predicate.renderWhere, Predicate.renderWhere, hleftSql,
      hrightSql, hright.sqlFor_eq op]
  case stack =>
    intro n
    have hstack : (Node.value node).DiffersInStacks (Node.wrapped (n + 1) node) :=
      Node.singleValues_wrapped n node
    exact hstack.render_eq

/-- The size of a number in a column. -/
private def size (operand : Node) : Node :=
  .expression "ABS" operand none

/-- A column of a table. -/
private def balance : Node :=
  .attr { name := "balance", relation := { name := "u" } }

/-- Wrappers below a call, around a range and in it leave BETWEEN as it is, and
a stack of three is one in a select list. -/
theorem wrappers_transparent_range :
    ∃ (env : Environment) (right right' : Node),
      (size balance).DiffersOnLeft (size (.value (.value balance)))
        ∧ right.DiffersInValues right' ∧ right'.kind ≠ right.kind
        ∧ (Predicate.binary .notIn (size balance) right).render env .whereClause
          = .ok "ABS(\"u\".\"balance\") NOT BETWEEN 1 AND 2"
        ∧ (Predicate.binary .notIn (size (.value (.value balance))) right').render env .whereClause
          = (Predicate.binary .notIn (size balance) right).render env .whereClause
        ∧ Context.selectList ∈ [Context.selectList, .whereClause, .order, .group]
        ∧ (Node.sql "now()").render env .selectList none = .ok "now()"
        ∧ (Node.wrapped 3 (.literal (.string "now()"))).render env .selectList none
          = (Node.sql "now()").render env .selectList none
        ∧ (size (.sql "now()")).DiffersInStacks (size (.value (.sql "now()")))
        ∧ (size (.value (.sql "now()"))).render env .selectList none
          = (size (.sql "now()")).render env .selectList none := by
  have hleft : (size balance).DiffersOnLeft (size (.value (.value balance))) := ⟨rfl, .inl rfl⟩
  have hright : (Node.range (.literal (.int 1)) (.literal (.int 2))).DiffersInValues
      (.value (.value (.range (.value (.literal (.int 1))) (.literal (.int 2))))) := rfl
  have hselect : Context.selectList ∈ [Context.selectList, .whereClause, .order, .group] := by
    decide
  have hstacks : (size (.sql "now()")).DiffersInStacks (size (.value (.sql "now()"))) := rfl
  obtain ⟨hcomparison, hpassing⟩ :=
    wrappers_transparent ((Environment.ofConfig {}).christen [{ name := "u" }])
  obtain ⟨-, hsame⟩ := hcomparison .notIn _ _ _ _ hleft hright
  obtain ⟨hstack, -⟩ := hpassing .selectList hselect none (.literal (.string "now()"))
  obtain ⟨-, hinside⟩ := hpassing .selectList hselect none (size (.sql "now()"))
  exact ⟨_, _, _, hleft, hright, by decide, by decide +kernel, hsame .whereClause, hselect,
    by decide +kernel, hstack 2, hstacks, hinside _ hstacks⟩

/-- A wrapper around a column hides it from what stands beside it: without the
column a range has no place there. -/
example :
    (Predicate.binary .isIn (.value balance)
        (.range (.literal (.int 1)) (.literal (.int 2)))).render
      ((Environment.ofConfig {}).christen [{ name := "u" }]) .whereClause
      = .error (.unsupported .range .whereCondition) := by
  decide +kernel

end QueryText
