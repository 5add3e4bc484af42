/-
The column of a comparison. Beside a column the right operand is rendered
with that column as a hint. The hint is no part of the tree; it goes down
with the context, through calls, values, lists and ranges, to every literal.

An operand is text around the texts of its literals: `sideText` is what it is
rendered to when the literals are quoted in a given way, at whatever depth they
stand. Every rendering of an operand is of that form (`render_eq_sideText`), and
with a hint the way is to quote for the column of the hint, whatever column a
literal has of its own.

So the hint can as well be written into the tree. `forColumn` gives all literals
of a tree one column of their own, and a tree is rendered with a hint as the
tree for that column is without one. As the hint comes before what the literals
say themselves, their own columns no longer matter (`column_reaches_literals`).
-/
import QueryText.Proofs.Rendering.Induction

namespace QueryText

namespace Node

-- ======================================================== trees for a column

mutual

/-- The tree with one column, or none, for all of its literals. -/
def forColumn (own : Option Column) : Node → Node
  | .attr a => .attr a
  | .expression function operand label => .expression function (operand.forColumn own) label
  | .scalar s => .scalar { s with column := own }
  | .value operand => .value (operand.forColumn own)
  | .array items => .array (forColumnAll own items)
  | .range low high => .range (low.forColumn own) (high.forColumn own)
  | .table r => .table r
  | .subselect s => .subselect s

/-- The trees with one column, or none, for all of their literals. -/
def forColumnAll (own : Option Column) : List Node → List Node
  | [] => []
  | node :: rest => node.forColumn own :: forColumnAll own rest

end

variable {own : Option Column}

theorem forColumnAll_eq (own : Option Column) (nodes : List Node) :
    forColumnAll own nodes = nodes.map (forColumn own) := by
  induction nodes with
  | nil => rfl
  | cons node rest ih => rw [forColumnAll, ih, List.map_cons]

theorem unwrapped_forColumn (own : Option Column) (node : Node) :
    (node.forColumn own).unwrapped = node.unwrapped.forColumn own := by
  induction node with
  | value operand ih => rw [forColumn, unwrapped, unwrapped, ih]
  | _ => rfl

/-- Null stays null, and nothing else becomes it. -/
theorem isNull_forColumn (own : Option Column) (node : Node) :
    (node.forColumn own).isNull = node.isNull := by
  rw [isNull, isNull, unwrapped_forColumn]
  cases node.unwrapped <;> rfl

theorem isRange_forColumn (own : Option Column) (node : Node) :
    (node.forColumn own).isRange = node.isRange := by
  rw [isRange, isRange, unwrapped_forColumn]
  cases node.unwrapped <;> rfl

-- =================================================== the text of an operand

mutual

/-- The text of an operand whose literals are quoted in a given way. -/
def sideText (env : Environment) (quote : Scalar → Except RenderError String) :
    Node → Except RenderError String
  | .attr a => a.render env .attributeOperand
  | .expression function operand _ => do
    let sql ← operand.sideText env quote
    return applied function sql
  | .scalar s => quote s
  | .value operand => operand.sideText env quote
  | .array items => do
    let parts ← sideTextAll env quote items
    return "(" ++ ", ".intercalate parts ++ ")"
  | .range low high => do
    let low ← low.sideText env quote
    let high ← high.sideText env quote
    return low ++ " AND " ++ high
  | .table r => r.render env .attributeOperand
  | .subselect s => s.render env .attributeOperand

/-- The texts of several operands. -/
def sideTextAll (env : Environment) (quote : Scalar → Except RenderError String) :
    List Node → Except RenderError (List String)
  | [] => .ok []
  | node :: rest => do
    let sql ← node.sideText env quote
    let others ← sideTextAll env quote rest
    return sql :: others

end

variable {env : Environment}

theorem sideTextAll_eq (env : Environment) (quote : Scalar → Except RenderError String)
    (nodes : List Node) : sideTextAll env quote nodes = nodes.mapM (sideText env quote) := by
  induction nodes with
  | nil => rfl
  | cons node rest ih => rw [sideTextAll, ih, List.mapM_cons]

end Node

/-- A literal quoted for a column, as an operand. -/
def Scalar.quotedFor (env : Environment) (column : Option Column) (s : Scalar) :
    Except RenderError String :=
  (env.quoter.value s.value column).mapError (.unquotable · .attributeOperand)

theorem Scalar.render_eq_quotedFor (env : Environment) (hint : Option Column) (s : Scalar) :
    s.render env .attributeOperand hint = s.quotedFor env (s.hint .attributeOperand hint) := by
  rw [Scalar.render, quotedFor]
  cases env.quoter.value s.value (s.hint .attributeOperand hint) <;> rfl

namespace Node

/-- An operand is rendered to the text around its literals, each of them quoted
for the hint or, without one, for its own column. -/
theorem render_eq_sideText (env : Environment) (hint : Option Column) (node : Node) :
    node.render env .attributeOperand hint
      = node.sideText env fun s => s.quotedFor env (s.hint .attributeOperand hint) := by
  induction node with
  | attr a => rfl
  | expression function operand label ih =>
      rw [render, sideText, ih, env.aliasSuffix_of_isSide rfl]
      simp only [String.append_empty]
      rfl
  | scalar s => exact s.render_eq_quotedFor env hint
  | value operand ih => rw [render_value_of_isSide rfl, sideText, ih]
  | array items ih =>
      rw [render, sideText, renderAll_eq, sideTextAll_eq, mapM_congr ih]
      rfl
  | range low high ihlow ihhigh =>
      rw [render, sideText, ihlow, ihhigh]
      rfl
  | table r => rfl
  | subselect s => rfl

-- ================================================================ rendering

/-- What counts for a literal is the column that it is quoted for, whether
this comes from the hint or from the literal. -/
theorem sideText_forColumn {quote quote' : Scalar → Except RenderError String}
    (h : ∀ s : Scalar, quote' { s with column := own } = quote s) (node : Node) :
    (node.forColumn own).sideText env quote' = node.sideText env quote := by
  induction node with
  | attr a => rfl
  | expression function operand label ih => rw [forColumn, sideText, sideText, ih]
  | scalar s => exact h s
  | value operand ih => rw [forColumn, sideText, sideText, ih]
  | array items ih =>
      rw [forColumn, forColumnAll_eq, sideText, sideText, sideTextAll_eq, sideTextAll_eq,
        mapM_map_eq ih]
  | range low high ihlow ihhigh => rw [forColumn, sideText, sideText, ihlow, ihhigh]
  | table r => rfl
  | subselect s => rfl

/-- With a hint each literal is quoted for the column of the hint. -/
theorem render_hinted (env : Environment) (c : Column) (node : Node) :
    node.render env .attributeOperand (some c)
      = node.sideText env (Scalar.quotedFor env (some c)) :=
  node.render_eq_sideText env (some c)

/-- A hint is as good as a column of all literals. -/
theorem render_forColumn (env : Environment) (c : Column) (node : Node) :
    (node.forColumn (some c)).render env .attributeOperand none
      = node.render env .attributeOperand (some c) := by
  rw [render_eq_sideText, render_hinted]
  exact sideText_forColumn (fun _ => rfl) node

/-- Beside a hint the columns of the literals do not matter. -/
theorem render_forColumn_hinted (env : Environment) (c : Column) (own : Option Column)
    (node : Node) :
    (node.forColumn own).render env .attributeOperand (some c)
      = node.render env .attributeOperand (some c) := by
  rw [render_hinted, render_hinted]
  exact sideText_forColumn (fun _ => rfl) node

/-- Two trees that differ in the columns of their literals only. -/
def DiffersInColumns (node other : Node) : Prop :=
  other.forColumn none = node.forColumn none

theorem DiffersInColumns.render_eq {node other : Node} (h : node.DiffersInColumns other)
    (env : Environment) (c : Column) :
    other.render env .attributeOperand (some c) = node.render env .attributeOperand (some c) := by
  rw [← render_forColumn_hinted env c none other, h, render_forColumn_hinted]

theorem DiffersInColumns.sqlFor_eq {node other : Node} (h : node.DiffersInColumns other)
    (op : Operator) : op.sqlFor other = op.sqlFor node :=
  op.sqlFor_congr_of_map (isNull_forColumn none) (isRange_forColumn none) h

end Node

-- ============================================================== the theorem

/-- The column of a comparison reaches every literal on its right side and
comes before the literals' own: with it as a hint a tree is rendered to the text
around its literals, at any depth, each of them quoted for the column of the
hint. So a tree is rendered, or refused, as the tree for that column is without
a hint. Beside a column of that kind the comparison is the one of the column
without its kind and the tree for it, and the own columns of the literals have
no influence. -/
theorem column_reaches_literals (env : Environment) (c : Column) (right : Node) :
    right.render env .attributeOperand (some c)
        = (right.sideText env fun s =>
            (env.quoter.value s.value (some c)).mapError (.unquotable · .attributeOperand))
      ∧ (right.forColumn (some c)).render env .attributeOperand none
        = right.render env .attributeOperand (some c)
      ∧ (∀ (op : Operator) (a : Attribute) (context : Context),
          (Predicate.binary op (.attr { a with column := some c }) right).render env context
            = (Predicate.binary op (.attr { a with column := none })
                (right.forColumn (some c))).render env context)
      ∧ (∀ (other : Node), right.DiffersInColumns other →
          ∀ (op : Operator) (a : Attribute) (context : Context),
            (Predicate.binary op (.attr { a with column := some c }) other).render env context
              = (Predicate.binary op (.attr { a with column := some c }) right).render env
                  context) := by
  refine ⟨right.render_hinted env c, right.render_forColumn env c, fun op a context => ?written,
    fun other h op a context => ?own⟩
  case written =>
    have hsql : op.sqlFor (right.forColumn (some c)) = op.sqlFor right :=
      op.sqlFor_congr (right.isNull_forColumn _) (right.isRange_forColumn _)
    simp only [Predicate.render, Predicate.renderWhere, Node.renderBeside, hsql,
      right.render_forColumn env c]
    rfl
  case own =>
    simp only [Predicate.render, Predicate.renderWhere, Node.renderBeside, h.sqlFor_eq,
      h.render_eq env c]

/-- Text in a list, a value, a call and a range, perhaps with a column. -/
private def texts (own : Option Column) : Node :=
  .array [.scalar ⟨.string "1", own⟩, .value (.scalar ⟨.string "2", own⟩),
    .expression "ABS" (.scalar ⟨.string "3", own⟩) none,
    .range (.scalar ⟨.string "4", own⟩) (.literal (.string "5"))]

/-- An age, perhaps with its column. -/
private def age (column : Option Column) : Attribute :=
  { name := "age", relation := { name := "u" }, column }

private def wholeNumbers : Column := ⟨"age", .int⟩

private def words : Column := ⟨"name", .string⟩

/-- Beside a column of whole numbers text is written as numbers, also where it
is meant for a column of text. Beside a column of text it is written as text,
also where it is meant for one of whole numbers; and without a column it is
written as it is meant. -/
theorem column_reaches_literals_everywhere :
    ∃ env : Environment, (texts none).DiffersInColumns (texts (some words))
      ∧ (texts none).DiffersInColumns (texts (some wholeNumbers))
      ∧ (Predicate.binary .isIn (.attr (age (some wholeNumbers))) (texts none)).render env
          .whereClause = .ok "\"u\".\"age\" IN (1, 2, ABS(3), 4 AND 5)"
      ∧ (Predicate.binary .isIn (.attr (age (some wholeNumbers))) (texts (some words))).render env
          .whereClause
        = (Predicate.binary .isIn (.attr (age (some wholeNumbers))) (texts none)).render env
          .whereClause
      ∧ (Predicate.binary .isIn (.attr (age (some words))) (texts none)).render env .whereClause
        = .ok "\"u\".\"age\" IN ('1', '2', ABS('3'), '4' AND '5')"
      ∧ (Predicate.binary .isIn (.attr (age (some words))) (texts (some wholeNumbers))).render env
          .whereClause
        = (Predicate.binary .isIn (.attr (age (some words))) (texts none)).render env .whereClause
      ∧ (Predicate.binary .isIn (.attr (age none)) (texts (some wholeNumbers))).render env
          .whereClause = .ok "\"u\".\"age\" IN (1, 2, ABS(3), 4 AND '5')" := by
  have hwords : (texts none).DiffersInColumns (texts (some words)) := rfl
  have hnumbers : (texts none).DiffersInColumns (texts (some wholeNumbers)) := rfl
  let env := (Environment.ofConfig {}).christen [{ name := "u" }]
  obtain ⟨-, -, -, hbesideNumbers⟩ := column_reaches_literals env wholeNumbers (texts none)
  obtain ⟨-, -, -, hbesideWords⟩ := column_reaches_literals env words (texts none)
  exact ⟨env, hwords, hnumbers, by decide +kernel,
    hbesideNumbers _ hwords .isIn (age none) .whereClause, by decide +kernel,
    hbesideWords _ hnumbers .isIn (age none) .whereClause, by decide +kernel⟩

end QueryText
