/-
Where ranges stand. A range has a place on the right side of a comparison,
beside a column or a call, and nowhere else: where another context meets
one, the rendering fails (`Node.hasRange_eq_false_of_render`). A range that
is the whole right side of IN is tested with BETWEEN, that of NOT IN with
NOT BETWEEN, and nothing else is tested in this way
(`Operator.sqlFor_of_isRange`, `Operator.isRange_of_sqlFor`).

On that right side the context alone decides, not the operator. A range is
written there also beside an operator that does not test it, and inside of
a list, of another range or of a call (`ranges_not_only_under_between`).
-/
import QueryText.Proofs.Condition.Structure

namespace QueryText

-- ============================================================== the ranges

namespace Node

mutual

/-- Whether a range stands anywhere in a node. -/
def hasRange : Node → Bool
  | .attr _ => false
  | .expression _ operand _ => operand.hasRange
  | .scalar _ => false
  | .value operand => operand.hasRange
  | .array items => hasRangeAny items
  | .range _ _ => true
  | .table _ => false
  | .subselect _ => false

/-- Whether a range stands anywhere in several nodes. -/
def hasRangeAny : List Node → Bool
  | [] => false
  | node :: rest => node.hasRange || hasRangeAny rest

end

theorem hasRangeAny_eq (nodes : List Node) : hasRangeAny nodes = nodes.any hasRange := by
  induction nodes with
  | nil => rfl
  | cons node rest ih => rw [hasRangeAny, ih, List.any_cons]

variable {env : Environment} {context : Context} {hint : Option Column} {text : String}

/-- A context without ranges renders no node that has one. -/
theorem hasRange_eq_false_of_render {node : Node} (hcontext : context.admits .range = false)
    (h : node.render env context hint = .ok text) : node.hasRange = false := by
  induction node generalizing text with
  | attr a => rfl
  | expression function operand label ih =>
      rw [render] at h
      obtain ⟨-, -, h⟩ := bind_eq_ok.mp h
      obtain ⟨sql, hsql, -⟩ := bind_eq_ok.mp h
      rw [hasRange]
      exact ih hsql
  | scalar s => rfl
  | value operand ih =>
      rw [hasRange]
      -- Only a wrapped literal is written in two ways, and it has no range.
      by_cases hs : ∃ s, operand = .scalar s
      · obtain ⟨s, rfl⟩ := hs
        rfl
      · rw [render_value (not_exists.mp hs)] at h
        obtain ⟨-, -, h⟩ := bind_eq_ok.mp h
        exact ih h
  | array items ih =>
      rw [render, renderAll_eq] at h
      obtain ⟨-, -, h⟩ := bind_eq_ok.mp h
      obtain ⟨texts, htexts, -⟩ := bind_eq_ok.mp h
      rw [hasRange, hasRangeAny_eq, List.any_eq_false]
      intro item hitem
      obtain ⟨sql, hsql⟩ := exists_ok_of_mapM htexts hitem
      rw [ih item hitem hsql]
      exact Bool.false_ne_true
  | range low high _ _ =>
      have hadmits := admits_of_render h
      rw [kind, hcontext] at hadmits
      cases hadmits
  | table r => rfl
  | subselect s => rfl

/-- A range in value wrappers is written as its ends are. -/
theorem render_unwrapped_range {node low high : Node} (hrange : node.unwrapped = .range low high)
    (h : node.render env context hint = .ok text) :
    ∃ a b, low.render env context hint = .ok a ∧ high.render env context hint = .ok b
      ∧ text = a ++ " AND " ++ b := by
  induction node generalizing text with
  | value operand ih =>
      rw [unwrapped] at hrange
      -- What is wrapped here is a range, so the rule for literals is not used.
      have hs : ∀ s, operand ≠ .scalar s := by
        rintro s rfl
        cases hrange
      rw [render_value hs] at h
      obtain ⟨-, -, h⟩ := bind_eq_ok.mp h
      exact ih hrange h
  | range =>
      cases hrange
      rw [render] at h
      obtain ⟨-, -, h⟩ := bind_eq_ok.mp h
      obtain ⟨a, ha, h⟩ := bind_eq_ok.mp h
      obtain ⟨b, hb, h⟩ := bind_eq_ok.mp h
      cases h
      exact ⟨a, b, ha, hb, rfl⟩
  | _ => cases hrange

/-- What is a range after its value wrappers are removed. -/
theorem isRange_iff {node : Node} :
    node.isRange = true ↔ ∃ low high, node.unwrapped = .range low high := by
  rw [isRange]
  split
  · next low high hrange => exact ⟨fun _ => ⟨low, high, hrange⟩, fun _ => rfl⟩
  · next hother => exact ⟨fun h => absurd h Bool.false_ne_true,
      fun ⟨low, high, hrange⟩ => absurd hrange (hother low high)⟩

/-- The nodes beside which ranges have a place. -/
def TakesRange : Node → Prop
  | .attr _ | .expression _ _ _ => True
  | _ => False

/-- Beside all other nodes stands an operand like any other. -/
theorem besideContext_of_not_takesRange {node : Node} (h : ¬ node.TakesRange) :
    node.besideContext = .whereCondition := by
  cases node with
  | attr _ | expression _ _ _ => exact absurd trivial h
  | _ => rfl

end Node

namespace Operator

/-- The word of an operator that tests ranges. -/
def rangeWord? : Operator → Option String
  | .isIn => some "BETWEEN"
  | .notIn => some "NOT BETWEEN"
  | _ => none

theorem sqlFor_of_isRange {op : Operator} {right : Node} {word : String}
    (hword : op.rangeWord? = some word) (h : right.isRange = true) : op.sqlFor right = word := by
  cases op with
  | isIn | notIn =>
      cases hword
      rw [sqlFor, if_pos h]
  | _ => cases hword

/-- The words for ranges are written for ranges only. -/
theorem isRange_of_sqlFor {op : Operator} {right : Node}
    (h : op.sqlFor right ∈ ["BETWEEN", "NOT BETWEEN"]) :
    op.rangeWord? = some (op.sqlFor right) ∧ right.isRange = true := by
  cases op with
  | equal | notEqual =>
      rw [sqlFor] at h
      split at h <;> exact absurd h (by decide)
  | isIn | notIn =>
      rw [sqlFor] at h ⊢
      split at h
      · next hrange =>
        rw [if_pos hrange]
        exact ⟨rfl, hrange⟩
      · exact absurd h (by decide)
  | lessThan | lessThanOrEqual | greaterThan | greaterThanOrEqual | like =>
      rw [sqlFor] at h
      exact absurd h (by decide)

end Operator

-- ========================================================== the conditions

namespace Predicate

variable {env : Environment} {text : String}

/-- A comparison is its left side, the operator's word and its right side. -/
theorem renderWhere_binary {operator : Operator} {left right : Node}
    (h : (binary operator left right).renderWhere env = .ok text) :
    ∃ a b, left.render env .whereCondition none = .ok a
      ∧ right.render env left.besideContext left.besideHint = .ok b
      ∧ text = a ++ " " ++ operator.sqlFor right ++ " " ++ b := by
  rw [renderWhere, Node.renderBeside_eq] at h
  obtain ⟨a, ha, h⟩ := bind_eq_ok.mp h
  obtain ⟨b, hb, h⟩ := bind_eq_ok.mp h
  cases h
  exact ⟨a, b, ha, hb, rfl⟩

/-- Somewhere in the condition a range stands where none has a place: on a
left side, beside something that is neither a column nor a call, or in a
piece of SQL. -/
inductive MisplacedRange (p : Predicate) : Prop
  | left {operator : Operator} {left right : Node} (h : (binary operator left right).Occurs p)
      (hrange : left.hasRange = true) : MisplacedRange p
  | right {operator : Operator} {left right : Node} (h : (binary operator left right).Occurs p)
      (hrange : right.hasRange = true) (hleft : ¬ left.TakesRange) : MisplacedRange p
  | raw {sql : Node} (h : (Predicate.raw sql).Occurs p) (hrange : sql.hasRange = true) :
      MisplacedRange p

/-- A condition with a misplaced range is refused. -/
theorem MisplacedRange.not_renderWhere {p : Predicate} (hrange : p.MisplacedRange) :
    p.renderWhere env ≠ .ok text := by
  intro h
  cases hrange with
  | left hoccurs hrange =>
      obtain ⟨sql, hsql⟩ := hoccurs.renderWhere h
      obtain ⟨a, -, ha, -⟩ := renderWhere_binary hsql
      rw [Node.hasRange_eq_false_of_render rfl ha] at hrange
      cases hrange
  | right hoccurs hrange hleft =>
      -- The left side decides the context of the right one.
      obtain ⟨sql, hsql⟩ := hoccurs.renderWhere h
      obtain ⟨-, b, -, hb, -⟩ := renderWhere_binary hsql
      rw [Node.besideContext_of_not_takesRange hleft] at hb
      rw [Node.hasRange_eq_false_of_render rfl hb] at hrange
      cases hrange
  | raw hoccurs hrange =>
      obtain ⟨sql, hsql⟩ := hoccurs.renderWhere h
      rw [renderWhere] at hsql
      rw [Node.hasRange_eq_false_of_render rfl hsql] at hrange
      cases hrange

/-- Where a comparison has ranges, and how it is written. -/
structure RangesPlaced (env : Environment) (operator : Operator) (left right : Node) : Prop where
  not_left : left.hasRange = false
  beside : right.hasRange = true → left.TakesRange
  /-- The operator's word for ranges, between the left side and the two ends. -/
  tested : ∀ low high word, right.unwrapped = .range low high →
    operator.rangeWord? = some word → ∃ a b c,
      left.render env .whereCondition none = .ok a
        ∧ low.render env left.besideContext left.besideHint = .ok b
        ∧ high.render env left.besideContext left.besideHint = .ok c
        ∧ (binary operator left right).renderWhere env
          = .ok (a ++ " " ++ word ++ " " ++ (b ++ " AND " ++ c))
  /-- A word for ranges is written for nothing else. -/
  only : operator.sqlFor right ∈ ["BETWEEN", "NOT BETWEEN"] →
    operator.rangeWord? = some (operator.sqlFor right)
      ∧ ∃ low high, right.unwrapped = .range low high

theorem rangesPlaced_of_renderWhere {operator : Operator} {left right : Node}
    (h : (binary operator left right).renderWhere env = .ok text) :
    RangesPlaced env operator left right where
  not_left := by
    obtain ⟨a, -, ha, -⟩ := renderWhere_binary h
    exact Node.hasRange_eq_false_of_render rfl ha
  beside hrange := by
    by_contra hleft
    exact MisplacedRange.not_renderWhere (.right .self hrange hleft) h
  tested low high word hrange hword := by
    obtain ⟨a, sql, ha, hsql, rfl⟩ := renderWhere_binary h
    obtain ⟨b, c, hb, hc, rfl⟩ := Node.render_unwrapped_range hrange hsql
    rw [Operator.sqlFor_of_isRange hword (Node.isRange_iff.mpr ⟨low, high, hrange⟩)] at h
    exact ⟨a, b, c, ha, hb, hc, h⟩
  only hword := by
    obtain ⟨hoperator, hrange⟩ := Operator.isRange_of_sqlFor hword
    exact ⟨hoperator, Node.isRange_iff.mp hrange⟩

-- ============================================================ the theorems

/-- In a condition that is rendered every range stands on the right side of a
comparison with a column or a call. Where it is the whole right side of IN
or NOT IN, the comparison is written with BETWEEN or NOT BETWEEN and the two
ends of the range, and these words are written for no other right side. A
condition with a range in another place is refused. -/
theorem ranges_beside_columns_and_calls (env : Environment) (p : Predicate) :
    (∀ text, p.render env .whereClause = .ok text →
        (∀ operator left right, (binary operator left right).Occurs p →
            RangesPlaced env operator left right)
          ∧ ∀ sql, (raw sql).Occurs p → sql.hasRange = false)
      ∧ (p.MisplacedRange → ∃ e, p.render env .whereClause = .error e) := by
  refine ⟨fun text h => ?rendered, fun hrange => ?refused⟩
  case rendered =>
    obtain ⟨-, -, h⟩ := bind_eq_ok.mp h
    refine ⟨fun operator left right hoccurs => ?_, fun sql hoccurs => ?_⟩
    · obtain ⟨sql, hsql⟩ := hoccurs.renderWhere h
      exact rangesPlaced_of_renderWhere hsql
    · obtain ⟨text, htext⟩ := hoccurs.renderWhere h
      rw [renderWhere] at htext
      exact Node.hasRange_eq_false_of_render rfl htext
  case refused =>
    cases h : p.render env .whereClause with
    | error e => exact ⟨e, rfl⟩
    | ok text =>
        obtain ⟨-, -, h⟩ := bind_eq_ok.mp h
        exact absurd h hrange.not_renderWhere

/-- A column of a table. -/
private def age : Node :=
  .attr { name := "age", relation := { name := "u" } }

private def number (n : Int64) : Node :=
  .literal (.int n)

/-- A range in a value wrapper is tested with NOT BETWEEN, and one on the left
is refused. -/
theorem ranges_beside_columns_and_calls_negated :
    ∃ env : Environment,
      (binary .notIn age (.value (.range (number 1) (number 2)))).render env .whereClause
          = .ok "\"u\".\"age\" NOT BETWEEN 1 AND 2"
        ∧ RangesPlaced env .notIn age (.value (.range (number 1) (number 2)))
        ∧ ∃ e, (binary .isIn (.range (number 1) (number 2)) age).render env .whereClause
          = .error e := by
  have h : (binary .notIn age (.value (.range (number 1) (number 2)))).render
      ((Environment.ofConfig {}).christen [{ name := "u" }]) .whereClause
      = .ok "\"u\".\"age\" NOT BETWEEN 1 AND 2" := by
    decide +kernel
  obtain ⟨hplaced, -⟩ := ranges_beside_columns_and_calls
    ((Environment.ofConfig {}).christen [{ name := "u" }])
    (binary .notIn age (.value (.range (number 1) (number 2))))
  obtain ⟨-, hrefused⟩ := ranges_beside_columns_and_calls
    ((Environment.ofConfig {}).christen [{ name := "u" }])
    (binary .isIn (.range (number 1) (number 2)) age)
  exact ⟨_, h, (hplaced _ h).1 _ _ _ .self, hrefused (.left .self rfl)⟩

/-- Every range is the whole right side of a comparison that is written with
BETWEEN or NOT BETWEEN. -/
def RangesTested (p : Predicate) : Prop :=
  ∀ operator left right, (binary operator left right).Occurs p →
    left.hasRange = false
      ∧ (right.hasRange = true →
          ∃ low high, right.unwrapped = .range low high ∧ low.hasRange = false
            ∧ high.hasRange = false ∧ operator.sqlFor right ∈ ["BETWEEN", "NOT BETWEEN"])

/-- Beside a column or a call a range is written whether it is tested or not:
beside another operator, as a member of a list, as an end of a range, and
inside of a call. -/
theorem ranges_not_only_under_between :
    ∃ env : Environment,
      ((binary .equal age (.range (number 10) (number 20))).render env .whereClause
          = .ok "\"u\".\"age\" = 10 AND 20"
        ∧ ¬ (binary .equal age (.range (number 10) (number 20))).RangesTested)
      ∧ ((binary .isIn age (.array [.range (number 10) (number 20)])).render env .whereClause
          = .ok "\"u\".\"age\" IN (10 AND 20)"
        ∧ ¬ (binary .isIn age (.array [.range (number 10) (number 20)])).RangesTested)
      ∧ ((binary .isIn age (.range (number 1) (.range (number 10) (number 20)))).render env
            .whereClause = .ok "\"u\".\"age\" BETWEEN 1 AND 10 AND 20"
        ∧ ¬ (binary .isIn age (.range (number 1) (.range (number 10) (number 20)))).RangesTested)
      ∧ ((binary .lessThan (.expression "ABS" age none)
            (.expression "ABS" (.range (number 10) (number 20)) none)).render env .whereClause
          = .ok "ABS(\"u\".\"age\") < ABS(10 AND 20)"
        ∧ ¬ (binary .lessThan (.expression "ABS" age none)
            (.expression "ABS" (.range (number 10) (number 20)) none)).RangesTested) := by
  refine ⟨(Environment.ofConfig {}).christen [{ name := "u" }], ⟨by decide +kernel, ?operator⟩,
    ⟨by decide +kernel, ?member⟩, ⟨by decide +kernel, ?bound⟩, ⟨by decide +kernel, ?argument⟩⟩
  case operator =>
    intro h
    obtain ⟨-, -, -, -, -, hword⟩ := (h _ _ _ .self).2 rfl
    exact absurd hword (by decide)
  case member =>
    intro h
    obtain ⟨_, _, hrange, -⟩ := (h _ _ _ .self).2 rfl
    cases hrange
  case bound =>
    intro h
    obtain ⟨_, _, hrange, -, hhigh, -⟩ := (h _ _ _ .self).2 rfl
    cases hrange
    cases hhigh
  case argument =>
    intro h
    obtain ⟨_, _, hrange, -⟩ := (h _ _ _ .self).2 rfl
    cases hrange

end Predicate
end QueryText
