/-
Comparisons with null. The operator of a comparison looks at the tree of its
right operand, and the operand's text comes from the renderer. They agree: the
text is the word NULL exactly when the tree is null, however wrapped
(`Node.render_eq_null_iff`). So IS and IS NOT stand in front of that word
alone, and `=` and `!=` never do (`null_compared_with_is`).

Every other text has something that the word has not. A literal is a truth
value, a number or a quoted text; a column has a point, and a column name that
is written as it stands is no simple identifier, which the word is; and all
that is put together has a blank or a bracket in it.
-/
import QueryText.Proofs.Condition.Ranges
import QueryText.Proofs.Quoting.Token
import QueryText.Proofs.Rendering.Wrapper

namespace QueryText

/-- A text with a character that the word has not. -/
theorem ne_null_of_mem {text : String} {c : Char} (hc : c ∈ text.toList)
    (hword : c ∉ "NULL".toList) : text ≠ "NULL" := by
  rintro rfl
  exact hword hc

-- =============================================================== literals

/-- A literal that is written as the word is null. -/
theorem Quoter.eq_null_of_value {q : Quoter} {literal : Literal} {column : Option Column}
    (h : q.value literal column = .ok "NULL") : literal = .null := by
  have hagree : Agree (fun out _ => out = "NULL" → literal = .null) (q.value literal column)
      (q.value literal column) := by
    refine value_agree_of_tokens rfl column (fun hnull _ => hnull) ?boolean ?number ?quoted
    case boolean =>
      intro b style _ hword
      have hne : style.write b ≠ "NULL" := by
        cases style <;> cases b <;> decide
      exact absurd hword hne
    case number =>
      rintro _ hnumeral rfl
      exact absurd hnumeral (Text.not_isNumeral_of_read (by decide))
    case quoted =>
      intro hword
      have hquote : '\'' ∈ (q.string literal.bare).toList := by
        simp [Quoter.string, Quoted.enclose]
      exact absurd hword (ne_null_of_mem hquote (by decide))
  rw [h] at hagree
  exact hagree rfl

-- ================================================================= columns

variable {env : Environment} {context : Context} {hint : Option Column} {text : String}

theorem Attribute.qualified_ne_null {a : Attribute} (h : a.qualified env context = .ok text) :
    text ≠ "NULL" := by
  rw [qualified] at h
  split at h
  · obtain ⟨relation, -, h⟩ := bind_eq_ok.mp h
    cases h
    have hpoint : '.' ∈ (env.identifier relation ++ "." ++ env.identifier a.name).toList := by
      simp
    exact ne_null_of_mem hpoint (by decide)
  · next hsimple =>
    -- What is written as it stands is no simple identifier.
    cases h
    rintro hword
    rw [hword] at hsimple
    exact hsimple (by decide)

-- =================================================================== nodes

theorem Literal.eq_null_of_isNull {literal : Literal} (h : literal.isNull = true) :
    literal = .null := by
  cases literal with
  | null => rfl
  | _ => cases h

/-- A literal that is not null is not written as the word. -/
theorem Scalar.ne_null_of_render {s : Scalar} (hnull : s.value.isNull = false)
    (h : s.render env context hint = .ok text) : text ≠ "NULL" := by
  rw [render] at h
  obtain ⟨-, -, h⟩ := bind_eq_ok.mp h
  split at h
  · next sql hvalue =>
    cases h
    rintro rfl
    rw [Quoter.eq_null_of_value hvalue] at hnull
    cases hnull
  · cases h

/-- An inner query on a side of a comparison stands in brackets. -/
theorem Subselect.ne_null_of_render {s : Subselect} (hside : context.isSide = true)
    (h : s.render env context = .ok text) : text ≠ "NULL" := by
  have htext : text = "(" ++ s.sql ++ ")" := by
    cases context with
    | whereCondition | attributeOperand =>
        cases h
        rfl
    | _ => cases hside
  have hbracket : '(' ∈ text.toList := by simp [htext]
  exact ne_null_of_mem hbracket (by decide)

namespace Node

/-- Null is written as the word, in any wrappers. -/
theorem render_of_isNull (hside : context.isSide = true) {node : Node}
    (hnull : node.isNull = true) : node.render env context hint = .ok "NULL" := by
  induction node with
  | scalar s =>
      have hadmits : context.admits .scalar = true := by
        revert hside
        cases context <;> decide
      have hvalue : s.value = .null := Literal.eq_null_of_isNull hnull
      rw [render, Scalar.render, Context.demand, if_pos hadmits, hvalue]
      rfl
  | value operand ih =>
      rw [render_value_of_isSide hside]
      exact ih hnull
  | _ => cases hnull

/-- Nothing else is written as the word. -/
theorem ne_null_of_render (hside : context.isSide = true) {node : Node}
    (hnull : node.isNull = false) (h : node.render env context hint = .ok text) :
    text ≠ "NULL" := by
  induction node with
  | attr a =>
      obtain ⟨-, -, h⟩ := bind_eq_ok.mp h
      obtain ⟨sql, hsql, h⟩ := bind_eq_ok.mp h
      rw [Environment.aliasSuffix_of_isSide hside, String.append_empty] at h
      cases h
      exact Attribute.qualified_ne_null hsql
  | expression function operand label _ =>
      rw [render] at h
      obtain ⟨-, -, h⟩ := bind_eq_ok.mp h
      obtain ⟨sql, -, h⟩ := bind_eq_ok.mp h
      rw [Environment.aliasSuffix_of_isSide hside, String.append_empty, applied] at h
      cases h
      split
      · have hblank : ' ' ∈ (function ++ " " ++ sql).toList := by simp
        exact ne_null_of_mem hblank (by decide)
      · have hbracket : '(' ∈ (function ++ "(" ++ sql ++ ")").toList := by simp
        exact ne_null_of_mem hbracket (by decide)
  | scalar s => exact Scalar.ne_null_of_render hnull h
  | value operand ih =>
      rw [render_value_of_isSide hside] at h
      exact ih hnull h
  | array items _ =>
      rw [render] at h
      obtain ⟨-, -, h⟩ := bind_eq_ok.mp h
      obtain ⟨parts, -, h⟩ := bind_eq_ok.mp h
      cases h
      have hbracket : '(' ∈ ("(" ++ ", ".intercalate parts ++ ")").toList := by simp
      exact ne_null_of_mem hbracket (by decide)
  | range low high _ _ =>
      rw [render] at h
      obtain ⟨-, -, h⟩ := bind_eq_ok.mp h
      obtain ⟨a, -, h⟩ := bind_eq_ok.mp h
      obtain ⟨b, -, h⟩ := bind_eq_ok.mp h
      cases h
      have hblank : ' ' ∈ (a ++ " AND " ++ b).toList := by simp
      exact ne_null_of_mem hblank (by decide)
  | table r =>
      -- Tables have no place on a side of a comparison.
      have hadmits : context.admits .table = true := admits_of_render h
      cases context with
      | whereCondition | attributeOperand => cases hadmits
      | _ => cases hside
  | subselect s => exact Subselect.ne_null_of_render hside h

theorem render_eq_null_iff (hside : context.isSide = true) {node : Node}
    (h : node.render env context hint = .ok text) : text = "NULL" ↔ node.isNull = true := by
  cases hnull : node.isNull with
  | true =>
      rw [render_of_isNull hside hnull] at h
      cases h
      exact iff_of_true rfl rfl
  | false => exact iff_of_false (ne_null_of_render hside hnull h) Bool.false_ne_true

/-- A node is null when it is the null literal in some number of wrappers. -/
theorem isNull_iff_wrapped {node : Node} :
    node.isNull = true ↔ ∃ n column, node = wrapped n (.scalar ⟨.null, column⟩) := by
  constructor
  · intro h
    obtain ⟨n, hn⟩ := node.exists_wrapped_unwrapped
    rw [isNull] at h
    split at h
    · next s hs =>
      obtain ⟨literal, column⟩ := s
      obtain rfl := Literal.eq_null_of_isNull h
      exact ⟨n, column, hs ▸ hn⟩
    · cases h
  · rintro ⟨n, column, rfl⟩
    rw [isNull, unwrapped_wrapped]
    rfl

end Node

-- =============================================================== operators

namespace Operator

/-- The words for null are written for null only. -/
theorem isNull_of_sqlFor {op : Operator} {right : Node} (h : op.sqlFor right ∈ ["IS", "IS NOT"]) :
    right.isNull = true := by
  cases op with
  | equal | notEqual =>
      rw [sqlFor] at h
      split at h
      · next hnull => exact hnull
      · exact absurd h (by decide)
  | isIn | notIn =>
      rw [sqlFor] at h
      split at h <;> exact absurd h (by decide)
  | lessThan | lessThanOrEqual | greaterThan | greaterThanOrEqual | like =>
      rw [sqlFor] at h
      exact absurd h (by decide)

end Operator

-- ============================================================== the theorem

/-- In a comparison that is rendered the right operand is the word NULL exactly
when it is the null literal, in any number of value wrappers. So equality with
null is written with IS or IS NOT, with `=` and `!=` it never is, and IS and IS
NOT stand before that word only. -/
theorem null_compared_with_is {env : Environment} {context : Context} {op : Operator}
    {left right : Node} {text : String}
    (h : (Predicate.binary op left right).render env context = .ok text) :
    ∃ a b, left.render env .whereCondition none = .ok a ∧ left.renderBeside env right = .ok b
      ∧ text = a ++ " " ++ op.sqlFor right ++ " " ++ b
      ∧ (b = "NULL" ↔ ∃ n column, right = Node.wrapped n (.scalar ⟨.null, column⟩))
      ∧ (op = .equal → op.sqlFor right = if b = "NULL" then "IS" else "=")
      ∧ (op = .notEqual → op.sqlFor right = if b = "NULL" then "IS NOT" else "!=")
      ∧ (op.sqlFor right ∈ ["IS", "IS NOT"] → b = "NULL") := by
  obtain ⟨-, -, h⟩ := bind_eq_ok.mp h
  obtain ⟨a, b, ha, hb, htext⟩ := Predicate.renderWhere_binary h
  have hword : b = "NULL" ↔ right.isNull = true :=
    Node.render_eq_null_iff left.isSide_besideContext hb
  rw [← Node.renderBeside_eq] at hb
  refine ⟨a, b, ha, hb, htext, hword.trans Node.isNull_iff_wrapped, ?equal, ?notEqual,
    fun hsql => hword.mpr (Operator.isNull_of_sqlFor hsql)⟩
  case equal =>
    rintro rfl
    simp only [Operator.sqlFor, hword]
  case notEqual =>
    rintro rfl
    simp only [Operator.sqlFor, hword]

/-- A column that may be null. -/
private def nickname : Node :=
  .attr { name := "nick", relation := { name := "u" } }

/-- Null in two wrappers, meant for a number, is compared with IS NOT, and text
that spells the word is not. -/
theorem null_compared_with_is_wrapped :
    ∃ (env : Environment) (a b c d : String),
      (Predicate.binary .notEqual nickname
          (.value (.value (.scalar ⟨.null, some ⟨"age", .int⟩⟩)))).render env .whereClause
          = .ok "\"u\".\"nick\" IS NOT NULL"
        ∧ "\"u\".\"nick\" IS NOT NULL" = a ++ " " ++ "IS NOT" ++ " " ++ b ∧ b = "NULL"
        ∧ (Predicate.binary .notEqual nickname (.literal (.string "NULL"))).render env .whereClause
          = .ok "\"u\".\"nick\" != 'NULL'"
        ∧ "\"u\".\"nick\" != 'NULL'" = c ++ " " ++ "!=" ++ " " ++ d ∧ d ≠ "NULL" := by
  have hnull : (Predicate.binary .notEqual nickname
      (.value (.value (.scalar ⟨.null, some ⟨"age", .int⟩⟩)))).render
      ((Environment.ofConfig {}).christen [{ name := "u" }]) .whereClause
      = .ok "\"u\".\"nick\" IS NOT NULL" := by
    decide +kernel
  have hspelled : (Predicate.binary .notEqual nickname (.literal (.string "NULL"))).render
      ((Environment.ofConfig {}).christen [{ name := "u" }]) .whereClause
      = .ok "\"u\".\"nick\" != 'NULL'" := by
    decide +kernel
  obtain ⟨a, b, -, -, htext, hb, -⟩ := null_compared_with_is hnull
  obtain ⟨c, d, -, -, htext', hd, -⟩ := null_compared_with_is hspelled
  refine ⟨_, a, b, c, d, hnull, htext, hb.mpr ⟨2, _, rfl⟩, hspelled, htext', fun hword => ?_⟩
  exact absurd (Node.isNull_iff_wrapped.mpr (hd.mp hword)) (by decide)

end QueryText
