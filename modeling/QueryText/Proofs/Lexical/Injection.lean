/-
What a quoted text cannot do. Let two statements differ only in strings that
are quoted, that is in operands with no numeric column, and in the names of
result columns (`quotedTexts`). Then the reader finds the same tokens in
both queries but for what the quotes enclose, or both fail in the same way
(`Statement.sameShape_of_varies`): whatever the strings and names are, they
change nothing around them.

The pieces of SQL that go into the query as they are have to be closed. That
is all that is asked of them, for each piece is followed by a character that
is no quote. A quote that ends a text is therefore never taken for the first
half of a doubled one.
-/
import QueryText.Proofs.Lexical.Value
import QueryText.Proofs.Rendering.Simulation
import QueryText.Proofs.Naming.Session

namespace QueryText

open Lexical

-- ========================================================== the variation

/-- Only quoted texts vary: strings in operands with no numeric column, and
the names of result columns. -/
def quotedTexts : Variation where
  label _ l m := l.isSome = m.isSome
  scalar context hint s t :=
    t = s ∨ context.admits .scalar = true
      ∧ (∀ c ∈ s.hint context hint, c.logicalType.isNumeric = false)
      ∧ ∃ x y, s.value = .string x ∧ t = { s with value := .string y }

/-- Two closed texts with the same tokens, but for what quotes enclose. -/
def SameShape (q : Quoter) (a b : String) : Prop :=
  ∃ ta tb, q.Reads a ta ∧ q.Reads b tb ∧ ta.map Token.shape = tb.map Token.shape

namespace SameShape

variable {q : Quoter} {a b c d : String}

/-- A closed text has the shape of itself. -/
theorem refl (h : q.Closed a) : SameShape q a a := by
  obtain ⟨tokens, htokens⟩ := h
  exact ⟨tokens, tokens, htokens, htokens, rfl⟩

theorem identifier (q : Quoter) (l m : String) :
    SameShape q (q.identifier l) (q.identifier m) :=
  ⟨_, _, q.reads_identifier l, q.reads_identifier m, rfl⟩

theorem string (q : Quoter) (x y : String) : SameShape q (q.string x) (q.string y) :=
  ⟨_, _, q.reads_string x, q.reads_string y, rfl⟩

/-- Plain text between closed texts keeps them apart. -/
theorem append {sep : String} (hab : SameShape q a b) (hcd : SameShape q c d)
    (hsep : Quoter.Plain sep) (hne : sep ≠ "") :
    SameShape q (a ++ sep ++ c) (b ++ sep ++ d) := by
  obtain ⟨ta, tb, ha, hb, htatb⟩ := hab
  obtain ⟨tc, td, hc, hd, htctd⟩ := hcd
  refine ⟨_, _, ha.append hc hsep hne, hb.append hd hsep hne, ?_⟩
  simp only [List.map_append, htatb, htctd]

/-- Shapes are put together as texts are. -/
theorem composes (q : Quoter) : Composes (SameShape q) where
  empty := refl ⟨[], q.reads_empty⟩
  joined hab hcd hsep := hab.append hcd (fun c hc => (hsep.2 c hc).1) hsep.1
  called hf ha := by
    obtain ⟨tf, tf', hf, hf', htf⟩ := hf
    obtain ⟨ta, ta', ha, ha', hta⟩ := ha
    refine ⟨_, _, hf.called ha, hf'.called ha', ?_⟩
    simp only [List.map_append, List.map_cons, htf, hta]

end SameShape

-- ============================================================ the pieces

/-- A string without a numeric column is quoted. -/
theorem Quoter.value_string (q : Quoter) {column : Option Column} (text : String)
    (h : ∀ c ∈ column, c.logicalType.isNumeric = false) :
    q.value (.string text) column = .ok (q.string text) := by
  cases column with
  | none => rfl
  | some c => simp [value, h c rfl]

/-- Where values pass through as they are, no literal is quoted. -/
theorem Context.admits_scalar_eq_false {context : Context} (h : context.passesValues = true) :
    context.admits .scalar = false := by
  cases context with
  | selectList | whereClause | order | group => rfl
  | whereCondition | attributeOperand | tableReference | selectStatement => cases h

/-- A literal is written as closed text. -/
theorem Scalar.render_closed {env : Environment} {context : Context} {hint : Option Column}
    {s : Scalar} {sql : String} (h : s.render env context hint = .ok sql) :
    env.quoter.Closed sql := by
  obtain ⟨-, -, hvalue⟩ := bind_eq_ok.mp h
  split at hvalue
  · next hquoted =>
    cases hvalue
    exact Quoter.value_closed hquoted
  · cases hvalue

/-- Literals that vary are quoted alike. -/
theorem Scalar.render_sameShape (env : Environment) {context : Context} {hint : Option Column}
    {s t : Scalar} (h : quotedTexts.scalar context hint s t) :
    Agree (SameShape env.quoter) (s.render env context hint) (t.render env context hint) := by
  rcases h with rfl | ⟨hcontext, hcolumn, x, y, hs, rfl⟩
  · exact Agree.refl fun sql hsql => .refl (Scalar.render_closed hsql)
  · have hquoted : ∀ text, ({ s with value := .string text } : Scalar).render env context hint
        = .ok (env.quoter.string text) := by
      intro text
      have hvalue : env.quoter.value (.string text)
          (Scalar.hint context hint { s with value := .string text })
          = .ok (env.quoter.string text) := env.quoter.value_string text hcolumn
      rw [Scalar.render, Context.demand, if_pos hcontext, hvalue]
      rfl
    have hself : s = { s with value := .string x } := by rw [← hs]
    rw [hself, hquoted x]
    rw [hquoted y]
    exact Agree.ok (.string _ x y)

/-- All pieces of two queries that vary in quoted texts have the same
shape. -/
theorem quotedTexts_simulates (env : Environment) :
    Simulates quotedTexts (SameShape env.quoter) env env where
  toComposes := SameShape.composes env.quoter
  identifier name := .identifier _ name name
  label {context l m} h {a b} hab := by
    cases l with
    | none =>
        cases m with
        | none => simpa [Environment.aliasSuffix] using hab
        | some _ => cases h
    | some l =>
        cases m with
        | none => cases h
        | some m => exact (SameShape.composes env.quoter).labelled context hab (.identifier _ l m)
  scalar h := Scalar.render_sameShape env h
  bare {context hint s t} h hpasses := by
    rcases h with rfl | ⟨hcontext, -⟩
    · rfl
    · rw [Context.admits_scalar_eq_false hpasses] at hcontext
      cases hcontext
  isNull h := by
    rcases h with rfl | ⟨-, -, x, y, hs, rfl⟩
    · rfl
    · rw [hs]
      rfl

-- ========================================================== the statements

namespace Statement

/-- Statements that vary in quoted texts are named alike. -/
theorem performAll_of_varies (env : Environment) {v : Variation} {s t : Statement}
    (h : s.Varies v t) :
    env.performAll [.statement t] = env.performAll [.statement s] := by
  have hrelations : (Christening.statement t).relations = (Christening.statement s).relations :=
    h.relations_eq
  simp only [Environment.performAll, Naming.performAll, List.foldl_cons, List.foldl_nil,
    Naming.perform, hrelations]

/-- Statements that vary in quoted texts only, each rendered after its
relations were named: either both fail in the same way, or the two queries
are the same when placeholders take the place of all quoted texts. -/
theorem sameShape_of_varies (env : Environment) {s t : Statement} (h : s.Varies quotedTexts t)
    (hclosed : ∀ f ∈ s.fragments (env.performAll [.statement s]), env.quoter.Closed f) :
    Agree (SameShape env.quoter) (s.render (env.performAll [.statement s]))
      (t.render (env.performAll [.statement t])) := by
  rw [performAll_of_varies env h]
  have hsim := quotedTexts_simulates (env.performAll [.statement s])
  exact render_simulates hsim h (fun _ _ => rfl) fun f hf => .refl (hclosed f hf)

/-- A query with a string in a condition and a name for its column. -/
private def countNamed (label text : String) : Statement where
  projections := [.expression "COUNT" (.attr { name := "id", relation := { name := "u" } }) label]
  source := .table { name := "u" }
  conditions :=
    [.binary .equal (.attr { name := "name", relation := { name := "u" } })
      (.literal (.string text)), .sql "gone = 'no'"]

/-- A string that tries to end its quotes, by a quote and by a backslash,
and a name that tries the same. -/
theorem sameShape_of_varies_escaping :
    ∃ (env : Environment) (a b : String),
      (countNamed "n" "x").render (env.performAll [.statement (countNamed "n" "x")]) = .ok a
        ∧ (countNamed "\x60, 'n" "\\' OR ''='").render
            (env.performAll [.statement (countNamed "\x60, 'n" "\\' OR ''='")]) = .ok b
        ∧ a = "SELECT COUNT(`u`.`id`) AS `n` FROM `u` WHERE `u`.`name` = 'x' AND gone = 'no'"
        ∧ b = "SELECT COUNT(`u`.`id`) AS ```, 'n` FROM `u` "
            ++ "WHERE `u`.`name` = '\\\\'' OR ''''=''' AND gone = 'no'"
        ∧ SameShape env.quoter a b := by
  have hvaries : (countNamed "n" "x").Varies quotedTexts (countNamed "\x60, 'n" "\\' OR ''='") :=
    { projections := .cons (.expression (.attr ⟨rfl, rfl, rfl, rfl⟩) rfl) .nil
      source := .table _
      joins := .nil
      conditions := .cons
        (.binary (.attr ⟨rfl, rfl, rfl, rfl⟩) (.scalar (.inr ⟨rfl, by decide, _, _, rfl, rfl⟩)))
        (.cons (.raw (.value (.scalar (.inl rfl)))) .nil)
      groups := .nil
      orders := .nil
      limit := rfl
      offset := rfl }
  have hclosed : ∀ f ∈ ["COUNT", "gone = 'no'"], (Quoter.ofDialect .mysql).Closed f := by
    decide +kernel
  have hagree := sameShape_of_varies ⟨.ofDialect .mysql, .empty {}⟩ hvaries hclosed
  refine ⟨⟨.ofDialect .mysql, .empty {}⟩, _, _, ?_, ?_, rfl, rfl, hagree⟩
  · decide +kernel
  · decide +kernel

end Statement
end QueryText
