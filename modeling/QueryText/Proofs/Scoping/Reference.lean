/-
A column is known by its text. In a sort order, a group, a comparison and,
when it gets no name of its own, in a select list a column is written as its
quoted relation, a point and its quoted name (`Attribute.render_alone`). The
reader finds these two identifiers again, whatever characters they hold, and
the display name that it finds belongs to one relation only. So two texts
are the same when the columns are (`column_identified`), in the same clause
or in different ones.
-/
import QueryText.Proofs.Scoping.Entries

namespace QueryText

variable {env : Environment} {context : Context} {hint : Option Column} {a b : Attribute}

/-- A column is read as two identifiers around a point. -/
theorem Environment.reads_column (env : Environment) (a : Attribute) :
    env.quoter.Reads (env.column a)
      [.quoted .identifier (env.displayName a.relation).toList, .plain '.',
        .quoted .identifier a.name.toList] :=
  (env.quoter.reads_identifier _).append (env.quoter.reads_identifier _)
    (show Quoter.Plain "." by decide) (by decide)

theorem Environment.column_inj :
    env.column a = env.column b
      ↔ env.displayName a.relation = env.displayName b.relation ∧ a.name = b.name := by
  constructor
  · intro h
    have ha := env.reads_column a
    have hb := env.reads_column b
    rw [h, Quoter.Reads, hb] at ha
    have hparts : env.displayName b.relation = env.displayName a.relation ∧ b.name = a.name := by
      simpa [String.toList_inj] using ha
    exact ⟨hparts.1.symm, hparts.2.symm⟩
  · rintro ⟨hrelation, hname⟩
    rw [column, column, qualifier, qualifier, hrelation, hname]

/-- The places in which a column is written without more. -/
def Attribute.StandsAlone (a : Attribute) (context : Context) : Prop :=
  context ∈ [.order, .group, .whereCondition, .attributeOperand]
    ∨ context = .selectList ∧ a.label = none

/-- Where it stands alone, a column is its qualifier and its name. -/
theorem Attribute.render_alone (hsimple : Identifier.isSimple a.name = true)
    (hname : (env.nameOf? a.relation).isSome) (h : a.StandsAlone context) :
    a.render env context = .ok (env.column a) := by
  have hadmits : context.admits .attr = true := by
    rcases h with h | ⟨rfl, -⟩
    · revert h
      cases context <;> decide
    · rfl
  have hsuffix : env.aliasSuffix context a.label = "" := by
    rcases h with h | ⟨rfl, hlabel⟩
    · have hcontext : context.allowsAlias = false := by
        revert h
        cases context <;> decide
      cases a.label with
      | none => rfl
      | some label => simp [Environment.aliasSuffix, hcontext]
    · rw [hlabel]
      rfl
  rw [render, Context.demand, if_pos hadmits, qualified, if_pos hsimple, Environment.resolve,
    Environment.nameOf?_displayName hname, hsuffix]
  exact congrArg Except.ok String.append_empty

/-- In every session: two columns with simple names, on relations that have
names, are written alike in any two places where they stand alone exactly
when they are the same column of the same relation. -/
theorem column_identified (hnames : env.naming.Reachable) {a b : Attribute}
    (ha : Identifier.isSimple a.name = true) (hb : Identifier.isSimple b.name = true)
    (hcovers : env.naming.Covers [a.relation, b.relation]) {context context' : Context}
    (hcontext : a.StandsAlone context) (hcontext' : b.StandsAlone context')
    (hint hint' : Option Column) :
    ∃ text text', (Node.attr a).render env context hint = .ok text
      ∧ (Node.attr b).render env context' hint' = .ok text'
      ∧ (text = text' ↔ a.relation = b.relation ∧ a.name = b.name) := by
  have haname : (env.nameOf? a.relation).isSome := hcovers _ (by simp)
  have hbname : (env.nameOf? b.relation).isSome := hcovers _ (by simp)
  refine ⟨_, _, Attribute.render_alone ha haname hcontext,
    Attribute.render_alone hb hbname hcontext', Environment.column_inj.trans ?_⟩
  -- the text tells a display name, and a display name is given to one relation only
  refine and_congr_left fun _ => ⟨fun hdisplay => ?_, fun hrelation => by rw [hrelation]⟩
  have hbdisplay := Environment.nameOf?_displayName hbname
  rw [← hdisplay] at hbdisplay
  exact hnames.consistent.injective _ _ _ (Environment.nameOf?_displayName haname) hbdisplay

/-- A column of a table under a name that looks like a qualified one. -/
private def labelled : Attribute :=
  { name := "id", relation := { name := "t", label := "a\".\"b" } }

/-- A column of a table that has this name. -/
private def named : Attribute :=
  { name := "id", relation := { name := "a\".\"b" } }

/-- Quotes and points in names do not make one column pass for another. -/
theorem column_identified_quoted_point :
    ∃ (env : Environment) (text text' : String),
      (Node.attr labelled).render env .order none = .ok text
        ∧ (Node.attr named).render env .selectList none = .ok text'
        ∧ env.naming.given.map Prod.snd = ["a\".\"b", "a\".\"b_2"]
        ∧ text ≠ text' := by
  have hnames : ((Environment.ofConfig {}).performAll
      [.node (.attr labelled), .node (.attr named)]).naming.Reachable :=
    .perform _ (.perform _ (.empty _))
  have hcovers : ((Environment.ofConfig {}).performAll
      [.node (.attr labelled), .node (.attr named)]).naming.Covers
        [labelled.relation, named.relation] :=
    Naming.covers_christenAll (.empty {}) [labelled.relation, named.relation]
  have horder : labelled.StandsAlone .order := .inl (by decide)
  have hselected : named.StandsAlone .selectList := .inr ⟨rfl, rfl⟩
  obtain ⟨text, text', htext, htext', hiff⟩ :=
    column_identified hnames rfl rfl hcovers horder hselected none none
  refine ⟨_, text, text', htext, htext', by decide +kernel, fun h => ?_⟩
  obtain ⟨hrelation, -⟩ := hiff.mp h
  exact absurd hrelation (by decide)

end QueryText
