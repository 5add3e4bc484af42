/-
Documents as texts: what is written for a value is read as that value.

Three layers meet here. The text of a document gives the document back, when
the document is exact and not nested deeper than the reader goes; the
documents of values are exact, as long as no binary64 number occurs in them;
and the document of a value is read as the value, with the fields that were
left out. What does not come back as it was is a leap second in the middle of
a minute, whose text is that of the next second. So a value comes back as the
settled one, which is the value itself unless such a time is in it.
-/
import QueryText.Proofs.Document.Trees

namespace QueryText

/-- A value comes back from the text of its document. -/
theorem Json.Exact.read_bind {α : Type} {j : Json} {read : Json → Option α} {a : α}
    (h : j.Exact) (hdepth : j.depth < nestingLimit) (hread : read j = some a) :
    (Json.read j.print).bind read = some a := by
  rw [h.read_print hdepth, Option.bind_some, hread]

/-- A literal comes back from its text, settled. -/
theorem Literal.read_print {l : Literal} (h : l.FloatFree) :
    (Json.read l.toJson.print).bind (ofJson? false) = some l.settled := by
  have hlimit : 1 < Json.nestingLimit := by decide
  have hdepth := l.depth_toJson_le
  exact (toJson_exact h).read_bind (by omega) (l.ofJson?_toJson false)

/-- Every value without binary64 numbers is read back from the text that is
written for it, settled, with all of its fields: trees and conditions and
statements of any shape whose documents are not too deep, and every relation,
literal, column, configuration and diagnostic. It is the value that was written
exactly when each of its literals is settled. -/
theorem documents_read_back :
    (∀ node : Node, node.Every Literal.FloatFree → node.toJson.depth < Json.nestingLimit →
      (Json.read node.toJson.print).bind (Node.ofJson? false) = some node.settled ∧
      (node.settled = node ↔ node.Every Literal.IsSettled)) ∧
    (∀ p : Predicate, p.Every Literal.FloatFree → p.toJson.depth < Json.nestingLimit →
      (Json.read p.toJson.print).bind (Predicate.ofJson? false) = some p.settled ∧
      (p.settled = p ↔ p.Every Literal.IsSettled)) ∧
    (∀ s : Statement, s.Every Literal.FloatFree → s.toJson.depth < Json.nestingLimit →
      (Json.read s.toJson.print).bind Statement.ofJson? = some s.settled ∧
      (s.settled = s ↔ s.Every Literal.IsSettled)) ∧
    (∀ l : Literal, l.FloatFree →
      (Json.read l.toJson.print).bind (Literal.ofJson? false) = some l.settled ∧
      (l.settled = l ↔ l.IsSettled)) ∧
    (∀ r : Relation, (Json.read r.toJson.print).bind Relation.ofJson? = some r) ∧
    (∀ c : Column, (Json.read c.toJson.print).bind (Column.ofJson? false) = some c) ∧
    (∀ c : Config, (Json.read c.toJson.print).bind Config.ofJson? = some c) ∧
    (∀ d : Diagnostic, (Json.read d.toJson.print).bind Diagnostic.ofJson? = some d) := by
  have hlimit : 2 < Json.nestingLimit := by decide
  refine ⟨?_, ?_, ?_, ?_, ?_, ?_, ?_, ?_⟩
  · intro node h hdepth
    exact ⟨h.toJson_exact.read_bind hdepth (Node.ofJson?_toJson h false), node.settled_eq_self_iff⟩
  · intro p h hdepth
    exact ⟨h.toJson_exact.read_bind hdepth (Predicate.ofJson?_toJson h false),
      p.settled_eq_self_iff⟩
  · intro s h hdepth
    exact ⟨h.toJson_exact.read_bind hdepth (Statement.ofJson?_toJson h), s.settled_eq_self_iff⟩
  · intro l h
    exact ⟨Literal.read_print h, l.settled_eq_self_iff⟩
  · intro r
    have hdepth := r.depth_toJson_le
    exact r.toJson_exact.read_bind (by omega) r.ofJson?_toJson
  · intro c
    have hdepth := c.depth_toJson_le
    exact c.toJson_exact.read_bind (by omega) (c.ofJson?_toJson false)
  · intro c
    have hdepth := c.depth_toJson_le
    exact c.toJson_exact.read_bind (by omega) c.ofJson?_toJson
  · intro d
    have hdepth := d.depth_toJson_le
    exact d.toJson_exact.read_bind (by omega) d.ofJson?_toJson

/-- The last half second of the year 2016, in its leap second. -/
def Timestamp.endOf2016 : Timestamp :=
  ⟨⟨2016, 12, 31, by decide⟩, 23, 59, 59, 1500000000, by decide⟩

/-- A leap second early on that day, in the middle of a minute. -/
def Timestamp.oddLeapSecond : Timestamp :=
  ⟨Timestamp.endOf2016.date, 1, 2, 3, 1500000000, by decide⟩

/-- The ordinary time that is written in the same way. -/
def Timestamp.afterOddLeapSecond : Timestamp :=
  ⟨Timestamp.endOf2016.date, 1, 2, 4, 500000000, by decide⟩

example : String.ofList Timestamp.endOf2016.writeExact = "2016-12-31T23:59:60.500" := by
  decide

example : String.ofList Timestamp.oddLeapSecond.writeExact = "2016-12-31T01:02:04.500" := by
  decide

/-- A tree with a time in it, a text that has to be escaped, and a column
reference without any of the fields that may be left out. -/
def Node.withTime (t : Timestamp) : Node :=
  .array [.literal (.timestamp t), .sql "\"\n\\",
    .attr { name := "id", relation := { name := "users" } }]

theorem Node.every_withTime {P : Literal → Prop} {t : Timestamp} (htime : P (.timestamp t))
    (hsql : P (.string "\"\n\\")) : (Node.withTime t).Every P := by
  apply Node.Every.array
  simp only [List.forall_mem_cons, List.not_mem_nil, false_implies, implies_true, and_true]
  exact ⟨.scalar htime, .value (.scalar hsql), .attr _⟩

/-- The end of the year comes back as it is, in the tree, in a condition and in
a statement around it, and alone. The odd leap second does not. -/
theorem documents_read_back_leap_second :
    (Json.read (Node.withTime .endOf2016).toJson.print).bind (Node.ofJson? false)
      = some (.withTime .endOf2016) ∧
    (Json.read (Predicate.group .or [.raw (.withTime .endOf2016)]).toJson.print).bind
      (Predicate.ofJson? false) = some (.group .or [.raw (.withTime .endOf2016)]) ∧
    (Json.read (Statement.select (.withTime .endOf2016)).toJson.print).bind Statement.ofJson?
      = some (.select (.withTime .endOf2016)) ∧
    (Json.read (Literal.timestamp .endOf2016).toJson.print).bind (Literal.ofJson? false)
      = some (.timestamp .endOf2016) ∧
    (Json.read (Node.withTime .oddLeapSecond).toJson.print).bind (Node.ofJson? false)
      = some (.withTime .afterOddLeapSecond) := by
  have htime : ∀ t, (Literal.timestamp t).FloatFree := by
    intro t x h
    cases h
  have hsql : (Literal.string "\"\n\\").FloatFree := by
    intro x h
    cases h
  have hnode : ∀ t, (Node.withTime t).Every Literal.FloatFree := by
    intro t
    exact Node.every_withTime (htime t) hsql
  have hpredicate : (Predicate.group .or [.raw (.withTime .endOf2016)]).Every Literal.FloatFree :=
    .group .or (by simpa using Predicate.Every.raw (hnode .endOf2016))
  have hstatement : (Statement.select (.withTime .endOf2016)).Every Literal.FloatFree := by
    constructor
    case source => exact hnode .endOf2016
    all_goals simp [Statement.select]
  obtain ⟨hnodes, hpredicates, hstatements, hliterals, -⟩ := documents_read_back
  exact ⟨(hnodes _ (hnode _) (by decide)).1, (hpredicates _ hpredicate (by decide)).1,
    (hstatements _ hstatement (by decide)).1, (hliterals _ (htime _)).1,
    (hnodes _ (hnode _) (by decide)).1⟩

/-- The text of the odd leap second is that of another time, and read as that. -/
theorem odd_leap_second_given_back_as_next :
    (Json.read (Literal.timestamp .oddLeapSecond).toJson.print).bind (Literal.ofJson? false)
        = some (.timestamp .afterOddLeapSecond)
      ∧ Timestamp.afterOddLeapSecond ≠ .oddLeapSecond := by
  have htime : (Literal.timestamp .oddLeapSecond).FloatFree := by
    intro x h
    cases h
  exact ⟨Literal.read_print htime, by decide⟩

end QueryText
