/-
The tables of a query stand for themselves. The relations of a statement are
named in one order: those of FROM, those of the joins with their conditions,
and then those of all other clauses. A name that is given stays. So what is
selected, filtered, grouped and sorted has no part in the names that FROM and
the joins have, and as a rendering asks for these names only, none in their
texts (`Statement.tables_independent`).

This holds in whatever state the naming was before. At the start of a session
the entry in FROM comes first of all, and so it has its base name.
-/
import QueryText.Proofs.Naming.Numbering
import QueryText.Proofs.Rendering.Locality
import QueryText.Proofs.Scoping.Entries

namespace QueryText

namespace Statement

variable {s t : Statement}

/-- The relations of FROM and of the joins, those of their conditions
included. -/
def tableRelations (s : Statement) : List Relation :=
  s.source.relations ++ s.joins.flatMap Join.relations

/-- The relations of the clauses besides FROM and the joins. -/
def clauseRelations (s : Statement) : List Relation :=
  Node.relationsOfAll s.projections ++ Predicate.relationsOfAll s.conditions
    ++ Node.relationsOfAll s.groups ++ s.orders.flatMap (·.node.relations)

/-- FROM and the joins come first. -/
theorem relations_eq_append (s : Statement) :
    s.relations = s.tableRelations ++ s.clauseRelations := by
  simp only [relations, tableRelations, clauseRelations, List.append_assoc]

/-- The tables of a statement have the names that they would have without its
other clauses. -/
theorem nameOf?_tables (env : Environment) (s : Statement) {r : Relation}
    (hr : r ∈ s.tableRelations) :
    (env.performAll [.statement s]).nameOf? r = (env.christen s.tableRelations).nameOf? r := by
  have hall : (env.performAll [.statement s]).nameOf? r
      = (env.naming.christenAll s.relations).nameOf? r := rfl
  rw [hall, relations_eq_append]
  exact Naming.nameOf?_christenAll_append hr _

/-- Statements with the same tables give them the same names. -/
theorem sameNames_tables (env : Environment) (hsource : t.source = s.source)
    (hjoins : t.joins = s.joins) :
    SameNames (env.performAll [.statement s]) (env.performAll [.statement t])
      s.tableRelations := by
  have htables : t.tableRelations = s.tableRelations := by
    rw [tableRelations, tableRelations, hsource, hjoins]
  intro r hr
  rw [nameOf?_tables env s hr, nameOf?_tables env t (htables ▸ hr), htables]

/-- The tables of a statement have names after it was asked for. -/
theorem exists_nameOf?_tables (env : Environment) {r : Relation} (hr : r ∈ s.tableRelations) :
    ∃ name, (env.performAll [.statement s]).nameOf? r = some name := by
  have hcovers := env.covers_performAll_cons (.statement s) []
  have hmem : r ∈ s.relations := by
    rw [relations_eq_append]
    exact List.mem_append_left _ hr
  exact Option.isSome_iff_exists.mp (hcovers r hmem)

/-- At the start of a session the entry in FROM has its base name. -/
theorem nameOf?_source {env : Environment} {options : NamingOptions} {e : Entry}
    (hempty : env.naming = .empty options) (he : s.source.entry? = some e) :
    (env.performAll [.statement s]).nameOf? e.relation = some e.relation.baseName := by
  have htables : s.tableRelations = e.relation :: s.joins.flatMap Join.relations := by
    rw [tableRelations, Node.relations_of_entry? he]
    rfl
  have hfirst : (env.christen s.tableRelations).nameOf? e.relation
      = ((Naming.empty options).christenAll s.tableRelations).nameOf? e.relation := by
    rw [← hempty]
    rfl
  rw [nameOf?_tables env s (htables ▸ List.mem_cons_self), hfirst, htables]
  exact Naming.nameOf?_christenAll_first options e.relation _

/-- The relations of a join are among those of the tables. -/
theorem joinRelations_subset {j : Join} (hj : j ∈ s.joins) : j.relations ⊆ s.tableRelations :=
  fun _ hr => List.mem_append_right _ (List.mem_flatMap.mpr ⟨j, hj, hr⟩)

/-- Two statements with the same FROM and the same joins, each named in a copy
of one environment: all relations of FROM and the joins have the same names in
both copies, and every entry and every condition of a join is rendered to the
same result. If no names were given before, the entry in FROM has its base
name. -/
theorem tables_independent (env : Environment) (hsource : t.source = s.source)
    (hjoins : t.joins = s.joins) :
    (∀ r ∈ s.source.relations ++ s.joins.flatMap Join.relations, ∃ name,
        (env.performAll [.statement s]).nameOf? r = some name
          ∧ (env.performAll [.statement t]).nameOf? r = some name)
      ∧ renderSource (env.performAll [.statement t]) t.source
        = renderSource (env.performAll [.statement s]) s.source
      ∧ t.joins.map (Join.render (env.performAll [.statement t]))
        = s.joins.map (Join.render (env.performAll [.statement s]))
      ∧ (∀ j ∈ s.joins,
          j.relation.render (env.performAll [.statement t]) .tableReference none
              = j.relation.render (env.performAll [.statement s]) .tableReference none
            ∧ ∀ p ∈ j.conditions, p.render (env.performAll [.statement t]) .whereClause
              = p.render (env.performAll [.statement s]) .whereClause)
      ∧ (∀ options, env.naming = .empty options → ∀ e, s.source.entry? = some e →
          (env.performAll [.statement s]).nameOf? e.relation = some e.relation.baseName) := by
  have hnames := sameNames_tables env hsource hjoins
  have hquoter : (env.performAll [.statement t]).quoter = (env.performAll [.statement s]).quoter :=
    rfl
  have hjoinNames : ∀ j ∈ s.joins, SameNames (env.performAll [.statement s])
      (env.performAll [.statement t]) j.relations := fun j hj =>
    hnames.subset (joinRelations_subset hj)
  refine ⟨?names, ?source, ?joins, fun j hj => ⟨?entry, fun p hp => ?condition⟩,
    fun options hempty e he => nameOf?_source hempty he⟩
  case names =>
    intro r hr
    obtain ⟨name, hname⟩ := exists_nameOf?_tables env hr
    exact ⟨name, hname, (hnames r hr).trans hname⟩
  case source =>
    have hsourceNames := hnames.subset (List.subset_append_left s.source.relations _)
    rw [renderSource, renderSource, hsource, Node.render_eq_of_sameNames hquoter hsourceNames]
  case joins =>
    rw [hjoins]
    exact List.map_congr_left fun j hj => Join.render_eq_of_sameNames hquoter (hjoinNames j hj)
  case entry =>
    have hentryNames := (hjoinNames j hj).subset fun r hr => Join.mem_relations.mpr (.inl hr)
    exact Node.render_eq_of_sameNames hquoter hentryNames _ _
  case condition =>
    have hconditionNames := (hjoinNames j hj).subset fun r hr =>
      Join.mem_relations.mpr (.inr (List.mem_flatMap.mpr ⟨p, hp, hr⟩))
    exact Predicate.render_eq_of_sameNames hquoter hconditionNames _

/-- Everyone who was invited, with who did it. -/
private def invited : Statement where
  source := .table { name := "users" }
  joins := [⟨.inner, .table { name := "users", occurrence := 1 },
    [.binary .equal (.attr { name := "host", relation := { name := "users" } })
      (.attr { name := "id", relation := { name := "users", occurrence := 1 } })]⟩]

/-- The same, with a column of a table that has the name of the second use. -/
private def invitedBeside : Statement :=
  { invited with
    projections := [.attr { name := "id", relation := { name := "users_2" } }] }

/-- The column's table does not take the name from the joined one, but gets a
number itself. -/
theorem tables_independent_taken_name :
    ∃ env : Environment, invitedBeside.source = invited.source
      ∧ invitedBeside.joins = invited.joins
      ∧ (env.performAll [.statement invitedBeside]).nameOf? { name := "users_2" }
        = some "users_2_2"
      ∧ (∃ name, (env.performAll [.statement invited]).nameOf? { name := "users", occurrence := 1 }
            = some name
          ∧ (env.performAll [.statement invitedBeside]).nameOf? { name := "users", occurrence := 1 }
            = some name)
      ∧ invited.joins.map (Join.render (env.performAll [.statement invited]))
        = [.ok ("INNER JOIN \"users\" AS \"users_2\" "
            ++ "ON \"users\".\"host\" = \"users_2\".\"id\"")]
      ∧ invitedBeside.joins.map (Join.render (env.performAll [.statement invitedBeside]))
        = invited.joins.map (Join.render (env.performAll [.statement invited]))
      ∧ env.naming = .empty {} ∧ invited.source.entry? = some (.table { name := "users" })
      ∧ (env.performAll [.statement invited]).nameOf? { name := "users" } = some "users" := by
  obtain ⟨hnames, -, hjoins, -, hfirst⟩ :=
    tables_independent (.ofConfig {}) (show invitedBeside.source = invited.source from rfl) rfl
  exact ⟨_, rfl, rfl, by decide +kernel, hnames { name := "users", occurrence := 1 } (by decide),
    by decide +kernel, hjoins, rfl, rfl, hfirst {} rfl (.table { name := "users" }) rfl⟩

end Statement
end QueryText
