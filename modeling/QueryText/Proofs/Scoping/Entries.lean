/-
The scope of a query. The entries of FROM and JOIN introduce names, and the
columns of all clauses are qualified by these names. Both come from the
display names, but through different renderings; that they meet is shown
here. `Statement.Written` says how a query is written: each entry as
`Entry.text` has it, and the columns of each clause with the quoted display
name of their relation in front (`Environment.column`).

Different relations have different display names, and different names are
quoted differently. Hence entries on different relations introduce different
names, and a qualifier finds one of them only: the entry of its own relation
(`Statement.scope_sound`).

A table whose name is a piece of SQL is written as it stands, and so is its
display name. What such an entry introduces is for the piece to say; it has
a display name all the same, which no other entry has.
-/
import QueryText.Proofs.Lexical.Quoted
import QueryText.Proofs.Naming.Invariant
import QueryText.Proofs.Scoping.Weave

namespace QueryText

-- ================================================================ entries

/-- What stands in FROM or JOIN. -/
inductive Entry
  | table (r : Relation)
  | derived (s : Subselect)
deriving DecidableEq

/-- The entry that a node is; other nodes cannot stand there. -/
def Node.entry? : Node → Option Entry
  | .table r => some (.table r)
  | .subselect s => some (.derived s)
  | _ => none

namespace Entry

/-- The relation that an entry stands for. -/
def relation : Entry → Relation
  | .table r => r
  | .derived s => s.source

/-- Whether the name that an entry introduces is quoted. -/
def isQuoted : Entry → Bool
  | .table r => Identifier.isSimpleTable r.name
  | .derived _ => true

/-- The name that an entry introduces. -/
def introduced (env : Environment) (e : Entry) : String :=
  env.qualifier e.relation

/-- How an entry is written. -/
def text (env : Environment) : Entry → String
  | .table r =>
    if Identifier.isSimpleTable r.name then
      if env.displayName r = r.name then env.qualifier r
      else env.identifier r.name ++ " AS " ++ env.qualifier r
    else if env.displayName r = r.name then r.name
    else r.name ++ " AS " ++ env.displayName r
  | .derived s => "(" ++ s.sql ++ ") AS " ++ env.qualifier s.source

end Entry

/-- An entry mentions one relation, its own. -/
theorem Node.relations_of_entry? {node : Node} {e : Entry} (h : node.entry? = some e) :
    node.relations = [e.relation] := by
  cases node with
  | table r | subselect r =>
      cases h
      rfl
  | attr _ | expression _ _ _ | scalar _ | value _ | array _ | range _ _ => cases h

/-- A text introduces the name that it is, or that it ends with. -/
def Introduces (text name : String) : Prop :=
  text = name ∨ ∃ front, text = front ++ " AS " ++ name

/-- What an entry introduces is in its text. -/
theorem Entry.introduces (env : Environment) {e : Entry} (h : e.isQuoted = true) :
    Introduces (e.text env) (e.introduced env) := by
  cases e with
  | table r =>
      have hsimple : Identifier.isSimpleTable r.name = true := h
      rw [text, if_pos hsimple]
      split
      · exact .inl rfl
      · exact .inr ⟨env.identifier r.name, rfl⟩
  | derived s =>
      refine .inr ⟨"(" ++ s.sql ++ ")", ?_⟩
      have hwords : ") AS " = ")" ++ " AS " := by decide
      rw [text, hwords, ← String.append_assoc]
      rfl

namespace Statement

/-- The entries of FROM and JOIN, in order. -/
def entries (s : Statement) : List Entry :=
  (s.source :: s.joins.map Join.relation).filterMap Node.entry?

/-- The columns of a statement that are written with qualifiers, in the
order they are written. -/
def columns (s : Statement) : List Attribute :=
  s.projections.flatMap Node.columns
    ++ s.joins.flatMap (fun j => j.conditions.flatMap Predicate.columns)
    ++ s.conditions.flatMap Predicate.columns ++ s.groups.flatMap Node.columns
    ++ s.orders.flatMap (fun o => o.node.columns)

end Statement

-- ======================================================= how it is written

/-- A clause that is left out when nothing stands in it. -/
inductive ClauseWritten (env : Environment) (keyword : String) :
    List Attribute → List String → Prop
  | absent : ClauseWritten env keyword [] []
  | present {columns : List Attribute} {body : String} (h : Weaves env.column columns body) :
      ClauseWritten env keyword columns [keyword ++ body]

/-- A join: its entry, and its conditions with their columns. -/
inductive Join.Written (env : Environment) (j : Join) : String → Prop
  | alone {entry : Entry} (hentry : j.relation.entry? = some entry) (hnone : j.conditions = []) :
      Written env j (j.kind.keywords ++ " " ++ entry.text env)
  | on {entry : Entry} {body : String} (hentry : j.relation.entry? = some entry)
      (h : Weaves env.column (j.conditions.flatMap Predicate.columns) body) :
      Written env j (j.kind.keywords ++ " " ++ entry.text env ++ " ON " ++ body)

/-- A query: its entries, and the columns of its clauses. -/
inductive Statement.Written (env : Environment) (s : Statement) : String → Prop
  | intro {selected : String} {entry : Entry} {joins conditions groups orders : List String}
      (hselected : Weaves env.column (s.projections.flatMap Node.columns) selected)
      (hentry : s.source.entry? = some entry)
      (hjoins : List.Forall₂ (Join.Written env) s.joins joins)
      (hconditions :
        ClauseWritten env "WHERE " (s.conditions.flatMap Predicate.columns) conditions)
      (hgroups : ClauseWritten env "GROUP BY " (s.groups.flatMap Node.columns) groups)
      (horders : ClauseWritten env "ORDER BY " (s.orders.flatMap fun o => o.node.columns) orders) :
      Written env s (" ".intercalate (["SELECT " ++ selected, "FROM " ++ entry.text env] ++ joins
        ++ conditions ++ groups ++ orders ++ renderCount "LIMIT" s.limit
        ++ renderCount "OFFSET" s.offset))

variable {env : Environment} {text : String}

/-- What is rendered as a table reference is an entry, in the form of an
entry. -/
theorem Node.render_entry {node : Node} (h : node.render env .tableReference none = .ok text) :
    ∃ entry, node.entry? = some entry ∧ text = entry.text env := by
  cases node with
  | table r =>
      refine ⟨.table r, rfl, ?_⟩
      obtain ⟨-, -, h⟩ := bind_eq_ok.mp h
      obtain ⟨name, hname, h⟩ := bind_eq_ok.mp h
      cases h
      simp only [Entry.text, Environment.qualifier, Environment.displayName_of_resolve hname]
      by_cases hsame : name = r.name
      · simp only [hsame, if_true]
        split <;> rfl
      · simp only [hsame, if_false]
        split <;> rfl
  | subselect s =>
      refine ⟨.derived s, rfl, ?_⟩
      obtain ⟨-, -, h⟩ := bind_eq_ok.mp h
      obtain ⟨name, hname, h⟩ := bind_eq_ok.mp h
      cases h
      rw [Entry.text, Environment.qualifier, Environment.displayName_of_resolve hname]
  | attr _ | expression _ _ _ | scalar _ | value _ | array _ | range _ _ =>
      exact Bool.noConfusion (admits_of_render h)

/-- A join is written as it should be. -/
theorem Join.render_written {j : Join} (h : j.render env = .ok text) : j.Written env text := by
  rw [render] at h
  obtain ⟨relation, hrelation, h⟩ := bind_eq_ok.mp h
  obtain ⟨entry, hentry, rfl⟩ := Node.render_entry hrelation
  split at h
  · next hnone =>
    cases h
    exact .alone hentry (List.isEmpty_iff.mp hnone)
  · obtain ⟨body, hbody, h⟩ := bind_eq_ok.mp h
    cases h
    exact .on hentry (Predicate.renderConjunction_weaves hbody)

/-- What to sort by holds its columns. -/
theorem Ordering.render_weaves {o : Ordering} (h : o.render env = .ok text) :
    Weaves env.column o.node.columns text := by
  rw [render] at h
  obtain ⟨sql, hsql, h⟩ := bind_eq_ok.mp h
  have hnode := Node.render_weaves hsql
  cases hdirection : o.direction with
  | none =>
      rw [hdirection] at h
      cases h
      exact hnode
  | some d =>
      rw [hdirection] at h
      cases h
      have hafter := hnode.append (closes_blank d.keyword)
      rwa [← String.append_assoc] at hafter

namespace Statement

theorem renderProjections_weaves {nodes : List Node}
    (h : renderProjections env nodes = .ok text) :
    ∃ selected, text = "SELECT " ++ selected
      ∧ Weaves env.column (nodes.flatMap Node.columns) selected := by
  rw [renderProjections] at h
  split at h
  · next hnone =>
    cases h
    rw [List.isEmpty_iff.mp hnone]
    exact ⟨"*", rfl, .gap "*"⟩
  · obtain ⟨texts, htexts, h⟩ := bind_eq_ok.mp h
    cases h
    exact ⟨_, rfl, Node.renderAll_weaves htexts⟩

theorem renderSource_written {source : Node} (h : renderSource env source = .ok text) :
    ∃ entry, source.entry? = some entry ∧ text = "FROM " ++ entry.text env := by
  rw [renderSource] at h
  obtain ⟨sql, hsql, h⟩ := bind_eq_ok.mp h
  cases h
  obtain ⟨entry, hentry, rfl⟩ := Node.render_entry hsql
  exact ⟨entry, hentry, rfl⟩

theorem renderConditions_written {ps : List Predicate} {clauses : List String}
    (h : renderConditions env ps = .ok clauses) :
    ClauseWritten env "WHERE " (ps.flatMap Predicate.columns) clauses := by
  rw [renderConditions] at h
  split at h
  · next hnone =>
    cases h
    rw [List.isEmpty_iff.mp hnone]
    exact .absent
  · obtain ⟨sql, hsql, h⟩ := bind_eq_ok.mp h
    cases h
    exact .present (Predicate.renderConjunction_weaves hsql)

theorem renderGroups_written {nodes : List Node} {clauses : List String}
    (h : renderGroups env nodes = .ok clauses) :
    ClauseWritten env "GROUP BY " (nodes.flatMap Node.columns) clauses := by
  rw [renderGroups] at h
  split at h
  · next hnone =>
    cases h
    rw [List.isEmpty_iff.mp hnone]
    exact .absent
  · obtain ⟨texts, htexts, h⟩ := bind_eq_ok.mp h
    cases h
    exact .present (Node.renderAll_weaves htexts)

theorem renderOrders_written {orders : List Ordering} {clauses : List String}
    (h : renderOrders env orders = .ok clauses) :
    ClauseWritten env "ORDER BY " (orders.flatMap fun o => o.node.columns) clauses := by
  rw [renderOrders] at h
  split at h
  · next hnone =>
    cases h
    rw [List.isEmpty_iff.mp hnone]
    exact .absent
  · obtain ⟨texts, htexts, h⟩ := bind_eq_ok.mp h
    cases h
    have hall := forall₂_of_mapM htexts fun _ _ _ => Ordering.render_weaves
    exact .present (.intercalate breaks_comma hall)

/-- A query is written as it should be. -/
theorem render_written {s : Statement} (h : s.render env = .ok text) : s.Written env text := by
  rw [render] at h
  obtain ⟨projections, hprojections, h⟩ := bind_eq_ok.mp h
  obtain ⟨source, hsource, h⟩ := bind_eq_ok.mp h
  obtain ⟨joins, hjoins, h⟩ := bind_eq_ok.mp h
  obtain ⟨conditions, hconditions, h⟩ := bind_eq_ok.mp h
  obtain ⟨groups, hgroups, h⟩ := bind_eq_ok.mp h
  obtain ⟨orders, horders, h⟩ := bind_eq_ok.mp h
  cases h
  obtain ⟨selected, rfl, hselected⟩ := renderProjections_weaves hprojections
  obtain ⟨entry, hentry, rfl⟩ := renderSource_written hsource
  exact .intro hselected hentry (forall₂_of_mapM hjoins fun _ _ _ => Join.render_written)
    (renderConditions_written hconditions) (renderGroups_written hgroups)
    (renderOrders_written horders)

end Statement

-- ====================================================== which entry is meant

/-- Relations that have names are told apart by their qualifiers. -/
theorem Environment.qualifier_injective (hnames : env.naming.Reachable) {r t : Relation}
    (hr : env.nameOf? r = some (env.displayName r)) (ht : env.nameOf? t = some (env.displayName t))
    (h : env.qualifier r = env.qualifier t) : r = t := by
  have hdisplay : env.displayName r = env.displayName t := Quoter.identifier_injective h
  rw [← hdisplay] at ht
  exact hnames.consistent.injective r t _ hr ht

/-- Among members told apart by `f`, one member has its value. -/
theorem filter_eq_singleton_of_nodup {α β : Type} [DecidableEq α] {f : α → β} {p : α → Bool}
    {l : List α} (hnodup : (l.map f).Nodup) {a : α} (ha : a ∈ l)
    (hp : ∀ x ∈ l, p x = true ↔ f x = f a) : l.filter p = [a] := by
  have hsame : ∀ x ∈ l, p x = (x == a) := by
    intro x hx
    rw [Bool.eq_iff_iff, hp x hx, beq_iff_eq]
    constructor
    · intro hf
      exact List.inj_on_of_nodup_map hnodup hx ha hf
    · intro hxa
      rw [hxa]
  rw [List.filter_congr hsame, List.filter_beq, List.count_eq_one_of_mem hnodup.of_map ha]
  rfl

namespace Statement

variable {s : Statement}

/-- The relations of the entries are relations of the statement. -/
theorem relation_mem_relations {e : Entry} (he : e ∈ s.entries) : e.relation ∈ s.relations := by
  obtain ⟨node, hnode, hentry⟩ := List.mem_filterMap.mp he
  have hrelation : e.relation ∈ node.relations := by
    rw [Node.relations_of_entry? hentry]
    exact List.mem_cons_self
  rw [mem_relations]
  rcases List.mem_cons.mp hnode with rfl | hjoined
  · exact .inl hrelation
  · obtain ⟨j, hj, rfl⟩ := List.mem_map.mp hjoined
    exact .inr (.inl (List.mem_flatMap.mpr ⟨j, hj, Join.mem_relations.mpr (.inl hrelation)⟩))

/-- The relations of a statement have names after they were asked for. -/
theorem nameOf?_performAll (env : Environment) {r : Relation} (hr : r ∈ s.relations) :
    (env.performAll [.statement s]).nameOf? r
      = some ((env.performAll [.statement s]).displayName r) := by
  have hcovers := env.covers_performAll_cons (.statement s) []
  exact Environment.nameOf?_displayName (hcovers r hr)

/-- A statement that is rendered after its relations were named, in any state
of the names, is written with every column under the display name of its
relation, and an entry introduces the display name of its own. Entries on
different relations introduce different names; and among entries on
different relations, be it all of them or those with quoted names, the
qualifier of a column on one of the relations is introduced by one entry,
its own. -/
theorem scope_sound (hnames : env.naming.Reachable)
    (h : s.render (env.performAll [.statement s]) = .ok text) :
    (∀ r ∈ s.relations, (env.performAll [.statement s]).nameOf? r
        = some ((env.performAll [.statement s]).displayName r))
      ∧ s.Written (env.performAll [.statement s]) text
      ∧ (∀ e ∈ s.entries, e.isQuoted = true →
          Introduces (e.text (env.performAll [.statement s]))
            (e.introduced (env.performAll [.statement s])))
      ∧ (∀ e ∈ s.entries, ∀ f ∈ s.entries, e.relation ≠ f.relation →
          e.introduced (env.performAll [.statement s])
            ≠ f.introduced (env.performAll [.statement s]))
      ∧ (∀ among ⊆ s.entries, (among.map Entry.relation).Nodup →
          ∀ a ∈ s.columns, a.relation ∈ among.map Entry.relation →
            ∃ own, own.relation = a.relation
              ∧ among.filter (fun e => e.introduced (env.performAll [.statement s])
                  = (env.performAll [.statement s]).qualifier a.relation) = [own]) := by
  have hreachable : (env.performAll [.statement s]).naming.Reachable := hnames.performAll _
  have hnamed : ∀ e ∈ s.entries, (env.performAll [.statement s]).nameOf? e.relation
      = some ((env.performAll [.statement s]).displayName e.relation) := fun e he =>
    nameOf?_performAll env (relation_mem_relations he)
  refine ⟨fun r hr => nameOf?_performAll env hr, render_written h,
    fun e _ hquoted => e.introduces _ hquoted, fun e he f hf hne heq => ?_,
    fun among hamong hnodup a _ ha => ?_⟩
  · exact hne (Environment.qualifier_injective hreachable (hnamed e he) (hnamed f hf) heq)
  · obtain ⟨own, hown, hrelation⟩ := List.mem_map.mp ha
    refine ⟨own, hrelation, filter_eq_singleton_of_nodup hnodup hown fun e he => ?_⟩
    rw [decide_eq_true_iff, ← hrelation]
    constructor
    · exact Environment.qualifier_injective hreachable (hnamed e (hamong he))
        (hnamed own (hamong hown))
    · intro hsame
      rw [Entry.introduced, hsame]

/-- Everyone with their boss. -/
private def withBoss : Statement where
  projections :=
    [.attr { name := "name", relation := { name := "u" } },
      .attr { name := "name", relation := { name := "u", occurrence := 1 } }]
  source := .table { name := "u" }
  joins :=
    [⟨.inner, .table { name := "u", occurrence := 1 },
      [.binary .equal (.attr { name := "id", relation := { name := "u", occurrence := 1 } })
        (.attr { name := "boss", relation := { name := "u" } })]⟩]

/-- In a self-join the second table is numbered, and each column finds its
own. -/
theorem scope_sound_self_join :
    ∃ (env : Environment) (text : String),
      withBoss.render (env.performAll [.statement withBoss]) = .ok text
        ∧ text = "SELECT \"u\".\"name\", \"u_2\".\"name\" FROM \"u\" "
            ++ "INNER JOIN \"u\" AS \"u_2\" ON \"u_2\".\"id\" = \"u\".\"boss\""
        ∧ ∀ a ∈ withBoss.columns, ∃ own, own.relation = a.relation
            ∧ withBoss.entries.filter (fun e => e.introduced (env.performAll [.statement withBoss])
              = (env.performAll [.statement withBoss]).qualifier a.relation) = [own] := by
  have h : withBoss.render ((Environment.ofConfig {}).performAll [.statement withBoss])
      = .ok ("SELECT \"u\".\"name\", \"u_2\".\"name\" FROM \"u\" "
        ++ "INNER JOIN \"u\" AS \"u_2\" ON \"u_2\".\"id\" = \"u\".\"boss\"") := by
    decide +kernel
  obtain ⟨-, -, -, -, hown⟩ := scope_sound (.empty _) h
  have hlisted : ∀ a ∈ withBoss.columns, a.relation ∈ withBoss.entries.map Entry.relation := by
    decide +kernel
  refine ⟨Environment.ofConfig {}, _, h, rfl, fun a ha => ?_⟩
  exact hown _ (List.Subset.refl _) (by decide +kernel) a ha (hlisted a ha)

end Statement

end QueryText
