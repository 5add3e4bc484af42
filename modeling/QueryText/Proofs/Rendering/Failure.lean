/-
How a rendering can fail. `Failure env rs contexts` holds of the errors that
arise in one of the given contexts and, where a relation without a name is
to blame, blame one of the relations `rs`. A node fails in the context it is
rendered in only and blames a relation it mentions (`Node.render_failsOnly`);
conditions and whole statements follow from their parts.

The relations of a tree are listed by one recursion and asked for by
another. That the two agree is this file's content: whoever names all
relations of a list cannot be told that one of them has no name
(`Failure.not_unresolved`), and every request for names does name them all.
-/
import QueryText.CommandLine.Answer
import QueryText.Proofs.Naming.Session
import QueryText.Proofs.Rendering.Induction
import QueryText.Proofs.Rendering.Outcome

namespace QueryText

/-- The errors that arise in the given places and blame, if any, one of the
given relations for having no name. -/
inductive Failure (env : Environment) (rs : List Relation) (contexts : List Context) :
    RenderError → Prop
  | unsupported {kind : NodeKind} {context : Context} (hcontext : context ∈ contexts) :
      Failure env rs contexts (.unsupported kind context)
  | unresolved {r : Relation} {kind : NodeKind} {context : Context} (hcontext : context ∈ contexts)
      (hr : r ∈ rs) (hname : env.nameOf? r = none) :
      Failure env rs contexts (.unresolved r kind context)
  | unquotable {cause : QuotingError} {context : Context} (hcontext : context ∈ contexts) :
      Failure env rs contexts (.unquotable cause context)
  | emptyGroup {connective : Connective} {context : Context} (hcontext : context ∈ contexts) :
      Failure env rs contexts (.emptyGroup connective context)

variable {env : Environment} {rs more : List Relation} {contexts : List Context}
  {context : Context} {hint : Option Column}

/-- More relations and more contexts allow more errors. -/
theorem Failure.mono {contexts' : List Context} {e : RenderError} (h : Failure env rs contexts e)
    (hrs : rs ⊆ more) (hcontexts : contexts ⊆ contexts') : Failure env more contexts' e := by
  cases h with
  | unsupported hcontext => exact .unsupported (hcontexts hcontext)
  | unresolved hcontext hr hname => exact .unresolved (hcontexts hcontext) (hrs hr) hname
  | unquotable hcontext => exact .unquotable (hcontexts hcontext)
  | emptyGroup hcontext => exact .emptyGroup (hcontexts hcontext)

/-- An error arises in one of its places. -/
theorem Failure.context_mem {e : RenderError} (h : Failure env rs contexts e) :
    e.context ∈ contexts := by
  cases h with
  | unsupported hcontext => exact hcontext
  | unresolved hcontext => exact hcontext
  | unquotable hcontext => exact hcontext
  | emptyGroup hcontext => exact hcontext

/-- Relations that have names are not blamed. -/
theorem Failure.not_unresolved {e : RenderError} (h : Failure env rs contexts e)
    (hrs : env.naming.Covers rs) : e.code ≠ .unresolvedRelation := by
  cases h with
  | unsupported => exact DiagnosticCode.noConfusion
  | unresolved _ hr hname =>
      have hsome := hrs _ hr
      rw [show env.naming.nameOf? _ = none from hname] at hsome
      exact absurd hsome (by simp)
  | unquotable => exact DiagnosticCode.noConfusion
  | emptyGroup => exact DiagnosticCode.noConfusion

/-- Parts of a tree fail as the tree does. -/
theorem FailsOnly.widen {α : Type} {contexts' : List Context} {x : Except RenderError α}
    (h : FailsOnly (Failure env rs contexts) x) (hrs : rs ⊆ more) (hcontexts : contexts ⊆ contexts') :
    FailsOnly (Failure env more contexts') x :=
  h.mono fun _ he => he.mono hrs hcontexts

/-- A list fails as one of its members does, and blames what this one
mentions. -/
theorem FailsOnly.members {α β : Type} {f : α → Except RenderError β} {g : α → List Relation}
    {items : List α} (h : ∀ item ∈ items, FailsOnly (Failure env (g item) contexts) (f item)) :
    FailsOnly (Failure env (items.flatMap g) contexts) (items.mapM f) := by
  refine FailsOnly.mapM fun item hitem => (h item hitem).widen ?_ (List.Subset.refl _)
  intro r hr
  exact List.mem_flatMap.mpr ⟨item, hitem, hr⟩

-- ============================================================ the pieces

theorem Context.demand_failsOnly (kind : NodeKind) (hcontext : context ∈ contexts) :
    FailsOnly (Failure env rs contexts) (context.demand kind) := by
  rw [Context.demand]
  split
  · exact failsOnly_ok _ ()
  · exact failsOnly_error (.unsupported hcontext)

theorem Environment.resolve_failsOnly {r : Relation} (kind : NodeKind) (hcontext : context ∈ contexts)
    (hr : r ∈ rs) : FailsOnly (Failure env rs contexts) (env.resolve context kind r) := by
  rw [Environment.resolve]
  split
  · exact failsOnly_ok _ _
  · next hname => exact failsOnly_error (.unresolved hcontext hr hname)

theorem Attribute.render_failsOnly (a : Attribute) :
    FailsOnly (Failure env [a.relation] [context]) (a.render env context) := by
  rw [Attribute.render, Attribute.qualified]
  refine (Context.demand_failsOnly .attr List.mem_cons_self).bind fun _ => ?_
  refine FailsOnly.bind ?_ fun sql => failsOnly_ok _ _
  split
  · refine FailsOnly.bind ?_ fun relation => failsOnly_ok _ _
    exact Environment.resolve_failsOnly .attr List.mem_cons_self List.mem_cons_self
  · exact failsOnly_ok _ _

theorem Scalar.render_failsOnly (s : Scalar) :
    FailsOnly (Failure env [] [context]) (s.render env context hint) := by
  rw [Scalar.render]
  refine (Context.demand_failsOnly .scalar List.mem_cons_self).bind fun _ => ?_
  split
  · exact failsOnly_ok _ _
  · exact failsOnly_error (.unquotable List.mem_cons_self)

theorem Subselect.render_failsOnly (s : Subselect) :
    FailsOnly (Failure env [s.source] [context]) (s.render env context) := by
  unfold Subselect.render
  refine (Context.demand_failsOnly .subselect List.mem_cons_self).bind fun _ => ?_
  cases context with
  | selectList | tableReference =>
      refine FailsOnly.bind ?_ fun name => failsOnly_ok _ _
      exact Environment.resolve_failsOnly .subselect List.mem_cons_self List.mem_cons_self
  | _ => exact failsOnly_ok _ _

theorem Relation.render_failsOnly (r : Relation) :
    FailsOnly (Failure env [r] [context]) (r.render env context) := by
  rw [Relation.render]
  refine (Context.demand_failsOnly .table List.mem_cons_self).bind fun _ => ?_
  refine FailsOnly.bind ?_ fun name => failsOnly_ok _ _
  exact Environment.resolve_failsOnly .table List.mem_cons_self List.mem_cons_self

-- ============================================================== the trees

/-- A node fails in its own context, and blames a relation that it mentions. -/
theorem Node.render_failsOnly (node : Node) :
    FailsOnly (Failure env node.relations [context]) (node.render env context hint) := by
  induction node with
  | attr a => exact a.render_failsOnly
  | expression function operand label ih =>
      rw [Node.render]
      refine (Context.demand_failsOnly .expression List.mem_cons_self).bind fun _ => ?_
      exact FailsOnly.bind ih fun sql => failsOnly_ok _ _
  | scalar s => exact s.render_failsOnly
  | value operand ih =>
      by_cases hs : ∃ s, operand = .scalar s
      · obtain ⟨s, rfl⟩ := hs
        rw [Node.render_value_scalar]
        refine (Context.demand_failsOnly .value List.mem_cons_self).bind fun _ => ?_
        split
        · exact failsOnly_ok _ _
        · exact s.render_failsOnly
      · rw [Node.render_value (not_exists.mp hs)]
        exact (Context.demand_failsOnly .value List.mem_cons_self).bind fun _ => ih
  | array items ih =>
      rw [Node.render, Node.renderAll_eq, Node.relations, Node.relationsOfAll_eq]
      refine (Context.demand_failsOnly .array List.mem_cons_self).bind fun _ => ?_
      exact (FailsOnly.members ih).bind fun parts => failsOnly_ok _ _
  | range low high ihlow ihhigh =>
      rw [Node.render, Node.relations]
      refine (Context.demand_failsOnly .range List.mem_cons_self).bind fun _ => ?_
      refine (ihlow.widen (List.subset_append_left _ _) (List.Subset.refl _)).bind fun l => ?_
      refine (ihhigh.widen (List.subset_append_right _ _) (List.Subset.refl _)).bind fun h => ?_
      exact failsOnly_ok _ _
  | table r => exact r.render_failsOnly
  | subselect s => exact s.render_failsOnly

/-- Several nodes fail as one of them does. -/
theorem Node.renderAll_failsOnly (nodes : List Node) :
    FailsOnly (Failure env (nodes.flatMap Node.relations) [context])
      (Node.renderAll env context hint nodes) := by
  rw [Node.renderAll_eq]
  exact FailsOnly.members fun node _ => node.render_failsOnly

namespace Predicate

/-- The places that a condition has. -/
def places : List Context :=
  [.whereClause, .whereCondition, .attributeOperand]

/-- A condition fails in one of its places, and blames a relation that it
mentions. -/
theorem renderWhere_failsOnly (p : Predicate) :
    FailsOnly (Failure env p.relations places) (p.renderWhere env) := by
  induction p with
  | binary operator left right =>
      rw [renderWhere, relations]
      refine FailsOnly.bind ?leftSide fun leftSql => FailsOnly.bind ?rightSide fun rightSql => ?_
      case leftSide =>
        exact left.render_failsOnly.widen (List.subset_append_left _ _) (by simp [places])
      case rightSide =>
        rw [Node.renderBeside_eq]
        refine right.render_failsOnly.widen (List.subset_append_right _ _) ?_
        cases left <;> simp [Node.besideContext, places]
      exact failsOnly_ok _ _
  | group connective members ih =>
      rw [relations, relationsOfAll_eq]
      cases members with
      | nil =>
          rw [renderWhere]
          exact failsOnly_error (.emptyGroup (by simp [places]))
      | cons first rest =>
          cases rest with
          | nil =>
              rw [renderWhere]
              exact (ih first List.mem_cons_self).widen (by simp) (List.Subset.refl _)
          | cons second rest =>
              rw [renderWhere_group]
              exact (FailsOnly.members ih).bind fun members => failsOnly_ok _ _
  | raw sql =>
      rw [renderWhere, relations]
      exact sql.render_failsOnly.widen (List.Subset.refl _) (by simp [places])

theorem render_failsOnly (p : Predicate) :
    FailsOnly (Failure env p.relations (context :: places)) (p.render env context) := by
  rw [render]
  refine (Context.demand_failsOnly .predicate List.mem_cons_self).bind fun _ => ?_
  exact p.renderWhere_failsOnly.widen (List.Subset.refl _) (List.subset_cons_self _ _)

theorem renderConjunction_failsOnly (ps : List Predicate) :
    FailsOnly (Failure env (ps.flatMap relations) places) (renderConjunction env ps) := by
  rw [renderConjunction, renderAll_eq]
  exact (FailsOnly.members fun p _ => p.renderWhere_failsOnly).bind fun parts => failsOnly_ok _ _

end Predicate

-- ============================================================= statements

/-- A join fails in the place of a table or in one of a condition. -/
theorem Join.render_failsOnly (j : Join) :
    FailsOnly (Failure env j.relations (.tableReference :: Predicate.places))
      (j.render env) := by
  rw [Join.render]
  refine FailsOnly.bind ?_ fun relation => ?_
  · exact j.relation.render_failsOnly.widen (fun r hr => mem_relations.mpr (.inl hr)) (by simp)
  · split
    · exact failsOnly_ok _ _
    · refine FailsOnly.bind ?_ fun conditions => failsOnly_ok _ _
      exact (Predicate.renderConjunction_failsOnly j.conditions).widen
        (fun r hr => mem_relations.mpr (.inr hr)) (List.subset_cons_self _ _)

theorem Ordering.render_failsOnly (o : Ordering) :
    FailsOnly (Failure env o.node.relations [.order]) (o.render env) := by
  rw [Ordering.render]
  exact o.node.render_failsOnly.bind fun sql => failsOnly_ok _ _

namespace Statement

theorem renderProjections_failsOnly (nodes : List Node) :
    FailsOnly (Failure env (nodes.flatMap Node.relations) [.selectList])
      (renderProjections env nodes) := by
  rw [renderProjections]
  split
  · exact failsOnly_ok _ _
  · exact (Node.renderAll_failsOnly nodes).bind fun parts => failsOnly_ok _ _

theorem renderSource_failsOnly (source : Node) :
    FailsOnly (Failure env source.relations [.tableReference]) (renderSource env source) := by
  rw [renderSource]
  exact source.render_failsOnly.bind fun sql => failsOnly_ok _ _

theorem renderConditions_failsOnly (ps : List Predicate) :
    FailsOnly (Failure env (ps.flatMap Predicate.relations) Predicate.places)
      (renderConditions env ps) := by
  rw [renderConditions]
  split
  · exact failsOnly_ok _ _
  · exact (Predicate.renderConjunction_failsOnly ps).bind fun sql => failsOnly_ok _ _

theorem renderGroups_failsOnly (nodes : List Node) :
    FailsOnly (Failure env (nodes.flatMap Node.relations) [.group]) (renderGroups env nodes) := by
  rw [renderGroups]
  split
  · exact failsOnly_ok _ _
  · exact (Node.renderAll_failsOnly nodes).bind fun parts => failsOnly_ok _ _

theorem renderOrders_failsOnly (orders : List Ordering) :
    FailsOnly (Failure env (orders.flatMap (·.node.relations)) [.order])
      (renderOrders env orders) := by
  rw [renderOrders]
  split
  · exact failsOnly_ok _ _
  · exact (FailsOnly.members fun o _ => o.render_failsOnly).bind fun parts => failsOnly_ok _ _

/-- The places that a statement has. -/
def places : List Context :=
  [.selectList, .tableReference, .group, .order] ++ Predicate.places

/-- A statement fails in one of its clauses, and blames a relation that it
mentions. -/
theorem render_failsOnly (s : Statement) :
    FailsOnly (Failure env s.relations places) (s.render env) := by
  rw [render]
  refine FailsOnly.bind ?projections fun _ => FailsOnly.bind ?source fun _ =>
    FailsOnly.bind ?joins fun _ => FailsOnly.bind ?conditions fun _ =>
    FailsOnly.bind ?groups fun _ => FailsOnly.bind ?orders fun _ => failsOnly_ok _ _
  case projections =>
    exact (renderProjections_failsOnly s.projections).widen
      (fun r hr => mem_relations.mpr (by tauto)) (by simp [places])
  case source =>
    exact (renderSource_failsOnly s.source).widen
      (fun r hr => mem_relations.mpr (by tauto)) (by simp [places])
  case joins =>
    exact (FailsOnly.members fun j _ => j.render_failsOnly).widen
      (fun r hr => mem_relations.mpr (by tauto)) (by simp [places, Predicate.places])
  case conditions =>
    exact (renderConditions_failsOnly s.conditions).widen
      (fun r hr => mem_relations.mpr (by tauto)) (by simp [places, Predicate.places])
  case groups =>
    exact (renderGroups_failsOnly s.groups).widen
      (fun r hr => mem_relations.mpr (by tauto)) (by simp [places])
  case orders =>
    exact (renderOrders_failsOnly s.orders).widen
      (fun r hr => mem_relations.mpr (by tauto)) (by simp [places])

end Statement

-- ===================================================== the command line

/-- The failures of a command that are no relation without a name. -/
def CommandError.Resolved (e : CommandError) : Prop :=
  e.diagnostic.code ≠ .unresolvedRelation

theorem CommandError.resolved_config (cause : ConfigError) : (config cause).Resolved :=
  DiagnosticCode.noConfusion

theorem Files.document_failsOnly (files : Files) (file : String) {α : Type}
    (ofJson? : Json → Option α) :
    FailsOnly CommandError.Resolved (files.document file ofJson?) := by
  rw [Files.document]
  split
  · exact failsOnly_error DiagnosticCode.noConfusion
  · split
    · exact failsOnly_ok _ _
    · exact failsOnly_error DiagnosticCode.noConfusion

theorem Column.ofArgument_failsOnly (text : String) :
    FailsOnly CommandError.Resolved (Column.ofArgument text) := by
  rw [Column.ofArgument]
  split
  · exact failsOnly_ok _ _
  · exact failsOnly_error DiagnosticCode.noConfusion

namespace Invocation

/-- A command names the relations of a node before it renders the node. -/
theorem renderNode_failsOnly (config : Config) (context : Context) (column : Option Column)
    (node : Node) :
    FailsOnly (fun e => e.code ≠ .unresolvedRelation)
      (renderNode config context column node) := by
  rw [renderNode]
  exact node.render_failsOnly.mono fun _ he => he.not_unresolved (Naming.covers_christenAll _ _)

/-- A command names the relations of a statement before it renders it. -/
theorem renderStatement_failsOnly (config : Config) (s : Statement) :
    FailsOnly (fun e => e.code ≠ .unresolvedRelation) (renderStatement config s) := by
  rw [renderStatement]
  exact s.render_failsOnly.mono fun _ he => he.not_unresolved (Naming.covers_christenAll _ _)

theorem answer_failsOnly (inv : Invocation) (files : Files) :
    FailsOnly CommandError.Resolved (inv.answer files) := by
  rw [answer]
  have hconfig : FailsOnly CommandError.Resolved ((inv.configuration files).mapError .config) :=
    FailsOnly.mapError fun cause _ => CommandError.resolved_config cause
  split
  · next file context column _ =>
    refine hconfig.bind fun config => (files.document_failsOnly file _).bind fun node => ?_
    refine FailsOnly.bind ?_ fun column => FailsOnly.bind ?_ fun line => failsOnly_ok _ _
    · cases column with
      | none => exact failsOnly_ok _ _
      | some text =>
          exact (Column.ofArgument_failsOnly text).bind fun column => failsOnly_ok _ _
    · exact FailsOnly.mapError (renderNode_failsOnly config context column node)
  · next file _ =>
    refine hconfig.bind fun config => (files.document_failsOnly file _).bind fun s => ?_
    refine FailsOnly.bind ?_ fun line => failsOnly_ok _ _
    exact FailsOnly.mapError (renderStatement_failsOnly config s)
  · next file _ =>
    rw [startConfig]
    split
    · exact failsOnly_ok _ _
    · exact failsOnly_error (CommandError.resolved_config _)
    · exact failsOnly_error DiagnosticCode.noConfusion

end Invocation

-- ======================================================= after christening

/-- Once the relations of a tree were asked for, in any state of the names
and whatever else is asked for later, no rendering of the tree reports a
relation without a name; and the command line never does. -/
theorem christened_never_unresolved (env : Environment) (later : List Christening) :
    (∀ (node : Node) (context : Context) (hint : Option Column) (e : RenderError),
        node.render (env.performAll (.node node :: later)) context hint = .error e →
          e.code ≠ .unresolvedRelation)
      ∧ (∀ (p : Predicate) (context : Context) (e : RenderError),
        p.render (env.performAll (.predicate p :: later)) context = .error e →
          e.code ≠ .unresolvedRelation)
      ∧ (∀ (s : Statement) (e : RenderError),
        s.render (env.performAll (.statement s :: later)) = .error e →
          e.code ≠ .unresolvedRelation)
      ∧ (∀ (inv : Invocation) (files : Files) (e : CommandError),
        inv.answer files = .error e → e.diagnostic.code ≠ .unresolvedRelation) := by
  refine ⟨fun node context hint e he => ?_, fun p context e he => ?_, fun s e he => ?_,
    fun inv files e he => ?_⟩
  · exact (node.render_failsOnly e he).not_unresolved (env.covers_performAll_cons (.node node) later)
  · exact (p.render_failsOnly e he).not_unresolved (env.covers_performAll_cons (.predicate p) later)
  · exact (s.render_failsOnly e he).not_unresolved (env.covers_performAll_cons (.statement s) later)
  · exact inv.answer_failsOnly files e he

/-- A self-join with an empty group still fails, for the group. -/
theorem christened_never_unresolved_empty_group :
    ∃ (s : Statement) (e : RenderError),
      s.render ((Environment.ofConfig {}).performAll [.statement s, .relation { name := "v" }])
          = .error e
        ∧ e = .emptyGroup .or .whereClause ∧ e.code ≠ .unresolvedRelation := by
  obtain ⟨s, hs⟩ : ∃ s : Statement, s.render ((Environment.ofConfig {}).performAll
      [.statement s, .relation { name := "v" }]) = .error (.emptyGroup .or .whereClause) :=
    ⟨{ source := .table { name := "u" }
       joins := [⟨.inner, .table { name := "u", occurrence := 1 }, [.group .or []]⟩] }, rfl⟩
  obtain ⟨-, -, hstatement, -⟩ :=
    christened_never_unresolved (Environment.ofConfig {}) [.relation { name := "v" }]
  exact ⟨s, _, hs, rfl, hstatement s _ hs⟩

end QueryText
