/-
Which trees a context accepts, and which failure is reported. `Node.Fits`
spells out the language of every context: what may stand there, and again
inside of it. `Node.inspected` lists the nodes of a tree that are looked at,
a node before what is in it. Each of them has a rule of its own
(`Node.ownFailure?`): its context must admit its kind, the relation that it
is written with must have a name, and a literal must be one that is written.

A rendering reports the first of these failures and succeeds when there is
none (`Node.failure?_render`). The language is what remains of the rules when
names and literals are in order (`Node.fits_iff`): a literal in a value is
passed over where values pass, for there it is text and follows no rule.
-/
import QueryText.Proofs.Naming.Session
import QueryText.Proofs.Rendering.Induction

namespace QueryText

-- ========================================================== the languages

/-- The contexts in which a kind of node may stand. -/
def NodeKind.places : NodeKind → List Context
  | .attr => [.selectList, .order, .group, .whereCondition, .attributeOperand]
  | .expression => [.selectList, .whereCondition, .attributeOperand]
  | .scalar => [.whereCondition, .attributeOperand]
  | .value => [.selectList, .whereClause, .order, .group, .whereCondition, .attributeOperand]
  | .array => [.attributeOperand]
  | .range => [.attributeOperand]
  | .table => [.tableReference]
  | .subselect =>
    [.selectList, .whereCondition, .attributeOperand, .tableReference, .selectStatement]
  | .predicate => [.whereClause]

/-- A context has a rule for the kinds that may stand there. -/
theorem Context.admits_iff {context : Context} {kind : NodeKind} :
    context.admits kind = true ↔ context ∈ kind.places := by
  cases kind <;> cases context <;> decide

/-- The contexts in which a value is text that is already SQL. -/
theorem Context.passesValues_iff {context : Context} :
    context.passesValues = true ↔ context ∈ [.selectList, .whereClause, .order, .group] := by
  cases context <;> decide

namespace Node

/-- The language of a context: which trees may stand there. What stands in a
call, a value, a list or a range is of the same language. -/
inductive Fits (context : Context) : Node → Prop
  | attr (a : Attribute) (h : context ∈ NodeKind.attr.places) : Fits context (.attr a)
  | expression (function : String) {operand : Node} (label : Option String)
      (h : context ∈ NodeKind.expression.places) (hoperand : Fits context operand) :
      Fits context (.expression function operand label)
  | scalar (s : Scalar) (h : context ∈ NodeKind.scalar.places) : Fits context (.scalar s)
  /-- Text that is already SQL. -/
  | text (s : Scalar) (h : context ∈ [.selectList, .whereClause, .order, .group]) :
      Fits context (.value (.scalar s))
  | value {operand : Node} (h : context ∈ NodeKind.value.places)
      (hoperand : Fits context operand) : Fits context (.value operand)
  | array {items : List Node} (h : context ∈ NodeKind.array.places)
      (hitems : ∀ item ∈ items, Fits context item) : Fits context (.array items)
  | range {low high : Node} (h : context ∈ NodeKind.range.places) (hlow : Fits context low)
      (hhigh : Fits context high) : Fits context (.range low high)
  | table (r : Relation) (h : context ∈ NodeKind.table.places) : Fits context (.table r)
  | subselect (s : Subselect) (h : context ∈ NodeKind.subselect.places) :
      Fits context (.subselect s)

-- ============================================================== the rules

mutual

/-- The nodes of a tree that are looked at, each before what is in it. -/
def inspected (context : Context) : Node → List Node
  | .attr a => [.attr a]
  | .expression function operand label =>
    .expression function operand label :: operand.inspected context
  | .scalar s => [.scalar s]
  | .value operand =>
    .value operand ::
      match operand with
      | .scalar s => if context.passesValues then [] else [.scalar s]
      | node => node.inspected context
  | .array items => .array items :: inspectedOfAll context items
  | .range low high => .range low high :: (low.inspected context ++ high.inspected context)
  | .table r => [.table r]
  | .subselect s => [.subselect s]

/-- The nodes of several trees that are looked at. -/
def inspectedOfAll (context : Context) : List Node → List Node
  | [] => []
  | node :: rest => node.inspected context ++ inspectedOfAll context rest

end

/-- The literals that a tree quotes. -/
def Quotes (context : Context) (node : Node) (s : Scalar) : Prop :=
  context.admits .scalar = true ∧ .scalar s ∈ node.inspected context

/-- The failure of a node whose relation has no name. -/
def unresolved? (env : Environment) (context : Context) (kind : NodeKind) (r : Relation) :
    Option RenderError :=
  if (env.nameOf? r).isSome then none else some (.unresolved r kind context)

/-- The failure of a node by its own rule: its kind has no place in the
context, the relation that it is written with has no name, or it is a literal
that is refused. -/
def ownFailure? (env : Environment) (context : Context) (hint : Option Column) (node : Node) :
    Option RenderError :=
  if context.admits node.kind then
    match node with
    | .attr a =>
      if Identifier.isSimple a.name then unresolved? env context .attr a.relation else none
    | .table r => unresolved? env context .table r
    | .subselect s =>
      if context ∈ [.selectList, .tableReference] then
        unresolved? env context .subselect s.source
      else none
    | .scalar s =>
      (failure? (env.quoter.value s.value (s.hint context hint))).map (.unquotable · context)
    | .expression _ _ _ | .value _ | .array _ | .range _ _ => none
  else some (.unsupported node.kind context)

variable {env : Environment} {context : Context} {hint : Option Column}

theorem inspectedOfAll_eq (nodes : List Node) :
    inspectedOfAll context nodes = nodes.flatMap (inspected context) := by
  induction nodes with
  | nil => rfl
  | cons node rest ih => rw [inspectedOfAll, ih, List.flatMap_cons]

theorem inspected_value_scalar (s : Scalar) :
    (value (.scalar s)).inspected context
      = value (.scalar s) :: if context.passesValues then [] else [.scalar s] := by
  rw [inspected]

theorem inspected_value {operand : Node} (h : ∀ s, operand ≠ .scalar s) :
    (value operand).inspected context = value operand :: operand.inspected context := by
  cases operand with
  | scalar s => exact absurd rfl (h s)
  | _ => rfl

-- ======================================================= the first failure

/-- What is done after the kind was admitted fails by itself, or else the
kind does. -/
theorem failure?_demand {α : Type} (kind : NodeKind) {f : Unit → Except RenderError α} :
    failure? (context.demand kind >>= f)
      = if context.admits kind then failure? (f ()) else some (.unsupported kind context) := by
  rw [Context.demand]
  split <;> rfl

theorem failure?_resolve (kind : NodeKind) (r : Relation) :
    failure? (env.resolve context kind r) = unresolved? env context kind r := by
  rw [Environment.resolve, unresolved?]
  cases env.nameOf? r <;> rfl

/-- A node around others has a rule for its kind only. -/
theorem findSome?_around {node : Node} (hrule : node.ownFailure? env context hint
      = if context.admits node.kind then none else some (.unsupported node.kind context))
    (rest : List Node) :
    (node :: rest).findSome? (ownFailure? env context hint)
      = if context.admits node.kind then rest.findSome? (ownFailure? env context hint)
        else some (.unsupported node.kind context) := by
  rw [List.findSome?_cons, hrule]
  by_cases hkind : context.admits node.kind = true
  · rw [if_pos hkind, if_pos hkind]
  · rw [if_neg hkind, if_neg hkind]

end Node

variable {env : Environment} {context : Context} {hint : Option Column}

theorem Attribute.failure?_render (a : Attribute) :
    failure? (a.render env context) = (Node.attr a).ownFailure? env context hint := by
  rw [Attribute.render, Node.failure?_demand, failure?_return, qualified, Node.ownFailure?,
    Node.kind]
  by_cases hsimple : Identifier.isSimple a.name = true
  · simp only [hsimple, if_true]
    rw [failure?_return, Node.failure?_resolve]
  · simp only [hsimple]
    rfl

theorem Scalar.failure?_render (s : Scalar) :
    failure? (s.render env context hint) = (Node.scalar s).ownFailure? env context hint := by
  rw [Scalar.render, Node.failure?_demand, Node.ownFailure?, Node.kind]
  cases env.quoter.value s.value (s.hint context hint) <;> rfl

theorem Subselect.failure?_render (s : Subselect) :
    failure? (s.render env context) = (Node.subselect s).ownFailure? env context hint := by
  unfold Subselect.render
  rw [Node.failure?_demand, Node.ownFailure?, Node.kind]
  cases context with
  | selectList | tableReference =>
      rw [failure?_return, Node.failure?_resolve]
      rfl
  | _ => rfl

theorem Relation.failure?_render (r : Relation) :
    failure? (r.render env context) = (Node.table r).ownFailure? env context hint := by
  rw [Relation.render, Node.failure?_demand, failure?_return, Node.failure?_resolve,
    Node.ownFailure?, Node.kind]

namespace Node

/-- A rendering fails as the first of the nodes that are looked at does. -/
theorem failure?_render (node : Node) :
    failure? (node.render env context hint)
      = (node.inspected context).findSome? (ownFailure? env context hint) := by
  have hsingle : ∀ node : Node, [node].findSome? (ownFailure? env context hint)
      = node.ownFailure? env context hint := fun node => List.findSome?_singleton
  induction node with
  | attr a => exact a.failure?_render.trans (hsingle _).symm
  | expression function operand label ih =>
      rw [render, inspected, failure?_demand, findSome?_around rfl, failure?_return, ih]
      rfl
  | scalar s => exact s.failure?_render.trans (hsingle _).symm
  | value operand ih =>
      by_cases hs : ∃ s, operand = .scalar s
      · obtain ⟨s, rfl⟩ := hs
        rw [render_value_scalar, inspected_value_scalar, failure?_demand, findSome?_around rfl]
        by_cases hpasses : context.passesValues = true
        · rw [if_pos hpasses, if_pos hpasses]
          rfl
        · rw [if_neg hpasses, if_neg hpasses, hsingle, ← s.failure?_render]
          rfl
      · rw [render_value (not_exists.mp hs), inspected_value (not_exists.mp hs), failure?_demand,
          findSome?_around rfl, ih]
        rfl
  | array items ih =>
      rw [render, inspected, failure?_demand, findSome?_around rfl, failure?_return, renderAll_eq,
        inspectedOfAll_eq, failure?_mapM ih, findSome?_flatMap]
      rfl
  | range low high ihlow ihhigh =>
      -- the high end is rendered only after the low end did not fail
      rw [render, inspected, failure?_demand, findSome?_around rfl, List.findSome?_append,
        ← ihlow, ← ihhigh, failure?_bind fun _ => failure?_return _ _]
      rfl
  | table r => exact r.failure?_render.trans (hsingle _).symm
  | subselect s => exact s.failure?_render.trans (hsingle _).symm

-- ==================================================== language and failures

/-- A tree is of the context's language when the context admits the kind of
each node that is looked at. -/
theorem fits_iff (node : Node) :
    node.Fits context ↔ ∀ m ∈ node.inspected context, context.admits m.kind = true := by
  simp only [Context.admits_iff]
  induction node with
  | attr a =>
      rw [inspected, List.forall_mem_singleton]
      exact ⟨fun | .attr _ h => h, .attr a⟩
  | expression function operand label ih =>
      rw [inspected, List.forall_mem_cons, ← ih]
      exact ⟨fun | .expression _ _ h hoperand => ⟨h, hoperand⟩,
        fun ⟨h, hoperand⟩ => .expression function label h hoperand⟩
  | scalar s =>
      rw [inspected, List.forall_mem_singleton]
      exact ⟨fun | .scalar _ h => h, .scalar s⟩
  | value operand ih =>
      by_cases hs : ∃ s, operand = .scalar s
      · obtain ⟨s, rfl⟩ := hs
        rw [inspected_value_scalar, List.forall_mem_cons]
        by_cases hpasses : context.passesValues = true
        · -- the literal is text here, and no rule is asked for it
          rw [if_pos hpasses]
          have hcontext := Context.passesValues_iff.mp hpasses
          exact ⟨fun _ => ⟨List.mem_append_left _ hcontext, by simp⟩, fun _ => .text s hcontext⟩
        · rw [if_neg hpasses, ← inspected, ← ih]
          constructor
          · intro h
            cases h with
            | text _ h => exact absurd (Context.passesValues_iff.mpr h) hpasses
            | value h hoperand => exact ⟨h, hoperand⟩
          · rintro ⟨h, hoperand⟩
            exact .value h hoperand
      · rw [inspected_value (not_exists.mp hs), List.forall_mem_cons, ← ih]
        constructor
        · intro h
          cases h with
          | text s _ => exact absurd ⟨s, rfl⟩ hs
          | value h hoperand => exact ⟨h, hoperand⟩
        · rintro ⟨h, hoperand⟩
          exact .value h hoperand
  | array items ih =>
      rw [inspected, List.forall_mem_cons, inspectedOfAll_eq, List.forall_mem_flatMap]
      constructor
      · intro h
        cases h with
        | array h hitems => exact ⟨h, fun item hitem => (ih item hitem).mp (hitems item hitem)⟩
      · rintro ⟨h, hitems⟩
        exact .array h fun item hitem => (ih item hitem).mpr (hitems item hitem)
  | range low high ihlow ihhigh =>
      rw [inspected, List.forall_mem_cons, List.forall_mem_append, ← ihlow, ← ihhigh]
      exact ⟨fun | .range h hlow hhigh => ⟨h, hlow, hhigh⟩,
        fun ⟨h, hlow, hhigh⟩ => .range h hlow hhigh⟩
  | table r =>
      rw [inspected, List.forall_mem_singleton]
      exact ⟨fun | .table _ h => h, .table r⟩
  | subselect s =>
      rw [inspected, List.forall_mem_singleton]
      exact ⟨fun | .subselect _ h => h, .subselect s⟩

theorem relations_subset_of_mem_inspected {node m : Node} (h : m ∈ node.inspected context) :
    m.relations ⊆ node.relations := by
  induction node with
  | attr _ | scalar _ | table _ | subselect _ =>
      rw [List.mem_singleton.mp h]
      exact List.Subset.refl _
  | expression function operand label ih =>
      rcases List.mem_cons.mp h with rfl | h
      · exact List.Subset.refl _
      · exact ih h
  | value operand ih =>
      by_cases hs : ∃ s, operand = .scalar s
      · obtain ⟨s, rfl⟩ := hs
        rw [inspected_value_scalar] at h
        rcases List.mem_cons.mp h with rfl | h
        · exact List.Subset.refl _
        · split at h
          · cases h
          · exact ih h
      · rw [inspected_value (not_exists.mp hs)] at h
        rcases List.mem_cons.mp h with rfl | h
        · exact List.Subset.refl _
        · exact ih h
  | array items ih =>
      rw [inspected, inspectedOfAll_eq] at h
      rcases List.mem_cons.mp h with rfl | h
      · exact List.Subset.refl _
      · obtain ⟨item, hitem, hm⟩ := List.mem_flatMap.mp h
        intro r hr
        rw [relations, relationsOfAll_eq]
        exact List.mem_flatMap.mpr ⟨item, hitem, ih item hitem hm hr⟩
  | range low high ihlow ihhigh =>
      rcases List.mem_cons.mp h with rfl | h
      · exact List.Subset.refl _
      · rcases List.mem_append.mp h with h | h
        · exact List.Subset.trans (ihlow h) (List.subset_append_left _ _)
        · exact List.Subset.trans (ihhigh h) (List.subset_append_right _ _)

/-- With a name for its relation and text for its literal, a node fails for
its kind only. -/
theorem ownFailure?_eq_none {node : Node} (hkind : context.admits node.kind = true)
    (hnames : env.naming.Covers node.relations)
    (hliteral : ∀ s, node = .scalar s →
      ∃ sql, env.quoter.value s.value (s.hint context hint) = .ok sql) :
    node.ownFailure? env context hint = none := by
  have hresolved : ∀ (kind : NodeKind) (r : Relation), r ∈ node.relations →
      unresolved? env context kind r = none := fun kind r hr => if_pos (hnames r hr)
  unfold ownFailure?
  rw [if_pos hkind]
  cases node with
  | attr a | subselect a =>
      dsimp only
      rw [hresolved _ _ List.mem_cons_self, ite_self]
  | table r => exact hresolved _ _ List.mem_cons_self
  | scalar s =>
      obtain ⟨sql, hsql⟩ := hliteral s rfl
      simp only [hsql]
      rfl
  | expression _ _ _ | value _ | array _ | range _ _ => rfl

/-- In every environment and context: a tree whose relations have names and
whose quoted literals are not refused is rendered exactly when it is of the
context's language, and no other tree ever is. Where a rendering fails, the
error is that of the first node with a failure of its own. -/
theorem language_accepted_first_failure_reported (env : Environment) (context : Context)
    (hint : Option Column) (node : Node) :
    (env.naming.Covers node.relations →
        (∀ s, node.Quotes context s →
          ∃ sql, env.quoter.value s.value (s.hint context hint) = .ok sql) →
          ((∃ text, node.render env context hint = .ok text) ↔ node.Fits context))
      ∧ (∀ text, node.render env context hint = .ok text → node.Fits context)
      ∧ ∀ e, node.render env context hint = .error e
          ↔ (node.inspected context).findSome? (ownFailure? env context hint) = some e := by
  have hfits : ∀ text, node.render env context hint = .ok text → node.Fits context := by
    intro text h
    have hnone : failure? (node.render env context hint) = none := failure?_eq_none.mpr ⟨text, h⟩
    rw [failure?_render, List.findSome?_eq_none_iff] at hnone
    refine node.fits_iff.mpr fun m hm => ?_
    have hrule := hnone m hm
    rw [ownFailure?.eq_def] at hrule
    split at hrule
    · next hkind => exact hkind
    · cases hrule
  refine ⟨fun hnames hliterals => ⟨fun ⟨text, h⟩ => hfits text h, fun h => ?rendered⟩, hfits,
    fun e => ?failed⟩
  case rendered =>
    rw [← failure?_eq_none, failure?_render, List.findSome?_eq_none_iff]
    intro m hm
    have hkind := node.fits_iff.mp h m hm
    refine ownFailure?_eq_none hkind (fun r hr => ?_) fun s hs => ?_
    · exact hnames r (relations_subset_of_mem_inspected hm hr)
    · subst hs
      exact hliterals s ⟨hkind, hm⟩
  case failed => rw [← failure?_eq_some, failure?_render]

/-- A list with text, and with a range that has a refused number in front of a
table. -/
private def mixed (low : Literal) (high : Node) : Node :=
  .array [.value (.literal (.string "x")), .range (.literal low) high]

/-- The list is of the language when its last end is a column; with a table
there, the refused number before it is what is reported. -/
theorem language_accepted_first_failure_reported_mixed :
    ∃ env : Environment,
      (∃ text, (mixed (.int 1) (.attr { name := "age", relation := { name := "u" } })).render env
          .attributeOperand none = .ok text)
        ∧ (mixed (.decimal "1e5") (.table { name := "u" })).render env .attributeOperand none
          = .error (.unquotable (.coercion "1e5" (.decimal none none) "") .attributeOperand) := by
  obtain ⟨hlanguage, -, -⟩ := language_accepted_first_failure_reported
    ((Environment.ofConfig {}).christen [{ name := "u" }]) .attributeOperand none
    (mixed (.int 1) (.attr { name := "age", relation := { name := "u" } }))
  obtain ⟨-, -, hfailure⟩ := language_accepted_first_failure_reported
    ((Environment.ofConfig {}).christen [{ name := "u" }]) .attributeOperand none
    (mixed (.decimal "1e5") (.table { name := "u" }))
  refine ⟨_, (hlanguage ?names ?literals).mpr ?fits, (hfailure _).mpr ?first⟩
  case names => exact Naming.covers_christenAll _ _
  case literals =>
    rintro s ⟨-, hs⟩
    have hquoted : s = { value := .string "x" } ∨ s = { value := .int 1 } := by
      simpa [mixed, inspected, inspectedOfAll, literal, Context.passesValues] using hs
    rcases hquoted with rfl | rfl
    · exact ⟨_, rfl⟩
    · exact ⟨_, rfl⟩
  case fits =>
    rw [fits_iff]
    decide
  case first => decide +kernel

end Node

end QueryText
