/-
Output names. A column or a call can carry a label, the name of its column
in the result. `unlabelled` takes the labels out of a tree, `labels` lists
them in the order they would be written.

Only the context decides whether a label is written. Outside of select lists
none is, so trees that differ in labels alone are rendered alike there: this
is the comparison of two renderings with labels that vary where they are
silent (`Node.render_unlabelled`, `Predicate.renderWhere_unlabelled`,
`Statement.render_unlabelledClauses`). In a select list every label is
written (`Node.render_named`). As the operand of a call is rendered in the
context of the call, this goes for labels inside of calls too.
-/
import QueryText.Proofs.Rendering.Locality
import QueryText.Proofs.Scoping.Weave

namespace QueryText

-- ========================================================= without labels

/-- The column without its label. -/
def Attribute.unlabelled (a : Attribute) : Attribute :=
  { a with label := none }

namespace Node

mutual

/-- The tree without labels. -/
def unlabelled : Node → Node
  | .attr a => .attr a.unlabelled
  | .expression function operand _ => .expression function operand.unlabelled none
  | .scalar s => .scalar s
  | .value operand => .value operand.unlabelled
  | .array items => .array (unlabelledAll items)
  | .range low high => .range low.unlabelled high.unlabelled
  | .table r => .table r
  | .subselect s => .subselect s

/-- The trees without labels. -/
def unlabelledAll : List Node → List Node
  | [] => []
  | node :: rest => node.unlabelled :: unlabelledAll rest

end

mutual

/-- The labels of a tree, from left to right; a call has its label behind
those of its operand. -/
def labels : Node → List String
  | .attr a => a.label.toList
  | .expression _ operand label => operand.labels ++ label.toList
  | .scalar _ => []
  | .value operand => operand.labels
  | .array items => labelsOfAll items
  | .range low high => low.labels ++ high.labels
  | .table _ => []
  | .subselect _ => []

/-- The labels of several trees. -/
def labelsOfAll : List Node → List String
  | [] => []
  | node :: rest => node.labels ++ labelsOfAll rest

end

theorem unlabelledAll_eq (nodes : List Node) : unlabelledAll nodes = nodes.map unlabelled := by
  induction nodes with
  | nil => rfl
  | cons node rest ih => rw [unlabelledAll, ih, List.map_cons]

theorem labelsOfAll_eq (nodes : List Node) : labelsOfAll nodes = nodes.flatMap labels := by
  induction nodes with
  | nil => rfl
  | cons node rest ih => rw [labelsOfAll, ih, List.flatMap_cons]

/-- No label is left. -/
@[simp]
theorem labels_unlabelled (node : Node) : node.unlabelled.labels = [] := by
  induction node with
  | attr a => rfl
  | expression function operand label ih => simp [unlabelled, labels, ih]
  | scalar s => rfl
  | value operand ih => simp [unlabelled, labels, ih]
  | array items ih => simpa [unlabelled, labels, unlabelledAll_eq, labelsOfAll_eq] using ih
  | range low high ihlow ihhigh => simp [unlabelled, labels, ihlow, ihhigh]
  | table r => rfl
  | subselect s => rfl

end Node

namespace Predicate

mutual

/-- The condition without labels. -/
def unlabelled : Predicate → Predicate
  | .binary operator left right => .binary operator left.unlabelled right.unlabelled
  | .group connective members => .group connective (unlabelledAll members)
  | .raw sql => .raw sql.unlabelled

/-- The conditions without labels. -/
def unlabelledAll : List Predicate → List Predicate
  | [] => []
  | p :: rest => p.unlabelled :: unlabelledAll rest

end

theorem unlabelledAll_eq (ps : List Predicate) : unlabelledAll ps = ps.map unlabelled := by
  induction ps with
  | nil => rfl
  | cons p rest ih => rw [unlabelledAll, ih, List.map_cons]

end Predicate

/-- The join without labels. -/
def Join.unlabelled (j : Join) : Join :=
  ⟨j.kind, j.relation.unlabelled, j.conditions.map Predicate.unlabelled⟩

/-- What to sort by, without labels. -/
def Ordering.unlabelled (o : Ordering) : Ordering :=
  ⟨o.node.unlabelled, o.direction⟩

/-- The statement with labels in its projections only. -/
def Statement.unlabelledClauses (s : Statement) : Statement :=
  { s with
    source := s.source.unlabelled
    joins := s.joins.map Join.unlabelled
    conditions := s.conditions.map Predicate.unlabelled
    groups := s.groups.map Node.unlabelled
    orders := s.orders.map Ordering.unlabelled }

-- ========================================================== where silent

/-- Labels vary where they are not written. -/
def silentLabels : Variation where
  label context l m := context.allowsAlias = true → m = l
  scalar _ _ s t := t = s

theorem reflexive_silentLabels : silentLabels.Reflexive := ⟨fun _ _ _ => rfl, fun _ _ _ => rfl⟩

/-- A select list is the only place for labels. -/
theorem Context.allowsAlias_eq_false {context : Context} (h : context ≠ .selectList) :
    context.allowsAlias = false := by
  cases context with
  | selectList => exact absurd rfl h
  | _ => rfl

/-- Labels that are not written leave all pieces as they are. -/
theorem silentLabels_simulates (env : Environment) : Simulates silentLabels Eq env env := by
  refine simulates_of_same_scalars composes_eq (fun _ => rfl)
    (fun _ _ => Agree.refl fun _ _ => rfl) id fun {context l m} h a b hab => ?_
  rw [hab]
  by_cases hallows : context.allowsAlias = true
  · rw [h hallows]
  · cases l <;> cases m <;> simp [Environment.aliasSuffix, hallows]

/-- A list beside the list of what is made of its members. -/
theorem forall₂_map_self {α β : Type} {R : α → β → Prop} {f : α → β} {l : List α}
    (h : ∀ a ∈ l, R a (f a)) : List.Forall₂ R l (l.map f) :=
  List.forall₂_map_right_iff.mpr (forall₂_self h)

theorem Node.varies_unlabelled (node : Node) {context : Context} (h : context ≠ .selectList)
    (hint : Option Column) : node.Varies silentLabels context hint node.unlabelled := by
  have hsilent : ∀ l m, silentLabels.label context l m := fun _ _ hallows =>
    absurd hallows (by simp [Context.allowsAlias_eq_false h])
  induction node with
  | attr a => exact .attr ⟨rfl, rfl, rfl, hsilent _ _⟩
  | expression function operand label ih => exact .expression ih (hsilent _ _)
  | scalar s => exact .scalar rfl
  | value operand ih => exact .value ih
  | array items ih =>
      rw [unlabelled, unlabelledAll_eq]
      exact .array (forall₂_map_self ih)
  | range low high ihlow ihhigh => exact .range ihlow ihhigh
  | table r => exact .table r
  | subselect s => exact .subselect s

/-- Both operands of a comparison stand outside of select lists. -/
theorem Node.besideContext_ne_selectList (left : Node) : left.besideContext ≠ .selectList := by
  cases left <;> simp [besideContext]

theorem Predicate.varies_unlabelled (p : Predicate) : p.Varies silentLabels p.unlabelled := by
  induction p with
  | binary operator left right =>
      exact .binary (left.varies_unlabelled (by decide) none)
        (right.varies_unlabelled left.besideContext_ne_selectList left.besideHint)
  | group connective members ih =>
      rw [unlabelled, unlabelledAll_eq]
      exact .group (forall₂_map_self ih)
  | raw sql => exact .raw (sql.varies_unlabelled (by decide) none)

theorem Join.varies_unlabelled (j : Join) : j.Varies silentLabels j.unlabelled where
  kind := rfl
  relation := j.relation.varies_unlabelled (by decide) none
  conditions := forall₂_map_self fun p _ => p.varies_unlabelled

theorem Statement.varies_unlabelledClauses (s : Statement) :
    s.Varies silentLabels s.unlabelledClauses where
  projections := forall₂_self fun node _ => node.varies_self reflexive_silentLabels _ _
  source := s.source.varies_unlabelled (by decide) none
  joins := forall₂_map_self fun j _ => j.varies_unlabelled
  conditions := forall₂_map_self fun p _ => p.varies_unlabelled
  groups := forall₂_map_self fun node _ => node.varies_unlabelled (by decide) none
  orders := forall₂_map_self fun o _ => ⟨o.node.varies_unlabelled (by decide) none, rfl⟩
  limit := rfl
  offset := rfl

variable {env : Environment} {context : Context} {hint : Option Column}

theorem Node.render_unlabelled (node : Node) (h : context ≠ .selectList) :
    node.unlabelled.render env context hint = node.render env context hint := by
  have hagree := node.render_simulates (silentLabels_simulates env)
    (node.varies_unlabelled h hint) (fun _ _ => rfl) fun _ _ => rfl
  exact hagree.eq.symm

theorem Predicate.renderWhere_unlabelled (p : Predicate) :
    p.unlabelled.renderWhere env = p.renderWhere env := by
  have hagree := p.renderWhere_simulates (silentLabels_simulates env) p.varies_unlabelled
    (fun _ _ => rfl) fun _ _ => rfl
  exact hagree.eq.symm

theorem Statement.render_unlabelledClauses (s : Statement) :
    s.unlabelledClauses.render env = s.render env := by
  have hagree := render_simulates (silentLabels_simulates env) s.varies_unlabelledClauses
    (fun _ _ => rfl) fun _ _ => rfl
  exact hagree.eq.symm

-- ========================================================= where written

/-- The second text is the first one with labels written into it, in order:
each as a quoted name behind AS, where the text ends or goes on with a blank,
a comma or a closing bracket. -/
inductive Named (env : Environment) : List String → String → String → Prop
  | plain (text : String) : Named env [] text text
  | label {plain named : String} (front label : String) {labels : List String}
      (hcloses : Closes named) (h : Named env labels plain named) :
      Named env (label :: labels) (front ++ plain)
        (front ++ " AS " ++ env.identifier label ++ named)

namespace Named

variable {labels : List String} {plain named : String}

theorem prepend (front : String) (h : Named env labels plain named) :
    Named env labels (front ++ plain) (front ++ named) := by
  cases h with
  | plain text => exact .plain _
  | @label plain named before label labels hcloses h =>
      have hlonger := Named.label (front ++ before) label hcloses h
      simpa only [String.append_assoc] using hlonger

theorem append {behind : String} (h : Named env labels plain named) (hbehind : Closes behind) :
    Named env labels (plain ++ behind) (named ++ behind) := by
  induction h with
  | plain text => exact .plain _
  | label before label hcloses _ ih =>
      have hlonger := Named.label before label (hcloses.append hbehind) ih
      simpa only [String.append_assoc] using hlonger

/-- One more label at the end, if there is one. -/
theorem labelled (h : Named env labels plain named) (label : Option String) :
    Named env (labels ++ label.toList) plain (named ++ env.aliasSuffix .selectList label) := by
  induction h with
  | plain text =>
      cases label with
      | none => simpa [Environment.aliasSuffix] using Named.plain text
      | some label =>
          have hlast : Named env [label] (text ++ "")
              (text ++ " AS " ++ env.identifier label ++ "") :=
            .label text label (.inl rfl) (.plain "")
          simpa [Environment.aliasSuffix, Context.allowsAlias, String.append_assoc] using hlast
  | label before first hcloses _ ih =>
      have hlonger := Named.label before first
        (hcloses.append (env.closes_aliasSuffix label)) ih
      simpa only [String.append_assoc, List.cons_append] using hlonger

/-- A function, or the word DISTINCT, around both texts. -/
theorem applied (function : String) (h : Named env labels plain named) :
    Named env labels (applied function plain) (applied function named) := by
  unfold QueryText.applied
  split
  · exact h.prepend (function ++ " ")
  · exact (h.prepend (function ++ "(")).append (closes_bracket "")

/-- Every label makes the text longer. -/
theorem length_le (h : Named env labels plain named) :
    plain.length + labels.length ≤ named.length := by
  induction h with
  | plain text => simp
  | label before label _ _ ih =>
      have hword : (" AS ").length = 4 := by decide
      simp only [String.length_append, List.length_cons, hword]
      omega

/-- The two texts are the same when there is nothing to write. -/
theorem eq_iff (h : Named env labels plain named) : named = plain ↔ labels = [] := by
  constructor
  · rintro rfl
    have hlength := h.length_le
    exact List.length_eq_zero_iff.mp (by omega)
  · rintro rfl
    cases h
    rfl

end Named

/-- In a select list all labels of a tree are written: with them it is
rendered to the text without them and the labels in it, or fails in the same
way. -/
theorem Node.render_named (env : Environment) (hint : Option Column) (node : Node) :
    Agree (fun named plain => Named env node.labels plain named)
      (node.render env .selectList hint) (node.unlabelled.render env .selectList hint) := by
  -- the tree is a chain of calls and values here: other kinds of nodes fail
  induction node with
  | attr a =>
      refine (Context.demand_agree _ .attr).bind fun _ _ _ => ?_
      refine Agree.bind (R := Eq) (Agree.refl fun _ _ => rfl) ?_
      rintro sql _ rfl
      have hplain : Named env [] sql sql := .plain sql
      have hnamed := hplain.labelled a.label
      exact Agree.ok (by simpa [Attribute.unlabelled, Environment.aliasSuffix, labels] using hnamed)
  | expression function operand label ih =>
      rw [unlabelled, render, render]
      refine (Context.demand_agree _ .expression).bind fun _ _ _ => ?_
      refine ih.bind fun named plain h => Agree.ok ?_
      simpa [Environment.aliasSuffix, labels] using (h.applied function).labelled label
  | value operand ih =>
      by_cases hs : ∃ s, operand = .scalar s
      · obtain ⟨s, rfl⟩ := hs
        exact Agree.ok (.plain _)
      · have hs' : ∀ s, operand.unlabelled ≠ .scalar s := by
          intro s h
          cases operand with
          | scalar s => exact hs ⟨s, rfl⟩
          | _ => cases h
        rw [unlabelled, render_value (not_exists.mp hs), render_value hs']
        exact (Context.demand_agree _ .value).bind fun _ _ _ => ih
  | subselect s => exact Agree.refl fun text _ => .plain text
  | scalar _ | array _ _ | range _ _ _ _ | table _ => exact Agree.error _

-- ============================================================ the theorems

/-- Labels act in select lists only. In every other context a node is
rendered as it would be without any, and so is a condition. A statement
gives its relations the same names, and is rendered to the same result, with
labels in its projections only. In a select list all labels of a node are
written. -/
theorem labels_only_in_select_lists (env : Environment) :
    (∀ (node : Node) (context : Context) (hint : Option Column), context ≠ .selectList →
        node.unlabelled.render env context hint = node.render env context hint)
      ∧ (∀ (p : Predicate) (context : Context),
          p.unlabelled.render env context = p.render env context)
      ∧ (∀ s : Statement,
          env.performAll [.statement s.unlabelledClauses] = env.performAll [.statement s]
            ∧ s.unlabelledClauses.render env = s.render env)
      ∧ (∀ (node : Node) (hint : Option Column),
          Agree (fun named plain => Named env node.labels plain named)
            (node.render env .selectList hint) (node.unlabelled.render env .selectList hint)) := by
  refine ⟨fun node context hint h => node.render_unlabelled h, fun p context => ?condition,
    fun s => ⟨?names, s.render_unlabelledClauses⟩, fun node hint => node.render_named env hint⟩
  case condition =>
    rw [Predicate.render, Predicate.render, Predicate.renderWhere_unlabelled]
  case names =>
    -- a request is served by its relations, and these do not have labels
    have hrelations : s.unlabelledClauses.relations = s.relations :=
      s.varies_unlabelledClauses.relations_eq
    simp only [Environment.performAll, Naming.performAll, List.foldl_cons, List.foldl_nil,
      Naming.perform, Christening.relations, hrelations]

/-- A column with a label. -/
private def userId : Node :=
  .attr { name := "id", relation := { name := "users" }, label := "uid" }

/-- The column in every clause, each time with its label. -/
private def userIds : Statement where
  projections := [userId]
  source := .table { name := "users" }
  conditions := [.binary .equal (.expression "ABS" userId "n") (.value userId)]
  groups := [userId]
  orders := [⟨userId, none⟩]

/-- The label is written once, in the select list. -/
theorem labels_only_in_select_lists_clauses :
    ∃ env : Environment,
      Context.order ≠ .selectList
        ∧ userId.render env .order none = .ok "\"users\".\"id\""
        ∧ userId.unlabelled.render env .order none = userId.render env .order none
        ∧ userIds.render env
          = .ok ("SELECT \"users\".\"id\" AS \"uid\" FROM \"users\" "
            ++ "WHERE ABS(\"users\".\"id\") = \"users\".\"id\" "
            ++ "GROUP BY \"users\".\"id\" ORDER BY \"users\".\"id\"")
        ∧ userIds.unlabelledClauses.render env = userIds.render env := by
  obtain ⟨hnode, -, hstatement, -⟩ :=
    labels_only_in_select_lists ((Environment.ofConfig {}).performAll [.statement userIds])
  have horder : Context.order ≠ .selectList := by decide
  exact ⟨_, horder, by decide +kernel, hnode userId .order none horder, by decide +kernel,
    (hstatement userIds).2⟩

/-- A call in a select list is written with the labels of its operand, at
whatever depth they are: they stand, in order, in the text of the operand,
so in the brackets of the call or behind DISTINCT. Without them it is
rendered to the same text but for these labels, or fails in the same way; so
the text is the same exactly when the operand has no labels. -/
theorem inner_labels_written (env : Environment) (hint : Option Column) (function : String)
    (operand : Node) (label : Option String) :
    Agree
      (fun text bare => ∃ named plain,
        text = applied function named ++ env.aliasSuffix .selectList label
          ∧ bare = applied function plain ++ env.aliasSuffix .selectList label
          ∧ Named env operand.labels plain named
          ∧ (text = bare ↔ operand.labels = []))
      ((Node.expression function operand label).render env .selectList hint)
      ((Node.expression function operand.unlabelled label).render env .selectList hint) := by
  rw [Node.render, Node.render]
  refine (Context.demand_agree _ .expression).bind fun _ _ _ => ?_
  refine (operand.render_named env hint).bind fun named plain h => Agree.ok ?_
  have hsuffix : Closes (env.aliasSuffix .selectList label) := env.closes_aliasSuffix label
  have hcall := (h.applied function).append hsuffix
  exact ⟨named, plain, rfl, rfl, h, hcall.eq_iff⟩

/-- The label of a column is written inside of a call and behind DISTINCT,
though without it both are rendered. -/
theorem label_written_inside_call :
    ∃ env : Environment, env.naming.Reachable
      ∧ (Node.expression "COUNT" userId none).render env .selectList none
        = .ok "COUNT(\"users\".\"id\" AS \"uid\")"
      ∧ (Node.expression "COUNT" userId.unlabelled none).render env .selectList none
        = .ok "COUNT(\"users\".\"id\")"
      ∧ (Node.distinct userId "x").render env .selectList none
        = .ok "DISTINCT \"users\".\"id\" AS \"uid\" AS \"x\""
      ∧ (Node.distinct userId.unlabelled "x").render env .selectList none
        = .ok "DISTINCT \"users\".\"id\" AS \"x\"" :=
  ⟨(Environment.ofConfig {}).performAll [.node userId], .perform _ (.empty _), by decide +kernel,
    by decide +kernel, by decide +kernel, by decide +kernel⟩

end QueryText
