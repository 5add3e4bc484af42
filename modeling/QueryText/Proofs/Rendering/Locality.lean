/-
What a rendering depends on. A tree is rendered in the same way in two
environments that quote alike and give the relations of the tree the same
names, whatever other names they know (`Node.render_eq_of_sameNames`,
`Predicate.render_eq_of_sameNames`, `Statement.render_eq_of_sameNames`). A
tree is compared with itself here, so this is the comparison of two
renderings with nothing that varies and with equality of texts.

The text of an inner query is kept while the session goes on. As names that
are given stay, it remains what the query is rendered to; and as new names
are none of those in use, no later relation takes a name that stands in it
(`rendering_local_and_stable`).
-/
import QueryText.Proofs.Naming.Invariant
import QueryText.Proofs.Rendering.Simulation

namespace QueryText

-- ================================================== a tree beside itself

/-- Nothing varies. -/
def identical : Variation where
  label _ l m := m = l
  scalar _ _ s t := t = s

theorem reflexive_identical : identical.Reflexive := ⟨fun _ _ => rfl, fun _ _ _ => rfl⟩

theorem Node.varies_identical (node : Node) (context : Context) (hint : Option Column) :
    node.Varies identical context hint node :=
  node.varies_self reflexive_identical context hint

theorem Predicate.varies_identical (p : Predicate) : p.Varies identical p := by
  induction p with
  | binary operator left right =>
      exact .binary (left.varies_identical _ _) (right.varies_identical _ _)
  | group connective members ih => exact .group (forall₂_self ih)
  | raw sql => exact .raw (sql.varies_identical _ _)

theorem Join.varies_identical (j : Join) : j.Varies identical j where
  kind := rfl
  relation := j.relation.varies_identical _ _
  conditions := forall₂_self fun p _ => p.varies_identical

theorem Statement.varies_identical (s : Statement) : s.Varies identical s where
  projections := forall₂_self fun node _ => node.varies_identical _ _
  source := s.source.varies_identical _ _
  joins := forall₂_self fun j _ => j.varies_identical
  conditions := forall₂_self fun p _ => p.varies_identical
  groups := forall₂_self fun node _ => node.varies_identical _ _
  orders := forall₂_self fun o _ => ⟨o.node.varies_identical _ _, rfl⟩
  limit := rfl
  offset := rfl

/-- Where literals do not vary, the pieces are rendered in step when names and
literals are quoted in step and labels are written in step. -/
theorem simulates_of_same_scalars {v : Variation} {R : String → String → Prop}
    {env other : Environment} (hcomposes : Composes R)
    (hidentifier : ∀ name, R (env.identifier name) (other.identifier name))
    (hvalue : ∀ literal column,
      Agree R (env.quoter.value literal column) (other.quoter.value literal column))
    (hscalar : ∀ {context hint s t}, v.scalar context hint s t → t = s)
    (hlabel : ∀ {context l m}, v.label context l m → ∀ {a b}, R a b →
      R (a ++ env.aliasSuffix context l) (b ++ other.aliasSuffix context m)) :
    Simulates v R env other where
  toComposes := hcomposes
  identifier := hidentifier
  label := hlabel
  scalar {context hint s t} h := by
    rw [hscalar h]
    exact Scalar.render_agree (hvalue _ _)
  bare h _ := congrArg (fun s : Scalar => s.value.bare) (hscalar h)
  isNull h := congrArg (fun s : Scalar => s.value.isNull) (hscalar h)

/-- A tree beside itself is rendered in step when names and literals are
quoted in step. -/
theorem simulates_identical {R : String → String → Prop} {env other : Environment}
    (hcomposes : Composes R)
    (hidentifier : ∀ name, R (env.identifier name) (other.identifier name))
    (hvalue : ∀ literal column,
      Agree R (env.quoter.value literal column) (other.quoter.value literal column)) :
    Simulates identical R env other := by
  refine simulates_of_same_scalars hcomposes hidentifier hvalue id fun {context l m} h a b hab => ?_
  rw [show m = l from h]
  cases l with
  | none => simpa [Environment.aliasSuffix] using hab
  | some l => exact hcomposes.labelled context hab (hidentifier l)

-- ========================================================== the same text

/-- Equal pieces are put together to equal texts. -/
theorem composes_eq : Composes Eq where
  empty := rfl
  joined ha hb _ := by rw [ha, hb]
  called hf ha := by rw [hf, ha]

/-- Results that agree on equal values are the same. -/
theorem Agree.eq {ε α : Type} {x y : Except ε α} (h : Agree Eq x y) : x = y := by
  cases x with
  | ok a =>
      cases y with
      | ok b => exact congrArg Except.ok h
      | error e => exact h.elim
  | error e =>
      cases y with
      | ok b => exact h.elim
      | error e' => exact congrArg Except.error h

variable {env other : Environment}

/-- Environments that quote alike write all pieces alike. -/
theorem identical_simulates (hquoter : other.quoter = env.quoter) :
    Simulates identical Eq env other := by
  refine simulates_identical composes_eq (fun name => ?_) fun literal column => ?_
  · rw [Environment.identifier, Environment.identifier, hquoter]
  · rw [hquoter]
    exact Agree.refl fun _ _ => rfl

theorem Node.render_eq_of_sameNames (hquoter : other.quoter = env.quoter) {node : Node}
    (hnames : SameNames env other node.relations) (context : Context) (hint : Option Column) :
    node.render other context hint = node.render env context hint := by
  have hagree := node.render_simulates (identical_simulates hquoter)
    (node.varies_identical context hint) hnames fun _ _ => rfl
  exact hagree.eq.symm

theorem Predicate.render_eq_of_sameNames (hquoter : other.quoter = env.quoter) {p : Predicate}
    (hnames : SameNames env other p.relations) (context : Context) :
    p.render other context = p.render env context := by
  have hagree := p.renderWhere_simulates (identical_simulates hquoter) p.varies_identical hnames
    fun _ _ => rfl
  rw [render, render, hagree.eq]

theorem Join.render_eq_of_sameNames (hquoter : other.quoter = env.quoter) {j : Join}
    (hnames : SameNames env other j.relations) : j.render other = j.render env := by
  have hagree := j.render_simulates (identical_simulates hquoter) j.varies_identical hnames
    fun _ _ => rfl
  exact hagree.eq.symm

theorem Statement.render_eq_of_sameNames (hquoter : other.quoter = env.quoter) {s : Statement}
    (hnames : SameNames env other s.relations) : s.render other = s.render env := by
  have hagree := render_simulates (identical_simulates hquoter) s.varies_identical hnames
    fun _ _ => rfl
  exact hagree.eq.symm

-- ============================================================ later names

/-- Relations that have names have the same ones later. -/
theorem Environment.sameNames_performAll {rs : List Relation} (h : env.naming.Covers rs)
    (later : List Christening) : SameNames env (env.performAll later) rs := by
  intro r hr
  obtain ⟨name, hname⟩ := Option.isSome_iff_exists.mp (h r hr)
  have hlater : (env.naming.performAll later).nameOf? r = some name :=
    Naming.nameOf?_performAll hname later
  exact hlater.trans hname.symm

/-- A relation that is named later gets none of the names that are given. -/
theorem Environment.nameOf?_ne_of_later (hreachable : env.naming.Reachable)
    {later : List Christening} {r t : Relation} {name : String} (hr : env.nameOf? r = none)
    (hlater : (env.performAll later).nameOf? r = some name) : env.nameOf? t ≠ some name := by
  intro ht
  have htlater : (env.naming.performAll later).nameOf? t = some name :=
    Naming.nameOf?_performAll ht later
  -- Two relations of one name would be the same, but only `t` had one before.
  have hsame : r = t :=
    (hreachable.performAll later).consistent.injective r t name hlater htlater
  rw [hsame, ht] at hr
  cases hr

/-- Environments that quote alike and agree on the relations of a tree render
it to the same result. Hence the text of an inner query that was stored once
its relations had names is what the query is rendered to ever after, and a
relation that is named later is not displayed under any name that the
relations of the stored text have. -/
theorem rendering_local_and_stable (env : Environment) :
    (∀ other : Environment, other.quoter = env.quoter →
      (∀ (node : Node) (context : Context) (hint : Option Column),
          SameNames env other node.relations →
            node.render other context hint = node.render env context hint)
        ∧ (∀ (p : Predicate) (context : Context), SameNames env other p.relations →
            p.render other context = p.render env context)
        ∧ (∀ s : Statement, SameNames env other s.relations → s.render other = s.render env))
      ∧ (∀ (s : Statement) (source : Relation) (stored : Subselect), env.naming.Reachable →
          env.naming.Covers s.relations → s.toSubselect env source = .ok stored →
            ∀ later : List Christening,
              s.render (env.performAll later) = .ok stored.sql
                ∧ ∀ r, env.nameOf? r = none → ∀ name,
                    (env.performAll later).nameOf? r = some name →
                      ∀ t ∈ s.relations, env.nameOf? t ≠ some name) := by
  refine ⟨fun other hquoter => ⟨?node, ?predicate, ?statement⟩, ?stored⟩
  case node =>
    exact fun node context hint hnames => Node.render_eq_of_sameNames hquoter hnames context hint
  case predicate =>
    exact fun p context hnames => Predicate.render_eq_of_sameNames hquoter hnames context
  case statement => exact fun s hnames => Statement.render_eq_of_sameNames hquoter hnames
  case stored =>
    intro s source stored hreachable hcovers hstored later
    refine ⟨?_, fun r hr name hlater t _ => env.nameOf?_ne_of_later hreachable hr hlater⟩
    obtain ⟨sql, hsql, hsubselect⟩ := bind_eq_ok.mp hstored
    cases hsubselect
    have hquoter : (env.performAll later).quoter = env.quoter := rfl
    rw [← hsql]
    exact Statement.render_eq_of_sameNames hquoter
      (Environment.sameNames_performAll hcovers later)

/-- The big orders. -/
private def bigOrders : Statement where
  projections := [.attr { name := "user", relation := { name := "orders" } }]
  source := .table { name := "orders" }
  conditions :=
    [.binary .greaterThan (.attr { name := "total", relation := { name := "orders" } })
      (.literal (.int 100))]

/-- A stored query stays as it is when a second use of its table is named,
which gets another name. -/
theorem rendering_local_and_stable_nested :
    ∃ (env : Environment) (stored : Subselect),
      bigOrders.toSubselect env { name := "big" } = .ok stored
        ∧ stored.sql
          = "SELECT \"orders\".\"user\" FROM \"orders\" WHERE \"orders\".\"total\" > 100"
        ∧ (env.performAll [.relation { name := "orders", occurrence := 1 }]).nameOf?
            { name := "orders", occurrence := 1 } = some "orders_2"
        ∧ bigOrders.render (env.performAll [.relation { name := "orders", occurrence := 1 }])
          = .ok stored.sql
        ∧ ∀ t ∈ bigOrders.relations, env.nameOf? t ≠ some "orders_2" := by
  have hstored : bigOrders.toSubselect
      ((Environment.ofConfig {}).performAll [.statement bigOrders]) { name := "big" }
      = .ok ⟨"SELECT \"orders\".\"user\" FROM \"orders\" WHERE \"orders\".\"total\" > 100",
          { name := "big" }⟩ := by
    decide +kernel
  obtain ⟨-, hstable⟩ :=
    rendering_local_and_stable ((Environment.ofConfig {}).performAll [.statement bigOrders])
  obtain ⟨hrender, hfresh⟩ := hstable bigOrders _ _ (.perform _ (.empty _))
    (Environment.covers_performAll_cons _ (.statement bigOrders) []) hstored
    [.relation { name := "orders", occurrence := 1 }]
  exact ⟨_, _, hstored, rfl, by decide +kernel, hrender,
    hfresh { name := "orders", occurrence := 1 } (by decide +kernel) "orders_2"
      (by decide +kernel)⟩

end QueryText
