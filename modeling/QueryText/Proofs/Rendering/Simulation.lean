/-
Two renderings in step. Let two trees vary as a `Variation` allows and let
them be rendered in two environments that give the relations the same names.
If a relation `R` between texts holds of the pieces, that is of quoted names,
of the literals that vary, and of each piece of SQL with itself, and if texts
that are put together with fixed words or brackets stay related
(`Composes`), then `R` holds of the results, or both renderings fail in the
same way (`Node.render_simulates`, `Statement.render_simulates`).

What is compared, and in which way, is left open: the two trees may differ
in what is quoted, or the two environments in how they quote.
-/
import QueryText.Proofs.Lexical.Reader
import QueryText.Proofs.Rendering.Outcome
import QueryText.Proofs.Rendering.Variation

namespace QueryText

-- ================================================================ joints

/-- Fixed words and what else stands between texts: not empty, with neither
quotes nor brackets. -/
def Joint (sep : String) : Prop :=
  sep ≠ "" ∧ ∀ c ∈ sep.toList, Quoter.isPlain c = true ∧ c ≠ '(' ∧ c ≠ ')'

instance : DecidablePred Joint := fun sep =>
  have := List.decidableBAll (fun c => Quoter.isPlain c = true ∧ c ≠ '(' ∧ c ≠ ')') sep.toList
  inferInstanceAs (Decidable (_ ∧ _))

/-- A joint is made longer by another one. -/
theorem Joint.append {a b : String} (ha : Joint a) (hb : Joint b) : Joint (a ++ b) := by
  refine ⟨?_, fun c hc => ?_⟩
  · intro hempty
    have hlist := congrArg String.toList hempty
    rw [String.toList_append, String.toList_empty] at hlist
    exact ha.1 (String.toList_eq_nil_iff.mp (List.append_eq_nil_iff.mp hlist).1)
  · rw [String.toList_append, List.mem_append] at hc
    exact hc.elim (ha.2 c) (hb.2 c)

theorem joint_sqlFor (op : Operator) (right : Node) : Joint (op.sqlFor right) := by
  cases op with
  | equal | notEqual | isIn | notIn =>
      rw [Operator.sqlFor]
      split <;> decide
  | _ =>
      rw [Operator.sqlFor]
      decide

theorem joint_digits (n : Nat) : Joint (String.ofList (Text.digits n)) := by
  refine ⟨?_, fun c hc => ?_⟩
  · intro hempty
    have hlist := congrArg String.toList hempty
    rw [String.toList_ofList, String.toList_empty] at hlist
    exact Text.digits_ne_nil n hlist
  · rw [String.toList_ofList] at hc
    have hdigit := Text.isDigit_of_mem_digits hc
    simp only [Quoter.isPlain, Bool.and_eq_true, bne_iff_ne]
    refine ⟨⟨⟨?_, ?_⟩, ?_⟩, ?_, ?_⟩ <;> · rintro rfl; exact absurd hdigit (by decide)

-- =========================================================== composition

/-- Texts that are put together in the same way stay related. -/
structure Composes (R : String → String → Prop) : Prop where
  empty : R "" ""
  joined {a a' b b' sep : String} (ha : R a a') (hb : R b b') (hsep : Joint sep) :
    R (a ++ sep ++ b) (a' ++ sep ++ b')
  called {f f' a a' : String} (hf : R f f') (ha : R a a') :
    R (f ++ "(" ++ a ++ ")") (f' ++ "(" ++ a' ++ ")")

namespace Composes

variable {R : String → String → Prop} (h : Composes R)
include h

theorem word {w : String} (hw : Joint w) : R w w := by
  simpa using h.joined h.empty h.empty hw

theorem before {w a a' : String} (hw : Joint w) (ha : R a a') : R (w ++ a) (w ++ a') := by
  simpa using h.joined h.empty ha hw

theorem after {w a a' : String} (ha : R a a') (hw : Joint w) : R (a ++ w) (a' ++ w) := by
  simpa using h.joined ha h.empty hw

theorem bracketed {a a' : String} (ha : R a a') : R ("(" ++ a ++ ")") ("(" ++ a' ++ ")") := by
  simpa using h.called h.empty ha

theorem intercalate {sep : String} (hsep : Joint sep) {l m : List String}
    (hlm : List.Forall₂ R l m) : R (sep.intercalate l) (sep.intercalate m) := by
  induction hlm with
  | nil => simpa using h.empty
  | @cons a b l m hab hlm ih =>
      cases hlm with
      | nil => simpa using hab
      | cons hcd hlm =>
          rw [String.intercalate_cons_cons, String.intercalate_cons_cons]
          exact h.joined hab ih hsep

end Composes

/-- What a result is called behind it, in a context that allows it. -/
theorem Composes.labelled {R : String → String → Prop} (h : Composes R) {env other : Environment}
    (context : Context) {l m a b : String} (hab : R a b)
    (hlm : R (env.identifier l) (other.identifier m)) :
    R (a ++ env.aliasSuffix context (some l)) (b ++ other.aliasSuffix context (some m)) := by
  simp only [Environment.aliasSuffix]
  split
  · have hnamed := h.joined hab hlm (show Joint " AS " by decide)
    simpa only [String.append_assoc] using hnamed
  · simpa using hab

/-- What the pieces of two renderings have to fulfil. -/
structure Simulates (v : Variation) (R : String → String → Prop) (env other : Environment) : Prop
    extends Composes R where
  identifier (name : String) : R (env.identifier name) (other.identifier name)
  label {context : Context} {l m : Option String} (h : v.label context l m) {a b : String}
    (hab : R a b) : R (a ++ env.aliasSuffix context l) (b ++ other.aliasSuffix context m)
  scalar {context : Context} {hint : Option Column} {s t : Scalar}
    (h : v.scalar context hint s t) :
    Agree R (s.render env context hint) (t.render other context hint)
  bare {context : Context} {hint : Option Column} {s t : Scalar}
    (h : v.scalar context hint s t) (hpasses : context.passesValues = true) :
    t.value.bare = s.value.bare
  isNull {context : Context} {hint : Option Column} {s t : Scalar}
    (h : v.scalar context hint s t) : t.value.isNull = s.value.isNull

/-- Two environments that give relations the same names. -/
def SameNames (env other : Environment) (rs : List Relation) : Prop :=
  ∀ r ∈ rs, other.nameOf? r = env.nameOf? r

theorem SameNames.subset {env other : Environment} {rs more : List Relation}
    (h : SameNames env other more) (hrs : rs ⊆ more) : SameNames env other rs :=
  fun r hr => h r (hrs hr)

-- ============================================================ the pieces

variable {v : Variation} {R : String → String → Prop} {env other : Environment}
  {context : Context} {hint : Option Column}

/-- The table of what is admitted does not depend on what varies. -/
theorem Context.demand_agree (context : Context) (kind : NodeKind) :
    Agree (fun _ _ => True) (context.demand kind) (context.demand kind) := by
  rw [Context.demand]
  split
  · exact Agree.ok trivial
  · exact Agree.error _

theorem Environment.resolve_agree (context : Context) (kind : NodeKind) {r : Relation}
    (hname : other.nameOf? r = env.nameOf? r) :
    Agree (fun a b => b = a ∧ env.nameOf? r = some a) (env.resolve context kind r)
      (other.resolve context kind r) := by
  rw [Environment.resolve, Environment.resolve, hname]
  cases env.nameOf? r with
  | some name => exact Agree.ok ⟨rfl, rfl⟩
  | none => exact Agree.error _

theorem Attribute.render_simulates (sim : Simulates v R env other) {a b : Attribute}
    (h : a.Varies v context b) (hname : other.nameOf? a.relation = env.nameOf? a.relation)
    (hfragments : Identifier.isSimple a.name = false → R a.name a.name) :
    Agree R (a.render env context) (b.render other context) := by
  rw [Attribute.render, Attribute.render]
  refine (context.demand_agree .attr).bind fun _ _ _ => ?_
  refine Agree.bind (R := R) ?_ fun x y hxy => Agree.ok (sim.label h.label hxy)
  rw [Attribute.qualified, Attribute.qualified, h.name, h.relation]
  split
  · refine (Environment.resolve_agree context .attr hname).bind ?_
    rintro _ x ⟨rfl, -⟩
    exact Agree.ok (sim.joined (sim.identifier x) (sim.identifier a.name) (by decide))
  · next hsimple => exact Agree.ok (hfragments (by simpa using hsimple))

/-- Literals are rendered in step when they are quoted in step. -/
theorem Scalar.render_agree {s t : Scalar}
    (hvalue : Agree R (env.quoter.value s.value (s.hint context hint))
      (other.quoter.value t.value (t.hint context hint))) :
    Agree R (s.render env context hint) (t.render other context hint) := by
  rw [Scalar.render, Scalar.render]
  refine (context.demand_agree .scalar).bind fun _ _ _ => ?_
  revert hvalue
  cases env.quoter.value s.value (s.hint context hint) with
  | ok a =>
      cases other.quoter.value t.value (t.hint context hint) with
      | ok b => exact id
      | error e => exact False.elim
  | error e =>
      cases other.quoter.value t.value (t.hint context hint) with
      | ok b => exact False.elim
      | error e' => exact congrArg (RenderError.unquotable · context)

theorem Subselect.render_simulates (sim : Simulates v R env other) (s : Subselect)
    (hname : other.nameOf? s.source = env.nameOf? s.source) (hsql : R s.sql s.sql) :
    Agree R (s.render env context) (s.render other context) := by
  unfold Subselect.render
  refine (context.demand_agree .subselect).bind fun _ _ _ => ?_
  cases context with
  | selectList | tableReference =>
      refine (Environment.resolve_agree _ .subselect hname).bind ?_
      rintro _ x ⟨rfl, -⟩
      refine Agree.ok ?_
      have hnamed := sim.joined (sim.bracketed hsql) (sim.identifier x)
        (show Joint " AS " by decide)
      simpa [String.append_assoc] using hnamed
  | selectStatement => exact Agree.ok hsql
  | _ => exact Agree.ok (sim.bracketed hsql)

theorem Relation.render_simulates (sim : Simulates v R env other) (r : Relation)
    (hname : other.nameOf? r = env.nameOf? r)
    (hfragments : Identifier.isSimpleTable r.name = false →
      R r.name r.name ∧ ∀ name, env.nameOf? r = some name → R name name) :
    Agree R (r.render env context) (r.render other context) := by
  rw [Relation.render, Relation.render]
  refine (context.demand_agree .table).bind fun _ _ _ => ?_
  refine (Environment.resolve_agree context .table hname).bind ?_
  rintro _ x ⟨rfl, hx⟩
  refine Agree.ok ?_
  by_cases hsimple : Identifier.isSimpleTable r.name = true
  · simp only [hsimple, if_true]
    split
    · exact sim.identifier r.name
    · exact sim.joined (sim.identifier r.name) (sim.identifier x) (by decide)
  · have hraw := hfragments (by simpa using hsimple)
    simp only [hsimple]
    split
    · exact hraw.1
    · exact sim.joined hraw.1 (hraw.2 x hx) (by decide)

/-- Lists are rendered in step when their members are. -/
theorem Agree.members {α : Type} {V : α → α → Prop} {f g : α → Except RenderError String}
    {relations : α → List Relation} {fragments : α → List String} {items items' : List α}
    (h : List.Forall₂ V items items') (hnames : SameNames env other (items.flatMap relations))
    (hfragments : ∀ f ∈ items.flatMap fragments, R f f)
    (hmembers : ∀ item ∈ items, ∀ item', V item item' → SameNames env other (relations item) →
      (∀ f ∈ fragments item, R f f) → Agree R (f item) (g item')) :
    Agree (List.Forall₂ R) (items.mapM f) (items'.mapM g) := by
  refine Agree.mapM (forall₂_of_mem h fun item hitem item' hvary => ?_)
  have hitemNames : SameNames env other (relations item) :=
    List.forall_mem_flatMap.mp hnames item hitem
  have hitemFragments : ∀ f ∈ fragments item, R f f :=
    List.forall_mem_flatMap.mp hfragments item hitem
  exact hmembers item hitem item' hvary hitemNames hitemFragments

-- ================================================================= nodes

/-- A function, or the word DISTINCT, around texts in step. -/
theorem Composes.applied (h : Composes R) {function a b : String}
    (hfunction : R function function) (hab : R a b) :
    R (applied function a) (applied function b) := by
  unfold QueryText.applied
  split
  · exact h.joined hfunction hab (by decide)
  · exact h.called hfunction hab

/-- Nodes that vary are rendered in step. -/
theorem Node.render_simulates (sim : Simulates v R env other) {node node' : Node}
    (h : node.Varies v context hint node') (hnames : SameNames env other node.relations)
    (hfragments : ∀ f ∈ node.fragments env context, R f f) :
    Agree R (node.render env context hint) (node'.render other context hint) := by
  induction node generalizing node' with
  | attr a =>
      cases h with
      | attr h =>
          refine Attribute.render_simulates sim h (hnames _ List.mem_cons_self) fun hsimple => ?_
          exact hfragments a.name (by simp [Node.fragments, hsimple])
  | expression function operand label ih =>
      cases h with
      | expression h hlabel =>
          rw [Node.render, Node.render]
          refine (context.demand_agree .expression).bind fun _ _ _ => ?_
          have hoperand := ih h hnames fun f hf => hfragments f (List.mem_cons_of_mem _ hf)
          refine hoperand.bind fun a b hab => Agree.ok (sim.label hlabel ?_)
          exact sim.applied (hfragments function List.mem_cons_self) hab
  | scalar s =>
      cases h with
      | scalar h => exact sim.scalar h
  | value operand ih =>
      cases h with
      | @value _ operand' h =>
          by_cases hs : ∃ s, operand = .scalar s
          · obtain ⟨s, rfl⟩ := hs
            cases h with
            | scalar h =>
                rw [Node.render_value_scalar, Node.render_value_scalar]
                refine (context.demand_agree .value).bind fun _ _ _ => ?_
                split
                · next hpasses =>
                  rw [sim.bare h hpasses]
                  exact Agree.ok (hfragments _ (by simp [Node.fragments, hpasses]))
                · exact sim.scalar h
          · have hs' : ∀ s, operand' ≠ .scalar s := by
              rintro s rfl
              cases h with
              | scalar _ => exact hs ⟨_, rfl⟩
            rw [Node.render_value (not_exists.mp hs), Node.render_value hs']
            rw [Node.fragments_value (not_exists.mp hs)] at hfragments
            exact (context.demand_agree .value).bind fun _ _ _ => ih h hnames hfragments
  | array items ih =>
      cases h with
      | array h =>
          rw [Node.render, Node.render, Node.renderAll_eq, Node.renderAll_eq]
          rw [Node.relations, Node.relationsOfAll_eq] at hnames
          rw [Node.fragments, Node.fragmentsOfAll_eq] at hfragments
          refine (context.demand_agree .array).bind fun _ _ _ => ?_
          refine (Agree.members h hnames hfragments fun item hitem item' hvary =>
            ih item hitem hvary).bind fun l m hlm => ?_
          exact Agree.ok (sim.bracketed (sim.intercalate (by decide) hlm))
  | range low high ihlow ihhigh =>
      cases h with
      | range hlow hhigh =>
          rw [Node.render, Node.render]
          rw [Node.relations] at hnames
          rw [Node.fragments] at hfragments
          refine (context.demand_agree .range).bind fun _ _ _ => ?_
          refine (ihlow hlow (hnames.subset (List.subset_append_left _ _)) fun f hf =>
            hfragments f (List.mem_append_left _ hf)).bind fun a b hab => ?_
          refine (ihhigh hhigh (hnames.subset (List.subset_append_right _ _)) fun f hf =>
            hfragments f (List.mem_append_right _ hf)).bind fun c d hcd => ?_
          exact Agree.ok (sim.joined hab hcd (by decide))
  | table r =>
      cases h with
      | table =>
          refine Relation.render_simulates sim r (hnames r List.mem_cons_self) fun hsimple => ?_
          refine ⟨hfragments _ ?_, fun name hname => hfragments name ?_⟩
          · simp [Node.fragments, hsimple]
          · simp [Node.fragments, hsimple, hname]
  | subselect s =>
      cases h with
      | subselect =>
          exact Subselect.render_simulates sim s (hnames _ List.mem_cons_self)
            (hfragments _ List.mem_cons_self)

/-- Lists of nodes that vary are rendered in step. -/
theorem Node.renderAll_simulates (sim : Simulates v R env other) {nodes nodes' : List Node}
    (h : List.Forall₂ (Node.Varies v context hint) nodes nodes')
    (hnames : SameNames env other (nodes.flatMap Node.relations))
    (hfragments : ∀ f ∈ nodes.flatMap (Node.fragments env context), R f f) :
    Agree (List.Forall₂ R) (Node.renderAll env context hint nodes)
      (Node.renderAll other context hint nodes') := by
  rw [Node.renderAll_eq, Node.renderAll_eq]
  exact Agree.members h hnames hfragments fun node _ _ hvary => node.render_simulates sim hvary

-- ============================================================ conditions

namespace Predicate

/-- The members of a group in step. -/
theorem join_composes (h : Composes R) (connective : Connective) {l m : List String}
    (hlm : List.Forall₂ R l m) : R (join connective l) (join connective m) := by
  refine h.bracketed (h.intercalate ?_ hlm)
  cases connective <;> decide

/-- Conditions that vary are rendered in step. -/
theorem renderWhere_simulates (sim : Simulates v R env other) {p q : Predicate}
    (h : p.Varies v q) (hnames : SameNames env other p.relations)
    (hfragments : ∀ f ∈ p.fragments env, R f f) :
    Agree R (p.renderWhere env) (q.renderWhere other) := by
  induction p generalizing q with
  | binary operator left right =>
      cases h with
      | @binary _ _ _ left' right' hleft hright =>
          rw [renderWhere, renderWhere, Node.renderBeside_eq, Node.renderBeside_eq,
            hleft.besideContext_eq, hleft.besideHint_eq]
          rw [relations] at hnames
          rw [fragments] at hfragments
          have hsql : operator.sqlFor right' = operator.sqlFor right :=
            operator.sqlFor_congr (hright.isNull_eq sim.isNull) hright.isRange_eq
          refine (left.render_simulates sim hleft (hnames.subset (List.subset_append_left _ _))
            fun f hf => hfragments f (List.mem_append_left _ hf)).bind fun a b hab => ?_
          refine (right.render_simulates sim hright (hnames.subset (List.subset_append_right _ _))
            fun f hf => hfragments f (List.mem_append_right _ hf)).bind fun c d hcd => ?_
          refine Agree.ok ?_
          have hjoint : Joint (" " ++ operator.sqlFor right ++ " ") :=
            ((show Joint " " by decide).append (joint_sqlFor operator right)).append (by decide)
          have hjoined := sim.joined hab hcd hjoint
          rw [hsql]
          simpa only [String.append_assoc] using hjoined
  | group connective members ih =>
      cases h with
      | @group _ _ members' h =>
          rw [relations, relationsOfAll_eq] at hnames
          rw [fragments, fragmentsOfAll_eq] at hfragments
          -- an empty group, a group of one, and a group in brackets
          cases h with
          | nil =>
              rw [renderWhere, renderWhere]
              exact Agree.error _
          | @cons first _ _ _ hfirst hrest =>
              cases hrest with
              | nil =>
                  rw [renderWhere, renderWhere]
                  rw [List.flatMap_singleton] at hnames hfragments
                  exact ih first List.mem_cons_self hfirst hnames hfragments
              | cons hsecond hrest =>
                  rw [renderWhere_group, renderWhere_group]
                  refine (Agree.members (.cons hfirst (.cons hsecond hrest)) hnames hfragments
                    fun p hp q hvary => ih p hp hvary).bind fun l m hlm => ?_
                  exact Agree.ok (join_composes sim.toComposes connective hlm)
  | raw sql =>
      cases h with
      | raw h =>
          rw [renderWhere, renderWhere]
          exact sql.render_simulates sim h hnames hfragments

/-- Conjunctions of conditions that vary are rendered in step. -/
theorem renderConjunction_simulates (sim : Simulates v R env other) {ps qs : List Predicate}
    (h : List.Forall₂ (Varies v) ps qs)
    (hnames : SameNames env other (ps.flatMap relations))
    (hfragments : ∀ f ∈ ps.flatMap (fragments env), R f f) :
    Agree R (renderConjunction env ps) (renderConjunction other qs) := by
  rw [renderConjunction, renderConjunction, renderAll_eq, renderAll_eq]
  refine (Agree.members h hnames hfragments fun p _ q hvary =>
    p.renderWhere_simulates sim hvary).bind fun l m hlm => ?_
  exact Agree.ok (sim.intercalate (by decide) hlm)

end Predicate

-- ============================================================= statements

/-- Lists of one form are empty together. -/
theorem isEmpty_eq_of_forall₂ {α β : Type} {S : α → β → Prop} {xs : List α} {ys : List β}
    (h : List.Forall₂ S xs ys) : ys.isEmpty = xs.isEmpty := by
  cases h <;> rfl

theorem Join.render_simulates (sim : Simulates v R env other) {j k : Join} (h : j.Varies v k)
    (hnames : SameNames env other j.relations) (hfragments : ∀ f ∈ j.fragments env, R f f) :
    Agree R (j.render env) (k.render other) := by
  rw [Join.relations, Predicate.relationsOfAll_eq] at hnames
  rw [Join.fragments] at hfragments
  rw [Join.render, Join.render, h.kind, isEmpty_eq_of_forall₂ h.conditions]
  refine (j.relation.render_simulates sim h.relation
    (hnames.subset (List.subset_append_left _ _))
    fun f hf => hfragments f (List.mem_append_left _ hf)).bind fun a b hab => ?_
  have hjoint : Joint (j.kind.keywords ++ " ") := by
    cases j.kind <;> decide
  split
  · exact Agree.ok (sim.before hjoint hab)
  · refine (Predicate.renderConjunction_simulates sim h.conditions
      (hnames.subset (List.subset_append_right _ _))
      fun f hf => hfragments f (List.mem_append_right _ hf)).bind fun c d hcd => ?_
    exact Agree.ok (sim.joined (sim.before hjoint hab) hcd (by decide))

theorem Ordering.render_simulates (sim : Simulates v R env other) {o p : Ordering}
    (h : o.Varies v p) (hnames : SameNames env other o.node.relations)
    (hfragments : ∀ f ∈ o.node.fragments env .order, R f f) :
    Agree R (o.render env) (p.render other) := by
  rw [Ordering.render, Ordering.render, h.direction]
  refine (o.node.render_simulates sim h.node hnames hfragments).bind fun a b hab => ?_
  cases o.direction with
  | none => exact Agree.ok hab
  | some d =>
      have hjoint : Joint (" " ++ d.keyword) := by
        cases d <;> decide
      have hafter := sim.after hab hjoint
      refine Agree.ok ?_
      simpa only [String.append_assoc] using hafter

namespace Statement

theorem renderCount_composes (h : Composes R) {keyword : String} (hkeyword : Joint keyword)
    (n : Option UInt64) : List.Forall₂ R (renderCount keyword n) (renderCount keyword n) := by
  cases n with
  | none => exact .nil
  | some n =>
      refine .cons (h.word ?_) .nil
      exact (hkeyword.append (by decide)).append (joint_digits n.toNat)

/-- A clause that is left out when it has no members. -/
theorem clause_agree {α : Type} {S : α → α → Prop} {x y : Except RenderError α}
    {build : α → String} (empty : Bool) (hxy : Agree S x y)
    (hbuild : ∀ a b, S a b → R (build a) (build b)) :
    Agree (List.Forall₂ R) (if empty then return [] else x >>= fun a => return [build a])
      (if empty then return [] else y >>= fun b => return [build b]) := by
  split
  · exact Agree.ok .nil
  · exact hxy.bind fun a b hab => Agree.ok (.cons (hbuild a b hab) .nil)

theorem renderProjections_simulates (sim : Simulates v R env other) {nodes nodes' : List Node}
    (h : List.Forall₂ (Node.Varies v .selectList none) nodes nodes')
    (hnames : SameNames env other (nodes.flatMap Node.relations))
    (hfragments : ∀ f ∈ nodes.flatMap (Node.fragments env .selectList), R f f) :
    Agree R (renderProjections env nodes) (renderProjections other nodes') := by
  rw [renderProjections, renderProjections, isEmpty_eq_of_forall₂ h]
  split
  · exact Agree.ok (sim.word (by decide))
  · refine (Node.renderAll_simulates sim h hnames hfragments).bind fun l m hlm => ?_
    exact Agree.ok (sim.before (by decide) (sim.intercalate (by decide) hlm))

theorem renderSource_simulates (sim : Simulates v R env other) {source source' : Node}
    (h : source.Varies v .tableReference none source')
    (hnames : SameNames env other source.relations)
    (hfragments : ∀ f ∈ source.fragments env .tableReference, R f f) :
    Agree R (renderSource env source) (renderSource other source') := by
  rw [renderSource, renderSource]
  refine (source.render_simulates sim h hnames hfragments).bind fun a b hab => ?_
  exact Agree.ok (sim.before (by decide) hab)

theorem renderConditions_simulates (sim : Simulates v R env other) {ps qs : List Predicate}
    (h : List.Forall₂ (Predicate.Varies v) ps qs)
    (hnames : SameNames env other (ps.flatMap Predicate.relations))
    (hfragments : ∀ f ∈ ps.flatMap (Predicate.fragments env), R f f) :
    Agree (List.Forall₂ R) (renderConditions env ps) (renderConditions other qs) := by
  rw [renderConditions, renderConditions, isEmpty_eq_of_forall₂ h]
  refine clause_agree _ (Predicate.renderConjunction_simulates sim h hnames hfragments) ?_
  exact fun a b hab => sim.before (by decide) hab

theorem renderGroups_simulates (sim : Simulates v R env other) {nodes nodes' : List Node}
    (h : List.Forall₂ (Node.Varies v .group none) nodes nodes')
    (hnames : SameNames env other (nodes.flatMap Node.relations))
    (hfragments : ∀ f ∈ nodes.flatMap (Node.fragments env .group), R f f) :
    Agree (List.Forall₂ R) (renderGroups env nodes) (renderGroups other nodes') := by
  rw [renderGroups, renderGroups, isEmpty_eq_of_forall₂ h]
  refine clause_agree _ (Node.renderAll_simulates sim h hnames hfragments) ?_
  exact fun l m hlm => sim.before (by decide) (sim.intercalate (by decide) hlm)

theorem renderOrders_simulates (sim : Simulates v R env other) {orders orders' : List Ordering}
    (h : List.Forall₂ (Ordering.Varies v) orders orders')
    (hnames : SameNames env other (orders.flatMap fun o => o.node.relations))
    (hfragments : ∀ f ∈ orders.flatMap fun o => o.node.fragments env .order, R f f) :
    Agree (List.Forall₂ R) (renderOrders env orders) (renderOrders other orders') := by
  rw [renderOrders, renderOrders, isEmpty_eq_of_forall₂ h]
  refine clause_agree _ (Agree.members h hnames hfragments fun o _ _ hvary =>
    o.render_simulates sim hvary) ?_
  exact fun l m hlm => sim.before (by decide) (sim.intercalate (by decide) hlm)

/-- Statements that vary are rendered in step. -/
theorem render_simulates (sim : Simulates v R env other) {s t : Statement} (h : s.Varies v t)
    (hnames : SameNames env other s.relations) (hfragments : ∀ f ∈ s.fragments env, R f f) :
    Agree R (s.render env) (t.render other) := by
  rw [render, render, h.limit, h.offset]
  refine Agree.bind (R := R) ?projections fun a b hab => Agree.bind (R := R) ?source fun c d hcd =>
    Agree.bind (R := List.Forall₂ R) ?joins fun js ks hjs =>
    Agree.bind (R := List.Forall₂ R) ?conditions fun cs ds hcs =>
    Agree.bind (R := List.Forall₂ R) ?groups fun gs hs hgs =>
    Agree.bind (R := List.Forall₂ R) ?orders fun os ps hos => ?_
  case projections =>
    exact renderProjections_simulates sim h.projections
      (hnames.subset fun r hr => mem_relations.mpr (by tauto))
      fun f hf => hfragments f (mem_fragments.mpr (by tauto))
  case source =>
    exact renderSource_simulates sim h.source
      (hnames.subset fun r hr => mem_relations.mpr (by tauto))
      fun f hf => hfragments f (mem_fragments.mpr (by tauto))
  case joins =>
    exact Agree.members h.joins (hnames.subset fun r hr => mem_relations.mpr (by tauto))
      (fun f hf => hfragments f (mem_fragments.mpr (by tauto)))
      fun j _ _ hvary => j.render_simulates sim hvary
  case conditions =>
    exact renderConditions_simulates sim h.conditions
      (hnames.subset fun r hr => mem_relations.mpr (by tauto))
      fun f hf => hfragments f (mem_fragments.mpr (by tauto))
  case groups =>
    exact renderGroups_simulates sim h.groups
      (hnames.subset fun r hr => mem_relations.mpr (by tauto))
      fun f hf => hfragments f (mem_fragments.mpr (by tauto))
  case orders =>
    exact renderOrders_simulates sim h.orders
      (hnames.subset fun r hr => mem_relations.mpr (by tauto))
      fun f hf => hfragments f (mem_fragments.mpr (by tauto))
  have hlimit := renderCount_composes sim.toComposes (show Joint "LIMIT" by decide) s.limit
  have hoffset := renderCount_composes sim.toComposes (show Joint "OFFSET" by decide) s.offset
  have hclauses := List.rel_append (List.rel_append (List.rel_append (List.rel_append
    (List.rel_append (List.rel_append (.cons hab (.cons hcd .nil)) hjs) hcs) hgs) hos) hlimit)
    hoffset
  exact Agree.ok (sim.intercalate (by decide) hclauses)

end Statement
end QueryText
