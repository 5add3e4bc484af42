/-
The documents of trees, read back: nodes, conditions and statements.

What must not occur in a tree is a literal of a binary64 number, at any
depth. The two facts about a tree without them (its document is exact, and is
read as the tree, settled) go by induction on it. A reader of trees stops at a
depth that it is given. The document of a part lies in a field, or in a list
in a field, so it is less deep than the whole by one at least, and the depth of
the whole is enough.
-/
import QueryText.Document.Statement
import QueryText.Proofs.Document.Values

namespace QueryText

open Document

attribute [local simp] List.lookup_cons List.lookup_append List.countP_cons List.countP_append
  Node.settled Predicate.settled Join.settled Ordering.settled Statement.settled

-- ================================================================= depths

namespace Document

variable {tag name : String} {fields : Fields} {depth : Nat}

/-- A tagged value has a depth of its own. -/
theorem exists_depth_of_tagging (h : (tagging tag name fields).depth ≤ depth) :
    ∃ d, depth = d + 1 ∧ ∀ f ∈ fields, f.2.depth ≤ d := by
  rw [tagging, Json.depth] at h
  refine ⟨depth - 1, by omega, ?_⟩
  intro f hf
  have hfield := Json.depth_le_of_mem_fields (List.mem_cons_of_mem (tag, Json.text name) hf)
  omega

/-- The items of a list are read at the depth of the list. -/
theorem listOf_within {α : Type} {read : Json → Option α} {write : α → Json} {back : α → α}
    {items : List α} (hdepth : (Json.list (items.map write)).depth ≤ depth)
    (h : ∀ a ∈ items, (write a).depth ≤ depth → read (write a) = some (back a)) :
    listOf read (.list (items.map write)) = some (items.map back) := by
  apply listOf_map
  intro a ha
  apply h a ha
  have hitem := Json.depth_le_of_mem (List.mem_map_of_mem (f := write) ha)
  rw [Json.depth] at hdepth
  omega

end Document

-- ================================================================== nodes

namespace Node

theorem toJsonAll_eq (nodes : List Node) : toJsonAll nodes = nodes.map toJson := by
  induction nodes with
  | nil => rfl
  | cons node rest ih => rw [toJsonAll, ih, List.map_cons]

theorem exact_toJsonAll {nodes : List Node} (h : ∀ node ∈ nodes, node.toJson.Exact) :
    (Json.list (toJsonAll nodes)).Exact := by
  rw [toJsonAll_eq]
  exact .list (List.forall_mem_map.mpr h)

theorem Every.toJson_exact {node : Node} (h : node.Every Literal.FloatFree) :
    node.toJson.Exact := by
  induction h with
  | attr a => exact a.fields_exact.tagging
  | expression function label h ih => exact AllExact.tagging (by simp [ih])
  | scalar h => exact (Scalar.fields_exact h).tagging
  | value h ih => exact AllExact.tagging (by simp [ih])
  | array h ih => exact AllExact.tagging (by simp [exact_toJsonAll ih])
  | range hlow hhigh ihlow ihhigh => exact AllExact.tagging (by simp [ihlow, ihhigh])
  | table r => exact r.fields_exact.tagging
  | subselect s => exact s.fields_exact.tagging

/-- The document of a tree is read as the settled tree, at every depth that is
enough for the document. -/
theorem ofJsonWithin?_toJson {node : Node} (h : node.Every Literal.FloatFree) {inner : Bool}
    {depth : Nat} (hdepth : node.toJson.depth ≤ depth) :
    ofJsonWithin? depth inner node.toJson = some node.settled := by
  -- A depth of zero is enough for no document, so each case takes one off.
  induction h generalizing inner depth with
  | attr a =>
    obtain ⟨depth, rfl, _⟩ := exists_depth_of_tagging hdepth
    rw [toJson, ofJsonWithin?, tagged_tagging (by decide) a.fields_exact
      (by simp [Attribute.fields])]
    simp [Attribute.ofFields?_fields]
  | @expression operand function label h ih =>
    obtain ⟨depth, rfl, hparts⟩ := exists_depth_of_tagging hdepth
    have hoperand : ofJsonWithin? depth true operand.toJson = some operand.settled :=
      ih (hparts ("operand", operand.toJson) (by simp))
    rw [toJson, ofJsonWithin?, tagged_tagging (by decide) (by simp [h.toJson_exact]) (by simp)]
    simp only [Option.bind_eq_bind, Option.bind_some]
    rw [record_object (by simp), Option.bind_some,
      optional_of_lookup (a := label) .text (by simp) (fun _ => rfl) rfl]
    simp [required, Json.text?, hoperand]
  | @scalar s h =>
    obtain ⟨depth, rfl, _⟩ := exists_depth_of_tagging hdepth
    rw [toJson, ofJsonWithin?, tagged_tagging (by decide) (Scalar.fields_exact h)
      (by simp [Scalar.fields])]
    simp [Scalar.ofFields?_fields]
  | @value operand h ih =>
    obtain ⟨depth, rfl, hparts⟩ := exists_depth_of_tagging hdepth
    have hoperand : ofJsonWithin? depth true operand.toJson = some operand.settled :=
      ih (hparts ("operand", operand.toJson) (by simp))
    rw [toJson, ofJsonWithin?, tagged_tagging (by decide) (by simp [h.toJson_exact]) (by simp)]
    simp [record_object, required, hoperand]
  | @array items h ih =>
    obtain ⟨depth, rfl, hparts⟩ := exists_depth_of_tagging hdepth
    have hlist : (Json.list (toJsonAll items)).depth ≤ depth :=
      hparts ("items", .list (toJsonAll items)) (by simp)
    have hitems : listOf (ofJsonWithin? depth true) (.list (toJsonAll items))
        = some (settledAll items) := by
      rw [toJsonAll_eq] at hlist ⊢
      rw [settledAll_eq]
      exact listOf_within hlist fun item hitem => ih item hitem
    have hexact := exact_toJsonAll fun item hitem => (h item hitem).toJson_exact
    rw [toJson, ofJsonWithin?, tagged_tagging (by decide) (by simp [hexact]) (by simp)]
    simp [record_object, required, hitems]
  | @range low high hlow hhigh ihlow ihhigh =>
    obtain ⟨depth, rfl, hparts⟩ := exists_depth_of_tagging hdepth
    have hlowBack : ofJsonWithin? depth true low.toJson = some low.settled :=
      ihlow (hparts ("low", low.toJson) (by simp))
    have hhighBack : ofJsonWithin? depth true high.toJson = some high.settled :=
      ihhigh (hparts ("high", high.toJson) (by simp))
    rw [toJson, ofJsonWithin?, tagged_tagging (by decide)
      (by simp [hlow.toJson_exact, hhigh.toJson_exact]) (by simp)]
    simp [record_object, required, hlowBack, hhighBack]
  | table r =>
    obtain ⟨depth, rfl, _⟩ := exists_depth_of_tagging hdepth
    have hrelation : Relation.ofJson? (.object r.fields) = some r := r.ofJson?_toJson
    rw [toJson, ofJsonWithin?, tagged_tagging (by decide) r.fields_exact
      (by simp [Relation.fields])]
    simp [hrelation]
  | subselect s =>
    obtain ⟨depth, rfl, _⟩ := exists_depth_of_tagging hdepth
    rw [toJson, ofJsonWithin?, tagged_tagging (by decide) s.fields_exact
      (by simp [Subselect.fields])]
    simp [Subselect.ofFields?_fields]

theorem ofJson?_toJson {node : Node} (h : node.Every Literal.FloatFree) (inner : Bool) :
    ofJson? inner node.toJson = some node.settled :=
  ofJsonWithin?_toJson h (Nat.le_refl _)

theorem listOf_toJsonAll {nodes : List Node} (h : ∀ node ∈ nodes, node.Every Literal.FloatFree)
    (inner : Bool) :
    listOf (ofJson? inner) (.list (toJsonAll nodes)) = some (nodes.map settled) := by
  rw [toJsonAll_eq]
  exact listOf_map fun node hnode => ofJson?_toJson (h node hnode) inner

end Node

-- ============================================================= conditions

namespace Predicate

theorem toJsonAll_eq (ps : List Predicate) : toJsonAll ps = ps.map toJson := by
  induction ps with
  | nil => rfl
  | cons p rest ih => rw [toJsonAll, ih, List.map_cons]

theorem exact_toJsonAll {ps : List Predicate} (h : ∀ p ∈ ps, p.toJson.Exact) :
    (Json.list (toJsonAll ps)).Exact := by
  rw [toJsonAll_eq]
  exact .list (List.forall_mem_map.mpr h)

theorem Every.toJson_exact {p : Predicate} (h : p.Every Literal.FloatFree) : p.toJson.Exact := by
  induction h with
  | binary operator hleft hright =>
    exact AllExact.tagging (by simp [hleft.toJson_exact, hright.toJson_exact])
  | group connective h ih => exact AllExact.tagging (by simp [exact_toJsonAll ih])
  | raw h => exact AllExact.tagging (by simp [h.toJson_exact])

theorem operator_name (operator : Operator) :
    constant true Operator.all Operator.name (.text operator.name) = some operator := by
  cases operator <;> rfl

/-- The document of a condition is read as the settled condition, at every
depth that is enough for the document. -/
theorem ofJsonWithin?_toJson {p : Predicate} (h : p.Every Literal.FloatFree) {inner : Bool}
    {depth : Nat} (hdepth : p.toJson.depth ≤ depth) :
    ofJsonWithin? depth inner p.toJson = some p.settled := by
  -- The nodes of a condition have a reader that finds its depth by itself.
  induction h generalizing inner depth with
  | @binary operator left right hleft hright =>
    obtain ⟨depth, rfl, _⟩ := exists_depth_of_tagging hdepth
    rw [toJson, ofJsonWithin?, tagged_tagging (by decide)
      (by simp [hleft.toJson_exact, hright.toJson_exact]) (by simp)]
    simp [record_object, required, operator_name, Node.ofJson?_toJson hleft,
      Node.ofJson?_toJson hright]
  | @group connective members h ih =>
    obtain ⟨depth, rfl, hparts⟩ := exists_depth_of_tagging hdepth
    have hlist : (Json.list (toJsonAll members)).depth ≤ depth :=
      hparts ("predicates", .list (toJsonAll members)) (by simp)
    have hmembers : listOf (ofJsonWithin? depth true) (.list (toJsonAll members))
        = some (settledAll members) := by
      rw [toJsonAll_eq] at hlist ⊢
      rw [settledAll_eq]
      exact listOf_within hlist fun p hp => ih p hp
    have hexact := exact_toJsonAll fun p hp => (h p hp).toJson_exact
    have htag : connective.name ∈ tags := by
      cases connective <;> decide
    rw [toJson, ofJsonWithin?, tagged_tagging htag (by simp [hexact]) (by simp)]
    -- The reader has a branch of its own for each connective.
    cases connective with
    | and => simp [Connective.name, record_object, required, hmembers]
    | or => simp [Connective.name, record_object, required, hmembers]
  | @raw sql h =>
    obtain ⟨depth, rfl, _⟩ := exists_depth_of_tagging hdepth
    rw [toJson, ofJsonWithin?, tagged_tagging (by decide) (by simp [h.toJson_exact]) (by simp)]
    simp [record_object, required, Node.ofJson?_toJson h]

theorem ofJson?_toJson {p : Predicate} (h : p.Every Literal.FloatFree) (inner : Bool) :
    ofJson? inner p.toJson = some p.settled :=
  ofJsonWithin?_toJson h (Nat.le_refl _)

theorem listOf_toJsonAll {ps : List Predicate} (h : ∀ p ∈ ps, p.Every Literal.FloatFree)
    (inner : Bool) :
    listOf (ofJson? inner) (.list (toJsonAll ps)) = some (ps.map settled) := by
  rw [toJsonAll_eq]
  exact listOf_map fun p hp => ofJson?_toJson (h p hp) inner

end Predicate

-- ============================================================= statements

namespace Join

theorem Every.toJson_exact {j : Join} (h : j.Every Literal.FloatFree) : j.toJson.Exact := by
  have hconditions := Predicate.exact_toJsonAll fun p hp => (h.conditions p hp).toJson_exact
  exact AllExact.object (by simp [h.relation.toJson_exact, hconditions])

theorem kind_name (kind : JoinKind) :
    constant false JoinKind.all JoinKind.name (.text kind.name) = some kind := by
  cases kind <;> rfl

theorem ofJson?_toJson {j : Join} (h : j.Every Literal.FloatFree) :
    ofJson? j.toJson = some j.settled := by
  rw [toJson, ofJson?, record_object (by simp)]
  simp [required, defaulted, kind_name, Node.ofJson?_toJson h.relation,
    Predicate.listOf_toJsonAll h.conditions]

end Join

theorem Direction.ofJson?_name (d : Direction) : ofJson? (.text d.name) = some d := by
  cases d <;> rfl

namespace Ordering

theorem toJson_exact {o : Ordering} (h : o.node.Every Literal.FloatFree) : o.toJson.Exact :=
  AllExact.object (by simp [h.toJson_exact])

theorem ofJson?_toJson {o : Ordering} (h : o.node.Every Literal.FloatFree) :
    ofJson? o.toJson = some o.settled := by
  rw [toJson, ofJson?, record_object (by simp)]
  simp only [Option.bind_eq_bind, Option.bind_some]
  rw [optional_of_lookup (a := o.direction) (fun d : Direction => .text d.name) (by simp)
    Direction.ofJson?_name rfl]
  simp [required, Node.ofJson?_toJson h]

end Ordering

namespace Statement

theorem Every.toJson_exact {s : Statement} (h : s.Every Literal.FloatFree) : s.toJson.Exact := by
  have hprojections := Node.exact_toJsonAll fun n hn => (h.projections n hn).toJson_exact
  have hjoins : (Json.list (s.joins.map Join.toJson)).Exact :=
    .list (List.forall_mem_map.mpr fun j hj => (h.joins j hj).toJson_exact)
  have hconditions := Predicate.exact_toJsonAll fun p hp => (h.conditions p hp).toJson_exact
  have hgroups := Node.exact_toJsonAll fun n hn => (h.groups n hn).toJson_exact
  have horders : (Json.list (s.orders.map Ordering.toJson)).Exact :=
    .list (List.forall_mem_map.mpr fun o ho => Ordering.toJson_exact (h.orders o ho))
  have hcount : ∀ n : UInt64, (Json.whole n.toNat).Exact := fun n => exact_natural n.toNat_lt
  exact AllExact.object (by simp [hprojections, h.source.toJson_exact, hjoins, hconditions,
    hgroups, horders, hcount])

theorem ofJson?_toJson {s : Statement} (h : s.Every Literal.FloatFree) :
    ofJson? s.toJson = some s.settled := by
  have hjoins : listOf Join.ofJson? (.list (s.joins.map Join.toJson))
      = some (s.joins.map Join.settled) :=
    listOf_map fun j hj => Join.ofJson?_toJson (h.joins j hj)
  have horders : listOf Ordering.ofJson? (.list (s.orders.map Ordering.toJson))
      = some (s.orders.map Ordering.settled) :=
    listOf_map fun o ho => Ordering.ofJson?_toJson (h.orders o ho)
  rw [toJson, ofJson?, record_object (by simp)]
  simp only [Option.bind_eq_bind, Option.bind_some]
  rw [optional_of_lookup (a := s.limit) (fun n : UInt64 => .whole n.toNat) (by simp)
      uint64?_whole rfl,
    optional_of_lookup (a := s.offset) (fun n : UInt64 => .whole n.toNat) (by simp)
      uint64?_whole rfl]
  simp [required, defaulted, hjoins, horders, Node.listOf_toJsonAll h.projections,
    Node.ofJson?_toJson h.source, Predicate.listOf_toJsonAll h.conditions,
    Node.listOf_toJsonAll h.groups]

end Statement
end QueryText
