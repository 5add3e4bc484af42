/-
Where the columns of a tree stand in its text. A text weaves columns when it
holds them in order, each written with its qualifier, and when each is a
word by itself: before it the text ends or stops at a blank or an opening
bracket, and after it the text ends or goes on with a blank, a comma or a
closing bracket. So nothing is put in front of a qualifier.

The text of a node or of a condition weaves all of its columns, at whatever
depth they are (`Node.render_weaves`, `Predicate.renderWhere_weaves`). The
columns are those with simple names; the others are pieces of SQL.
-/
import QueryText.Proofs.Rendering.Induction
import QueryText.Proofs.Rendering.Outcome

namespace QueryText

-- ============================================================= boundaries

/-- A word can begin after this text. -/
def Opens (text : String) : Prop :=
  text = "" ∨ ∃ before, ∃ c ∈ [" ", "("], text = before ++ c

/-- A word can end before this text. -/
def Closes (text : String) : Prop :=
  text = "" ∨ ∃ after, ∃ c ∈ [" ", ",", ")"], text = c ++ after

theorem opens_blank (text : String) : Opens (text ++ " ") :=
  .inr ⟨text, " ", by decide, rfl⟩

theorem opens_bracket (text : String) : Opens (text ++ "(") :=
  .inr ⟨text, "(", by decide, rfl⟩

theorem closes_blank (text : String) : Closes (" " ++ text) :=
  .inr ⟨text, " ", by decide, rfl⟩

theorem closes_comma (text : String) : Closes ("," ++ text) :=
  .inr ⟨text, ",", by decide, rfl⟩

theorem closes_bracket (text : String) : Closes (")" ++ text) :=
  .inr ⟨text, ")", by decide, rfl⟩

/-- Only the end of a text decides whether a word can begin after it. -/
theorem Opens.after {text : String} (h : Opens text) (hne : text ≠ "") (front : String) :
    Opens (front ++ text) := by
  rcases h with rfl | ⟨before, c, hc, rfl⟩
  · exact absurd rfl hne
  · exact .inr ⟨front ++ before, c, hc, by rw [String.append_assoc]⟩

/-- Only the beginning of a text decides whether a word can end before it. -/
theorem Closes.before {text : String} (h : Closes text) (hne : text ≠ "") (behind : String) :
    Closes (text ++ behind) := by
  rcases h with rfl | ⟨after, c, hc, rfl⟩
  · exact absurd rfl hne
  · exact .inr ⟨after ++ behind, c, hc, by rw [String.append_assoc]⟩

theorem Opens.prepend {front text : String} (hfront : Opens front) (h : Opens text) :
    Opens (front ++ text) := by
  by_cases hne : text = ""
  · rwa [hne, String.append_empty]
  · exact h.after hne front

theorem Closes.append {text behind : String} (h : Closes text) (hbehind : Closes behind) :
    Closes (text ++ behind) := by
  by_cases hne : text = ""
  · rwa [hne, String.empty_append]
  · exact h.before hne behind

/-- What stands between words. -/
structure Breaks (sep : String) : Prop where
  nonempty : sep ≠ ""
  closes : Closes sep
  opens : Opens sep

theorem breaks_comma : Breaks ", " := ⟨by decide, closes_comma " ", opens_blank ","⟩

/-- A word with blanks on both sides. -/
theorem breaks_word (word : String) : Breaks (" " ++ word ++ " ") where
  nonempty h := absurd (String.append_eq_empty_iff.mp h).2 (by decide)
  closes := (closes_blank word).append (closes_blank "")
  opens := opens_blank _

-- ================================================================= weaves

/-- The text holds the columns in order, each of them a word. -/
inductive Weaves (write : Attribute → String) : List Attribute → String → Prop
  | gap (text : String) : Weaves write [] text
  | column {before after : String} (a : Attribute) {listed : List Attribute}
      (hbefore : Opens before) (hafter : Closes after) (h : Weaves write listed after) :
      Weaves write (a :: listed) (before ++ write a ++ after)

variable {write : Attribute → String} {listed others : List Attribute} {a b text : String}

namespace Weaves

/-- A column by itself. -/
theorem single (write : Attribute → String) (reference : Attribute) :
    Weaves write [reference] (write reference) := by
  have h : Weaves write [reference] ("" ++ write reference ++ "") :=
    .column reference (.inl rfl) (.inl rfl) (.gap "")
  simpa using h

theorem prepend {front : String} (hfront : Opens front) (h : Weaves write listed text) :
    Weaves write listed (front ++ text) := by
  cases h with
  | gap => exact .gap _
  | @column before after reference _ hbefore hafter h =>
      have hlonger := Weaves.column reference (hfront.prepend hbefore) hafter h
      simpa only [String.append_assoc] using hlonger

theorem append {behind : String} (h : Weaves write listed text) (hbehind : Closes behind) :
    Weaves write listed (text ++ behind) := by
  induction h with
  | gap => exact .gap _
  | @column before after reference _ hbefore hafter _ ih =>
      have hlonger := Weaves.column reference hbefore (hafter.append hbehind) ih
      simpa only [String.append_assoc] using hlonger

/-- Two texts one after the other, with a separator between them. -/
theorem joined {sep : String} (ha : Weaves write listed a) (hb : Weaves write others b)
    (hsep : Breaks sep) : Weaves write (listed ++ others) (a ++ sep ++ b) := by
  induction ha with
  | gap text => exact hb.prepend (hsep.opens.after hsep.nonempty text)
  | @column before after reference listed hbefore hafter h ih =>
      have hbehind : Closes (after ++ sep ++ b) := by
        rw [String.append_assoc]
        exact hafter.append (hsep.closes.before hsep.nonempty b)
      have hlonger := Weaves.column reference hbefore hbehind ih
      simpa only [String.append_assoc, List.cons_append] using hlonger

/-- Texts with separators between them. -/
theorem intercalate {sep : String} (hsep : Breaks sep) {α : Type} {g : α → List Attribute}
    {items : List α} {texts : List String}
    (h : List.Forall₂ (fun item text => Weaves write (g item) text) items texts) :
    Weaves write (items.flatMap g) (sep.intercalate texts) := by
  induction h with
  | nil => exact .gap _
  | @cons item text items texts h hrest ih =>
      rw [List.flatMap_cons]
      cases hrest with
      | nil => simpa using h
      | cons hnext hrest =>
          rw [String.intercalate_cons_cons]
          exact h.joined ih hsep

end Weaves

-- ================================================================= columns

/-- The display name of a relation; empty without one. -/
def Environment.displayName (env : Environment) (r : Relation) : String :=
  (env.nameOf? r).getD ""

/-- The display name of a relation that has one. -/
theorem Environment.nameOf?_displayName {env : Environment} {r : Relation}
    (h : (env.nameOf? r).isSome) : env.nameOf? r = some (env.displayName r) := by
  obtain ⟨name, hname⟩ := Option.isSome_iff_exists.mp h
  rw [displayName, hname, Option.getD_some]

/-- The qualifier of the columns of a relation. -/
def Environment.qualifier (env : Environment) (r : Relation) : String :=
  env.identifier (env.displayName r)

/-- A column with its qualifier. -/
def Environment.column (env : Environment) (a : Attribute) : String :=
  env.qualifier a.relation ++ "." ++ env.identifier a.name

namespace Node

mutual

/-- The columns of a node that are written with qualifiers, from left to
right. -/
def columns : Node → List Attribute
  | .attr a => if Identifier.isSimple a.name then [a] else []
  | .expression _ operand _ => operand.columns
  | .scalar _ => []
  | .value operand => operand.columns
  | .array items => columnsOfAll items
  | .range low high => low.columns ++ high.columns
  | .table _ => []
  | .subselect _ => []

/-- The columns of several nodes that are written with qualifiers. -/
def columnsOfAll : List Node → List Attribute
  | [] => []
  | node :: rest => node.columns ++ columnsOfAll rest

end

theorem columnsOfAll_eq (nodes : List Node) : columnsOfAll nodes = nodes.flatMap columns := by
  induction nodes with
  | nil => rfl
  | cons node rest ih => rw [columnsOfAll, ih, List.flatMap_cons]

end Node

namespace Predicate

mutual

/-- The columns of a condition that are written with qualifiers. -/
def columns : Predicate → List Attribute
  | .binary _ left right => left.columns ++ right.columns
  | .group _ members => columnsOfAll members
  | .raw sql => sql.columns

/-- The columns of several conditions that are written with qualifiers. -/
def columnsOfAll : List Predicate → List Attribute
  | [] => []
  | p :: rest => p.columns ++ columnsOfAll rest

end

theorem columnsOfAll_eq (ps : List Predicate) : columnsOfAll ps = ps.flatMap columns := by
  induction ps with
  | nil => rfl
  | cons p rest ih => rw [columnsOfAll, ih, List.flatMap_cons]

end Predicate

-- ================================================================ the texts

variable {env : Environment} {context : Context} {hint : Option Column}

/-- A relation is resolved to its display name. -/
theorem Environment.displayName_of_resolve {kind : NodeKind} {r : Relation} {name : String}
    (h : env.resolve context kind r = .ok name) : env.displayName r = name := by
  rw [resolve] at h
  split at h
  · next hname =>
    cases h
    rw [displayName, hname, Option.getD_some]
  · cases h

theorem Environment.closes_aliasSuffix (label : Option String) :
    Closes (env.aliasSuffix context label) := by
  cases label with
  | none => exact .inl rfl
  | some label =>
      rw [aliasSuffix]
      split
      · exact Closes.before (closes_blank "AS ") (by decide) _
      · exact .inl rfl

theorem Attribute.render_weaves {a : Attribute} (h : a.render env context = .ok text) :
    Weaves env.column (Node.attr a).columns text := by
  obtain ⟨-, -, h⟩ := bind_eq_ok.mp h
  obtain ⟨sql, hsql, h⟩ := bind_eq_ok.mp h
  cases h
  refine Weaves.append ?_ (Environment.closes_aliasSuffix a.label)
  rw [qualified] at hsql
  rw [Node.columns]
  split at hsql
  · next hsimple =>
    obtain ⟨name, hname, hsql⟩ := bind_eq_ok.mp hsql
    cases hsql
    rw [if_pos hsimple, ← Environment.displayName_of_resolve hname]
    exact .single env.column a
  · next hsimple =>
    rw [if_neg hsimple]
    exact .gap _

/-- A function, or the word DISTINCT, around a text. -/
theorem Weaves.applied {function : String} (h : Weaves write listed text) :
    Weaves write listed (applied function text) := by
  unfold QueryText.applied
  split
  · exact h.prepend (opens_blank function)
  · exact (h.prepend (opens_bracket function)).append (closes_bracket "")

/-- The members of a list or a group. -/
theorem Weaves.bracketed (h : Weaves write listed text) :
    Weaves write listed ("(" ++ text ++ ")") :=
  (h.prepend (opens_bracket "")).append (closes_bracket "")

/-- The text of a node holds its columns. -/
theorem Node.render_weaves {node : Node} (h : node.render env context hint = .ok text) :
    Weaves env.column node.columns text := by
  induction node generalizing text with
  | attr a => exact Attribute.render_weaves h
  | expression function operand label ih =>
      rw [render] at h
      obtain ⟨-, -, h⟩ := bind_eq_ok.mp h
      obtain ⟨sql, hsql, h⟩ := bind_eq_ok.mp h
      cases h
      exact (ih hsql).applied.append (Environment.closes_aliasSuffix label)
  | scalar s => exact .gap _
  | value operand ih =>
      by_cases hs : ∃ s, operand = .scalar s
      · obtain ⟨s, rfl⟩ := hs
        exact .gap _
      · rw [render_value (not_exists.mp hs)] at h
        obtain ⟨-, -, h⟩ := bind_eq_ok.mp h
        exact ih h
  | array items ih =>
      rw [render, renderAll_eq] at h
      obtain ⟨-, -, h⟩ := bind_eq_ok.mp h
      obtain ⟨texts, htexts, h⟩ := bind_eq_ok.mp h
      cases h
      rw [columns, columnsOfAll_eq]
      have hall := forall₂_of_mapM htexts fun item hitem _ => ih item hitem
      exact (Weaves.intercalate breaks_comma hall).bracketed
  | range low high ihlow ihhigh =>
      rw [render] at h
      obtain ⟨-, -, h⟩ := bind_eq_ok.mp h
      obtain ⟨a, ha, h⟩ := bind_eq_ok.mp h
      obtain ⟨b, hb, h⟩ := bind_eq_ok.mp h
      cases h
      exact (ihlow ha).joined (ihhigh hb) (breaks_word "AND")
  | table r => exact .gap _
  | subselect s => exact .gap _

/-- The texts of several nodes hold their columns. -/
theorem Node.renderAll_weaves {nodes : List Node} {texts : List String}
    (h : Node.renderAll env context hint nodes = .ok texts) :
    Weaves env.column (nodes.flatMap columns) (", ".intercalate texts) := by
  rw [renderAll_eq] at h
  exact .intercalate breaks_comma (forall₂_of_mapM h fun _ _ _ => render_weaves)

/-- The text of a condition holds its columns. -/
theorem Predicate.renderWhere_weaves {p : Predicate} (h : p.renderWhere env = .ok text) :
    Weaves env.column p.columns text := by
  induction p generalizing text with
  | binary operator left right =>
      rw [renderWhere, Node.renderBeside_eq] at h
      obtain ⟨a, ha, h⟩ := bind_eq_ok.mp h
      obtain ⟨b, hb, h⟩ := bind_eq_ok.mp h
      cases h
      have hjoined := (Node.render_weaves ha).joined (Node.render_weaves hb)
        (breaks_word (operator.sqlFor right))
      rw [columns]
      simpa only [String.append_assoc] using hjoined
  | group connective members ih =>
      rw [columns, columnsOfAll_eq]
      cases members with
      | nil => cases h
      | cons first rest =>
          cases rest with
          | nil =>
              rw [renderWhere] at h
              simpa using ih first List.mem_cons_self h
          | cons second rest =>
              rw [renderWhere_group] at h
              obtain ⟨texts, htexts, h⟩ := bind_eq_ok.mp h
              cases h
              have hall := forall₂_of_mapM htexts fun p hp _ => ih p hp
              exact (Weaves.intercalate (breaks_word connective.keyword) hall).bracketed
  | raw sql => exact Node.render_weaves h

/-- The text of a conjunction holds the columns of its conditions. -/
theorem Predicate.renderConjunction_weaves {ps : List Predicate}
    (h : renderConjunction env ps = .ok text) :
    Weaves env.column (ps.flatMap columns) text := by
  rw [renderConjunction, renderAll_eq] at h
  obtain ⟨texts, htexts, h⟩ := bind_eq_ok.mp h
  cases h
  exact .intercalate (breaks_word "AND") (forall₂_of_mapM htexts fun _ _ _ => renderWhere_weaves)

end QueryText
