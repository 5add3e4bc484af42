/-
The boolean structure of conditions. A condition is a formula over its
comparisons and its pieces of SQL, where a group of one member is that
member (`Predicate.formula`). Its text is a sequence of leaves, words and
brackets (`Spells`), and the one reading of this sequence is that formula
(`Predicate.readAs_formula`): a group of several members is written in
brackets, so it is an atom of whatever stands around it.

The conditions of WHERE and ON have no brackets around them. They are joined
by AND, and each of them is an atom, so they are read one by one
(`Predicate.readAs_conjunction`).
-/
import QueryText.Proofs.Condition.Grammar
import QueryText.Proofs.Rendering.Induction

namespace QueryText

open Formula

-- ========================================================== the formulas

namespace Predicate

mutual

/-- The formula that a condition is. -/
def formula : Predicate → Formula Predicate
  | .binary operator left right => .leaf (.binary operator left right)
  | .group connective members => .of connective (formulaOfAll members)
  | .raw sql => .leaf (.raw sql)

/-- The formulas of several conditions. -/
def formulaOfAll : List Predicate → List (Formula Predicate)
  | [] => []
  | p :: rest => p.formula :: formulaOfAll rest

end

theorem formulaOfAll_eq (ps : List Predicate) : formulaOfAll ps = ps.map formula := by
  induction ps with
  | nil => rfl
  | cons p rest ih => rw [formulaOfAll, ih, List.map_cons]

/-- All conditions of a list, joined by AND in their order. -/
def conjunction (ps : List Predicate) : Formula Predicate :=
  .of .and (ps.map formula)

/-- A condition is another one or stands in one of its groups. -/
inductive Occurs (q : Predicate) : Predicate → Prop
  | self : Occurs q q
  | member {connective : Connective} {members : List Predicate} {p : Predicate}
      (hp : p ∈ members) (h : Occurs q p) : Occurs q (.group connective members)

end Predicate

-- ============================================================= the texts

/-- How a token is written; a leaf is written as it is rendered. -/
inductive Formula.Token.Written (env : Environment) : Token Predicate → String → Prop
  | leaf {p : Predicate} {text : String} (h : p.renderWhere env = .ok text) :
      Written env (.leaf p) text
  | word (connective : Connective) :
      Written env (.word connective) (" " ++ connective.keyword ++ " ")
  | opening : Written env .opening "("
  | closing : Written env .closing ")"

/-- The text is that of the tokens, one after another. -/
inductive Spells (env : Environment) : List (Token Predicate) → String → Prop
  | nil : Spells env [] ""
  | cons {token : Token Predicate} {tokens : List (Token Predicate)} {a b : String}
      (h : token.Written env a) (hrest : Spells env tokens b) :
      Spells env (token :: tokens) (a ++ b)

/-- The text is a sequence of tokens whose one reading is the formula. -/
def ReadAs (env : Environment) (text : String) (f : Formula Predicate) : Prop :=
  ∃ tokens, Spells env tokens text ∧ ∀ g, Reads Level.whole tokens g ↔ g = f

variable {env : Environment} {text : String}

theorem Spells.single {token : Token Predicate} (h : token.Written env text) :
    Spells env [token] text := by
  have hcons := Spells.cons h .nil
  rwa [String.append_empty] at hcons

theorem Spells.append {tokens others : List (Token Predicate)} {a b : String}
    (ha : Spells env tokens a) (hb : Spells env others b) :
    Spells env (tokens ++ others) (a ++ b) := by
  induction ha with
  | nil => rwa [List.nil_append, String.empty_append]
  | cons h _ ih =>
      rw [List.cons_append, String.append_assoc]
      exact .cons h ih

theorem Spells.bracketed {tokens : List (Token Predicate)} (h : Spells env tokens text) :
    Spells env (.opening :: tokens ++ [.closing]) ("(" ++ text ++ ")") :=
  (Spells.cons .opening h).append (.single .closing)

/-- Sequences of tokens with a word between them. -/
theorem Spells.intercalate (connective : Connective) {sequences : List (List (Token Predicate))}
    {texts : List String} (h : List.Forall₂ (Spells env) sequences texts) :
    Spells env ([.word connective].intercalate sequences)
      ((" " ++ connective.keyword ++ " ").intercalate texts) := by
  induction h with
  | nil => exact .nil
  | @cons tokens text sequences texts h hrest ih =>
      cases hrest with
      | nil => simpa using h
      | cons hnext hrest =>
          rw [List.intercalate_cons_cons, String.intercalate_cons_cons]
          exact (h.append (.single (.word connective))).append ih

/-- A sequence with a reading is read as that alone. -/
theorem ReadAs.of_reads {tokens : List (Token Predicate)} {f : Formula Predicate}
    (htext : Spells env tokens text) (h : Reads Level.whole tokens f) : ReadAs env text f := by
  refine ⟨tokens, htext, fun g => ⟨fun hg => hg.unique h, ?_⟩⟩
  rintro rfl
  exact h

-- ======================================================= what is rendered

namespace Predicate

/-- The text is a sequence that is read as the condition, and nothing that
stands next to it can change that. -/
def SpellsAtom (env : Environment) (p : Predicate) (text : String) : Prop :=
  ∃ tokens, Spells env tokens text ∧ Reads .atom tokens p.formula

theorem SpellsAtom.leaf {p : Predicate} (h : p.renderWhere env = .ok text)
    (hleaf : p.formula = .leaf p) : p.SpellsAtom env text := by
  refine ⟨[.leaf p], .single (.leaf h), ?_⟩
  rw [hleaf]
  exact .leaf p

/-- Conditions with a word between them are a chain of their formulas. -/
theorem reads_intercalate (connective : Connective) {ps : List Predicate} {texts : List String}
    (hne : ps ≠ []) (h : List.Forall₂ (SpellsAtom env) ps texts) :
    ∃ tokens, Spells env tokens ((" " ++ connective.keyword ++ " ").intercalate texts)
      ∧ Reads (.chain connective) tokens (.of connective (ps.map formula)) := by
  -- The tokens and the reading of each member, side by side.
  have hparts : ∃ parts : List (List (Token Predicate) × Formula Predicate),
      List.Forall₂ (Spells env) (parts.map Prod.fst) texts
        ∧ parts.map Prod.snd = ps.map formula
        ∧ ∀ part ∈ parts, Reads .atom part.1 part.2 := by
    clear hne
    induction h with
    | nil => exact ⟨[], .nil, rfl, by simp⟩
    | @cons p text ps texts hp _ ih =>
        obtain ⟨tokens, htokens, hreads⟩ := hp
        obtain ⟨parts, htexts, hformulas, hatoms⟩ := ih
        refine ⟨(tokens, p.formula) :: parts, .cons htokens htexts, ?_, fun part hpart => ?_⟩
        · rw [List.map_cons, List.map_cons, hformulas]
        · rcases List.mem_cons.mp hpart with rfl | hpart
          · exact hreads
          · exact hatoms part hpart
  obtain ⟨parts, htexts, hformulas, hatoms⟩ := hparts
  refine ⟨_, .intercalate connective htexts, ?_⟩
  rw [← hformulas]
  refine .chain ?_ fun part hpart => (hatoms part hpart).member connective
  rintro rfl
  exact hne (List.map_eq_nil_iff.mp hformulas.symm)

/-- What is rendered is an atom that is read as the condition. -/
theorem spellsAtom_of_renderWhere {p : Predicate} (h : p.renderWhere env = .ok text) :
    p.SpellsAtom env text := by
  induction p generalizing text with
  | binary operator left right => exact .leaf h rfl
  | group connective members ih =>
      cases members with
      | nil => cases h
      | cons first rest =>
          cases rest with
          | nil =>
              -- A group of one is written without brackets and is its member.
              rw [renderWhere] at h
              exact ih first List.mem_cons_self h
          | cons second rest =>
              rw [renderWhere_group] at h
              obtain ⟨texts, htexts, h⟩ := bind_eq_ok.mp h
              cases h
              have hmembers := forall₂_of_mapM htexts fun p hp _ => ih p hp
              obtain ⟨tokens, hspells, hreads⟩ :=
                reads_intercalate connective (List.cons_ne_nil _ _) hmembers
              refine ⟨_, hspells.bracketed, ?_⟩
              rw [formula, formulaOfAll_eq]
              exact .bracketed hreads.whole
  | raw sql => exact .leaf h rfl

/-- What stands in a condition that is rendered is rendered. -/
theorem Occurs.renderWhere {p q : Predicate} (hoccurs : q.Occurs p)
    (h : p.renderWhere env = .ok text) : ∃ sql, q.renderWhere env = .ok sql := by
  induction hoccurs generalizing text with
  | self => exact ⟨text, h⟩
  | @member connective members p hp _ ih =>
      cases members with
      | nil => cases hp
      | cons first rest =>
          cases rest with
          | nil =>
              rw [Predicate.renderWhere] at h
              rw [List.mem_singleton.mp hp] at ih
              exact ih h
          | cons second rest =>
              rw [renderWhere_group] at h
              obtain ⟨texts, htexts, -⟩ := bind_eq_ok.mp h
              obtain ⟨sql, hsql⟩ := exists_ok_of_mapM htexts hp
              exact ih hsql

theorem not_occurs_empty_of_renderWhere {p : Predicate} (h : p.renderWhere env = .ok text)
    (connective : Connective) : ¬ (group connective []).Occurs p := by
  intro hoccurs
  obtain ⟨sql, hsql⟩ := hoccurs.renderWhere h
  cases hsql

theorem readAs_formula {p : Predicate} (h : p.renderWhere env = .ok text) :
    ReadAs env text p.formula := by
  obtain ⟨tokens, hspells, hreads⟩ := spellsAtom_of_renderWhere h
  have hand : Reads (.chain .and) tokens p.formula := .single hreads
  exact .of_reads hspells hand.whole

/-- What is rendered for several conditions is read as all of them. -/
theorem readAs_conjunction {ps : List Predicate} (hne : ps ≠ [])
    (h : renderConjunction env ps = .ok text) : ReadAs env text (conjunction ps) := by
  rw [renderConjunction, renderAll_eq] at h
  obtain ⟨texts, htexts, h⟩ := bind_eq_ok.mp h
  cases h
  have hmembers := forall₂_of_mapM htexts fun _ _ _ => spellsAtom_of_renderWhere
  obtain ⟨tokens, hspells, hreads⟩ := reads_intercalate .and hne hmembers
  exact .of_reads hspells hreads.whole

end Predicate

-- ============================================================= statements

/-- A join with its conditions, which are read as all of them. -/
inductive Join.Conjoined (env : Environment) (j : Join) : String → Prop
  | alone {relation : String} (hrelation : j.relation.render env .tableReference none = .ok relation)
      (hnone : j.conditions = []) : Conjoined env j (j.kind.keywords ++ " " ++ relation)
  | on {relation body : String}
      (hrelation : j.relation.render env .tableReference none = .ok relation)
      (hsome : j.conditions ≠ []) (h : ReadAs env body (Predicate.conjunction j.conditions)) :
      Conjoined env j (j.kind.keywords ++ " " ++ relation ++ " ON " ++ body)

/-- A WHERE clause with conditions, which are read as all of them, or no
clause without any. -/
inductive WhereConjoined (env : Environment) (ps : List Predicate) : List String → Prop
  | absent (hnone : ps = []) : WhereConjoined env ps []
  | present {body : String} (hsome : ps ≠ []) (h : ReadAs env body (Predicate.conjunction ps)) :
      WhereConjoined env ps ["WHERE " ++ body]

/-- A query in which the conditions of each clause are read as all of them. -/
inductive Statement.Conjoined (env : Environment) (s : Statement) : String → Prop
  | intro {selected source : String} {joins conditions groups orders : List String}
      (hselected : renderProjections env s.projections = .ok selected)
      (hsource : renderSource env s.source = .ok source)
      (hjoins : List.Forall₂ (Join.Conjoined env) s.joins joins)
      (hconditions : WhereConjoined env s.conditions conditions)
      (hgroups : renderGroups env s.groups = .ok groups)
      (horders : renderOrders env s.orders = .ok orders) :
      Conjoined env s (" ".intercalate ([selected, source] ++ joins ++ conditions ++ groups
        ++ orders ++ renderCount "LIMIT" s.limit ++ renderCount "OFFSET" s.offset))

theorem Join.render_conjoined {j : Join} (h : j.render env = .ok text) : j.Conjoined env text := by
  rw [render] at h
  obtain ⟨relation, hrelation, h⟩ := bind_eq_ok.mp h
  split at h
  · next hnone =>
    cases h
    exact .alone hrelation (List.isEmpty_iff.mp hnone)
  · next hsome =>
    have hne : j.conditions ≠ [] := fun hnone => hsome (List.isEmpty_iff.mpr hnone)
    obtain ⟨body, hbody, h⟩ := bind_eq_ok.mp h
    cases h
    exact .on hrelation hne (Predicate.readAs_conjunction hne hbody)

theorem Statement.renderConditions_conjoined {ps : List Predicate} {clauses : List String}
    (h : renderConditions env ps = .ok clauses) : WhereConjoined env ps clauses := by
  rw [renderConditions] at h
  split at h
  · next hnone =>
    cases h
    exact .absent (List.isEmpty_iff.mp hnone)
  · next hsome =>
    have hne : ps ≠ [] := fun hnone => hsome (List.isEmpty_iff.mpr hnone)
    obtain ⟨body, hbody, h⟩ := bind_eq_ok.mp h
    cases h
    exact .present hne (Predicate.readAs_conjunction hne hbody)

theorem Statement.render_conjoined {s : Statement} (h : s.render env = .ok text) :
    s.Conjoined env text := by
  rw [render] at h
  obtain ⟨selected, hselected, h⟩ := bind_eq_ok.mp h
  obtain ⟨source, hsource, h⟩ := bind_eq_ok.mp h
  obtain ⟨joins, hjoins, h⟩ := bind_eq_ok.mp h
  obtain ⟨conditions, hconditions, h⟩ := bind_eq_ok.mp h
  obtain ⟨groups, hgroups, h⟩ := bind_eq_ok.mp h
  obtain ⟨orders, horders, h⟩ := bind_eq_ok.mp h
  cases h
  exact .intro hselected hsource (forall₂_of_mapM hjoins fun _ _ _ => Join.render_conjoined)
    (renderConditions_conjoined hconditions) hgroups horders

/-- A condition that is rendered has no empty group in it, and its text is
read as the condition alone. In a statement that is rendered, each ON and
the WHERE are read as all of their conditions, one beside the other. -/
theorem boolean_structure_kept (env : Environment) (text : String) :
    (∀ p : Predicate, p.render env .whereClause = .ok text →
        (∀ connective, ¬ (Predicate.group connective []).Occurs p) ∧ ReadAs env text p.formula)
      ∧ (∀ s : Statement, s.render env = .ok text → s.Conjoined env text) := by
  refine ⟨fun p h => ?_, fun s h => Statement.render_conjoined h⟩
  obtain ⟨-, -, h⟩ := bind_eq_ok.mp h
  exact ⟨Predicate.not_occurs_empty_of_renderWhere h, Predicate.readAs_formula h⟩

/-- A group inside of another one, with a group of one in between. -/
private def oneOrTwo : Predicate :=
  .group .or [.sql "a", .group .and [.group .and [.sql "b"], .sql "c"]]

/-- Brackets stay where two members are, and WHERE has none of its own. -/
theorem boolean_structure_kept_nested :
    ∃ (env : Environment) (s : Statement) (text : String),
      oneOrTwo.render env .whereClause = .ok "(a OR (b AND c))"
        ∧ ReadAs env "(a OR (b AND c))"
          (.group .or [.leaf (.sql "a"), .group .and [.leaf (.sql "b"), .leaf (.sql "c")]])
        ∧ s.conditions = [oneOrTwo, .sql "d"] ∧ s.render env = .ok text
        ∧ text = "SELECT * FROM \"u\" WHERE (a OR (b AND c)) AND d" ∧ s.Conjoined env text := by
  have hcondition : oneOrTwo.render ((Environment.ofConfig {}).christen [{ name := "u" }])
      .whereClause = .ok "(a OR (b AND c))" := by
    decide +kernel
  have hstatement : ({ source := .table { name := "u" }
                       conditions := [oneOrTwo, .sql "d"] } : Statement).render
      ((Environment.ofConfig {}).christen [{ name := "u" }])
      = .ok "SELECT * FROM \"u\" WHERE (a OR (b AND c)) AND d" := by
    decide +kernel
  obtain ⟨hread, -⟩ :=
    boolean_structure_kept ((Environment.ofConfig {}).christen [{ name := "u" }]) "(a OR (b AND c))"
  obtain ⟨-, hconjoined⟩ := boolean_structure_kept
    ((Environment.ofConfig {}).christen [{ name := "u" }])
    "SELECT * FROM \"u\" WHERE (a OR (b AND c)) AND d"
  exact ⟨_, _, _, hcondition, (hread oneOrTwo hcondition).2, rfl, hstatement, rfl,
    hconjoined _ hstatement⟩

end QueryText
