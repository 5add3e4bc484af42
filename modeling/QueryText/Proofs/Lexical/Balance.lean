/-
Rendered text can be put anywhere. A text is balanced when it is closed and
its brackets match, not counting those between quotes: after each of its
tokens at least as many brackets were opened as closed, and at the end as
many. Where all pieces of SQL in a tree are balanced its text is balanced
(`Node.render_balanced`, `Predicate.render_balanced`,
`Statement.render_balanced`), whatever brackets and quotes stand in names and
strings: literals without quotes have no brackets, and all other text that
rendering adds opens and closes its own.

The text of a statement can be stored as an inner query, which is a piece of
SQL in other statements. `Nested` holds of all pieces that come about in this
way, to any depth; they are balanced as well, and so is what is rendered with
them (`balanced_under_nesting`).
-/
import QueryText.Proofs.Lexical.Value
import QueryText.Proofs.Rendering.Locality

namespace QueryText

-- ========================================================== open brackets

namespace Lexical

/-- How many brackets are open after one more token; none when it closes one
that was not opened. Quoted brackets do not count. -/
def openedBy? (depth : Nat) (token : Token) : Option Nat :=
  if token = .plain '(' then some (depth + 1)
  else if token = .plain ')' then if depth = 0 then none else some (depth - 1)
  else some depth

/-- How many brackets are open after the tokens. -/
def openAfter? (depth : Nat) (tokens : List Token) : Option Nat :=
  tokens.foldlM openedBy? depth

/-- Brackets that are open already stay open after a token. -/
theorem openedBy?_add {depth next : Nat} {token : Token} (h : openedBy? depth token = some next)
    (more : Nat) : openedBy? (depth + more) token = some (next + more) := by
  rw [openedBy?] at h ⊢
  split at h
  · next hopen =>
    cases h
    rw [if_pos hopen, Nat.add_right_comm]
  · next hopen =>
    rw [if_neg hopen]
    split at h
    · next hclose =>
      split at h
      · cases h
      · next hdepth =>
        cases h
        rw [if_pos hclose, if_neg (by omega), Nat.sub_add_comm (by omega)]
    · next hclose =>
      cases h
      rw [if_neg hclose]

theorem openAfter?_add {depth last : Nat} {tokens : List Token}
    (h : openAfter? depth tokens = some last) (more : Nat) :
    openAfter? (depth + more) tokens = some (last + more) := by
  induction tokens generalizing depth with
  | nil =>
      cases h
      rfl
  | cons token tokens ih =>
      rw [openAfter?, List.foldlM_cons] at h ⊢
      obtain ⟨next, hnext, h⟩ := Option.bind_eq_some_iff.mp h
      rw [openedBy?_add hnext more]
      exact ih h

/-- Tokens that close the brackets they open, and no others. -/
def Level (tokens : List Token) : Prop :=
  openAfter? 0 tokens = some 0

instance : DecidablePred Level := fun tokens =>
  inferInstanceAs (Decidable (openAfter? 0 tokens = some 0))

namespace Level

theorem append {a b : List Token} (ha : Level a) (hb : Level b) : Level (a ++ b) := by
  rw [Level, openAfter?] at ha ⊢
  rw [List.foldlM_append, ha]
  exact hb

theorem of_no_brackets {tokens : List Token}
    (h : ∀ token ∈ tokens, token ≠ .plain '(' ∧ token ≠ .plain ')') : Level tokens := by
  induction tokens with
  | nil => rfl
  | cons token tokens ih =>
      obtain ⟨hopen, hclose⟩ := h token List.mem_cons_self
      rw [Level, openAfter?, List.foldlM_cons, openedBy?, if_neg hopen, if_neg hclose]
      exact ih fun other hother => h other (List.mem_cons_of_mem token hother)

theorem bracketed {tokens : List Token} (h : Level tokens) :
    Level (.plain '(' :: tokens ++ [.plain ')']) := by
  have hinside : openAfter? 1 tokens = some 1 := openAfter?_add h 1
  have hclosed : openAfter? 1 (tokens ++ [.plain ')']) = some 0 := by
    rw [openAfter?] at hinside ⊢
    rw [List.foldlM_append, hinside]
    rfl
  exact hclosed

end Level
end Lexical

open Lexical

-- ========================================================== balanced text

namespace Quoter

/-- A closed text in which the brackets match. -/
def Balanced (q : Quoter) (text : String) : Prop :=
  ∃ tokens, q.Reads text tokens ∧ Level tokens

instance (q : Quoter) : DecidablePred q.Balanced := fun text =>
  decidable_of_iff (∃ tokens ∈ q.tokens? text.toList, Level tokens) Iff.rfl

variable {q : Quoter} {a b sep : String}

theorem Balanced.joined (ha : q.Balanced a) (hb : q.Balanced b) (hsep : Joint sep) :
    q.Balanced (a ++ sep ++ b) := by
  obtain ⟨ta, hta, hlevela⟩ := ha
  obtain ⟨tb, htb, hlevelb⟩ := hb
  -- what stands between is plain, so no quote of `a` runs on into `b`, and has no brackets
  have hplain : Plain sep := fun c hc => (hsep.2 c hc).1
  have hlevel : Level (sep.toList.map .plain) := by
    refine .of_no_brackets fun token htoken => ?_
    obtain ⟨c, hc, rfl⟩ := List.mem_map.mp htoken
    obtain ⟨-, hopen, hclose⟩ := hsep.2 c hc
    exact ⟨fun h => hopen (Token.plain.inj h), fun h => hclose (Token.plain.inj h)⟩
  exact ⟨_, hta.append htb hplain hsep.1, (hlevela.append hlevel).append hlevelb⟩

theorem Balanced.called (ha : q.Balanced a) (hb : q.Balanced b) :
    q.Balanced (a ++ "(" ++ b ++ ")") := by
  obtain ⟨ta, hta, hlevela⟩ := ha
  obtain ⟨tb, htb, hlevelb⟩ := hb
  refine ⟨_, hta.called htb, ?_⟩
  rw [List.append_assoc]
  exact hlevela.append hlevelb.bracketed

/-- Quoted text has no brackets but quoted ones. -/
theorem balanced_of_quoted {kind : Quote} {content : List Char}
    (h : q.Reads a [.quoted kind content]) : q.Balanced a := by
  refine ⟨_, h, .of_no_brackets fun token htoken => ?_⟩
  rw [List.mem_singleton.mp htoken]
  exact ⟨Token.noConfusion, Token.noConfusion⟩

theorem balanced_of_bare (h : Bare a.toList) : q.Balanced a := by
  refine ⟨_, h.plain.reads, .of_no_brackets fun token htoken => ?_⟩
  obtain ⟨c, hc, rfl⟩ := List.mem_map.mp htoken
  have hbare := h c hc
  constructor <;> · rintro ⟨⟩; exact absurd hbare (by decide)

theorem value_balanced {literal : Literal} {column : Option Column} {s : String}
    (h : q.value literal column = .ok s) : q.Balanced s := by
  rcases value_bare_or_string h with hbare | ⟨text, rfl⟩
  · exact balanced_of_bare hbare
  · exact balanced_of_quoted (q.reads_string text)

/-- The same text twice, and balanced. -/
def SameBalanced (q : Quoter) (a b : String) : Prop :=
  b = a ∧ q.Balanced a

theorem composes_sameBalanced (q : Quoter) : Composes q.SameBalanced where
  empty := ⟨rfl, [], q.reads_empty, rfl⟩
  joined ha hb hsep := ⟨by rw [ha.1, hb.1], ha.2.joined hb.2 hsep⟩
  called hf ha := ⟨by rw [hf.1, ha.1], hf.2.called ha.2⟩

end Quoter

variable {env : Environment} {context : Context} {hint : Option Column} {text : String}

/-- All pieces of a rendering beside itself are balanced. -/
theorem balanced_simulates (env : Environment) :
    Simulates identical env.quoter.SameBalanced env env := by
  refine simulates_identical env.quoter.composes_sameBalanced (fun name => ⟨rfl, ?_⟩)
    fun literal column => Agree.refl fun sql hsql => ⟨rfl, Quoter.value_balanced hsql⟩
  exact Quoter.balanced_of_quoted (env.quoter.reads_identifier name)

/-- A node with balanced pieces of SQL is rendered to balanced text. -/
theorem Node.render_balanced {node : Node}
    (hpieces : ∀ f ∈ node.fragments env context, env.quoter.Balanced f)
    (h : node.render env context hint = .ok text) : env.quoter.Balanced text := by
  have hagree := node.render_simulates (balanced_simulates env) (node.varies_identical context hint)
    (fun _ _ => rfl) fun f hf => ⟨rfl, hpieces f hf⟩
  rw [h] at hagree
  exact hagree.2

theorem Predicate.render_balanced {p : Predicate}
    (hpieces : ∀ f ∈ p.fragments env, env.quoter.Balanced f)
    (h : p.render env context = .ok text) : env.quoter.Balanced text := by
  obtain ⟨-, -, h⟩ := bind_eq_ok.mp h
  have hagree := p.renderWhere_simulates (balanced_simulates env) p.varies_identical
    (fun _ _ => rfl) fun f hf => ⟨rfl, hpieces f hf⟩
  rw [h] at hagree
  exact hagree.2

theorem Statement.render_balanced {s : Statement}
    (hpieces : ∀ f ∈ s.fragments env, env.quoter.Balanced f)
    (h : s.render env = .ok text) : env.quoter.Balanced text := by
  have hagree := render_simulates (balanced_simulates env) s.varies_identical
    (fun _ _ => rfl) fun f hf => ⟨rfl, hpieces f hf⟩
  rw [h] at hagree
  exact hagree.2

-- ================================================================ nesting

/-- The pieces of SQL that come about by nesting: balanced ones, and the
stored texts of statements that have only such pieces. The statements may be
rendered at different times, each with the names that are known by then. -/
inductive Nested (q : Quoter) : String → Prop
  | piece {text : String} (h : q.Balanced text) : Nested q text
  | stored {env : Environment} {s : Statement} {source : Relation} {inner : Subselect}
      (hquoter : env.quoter = q) (hpieces : ∀ f ∈ s.fragments env, Nested q f)
      (h : s.toSubselect env source = .ok inner) : Nested q inner.sql

theorem Nested.balanced {q : Quoter} (h : Nested q text) : q.Balanced text := by
  -- induction on how the piece came about: the pieces of a stored statement came before it
  induction h with
  | piece h => exact h
  | @stored env s source inner hquoter _ h ih =>
      subst hquoter
      obtain ⟨sql, hsql, h⟩ := bind_eq_ok.mp h
      cases h
      exact Statement.render_balanced ih hsql

/-- In every environment: nodes, conditions and statements whose pieces of
SQL are balanced, be it as inner queries that were stored before and nested to
any depth, are rendered to balanced text; and so the text of a statement can
be nested again. -/
theorem balanced_under_nesting (env : Environment) :
    (∀ (node : Node) (context : Context) (hint : Option Column) (text : String),
        (∀ f ∈ node.fragments env context, Nested env.quoter f) →
          node.render env context hint = .ok text → env.quoter.Balanced text)
      ∧ (∀ (p : Predicate) (context : Context) (text : String),
        (∀ f ∈ p.fragments env, Nested env.quoter f) →
          p.render env context = .ok text → env.quoter.Balanced text)
      ∧ (∀ (s : Statement) (text : String),
        (∀ f ∈ s.fragments env, Nested env.quoter f) →
          s.render env = .ok text → env.quoter.Balanced text)
      ∧ (∀ (s : Statement) (source : Relation) (inner : Subselect),
        (∀ f ∈ s.fragments env, Nested env.quoter f) →
          s.toSubselect env source = .ok inner → Nested env.quoter inner.sql) := by
  refine ⟨fun node context hint text hpieces h => ?node, fun p context text hpieces h => ?predicate,
    fun s text hpieces h => ?statement, fun s source inner hpieces h => .stored rfl hpieces h⟩
  case node => exact Node.render_balanced (fun f hf => (hpieces f hf).balanced) h
  case predicate => exact Predicate.render_balanced (fun f hf => (hpieces f hf).balanced) h
  case statement => exact Statement.render_balanced (fun f hf => (hpieces f hf).balanced) h

/-- How many users have this name. -/
private def namesakes (name : String) : Statement where
  projections := [.expression "COUNT" (.attr { name := "id", relation := { name := "u" } }) ":("]
  source := .table { name := "u" }
  conditions :=
    [.binary .equal (.attr { name := "name", relation := { name := "u" } })
      (.literal (.string name))]

/-- A query as a table and as an operand. -/
private def around (inner : Subselect) : Statement where
  source := .subselect inner
  conditions :=
    [.binary .equal (.attr { name := "n", relation := inner.source }) (.subselect inner)]

/-- Lone brackets and quotes in names and strings, stored and nested twice. -/
theorem balanced_under_nesting_twice :
    ∃ (env : Environment) (inner : Subselect) (text : String),
      (namesakes "Jo' (").toSubselect env { name := "v", label := "v)" } = .ok inner
        ∧ (around inner).render env = .ok text
        ∧ inner.sql = "SELECT COUNT(\"u\".\"id\") AS \":(\" FROM \"u\" "
            ++ "WHERE \"u\".\"name\" = 'Jo'' ('"
        ∧ text = "SELECT * FROM (" ++ inner.sql ++ ") AS \"v)\" WHERE \"v)\".\"n\" = ("
            ++ inner.sql ++ ")"
        ∧ env.quoter.Balanced text := by
  obtain ⟨-, -, hstatement, hstored⟩ := balanced_under_nesting
    ((Environment.ofConfig {}).christen [{ name := "u" }, { name := "v", label := "v)" }])
  have hcall : ∀ f ∈ ["COUNT"], Nested (Quoter.ofConfig {}) f := by
    intro f hf
    rw [List.mem_singleton.mp hf]
    exact .piece (by decide +kernel)
  have hinner : (namesakes "Jo' (").toSubselect
      ((Environment.ofConfig {}).christen [{ name := "u" }, { name := "v", label := "v)" }])
      { name := "v", label := "v)" }
      = .ok ⟨"SELECT COUNT(\"u\".\"id\") AS \":(\" FROM \"u\" WHERE \"u\".\"name\" = 'Jo'' ('",
          { name := "v", label := "v)" }⟩ := by
    decide +kernel
  have hnested := hstored (namesakes "Jo' (") _ _ hcall hinner
  refine ⟨_, _, _, hinner, ?outer, rfl, rfl, hstatement _ _ ?pieces ?outer⟩
  case outer => decide +kernel
  case pieces =>
    intro f hf
    rcases List.mem_pair.mp hf with rfl | rfl
    · exact hnested
    · exact hnested

end QueryText
