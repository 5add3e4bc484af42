/-
Dialects differ in their quotes alone. A statement is rendered for two
configurations that name relations and write truth values alike; their
dialects, and whether backslashes escape, may differ. Then both renderings
fail in the same way, or the two queries are read as the same tokens, each
with the quotes of its own dialect (`Statement.sameTokens_of_plain`).

Pieces of SQL are the exception. They go into both queries as they are, and a
quote in them would be one dialect's string and the other's identifier. So
they have to be free of quotes here; what is quoted may hold any character.
-/
import QueryText.Proofs.Lexical.Value
import QueryText.Proofs.Rendering.Locality

namespace QueryText

open Lexical

/-- Two texts that are read as the same tokens, each by a reader of its own. -/
def SameTokens (q q' : Quoter) (a b : String) : Prop :=
  ∃ tokens, q.Reads a tokens ∧ q'.Reads b tokens

namespace SameTokens

variable {q q' : Quoter} {text : String}

/-- Text without quotes is the same to all readers. -/
theorem plain (h : Quoter.Plain text) : SameTokens q q' text text :=
  ⟨_, h.reads, h.reads⟩

theorem identifier (q q' : Quoter) (name : String) :
    SameTokens q q' (q.identifier name) (q'.identifier name) :=
  ⟨_, q.reads_identifier name, q'.reads_identifier name⟩

theorem string (q q' : Quoter) (text : String) :
    SameTokens q q' (q.string text) (q'.string text) :=
  ⟨_, q.reads_string text, q'.reads_string text⟩

theorem composes (q q' : Quoter) : Composes (SameTokens q q') where
  empty := ⟨[], q.reads_empty, q'.reads_empty⟩
  joined ha hb hsep := by
    obtain ⟨ta, ha, ha'⟩ := ha
    obtain ⟨tb, hb, hb'⟩ := hb
    have hplain : Quoter.Plain _ := fun c hc => (hsep.2 c hc).1
    exact ⟨_, ha.append hb hplain hsep.1, ha'.append hb' hplain hsep.1⟩
  called hf ha := by
    obtain ⟨tf, hf, hf'⟩ := hf
    obtain ⟨ta, ha, ha'⟩ := ha
    exact ⟨_, hf.called ha, hf'.called ha'⟩

theorem of_writtenAlike {a b : String} (h : q.WrittenAlike q' a b) : SameTokens q q' a b := by
  rcases h with ⟨rfl, hbare⟩ | ⟨text, rfl, rfl⟩
  · exact plain hbare.plain
  · exact string q q' text

end SameTokens

/-- Environments that write truth values alike write all pieces with the same
tokens. -/
theorem sameTokens_simulates (env other : Environment)
    (hstyle : other.quoter.booleanStyle = env.quoter.booleanStyle) :
    Simulates identical (SameTokens env.quoter other.quoter) env other := by
  refine simulates_identical (SameTokens.composes _ _) (fun name => .identifier _ _ name)
    fun literal column => ?_
  exact (Quoter.value_agree hstyle literal column).mono fun a b => .of_writtenAlike

/-- Names do not depend on how they are quoted. -/
theorem Config.sameNames {c c' : Config} (h : c'.naming = c.naming) (requests : List Christening)
    (rs : List Relation) :
    SameNames ((Environment.ofConfig c).performAll requests)
      ((Environment.ofConfig c').performAll requests) rs := by
  intro r _
  simp only [Environment.nameOf?, Environment.performAll, Environment.ofConfig, h]

namespace Statement

/-- A statement for two configurations that name relations and write truth
values alike, each time rendered after its relations were named: if its
pieces of SQL hold no quotes, then either both renderings fail in the same
way, or both queries are read as the same tokens, each by its own dialect. -/
theorem sameTokens_of_plain (c c' : Config) (hnaming : c'.naming = c.naming)
    (hstyle : c'.booleanStyle = c.booleanStyle) (s : Statement)
    (hplain : ∀ f ∈ s.fragments ((Environment.ofConfig c).performAll [.statement s]),
      Quoter.Plain f) :
    Agree (SameTokens (.ofConfig c) (.ofConfig c'))
      (s.render ((Environment.ofConfig c).performAll [.statement s]))
      (s.render ((Environment.ofConfig c').performAll [.statement s])) := by
  have hsim := sameTokens_simulates ((Environment.ofConfig c).performAll [.statement s])
    ((Environment.ofConfig c').performAll [.statement s]) hstyle
  exact render_simulates hsim s.varies_identical (Config.sameNames hnaming _ _) fun f hf =>
    .plain (hplain f hf)

/-- A call and a condition in SQL, and quotes and a backslash in what is
quoted. -/
private def counted : Statement where
  projections := [.expression "COUNT" (.attr { name := "id", relation := { name := "u" } }) "n\"`"]
  source := .table { name := "u" }
  conditions :=
    [.binary .equal (.attr { name := "name", relation := { name := "u" } })
      (.literal (.string "O'\\")),
    .sql "gone IS NULL"]

/-- With backticks and backslashes or without, the tokens are the same. -/
theorem sameTokens_of_plain_backslash :
    ∃ a b : String,
      counted.render ((Environment.ofConfig { dialect := .mysql }).performAll [.statement counted])
          = .ok a
        ∧ counted.render
            ((Environment.ofConfig { dialect := .sqlite }).performAll [.statement counted]) = .ok b
        ∧ a = "SELECT COUNT(`u`.`id`) AS `n\"``` FROM `u` "
            ++ "WHERE `u`.`name` = 'O''\\\\' AND gone IS NULL"
        ∧ b = "SELECT COUNT(\"u\".\"id\") AS \"n\"\"`\" FROM \"u\" "
            ++ "WHERE \"u\".\"name\" = 'O''\\' AND gone IS NULL"
        ∧ SameTokens (.ofConfig { dialect := .mysql }) (.ofConfig { dialect := .sqlite }) a b := by
  have hplain : ∀ f ∈ ["COUNT", "gone IS NULL"], Quoter.Plain f := by decide +kernel
  have hagree := sameTokens_of_plain { dialect := .mysql } { dialect := .sqlite } rfl rfl counted
    hplain
  refine ⟨_, _, ?mysql, ?sqlite, rfl, rfl, ?tokens⟩
  case mysql => decide +kernel
  case sqlite => decide +kernel
  case tokens => exact hagree

end Statement
end QueryText
