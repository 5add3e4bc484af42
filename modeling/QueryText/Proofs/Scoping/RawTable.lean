/-
Tables whose names are pieces of SQL. Such a name goes into the query as it
stands, and where the table is displayed under another name, so does that
one; in front of the columns of the table it is quoted all the same. The two
meet when the text behind AS, read as an identifier, denotes the display name.

A word denotes itself, and quotes denote what is between them. As the reader
collects less than it reads (`Quoter.length_lt_of_reads`), no text with quotes
denotes itself; so the display name has to be a word (`Quoter.denotes_self_iff`).
A numbered name never is, where the table has no label: it begins with the
name of the table, which is none.
-/
import QueryText.Proofs.Lexical.Quoted
import QueryText.Proofs.Naming.Numbering
import QueryText.Proofs.Rendering.Outcome
import QueryText.Statement.Render

namespace QueryText

open Lexical

-- ================================================ what the reader collects

namespace Lexical

/-- The characters that a token holds. -/
def Token.held : Token → List Char
  | .plain c => [c]
  | .quoted _ content => content

/-- The characters of quoted text that a reader has collected. -/
def Mode.held : Mode → List Char
  | .outside => []
  | .inside _ content | .escaped content | .closing _ content => content

/-- Where a text ends, what was collected is in a token. -/
theorem Mode.flatMap_held_finish {mode : Mode} {tokens : List Token}
    (h : mode.finish = some tokens) : tokens.flatMap Token.held = mode.held := by
  cases mode with
  | outside =>
      cases h
      rfl
  | closing kind content =>
      cases h
      exact List.flatMap_singleton Token.held (.quoted kind content)
  | inside _ _ | escaped _ => cases h

end Lexical

namespace Quoter

variable {q : Quoter}

/-- Outside of quotes a character is a token or is not held at all. -/
theorem readOutside_held (c : Char) :
    ((q.readOutside c).1.flatMap Token.held).length + (q.readOutside c).2.held.length ≤ 1 := by
  rw [readOutside]
  split
  · simp [Mode.held]
  · split <;> simp [Mode.held, Token.held]

/-- Each character adds one at most. -/
theorem readChar_held (mode : Mode) (c : Char) :
    ((q.readChar mode c).1.flatMap Token.held).length + (q.readChar mode c).2.held.length
      ≤ mode.held.length + 1 := by
  cases mode with
  | outside => simpa [readChar, Mode.held] using q.readOutside_held c
  | inside kind content =>
      rw [readChar]
      split
      · simp [Mode.held]
      · split <;> simp [Mode.held]
  | escaped content => simp [readChar, Mode.held]
  | closing kind content =>
      have hclosing : (Mode.closing kind content).held = content := rfl
      rw [readChar, hclosing]
      split
      · simp [Mode.held]
      · have houtside := q.readOutside_held c
        simp only [List.flatMap_cons, Token.held, List.length_append]
        omega

/-- What is held is not longer than what is read. -/
theorem readFrom_held (mode : Mode) (text : List Char) :
    ((q.readFrom mode text).1.flatMap Token.held).length + (q.readFrom mode text).2.held.length
      ≤ mode.held.length + text.length := by
  induction text generalizing mode with
  | nil => simp [readFrom]
  | cons c rest ih =>
      have hfirst := q.readChar_held mode c
      have hrest := ih (q.readChar mode c).2
      rw [readFrom_cons]
      simp only [List.flatMap_append, List.length_append, List.length_cons]
      omega

/-- A quoted text is longer than what it is read as. -/
theorem length_lt_of_reads {text : String} {kind : Quote} {content : List Char}
    (h : q.Reads text [.quoted kind content]) : content.length < text.toList.length := by
  obtain ⟨others, hothers, htokens⟩ := Option.map_eq_some_iff.mp h
  cases htext : text.toList with
  | nil =>
      rw [htext] at hothers htokens
      cases hothers
      cases htokens
  | cons c rest =>
      rw [htext, readFrom_cons] at hothers htokens
      by_cases hdelimiter : ∃ kind, c = q.delimiter kind
      · -- the first character is a delimiter, which is not collected
        obtain ⟨first, rfl⟩ := hdelimiter
        have hheld := q.readFrom_held (.inside first []) rest
        simp only [readChar, readOutside_delimiter, List.nil_append] at hothers htokens
        rw [← Mode.flatMap_held_finish hothers, ← List.length_append, ← List.flatMap_append,
          htokens, List.flatMap_singleton] at hheld
        simp only [Token.held, Mode.held, List.length_nil] at hheld
        rw [List.length_cons]
        omega
      · have hplain : q.readOutside c = ([.plain c], .outside) := by
          rw [readOutside, if_neg fun h => hdelimiter ⟨_, h⟩, if_neg fun h => hdelimiter ⟨_, h⟩]
        rw [readChar, hplain] at htokens
        cases htokens

-- ========================================================= what is denoted

/-- A text that is one identifier, and the name that it denotes: a word
denotes itself, and a text between the quotes of the dialect what is between
them. -/
inductive Denotes (q : Quoter) (name : String) : String → Prop
  | word (hne : name ≠ "") (h : Identifier.isSimple name = true) : Denotes q name name
  | quoted {text : String} (h : q.Reads text [.quoted .identifier name.toList]) :
      Denotes q name text

theorem denotes_identifier (q : Quoter) (name : String) : q.Denotes name (q.identifier name) :=
  .quoted (q.reads_identifier name)

/-- Only words denote themselves. -/
theorem denotes_self_iff {name : String} :
    q.Denotes name name ↔ name ≠ "" ∧ Identifier.isSimple name = true := by
  refine ⟨fun h => ?_, fun ⟨hne, hword⟩ => .word hne hword⟩
  cases h with
  | word hne hword => exact ⟨hne, hword⟩
  | quoted h => exact absurd (length_lt_of_reads h) (Nat.lt_irrefl _)

end Quoter

-- ============================================================ raw tables

/-- A numbered name of a base name that is a piece of SQL is no word. -/
theorem Naming.not_isSimple_candidate {separator base : String} {number : Nat}
    (hraw : Identifier.isSimpleTable base = false) (h : 2 ≤ number) :
    Identifier.isSimple (candidate separator base number) = false := by
  rw [Bool.eq_false_iff]
  intro hword
  rw [Identifier.isSimple, toList_candidate h, List.all_append, Bool.and_eq_true] at hword
  have hbase : Identifier.isSimpleTable base = true := by
    refine List.all_eq_true.mpr fun c hc => ?_
    rw [List.all_eq_true.mp hword.1 c hc, Bool.true_or]
  rw [hbase] at hraw
  cases hraw

variable {env : Environment} {r : Relation} {name : String}

/-- A table without a label is displayed under its name, or numbered. -/
theorem Environment.numbered_of_unlabelled (hnames : env.naming.Reachable)
    (hname : env.nameOf? r = some name) (hother : name ≠ r.name) (hlabel : r.label = none) :
    ∃ number, 2 ≤ number ∧ name = Naming.candidate env.naming.separator r.name number := by
  have hbase : r.baseName = r.name := by rw [Relation.baseName, hlabel, Option.getD_none]
  obtain ⟨number, -, -, hnumbered⟩ := hnames.numbered.named r name hname
  rw [hbase] at hnumbered
  refine ⟨number, ?_, hnumbered⟩
  by_contra hone
  rw [Naming.candidate_of_le_one (by omega)] at hnumbered
  exact hother hnumbered

/-- In every session, a table whose name is a piece of SQL and which is
displayed under another name is written with both names as they stand. In
front of its columns the display name is quoted, and denotes itself. The text
behind AS denotes the display name exactly when that is a word. The display name
of a table without a label is its own name with a number, and never a word. -/
theorem raw_alias_denotes_iff_word (hnames : env.naming.Reachable)
    (hname : env.nameOf? r = some name) (hraw : Identifier.isSimpleTable r.name = false)
    (hother : name ≠ r.name) (hint : Option Column) :
    (Node.table r).render env .tableReference hint = .ok (r.name ++ " AS " ++ name)
      ∧ (∀ (a : Attribute) (context : Context), a.relation = r →
          Identifier.isSimple a.name = true →
            a.qualified env context = .ok (env.identifier name ++ "." ++ env.identifier a.name))
      ∧ env.quoter.Denotes name (env.identifier name)
      ∧ (env.quoter.Denotes name name ↔ name ≠ "" ∧ Identifier.isSimple name = true)
      ∧ (r.label = none →
          (∃ number, 2 ≤ number ∧ name = Naming.candidate env.naming.separator r.name number)
            ∧ ¬ env.quoter.Denotes name name) := by
  refine ⟨?table, fun a context hrelation hsimple => ?column, env.quoter.denotes_identifier name,
    Quoter.denotes_self_iff, fun hlabel => ?unlabelled⟩
  case table =>
    rw [Node.render, Relation.render, Environment.resolve, hname]
    simp only [hraw, Bool.false_eq_true, if_false]
    change Except.ok (if name = r.name then r.name else r.name ++ " AS " ++ name) = _
    rw [if_neg hother]
  case column =>
    rw [Attribute.qualified, if_pos hsimple, Environment.resolve, hrelation, hname]
    rfl
  case unlabelled =>
    obtain ⟨number, htwo, hnumbered⟩ :=
      Environment.numbered_of_unlabelled hnames hname hother hlabel
    refine ⟨⟨number, htwo, hnumbered⟩, fun hdenotes => ?_⟩
    have hword := (Quoter.denotes_self_iff.mp hdenotes).2
    rw [hnumbered, Naming.not_isSimple_candidate hraw htwo] at hword
    cases hword

/-- A table in a schema, under a label. -/
private def events (label : String) : Relation :=
  { name := "analytics.events", label }

/-- A second use of the table, without a label. -/
private def eventsAgain : Relation :=
  { name := "analytics.events", occurrence := 1 }

/-- The table once under a letter, once under two words, and twice under no
label. -/
private def schemaNames : Environment :=
  (Environment.ofConfig {}).performAll
    [.relation (events "e"), .relation (events "my events"),
      .relation { name := "analytics.events" }, .relation eventsAgain]

private theorem reachable_schemaNames : schemaNames.naming.Reachable :=
  .perform _ (.perform _ (.perform _ (.perform _ (.empty _))))

/-- A letter is a word. -/
theorem raw_alias_denotes_iff_word_letter :
    schemaNames.naming.Reachable
      ∧ schemaNames.nameOf? (events "e") = some "e"
      ∧ Identifier.isSimpleTable (events "e").name = false
      ∧ "e" ≠ (events "e").name
      ∧ (Node.table (events "e")).render schemaNames .tableReference none
        = .ok "analytics.events AS e"
      ∧ schemaNames.quoter.Denotes "e" "e" := by
  have hname : schemaNames.nameOf? (events "e") = some "e" := by decide +kernel
  have hraw : Identifier.isSimpleTable (events "e").name = false := by decide +kernel
  have hother : "e" ≠ (events "e").name := by decide
  obtain ⟨htext, -, -, hdenotes, -⟩ :=
    raw_alias_denotes_iff_word reachable_schemaNames hname hraw hother none
  exact ⟨reachable_schemaNames, hname, hraw, hother, htext, hdenotes.mpr (by decide)⟩

/-- Two words, and a name with a point, are not the identifier that the
columns have in front of them. -/
theorem raw_alias_not_always_denotes :
    schemaNames.naming.Reachable
      ∧ ((Node.table (events "my events")).render schemaNames .tableReference none
          = .ok "analytics.events AS my events"
        ∧ (Attribute.mk "id" (events "my events") none none).qualified schemaNames .order
          = .ok "\"my events\".\"id\""
        ∧ ¬ schemaNames.quoter.Denotes "my events" "my events")
      ∧ ((Node.table eventsAgain).render schemaNames .tableReference none
          = .ok "analytics.events AS analytics.events_2"
        ∧ (Attribute.mk "id" eventsAgain none none).qualified schemaNames .order
          = .ok "\"analytics.events_2\".\"id\""
        ∧ ¬ schemaNames.quoter.Denotes "analytics.events_2" "analytics.events_2") := by
  refine ⟨reachable_schemaNames, ⟨by decide +kernel, by decide +kernel, fun h => ?words⟩,
    by decide +kernel, by decide +kernel, fun h => ?numbered⟩
  case words => exact absurd (Quoter.denotes_self_iff.mp h).2 (by decide)
  case numbered => exact absurd (Quoter.denotes_self_iff.mp h).2 (by decide)

end QueryText
