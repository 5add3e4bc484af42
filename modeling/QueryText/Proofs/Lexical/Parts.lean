/-
A list is taken apart again. Between its brackets the items of a list stand
with a comma and a blank between them, and the same two characters may stand
in the texts of an item. `Quoter.parts` divides a text at those separators
that are outside of quotes. It goes through the text as the reader of queries
does, so it knows where quotes begin and end, with either use of backslashes.

What is divided is given back whole when no part has a comma outside of quotes
and each of them is closed (`Quoter.parts_intercalate`): the reader is then
outside of quotes at each separator that joins them and at no other. A comma
outside of quotes is a token of its own, and the one token that a literal is
written as is none.
-/
import QueryText.Proofs.Quoting.Token
import QueryText.Proofs.Rendering.Induction

namespace QueryText

open Lexical

namespace Quoter

-- ============================================================= the division

/-- The parts of the rest of a text, with what the reader is in the middle of. -/
def partsFrom (q : Quoter) : Mode → List Char → List (List Char)
  | _, [] => [[]]
  | _, [c] => [[c]]
  | mode, c :: d :: rest =>
    if mode.finish.isSome && c == ',' && d == ' ' then [] :: partsFrom q .outside rest
    else (partsFrom q (q.readChar mode c).2 (d :: rest)).modifyHead (c :: ·)

/-- The parts of a text between the separators `, ` outside of quotes; an empty
text has none. -/
def parts (q : Quoter) (text : String) : List String :=
  if text = "" then [] else (q.partsFrom .outside text.toList).map String.ofList

variable {q : Quoter}

/-- A separator outside of quotes ends a part. -/
theorem partsFrom_separator {mode : Mode} {others : List Token} (h : mode.finish = some others)
    (rest : List Char) :
    q.partsFrom mode (',' :: ' ' :: rest) = [] :: q.partsFrom .outside rest := by
  simp [partsFrom, h]

/-- A character that completes no comma belongs to the part. -/
theorem partsFrom_cons {mode : Mode} {c : Char} (h : .plain ',' ∉ (q.readChar mode c).1)
    (rest : List Char) :
    q.partsFrom mode (c :: rest)
      = (q.partsFrom (q.readChar mode c).2 rest).modifyHead (c :: ·) := by
  cases rest with
  | nil => rfl
  | cons d rest =>
      have hseparator : (mode.finish.isSome && c == ',' && d == ' ') = false := by
        by_contra hne
        simp only [Bool.not_eq_false, Bool.and_eq_true, beq_iff_eq] at hne
        obtain ⟨⟨hmode, rfl⟩, -⟩ := hne
        obtain ⟨others, hothers⟩ := Option.isSome_iff_exists.mp hmode
        rw [readChar_plain (by decide) hothers] at h
        simp at h
      rw [partsFrom, hseparator]
      rfl

/-- Text without commas outside of quotes belongs to the part that it begins. -/
theorem partsFrom_append {mode : Mode} {a : List Char} (h : .plain ',' ∉ (q.readFrom mode a).1)
    (rest : List Char) :
    q.partsFrom mode (a ++ rest)
      = (q.partsFrom (q.readFrom mode a).2 rest).modifyHead (a ++ ·) := by
  induction a generalizing mode with
  | nil => exact (congrFun List.modifyHead_id _).symm
  | cons c a ih =>
      rw [readFrom_cons, List.mem_append, not_or] at h
      obtain ⟨hfirst, hothers⟩ := h
      rw [List.cons_append, partsFrom_cons hfirst, ih hothers, List.modifyHead_modifyHead,
        readFrom_cons]
      rfl

-- ============================================================ joined texts

/-- A text that is a part by itself: it does not end inside of quotes, and
outside of them it has no comma. -/
structure IsPart (q : Quoter) (text : String) : Prop where
  ne_empty : text ≠ ""
  reads : ∃ tokens, q.Reads text tokens ∧ .plain ',' ∉ tokens

/-- The reader is outside of quotes behind a part, and met no comma in it. -/
theorem IsPart.readFrom {text : String} (h : q.IsPart text) :
    (∃ others, (q.readFrom .outside text.toList).2.finish = some others)
      ∧ .plain ',' ∉ (q.readFrom .outside text.toList).1 := by
  obtain ⟨tokens, hreads, hcomma⟩ := h.reads
  obtain ⟨others, hothers, rfl⟩ := Option.map_eq_some_iff.mp hreads
  exact ⟨⟨others, hothers⟩, fun hmem => hcomma (List.mem_append_left _ hmem)⟩

theorem partsFrom_intercalate {text : String} {texts : List String}
    (h : ∀ t ∈ text :: texts, q.IsPart t) :
    q.partsFrom .outside (", ".intercalate (text :: texts)).toList
      = (text :: texts).map String.toList := by
  induction texts generalizing text with
  | nil =>
      obtain ⟨-, hcomma⟩ := (h text List.mem_cons_self).readFrom
      have happend := partsFrom_append hcomma []
      rw [List.append_nil] at happend
      rw [String.intercalate_singleton, happend]
      simp [partsFrom]
  | cons next texts ih =>
      obtain ⟨⟨others, hothers⟩, hcomma⟩ := (h text List.mem_cons_self).readFrom
      have hrest := ih fun t ht => h t (List.mem_cons_of_mem text ht)
      have hseparator : ", ".toList = [',', ' '] := rfl
      rw [String.intercalate_cons_cons, String.toList_append, String.toList_append,
        List.append_assoc, partsFrom_append hcomma, hseparator, List.cons_append,
        List.cons_append, List.nil_append, partsFrom_separator hothers, hrest]
      simp

/-- Texts that are parts are given back from the text that joins them. -/
theorem parts_intercalate {texts : List String} (h : ∀ text ∈ texts, q.IsPart text) :
    q.parts (", ".intercalate texts) = texts := by
  cases texts with
  | nil => rfl
  | cons text texts =>
      have hne : ", ".intercalate (text :: texts) ≠ "" := by
        intro hempty
        have hparts := partsFrom_intercalate h
        rw [hempty] at hparts
        have hfirst : text.toList = [] := (List.cons.inj hparts).1.symm
        exact (h text List.mem_cons_self).ne_empty (String.toList_eq_nil_iff.mp hfirst)
      rw [parts, if_neg hne, partsFrom_intercalate h, List.map_map]
      simp [Function.comp_def]

-- =============================================================== literals

/-- The token that a literal is written as is a part of a list. -/
theorem IsToken.isPart {literal : Literal} {out : String} (h : q.IsToken literal out) :
    q.IsPart out := by
  have hbare : ∀ {s : String}, Bare s.toList → s ≠ "" → q.IsPart s := by
    intro s hs hne
    refine ⟨hne, _, hs.plain.reads, ?_⟩
    rw [List.mem_map]
    rintro ⟨c, hc, hcomma⟩
    obtain rfl : c = ',' := Token.plain.inj hcomma
    exact absurd (hs ',' hc) (by decide)
  cases h with
  | word h =>
      have hword : ∀ s ∈ ["NULL", "TRUE", "FALSE"], Bare s.toList ∧ s ≠ "" := by decide
      obtain ⟨hchars, hne⟩ := hword _ h
      exact hbare hchars hne
  | number h =>
      refine hbare h.bare ?_
      rintro rfl
      exact absurd h (Text.not_isNumeral_of_read rfl)
  | quoted h =>
      subst h
      refine ⟨fun hempty => ?_, _, q.reads_string literal.bare, by simp⟩
      have hreads := q.reads_string literal.bare
      rw [hempty, Reads] at hreads
      cases hreads

end Quoter

-- ================================================================= lists

variable {env : Environment} {hint : Option Column}

/-- A literal beside a column is written as a part of a list. -/
theorem Scalar.isPart_of_render {s : Scalar} {part : String}
    (h : s.render env .attributeOperand hint = .ok part) : env.quoter.IsPart part := by
  obtain ⟨-, -, h⟩ := bind_eq_ok.mp h
  split at h
  · next hvalue =>
    cases h
    exact (Quoter.isToken_of_value hvalue).isPart
  · cases h

namespace Node

/-- A list of literals is their texts in brackets, with separators. -/
theorem render_array_scalars (scalars : List Scalar) :
    (array (scalars.map .scalar)).render env .attributeOperand hint = (do
      let parts ← scalars.mapM (Scalar.render env .attributeOperand hint)
      return "(" ++ ", ".intercalate parts ++ ")") := by
  have hitems : (scalars.map .scalar).mapM (render env .attributeOperand hint)
      = scalars.mapM (Scalar.render env .attributeOperand hint) :=
    mapM_map_eq fun _ _ => by rw [render]
  rw [render, renderAll_eq, hitems]
  rfl

/-- A list of literals stands in brackets, and divided at the separators
outside of quotes what is between them gives the texts of the literals, each
rendered by itself, one for one. The list is rendered exactly when each of
them is, and fails as the first that fails. -/
theorem array_taken_apart (env : Environment) (hint : Option Column) (scalars : List Scalar) :
    (∀ text, (array (scalars.map .scalar)).render env .attributeOperand hint = .ok text →
        ∃ inner, text = "(" ++ inner ++ ")"
          ∧ List.Forall₂ (fun s part => (scalar s).render env .attributeOperand hint = .ok part)
            scalars (env.quoter.parts inner))
      ∧ ((∃ text, (array (scalars.map .scalar)).render env .attributeOperand hint = .ok text)
        ↔ ∀ s ∈ scalars, ∃ part, (scalar s).render env .attributeOperand hint = .ok part)
      ∧ ∀ e, (array (scalars.map .scalar)).render env .attributeOperand hint = .error e
        ↔ ∃ s, FirstToFail (fun s => (scalar s).render env .attributeOperand hint) scalars s e := by
  have hfailure : failure? ((array (scalars.map .scalar)).render env .attributeOperand hint)
      = scalars.findSome? fun s => failure? ((scalar s).render env .attributeOperand hint) := by
    rw [render_array_scalars, failure?_return]
    exact failure?_mapM fun s _ => by rw [render]
  refine ⟨fun text h => ?parts, ?rendered, fun e => ?failed⟩
  case parts =>
    rw [render_array_scalars] at h
    obtain ⟨parts, hparts, h⟩ := bind_eq_ok.mp h
    cases h
    have hpart : ∀ part ∈ parts, env.quoter.IsPart part := by
      intro part hmem
      obtain ⟨s, -, hs⟩ := exists_mem_of_mapM hparts hmem
      exact s.isPart_of_render hs
    refine ⟨", ".intercalate parts, rfl, ?_⟩
    rw [Quoter.parts_intercalate hpart]
    exact forall₂_of_mapM hparts fun s _ part hs => by rwa [render]
  case rendered => rw [← failure?_eq_none, hfailure, findSome?_failure?_eq_none]
  case failed => rw [← failure?_eq_some, hfailure, findSome?_failure?_eq_some]

/-- An environment where backslashes escape. -/
private def escaping : Environment :=
  .ofConfig { dialect := .mysql }

/-- Literals that hold separators, quotes, a backslash at the end and brackets. -/
private def awkward : List Scalar :=
  [⟨.string "a, 'b\\", none⟩, ⟨.int 7, some ⟨"tag", .string⟩⟩, ⟨.null, none⟩,
    ⟨.string "), (", none⟩]

/-- Numbers that are refused. -/
private def refused : List Scalar :=
  [⟨.decimal "1e5", none⟩, ⟨.decimal "", none⟩]

/-- Each of them is found again; with refused numbers behind them, the first of
these is reported. -/
theorem array_taken_apart_awkward :
    ∃ inner, (array (awkward.map .scalar)).render escaping .attributeOperand none
          = .ok ("(" ++ inner ++ ")")
        ∧ escaping.quoter.parts inner = ["'a, ''b\\\\'", "'7'", "NULL", "'), ('"]
        ∧ (array ((awkward ++ refused).map .scalar)).render escaping .attributeOperand none
          = .error (.unquotable (.coercion "1e5" (.decimal none none) "") .attributeOperand) := by
  have htext : (array (awkward.map .scalar)).render escaping .attributeOperand none
      = .ok "('a, ''b\\\\', '7', NULL, '), (')" := by
    decide +kernel
  have hexpected : List.Forall₂
      (fun s part => (scalar s).render escaping .attributeOperand none = .ok part)
      awkward ["'a, ''b\\\\'", "'7'", "NULL", "'), ('"] := by
    decide +kernel
  obtain ⟨hparts, hrendered, -⟩ := array_taken_apart escaping none awkward
  obtain ⟨-, -, hfailed⟩ := array_taken_apart escaping none (awkward ++ refused)
  obtain ⟨inner, hinner, heach⟩ := hparts _ htext
  refine ⟨inner, htext.trans (congrArg Except.ok hinner), ?_, (hfailed _).mpr ?_⟩
  · refine List.right_unique_forall₂' ?_ heach hexpected
    intro s a b ha hb
    exact Except.ok.inj (ha.symm.trans hb)
  · exact ⟨_, awkward, _, rfl, hrendered.mp ⟨_, htext⟩, by decide +kernel⟩

end Node
end QueryText
