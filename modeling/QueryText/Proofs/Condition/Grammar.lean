/-
Boolean formulas as they are written. A formula is a leaf or several formulas
joined by AND or by OR; its text is a sequence of leaves, words and brackets.
The grammar has three levels: AND joins leaves and formulas in brackets, OR
joins what AND has joined, and brackets hold anything. `Reads` says what a
sequence of tokens is read as.

The grammar is unambiguous (`Reads.unique`). For the induction the statement
is one about beginnings: two sequences that go on, each with something that
cannot belong to it any more, and that are then the same, are read as the
same formula and end at the same place.
-/
import Mathlib.Data.List.Basic
import QueryText.RenderError

namespace QueryText

-- ============================================================ the grammar

/-- A formula over leaves. -/
inductive Formula (α : Type) where
  | leaf (a : α)
  | group (connective : Connective) (members : List (Formula α))

namespace Formula

/-- Several formulas joined, or one by itself. -/
def of {α : Type} (connective : Connective) : List (Formula α) → Formula α
  | [f] => f
  | members => .group connective members

/-- What formulas are written with. -/
inductive Token (α : Type) where
  | leaf (a : α)
  | word (connective : Connective)
  | opening
  | closing

/-- The levels of the grammar. -/
inductive Level where
  /-- A leaf, or anything in brackets. -/
  | atom
  /-- One member or several, with the word between them. -/
  | chain (connective : Connective)

/-- What the members of a chain are: AND binds tighter than OR. -/
def Level.ofMembers : Connective → Level
  | .and => .atom
  | .or => .chain .and

/-- The level of a whole text. -/
def Level.whole : Level :=
  .chain .or

variable {α : Type}

/-- What a sequence of tokens is read as. A chain is given by its members,
each a part of the sequence with its reading. -/
inductive Reads : Level → List (Token α) → Formula α → Prop
  | leaf (a : α) : Reads .atom [.leaf a] (.leaf a)
  | bracketed {tokens : List (Token α)} {f : Formula α} (h : Reads Level.whole tokens f) :
      Reads .atom (.opening :: tokens ++ [.closing]) f
  | chain {connective : Connective} {parts : List (List (Token α) × Formula α)}
      (hne : parts ≠ [])
      (h : ∀ part ∈ parts, Reads (Level.ofMembers connective) part.1 part.2) :
      Reads (.chain connective) ([.word connective].intercalate (parts.map Prod.fst))
        (of connective (parts.map Prod.snd))

/-- A chain of one member is that member. -/
theorem Reads.single {connective : Connective} {tokens : List (Token α)} {f : Formula α}
    (h : Reads (Level.ofMembers connective) tokens f) : Reads (.chain connective) tokens f := by
  have hparts : ∀ part ∈ [(tokens, f)], Reads (Level.ofMembers connective) part.1 part.2 := by
    intro part hpart
    rw [List.mem_singleton.mp hpart]
    exact h
  have hchain := Reads.chain (List.cons_ne_nil _ _) hparts
  rwa [List.map_singleton, List.map_singleton, List.intercalate_singleton] at hchain

/-- Any chain is a whole text. -/
theorem Reads.whole {connective : Connective} {tokens : List (Token α)} {f : Formula α}
    (h : Reads (.chain connective) tokens f) : Reads Level.whole tokens f := by
  cases connective with
  | and =>
      have hmember : Reads (Level.ofMembers .or) tokens f := h
      exact .single hmember
  | or => exact h

/-- An atom is a member of any chain. -/
theorem Reads.member {tokens : List (Token α)} {f : Formula α} (h : Reads .atom tokens f)
    (connective : Connective) : Reads (Level.ofMembers connective) tokens f := by
  cases connective with
  | and => exact h
  | or =>
      have hmember : Reads (Level.ofMembers .and) tokens f := h
      exact .single hmember

-- ======================================================== one reading only

/-- What comes next cannot belong to a sequence of the level: no word that
goes on with one of its chains. -/
def Level.EndsAt : Level → List (Token α) → Prop
  | .atom, _ => True
  | .chain .and, rest => ∀ more, rest ≠ .word .and :: more
  | .chain .or, rest => ∀ connective more, rest ≠ .word connective :: more

/-- What ends a chain ends its last member. -/
theorem Level.EndsAt.member {connective : Connective} {rest : List (Token α)}
    (h : EndsAt (.chain connective) rest) : EndsAt (Level.ofMembers connective) rest := by
  cases connective with
  | and => trivial
  | or => exact h .and

/-- The word of a chain ends a member of it. -/
theorem Level.endsAt_word (connective : Connective) (rest : List (Token α)) :
    EndsAt (Level.ofMembers connective) (.word connective :: rest) := by
  cases connective with
  | and => trivial
  | or =>
      intro more h
      cases h

/-- A chain does not end where its word comes next. -/
theorem Level.EndsAt.ne_word {connective : Connective} {rest more : List (Token α)}
    (h : EndsAt (.chain connective) rest) : rest ≠ .word connective :: more := by
  cases connective with
  | and => exact h more
  | or => exact h .or more

/-- A closing bracket ends a whole text, and so does the end. -/
theorem Level.endsAt_closing (rest : List (Token α)) :
    EndsAt Level.whole (.closing :: rest) := by
  intro connective more h
  cases h

theorem Level.endsAt_nil (level : Level) : EndsAt level ([] : List (Token α)) := by
  cases level with
  | atom => trivial
  | chain connective =>
      cases connective with
      | and =>
          intro more h
          cases h
      | or =>
          intro connective more h
          cases h

/-- The readings of a chain are told apart if those of its members are. -/
private theorem members_unique {connective : Connective}
    {parts others : List (List (Token α) × Formula α)}
    (ih : ∀ part ∈ parts, ∀ {tokens : List (Token α)} {g : Formula α} {us vs : List (Token α)},
      Reads (Level.ofMembers connective) tokens g →
        (Level.ofMembers connective).EndsAt us → (Level.ofMembers connective).EndsAt vs →
          part.1 ++ us = tokens ++ vs → part.2 = g ∧ us = vs)
    (hne : parts ≠ []) (hne' : others ≠ [])
    (hothers : ∀ part ∈ others, Reads (Level.ofMembers connective) part.1 part.2)
    {us vs : List (Token α)} (hus : Level.EndsAt (.chain connective) us)
    (hvs : Level.EndsAt (.chain connective) vs)
    (heq : [Token.word connective].intercalate (parts.map Prod.fst) ++ us
      = [Token.word connective].intercalate (others.map Prod.fst) ++ vs) :
    parts.map Prod.snd = others.map Prod.snd ∧ us = vs := by
  induction parts generalizing others with
  | nil => exact absurd rfl hne
  | cons part parts ihparts =>
      cases others with
      | nil => exact absurd rfl hne'
      | cons other others =>
          have hother := hothers other List.mem_cons_self
          have hpart := @ih part List.mem_cons_self
          -- Each side ends after its first member or goes on with the word.
          cases parts with
          | nil =>
              cases others with
              | nil =>
                  simp only [List.map_cons, List.map_nil, List.intercalate_singleton] at heq
                  obtain ⟨hfirst, hrest⟩ := hpart hother hus.member hvs.member heq
                  exact ⟨by simp [hfirst], hrest⟩
              | cons next others =>
                  simp only [List.map_cons, List.map_nil, List.intercalate_singleton,
                    List.intercalate_cons_cons, List.append_assoc] at heq
                  obtain ⟨-, hrest⟩ :=
                    hpart hother hus.member (Level.endsAt_word connective _) heq
                  exact absurd hrest hus.ne_word
          | cons second parts =>
              cases others with
              | nil =>
                  simp only [List.map_cons, List.map_nil, List.intercalate_singleton,
                    List.intercalate_cons_cons, List.append_assoc] at heq
                  obtain ⟨-, hrest⟩ :=
                    hpart hother (Level.endsAt_word connective _) hvs.member heq
                  exact absurd hrest.symm hvs.ne_word
              | cons next others =>
                  rw [List.map_cons, List.map_cons, List.map_cons, List.map_cons,
                    List.intercalate_cons_cons, List.intercalate_cons_cons, List.append_assoc,
                    List.append_assoc, List.append_assoc, List.append_assoc] at heq
                  obtain ⟨hfirst, hrest⟩ := hpart hother (Level.endsAt_word connective _)
                    (Level.endsAt_word connective _) heq
                  obtain ⟨hmembers, hends⟩ := ihparts
                    (fun q hq => ih q (List.mem_cons_of_mem _ hq)) (by simp) (by simp)
                    (fun q hq => hothers q (List.mem_cons_of_mem _ hq)) (List.cons.inj hrest).2
                  exact ⟨congrArg₂ List.cons hfirst hmembers, hends⟩

/-- Of two sequences that are the same together with what follows each, one
is read as the other is, and they end at the same place. -/
theorem Reads.unique_append {level : Level} {tokens tokens' us vs : List (Token α)}
    {f g : Formula α} (h : Reads level tokens f) (h' : Reads level tokens' g)
    (hus : level.EndsAt us) (hvs : level.EndsAt vs) (heq : tokens ++ us = tokens' ++ vs) :
    f = g ∧ us = vs := by
  -- The rest is general, because a part inside of brackets or of a chain has
  -- more of the sequence behind it than the whole has.
  induction h generalizing tokens' g us vs with
  | leaf a =>
      cases h' with
      | leaf b =>
          cases heq
          exact ⟨rfl, rfl⟩
      | bracketed h' => cases heq
  | @bracketed tokens f h ih =>
      cases h' with
      | leaf b => cases heq
      | @bracketed tokens' g h' =>
          have hinside : tokens ++ .closing :: us = tokens' ++ .closing :: vs := by
            simpa using heq
          obtain ⟨hf, hends⟩ :=
            ih h' (Level.endsAt_closing us) (Level.endsAt_closing vs) hinside
          exact ⟨hf, (List.cons.inj hends).2⟩
  | @chain connective parts hne h ih =>
      cases h' with
      | @chain _ others hne' h' =>
          obtain ⟨hmembers, hends⟩ := members_unique (fun part hpart => ih part hpart) hne hne' h'
            hus hvs heq
          exact ⟨by rw [hmembers], hends⟩

/-- A sequence of tokens has one reading at most. -/
theorem Reads.unique {level : Level} {tokens : List (Token α)} {f g : Formula α}
    (h : Reads level tokens f) (h' : Reads level tokens g) : f = g :=
  (h.unique_append h' level.endsAt_nil level.endsAt_nil rfl).1

end Formula
end QueryText
