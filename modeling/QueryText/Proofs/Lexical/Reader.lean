/-
A reader of rendered text. It knows as much of SQL as quoting is about:
strings between single quotes and identifiers between the quotes of the
dialect, the delimiter doubled inside of both, and a backslash that stands
for the character after it inside of a string, where backslashes escape.
Every other character is a token by itself.

The reader goes through the text character by character. After a delimiter
it waits: another one continues the quoted text, anything else ends it. So
two texts must not be put next to each other, for the quote that ends one
may be doubled by the quote that begins the next; with a character between
them that is no quote they are read one after the other
(`tokens?_append_cons`). `Reads` says that a text is closed, and what it is
read as; the rest of the file puts texts together.
-/
import QueryText.Environment

namespace QueryText.Lexical

-- ============================================================ the tokens

/-- The two kinds of quoted text. -/
inductive Quote
  | identifier
  | string
deriving DecidableEq

/-- A part of a text. -/
inductive Token
  | plain (c : Char)
  | quoted (kind : Quote) (content : List Char)
deriving DecidableEq

/-- A token without what is quoted in it. -/
inductive Shape
  | plain (c : Char)
  | quoted (kind : Quote)
deriving DecidableEq

/-- What remains of a token when a placeholder takes the place of quoted
text. -/
def Token.shape : Token → Shape
  | .plain c => .plain c
  | .quoted kind _ => .quoted kind

-- ============================================================ the reader

/-- What a reader is in the middle of. -/
inductive Mode
  | outside
  | inside (kind : Quote) (content : List Char)
  /-- After a backslash inside of a string. -/
  | escaped (content : List Char)
  /-- After a delimiter, which ends the text unless it is doubled. -/
  | closing (kind : Quote) (content : List Char)

/-- The tokens that are complete when the text ends here; none inside of
quotes. -/
def Mode.finish : Mode → Option (List Token)
  | .outside => some []
  | .closing kind content => some [.quoted kind content]
  | .inside _ _ | .escaped _ => none

end QueryText.Lexical

namespace QueryText

open Lexical

namespace Quoter

/-- The character on both sides of a quoted text. -/
def delimiter (q : Quoter) : Quote → Char
  | .identifier => q.dialect.identifierQuote
  | .string => '\''

/-- Whether a backslash stands for the character after it. -/
def escapesIn (q : Quoter) : Quote → Bool
  | .identifier => false
  | .string => q.backslashEscapes

/-- Reads a character outside of quotes. -/
def readOutside (q : Quoter) (c : Char) : List Token × Mode :=
  if c = q.delimiter .string then ([], .inside .string [])
  else if c = q.delimiter .identifier then ([], .inside .identifier [])
  else ([.plain c], .outside)

/-- Reads a character: the tokens that it completes, and what comes next. -/
def readChar (q : Quoter) : Mode → Char → List Token × Mode
  | .outside, c => q.readOutside c
  | .inside kind content, c =>
    if c = q.delimiter kind then ([], .closing kind content)
    else if q.escapesIn kind && c == '\\' then ([], .escaped content)
    else ([], .inside kind (content ++ [c]))
  | .escaped content, c => ([], .inside .string (content ++ [c]))
  | .closing kind content, c =>
    if c = q.delimiter kind then ([], .inside kind (content ++ [c]))
    else
      let (tokens, mode) := q.readOutside c
      (.quoted kind content :: tokens, mode)

/-- Reads a text. -/
def readFrom (q : Quoter) : Mode → List Char → List Token × Mode
  | mode, [] => ([], mode)
  | mode, c :: rest =>
    let (tokens, next) := q.readChar mode c
    let (others, last) := readFrom q next rest
    (tokens ++ others, last)

/-- The tokens of a text that does not end inside of quotes. -/
def tokens? (q : Quoter) (text : List Char) : Option (List Token) :=
  let (tokens, last) := q.readFrom .outside text
  last.finish.map fun others => tokens ++ others

/-- The text is closed, and these are its tokens. -/
def Reads (q : Quoter) (text : String) (tokens : List Token) : Prop :=
  q.tokens? text.toList = some tokens

/-- The text does not end inside of quotes. -/
def Closed (q : Quoter) (text : String) : Prop :=
  ∃ tokens, q.Reads text tokens

instance (q : Quoter) : DecidablePred q.Closed := fun text =>
  decidable_of_iff ((q.tokens? text.toList).isSome = true) Option.isSome_iff_exists

variable {q : Quoter}

-- ======================================================= one after another

/-- Reading one character and then the others. -/
theorem readFrom_cons (mode : Mode) (c : Char) (rest : List Char) :
    q.readFrom mode (c :: rest)
      = ((q.readChar mode c).1 ++ (q.readFrom (q.readChar mode c).2 rest).1,
          (q.readFrom (q.readChar mode c).2 rest).2) := rfl

/-- Reading goes on where it stopped. -/
theorem readFrom_append (mode : Mode) (a b : List Char) :
    q.readFrom mode (a ++ b)
      = ((q.readFrom mode a).1 ++ (q.readFrom (q.readFrom mode a).2 b).1,
          (q.readFrom (q.readFrom mode a).2 b).2) := by
  induction a generalizing mode with
  | nil => rfl
  | cons c a ih =>
      rw [List.cons_append, readFrom_cons, readFrom_cons, ih]
      simp only [List.append_assoc]

/-- Characters that quote in no dialect. -/
def isPlain (c : Char) : Bool :=
  c != '\'' && c != '"' && c != '\x60'

/-- A plain character is no delimiter. -/
theorem ne_delimiter_of_isPlain {c : Char} (h : isPlain c = true) (kind : Quote) :
    c ≠ q.delimiter kind := by
  simp only [isPlain, Bool.and_eq_true, bne_iff_ne] at h
  obtain ⟨⟨hstring, hdouble⟩, hback⟩ := h
  cases kind with
  | string => exact hstring
  | identifier =>
      unfold delimiter Dialect.identifierQuote
      cases q.dialect with
      | mysql | bigquery => exact hback
      | _ => exact hdouble

/-- A plain character outside of quotes is a token. -/
theorem readOutside_plain {c : Char} (h : isPlain c = true) :
    q.readOutside c = ([.plain c], .outside) := by
  rw [readOutside, if_neg (ne_delimiter_of_isPlain h .string),
    if_neg (ne_delimiter_of_isPlain h .identifier)]

/-- A plain character completes the quoted text before it. -/
theorem readChar_plain {c : Char} (h : isPlain c = true) {mode : Mode} {others : List Token}
    (hmode : mode.finish = some others) :
    q.readChar mode c = (others ++ [.plain c], .outside) := by
  cases mode with
  | outside =>
      cases hmode
      exact readOutside_plain h
  | closing kind content =>
      cases hmode
      simp only [readChar, if_neg (ne_delimiter_of_isPlain h kind), readOutside_plain h]
      rfl
  | inside kind content => cases hmode
  | escaped content => cases hmode

/-- A plain character after a closed text begins anew. -/
theorem tokens?_append_cons {a : List Char} {tokens : List Token} (ha : q.tokens? a = some tokens)
    {c : Char} (h : isPlain c = true) (b : List Char) :
    q.tokens? (a ++ c :: b) = (q.tokens? b).map fun others => tokens ++ .plain c :: others := by
  unfold tokens? at ha ⊢
  obtain ⟨others, hothers, rfl⟩ := Option.map_eq_some_iff.mp ha
  rw [readFrom_append, readFrom_cons, readChar_plain h hothers]
  simp [Function.comp_def]

-- =========================================================== putting together

/-- Text without any quotes. -/
def Plain (text : String) : Prop :=
  ∀ c ∈ text.toList, isPlain c = true

instance : DecidablePred Plain := fun text => List.decidableBAll _ text.toList

/-- Each character of plain text is a token, whatever comes next. -/
theorem tokens?_plain_append {a : List Char} (ha : ∀ c ∈ a, isPlain c = true) (b : List Char) :
    q.tokens? (a ++ b) = (q.tokens? b).map fun others => a.map .plain ++ others := by
  induction a with
  | nil => simp
  | cons c a ih =>
      have hfirst := tokens?_append_cons (q := q) (a := []) rfl (ha c List.mem_cons_self) (a ++ b)
      rw [List.nil_append] at hfirst
      rw [List.cons_append, hfirst, ih fun c' hc' => ha c' (List.mem_cons_of_mem c hc')]
      simp [Function.comp_def]

/-- Nothing is read as nothing. -/
theorem reads_empty (q : Quoter) : q.Reads "" [] := rfl

/-- Plain text is read as its characters. -/
theorem Plain.reads {text : String} (h : Plain text) : q.Reads text (text.toList.map .plain) := by
  have htext := tokens?_plain_append (q := q) h []
  rw [List.append_nil] at htext
  rw [Reads, htext]
  simp [tokens?, readFrom, Mode.finish]

/-- Two closed texts with plain text between them are read one after the
other. -/
theorem Reads.append {a b sep : String} {ta tb : List Token} (ha : q.Reads a ta)
    (hb : q.Reads b tb) (hsep : Plain sep) (hne : sep ≠ "") :
    q.Reads (a ++ sep ++ b) (ta ++ sep.toList.map .plain ++ tb) := by
  unfold Reads at *
  rw [String.toList_append, String.toList_append, List.append_assoc]
  unfold Plain at hsep
  cases hlist : sep.toList with
  | nil => exact absurd (String.toList_eq_nil_iff.mp hlist) hne
  | cons c rest =>
      rw [hlist] at hsep
      have hrest : ∀ c' ∈ rest, isPlain c' = true := fun c' hc' =>
        hsep c' (List.mem_cons_of_mem c hc')
      rw [List.cons_append, tokens?_append_cons ha (hsep c List.mem_cons_self),
        tokens?_plain_append hrest, hb]
      simp

/-- A closed text with another one in brackets behind it. -/
theorem Reads.called {f a : String} {tf ta : List Token} (hf : q.Reads f tf) (ha : q.Reads a ta) :
    q.Reads (f ++ "(" ++ a ++ ")") (tf ++ .plain '(' :: ta ++ [.plain ')']) := by
  have hopened := hf.append ha (show Plain "(" by decide) (by decide)
  have hclosed := hopened.append (reads_empty q) (show Plain ")" by decide) (by decide)
  simpa using hclosed

end Quoter
end QueryText
