/-
What quoting writes is read back. `Quoted.read` reads a single quoted text
and stops behind the delimiter that ends it: it hands back what is quoted and
whatever comes next. Since the same characters are doubled as the reader takes
two by two, it gives back each character of what was enclosed, one after the
other (`Quoted.readInside_flatMap`); that it stops where the quoting stopped
is up to the text behind, which must not begin with the delimiter
(`Quoted.read_enclose_iff`).

The reader of whole queries goes on to the end, but inside of quotes it does
the same (`Quoter.readFrom_of_readInside`). So for it, too, a quoted
identifier is one token with the identifier in it, and a quoted string one
with the string. Different identifiers are quoted differently, therefore.
-/
import QueryText.Proofs.Lexical.Reader

namespace QueryText

open Lexical

-- ==================================================== a single quoted text

namespace Quoted

/-- Reads quoted text behind the delimiter that begins it, up to the one that
ends it. A doubled delimiter stands for one, and where backslashes escape, a
backslash stands for the character after it. -/
def readInside (delimiter : Char) (escapes : Bool) : List Char → Option (List Char × List Char)
  | [] => none
  | [c] => if c = delimiter then some ([], []) else none
  | c :: d :: rest =>
    if c = delimiter then
      if d = delimiter then (readInside delimiter escapes rest).map (Prod.map (d :: ·) id)
      else some ([], d :: rest)
    else if escapes && c == '\\' then
      (readInside delimiter escapes rest).map (Prod.map (d :: ·) id)
    else (readInside delimiter escapes (d :: rest)).map (Prod.map (c :: ·) id)

/-- Reads quoted text from the delimiter that begins it: what it holds, and
what follows it. -/
def read (delimiter : Char) (escapes : Bool) : List Char → Option (List Char × List Char)
  | [] => none
  | c :: rest => if c = delimiter then readInside delimiter escapes rest else none

variable {delimiter : Char} {escapes : Bool} {special : Char → Bool}

/-- A character inside of quotes is given back, doubled or not. -/
theorem readInside_double
    (hspecial : ∀ c, special c = (c == delimiter || (escapes && c == '\\')))
    (c : Char) (s : List Char) :
    readInside delimiter escapes (double special c ++ s)
      = (readInside delimiter escapes s).map (Prod.map (c :: ·) id) := by
  unfold double
  by_cases hdelimiter : c = delimiter
  · subst hdelimiter
    have hc : special c = true := by simp [hspecial]
    simp [hc, readInside]
  · by_cases hescape : (escapes && c == '\\') = true
    · have hc : special c = true := by simp [hspecial, hescape]
      simp [hc, readInside, hdelimiter, hescape]
    · have hc : special c = false := by simp [hspecial, hdelimiter, hescape]
      cases s with
      | nil => simp [hc, readInside, hdelimiter]
      | cons d rest => simp [hc, readInside, hdelimiter, hescape]

/-- What is enclosed is given back, before whatever follows. -/
theorem readInside_flatMap
    (hspecial : ∀ c, special c = (c == delimiter || (escapes && c == '\\')))
    (body s : List Char) :
    readInside delimiter escapes (body.flatMap (double special) ++ s)
      = (readInside delimiter escapes s).map (Prod.map (body ++ ·) id) := by
  induction body with
  | nil =>
      have hid : Prod.map (([] : List Char) ++ ·) (id : List Char → List Char) = id := rfl
      rw [hid, Option.map_id, id]
      rfl
  | cons c body ih =>
      rw [List.flatMap_cons, List.append_assoc, readInside_double hspecial, ih, Option.map_map]
      rfl

/-- The delimiter ends the text unless it is doubled. -/
theorem readInside_delimiter {rest : List Char} (h : rest.head? ≠ some delimiter) :
    readInside delimiter escapes (delimiter :: rest) = some ([], rest) := by
  cases rest with
  | nil => simp [readInside]
  | cons d rest =>
      have hd : d ≠ delimiter := by simpa using h
      simp [readInside, hd]

/-- Reading gives back what was enclosed and what follows it exactly when no
delimiter follows. -/
theorem read_enclose_iff
    (hspecial : ∀ c, special c = (c == delimiter || (escapes && c == '\\')))
    (body rest : List Char) :
    read delimiter escapes (enclose delimiter special body ++ rest) = some (body, rest)
      ↔ rest.head? ≠ some delimiter := by
  have hread : read delimiter escapes (enclose delimiter special body ++ rest)
      = (readInside delimiter escapes (delimiter :: rest)).map (Prod.map (body ++ ·) id) := by
    simp [read, enclose, readInside_flatMap hspecial]
  rw [hread]
  constructor
  · intro h hhead
    -- a second delimiter would belong to the text
    obtain ⟨more, rfl⟩ : ∃ more, rest = delimiter :: more := by
      cases rest with
      | nil => cases hhead
      | cons d more =>
          obtain rfl : d = delimiter := by simpa using hhead
          exact ⟨more, rfl⟩
    obtain ⟨⟨text, others⟩, hinside, hbody⟩ := Option.map_eq_some_iff.mp h
    rw [readInside, if_pos rfl, if_pos rfl] at hinside
    obtain ⟨⟨tail, _⟩, -, htext⟩ := Option.map_eq_some_iff.mp hinside
    obtain ⟨rfl, -⟩ := Prod.mk.inj htext
    have hlength := congrArg (fun p => p.1.length) hbody
    simp at hlength
  · intro h
    rw [readInside_delimiter h]
    simp

end Quoted

-- =============================================== one token of a whole query

namespace Quoter

variable {q : Quoter}

/-- Inside of quotes the reader of queries takes the same text, and is behind
the same delimiter then. -/
theorem readFrom_of_readInside {kind : Quote} {s text rest : List Char}
    (h : Quoted.readInside (q.delimiter kind) (q.escapesIn kind) s = some (text, rest))
    (content : List Char) :
    q.readFrom (.inside kind content) s = q.readFrom (.closing kind (content ++ text)) rest := by
  induction s using Quoted.readInside.induct (q.delimiter kind) (q.escapesIn kind)
    generalizing content text with
  | case1 => cases h
  | case2 =>
      rw [Quoted.readInside, if_pos rfl] at h
      cases h
      simp [readFrom, readChar]
  | case3 c hc =>
      rw [Quoted.readInside, if_neg hc] at h
      cases h
  | case4 rest ih =>
      rw [Quoted.readInside, if_pos rfl, if_pos rfl] at h
      obtain ⟨⟨tail, _⟩, hrest, htext⟩ := Option.map_eq_some_iff.mp h
      obtain ⟨rfl, rfl⟩ := Prod.mk.inj htext
      simpa [readFrom_cons, readChar] using ih hrest (content ++ [q.delimiter kind])
  | case5 d rest hd =>
      rw [Quoted.readInside, if_pos rfl, if_neg hd] at h
      cases h
      simp [readFrom_cons, readChar]
  | case6 c d rest hc hescape ih =>
      rw [Quoted.readInside, if_neg hc, if_pos hescape] at h
      obtain ⟨⟨tail, _⟩, hrest, htext⟩ := Option.map_eq_some_iff.mp h
      obtain ⟨rfl, rfl⟩ := Prod.mk.inj htext
      -- there are no backslashes that escape in identifiers
      obtain rfl : kind = .string := by
        cases kind with
        | string => rfl
        | identifier => simp [escapesIn] at hescape
      simpa [readFrom_cons, readChar, hc, hescape] using ih hrest (content ++ [d])
  | case7 c d rest hc hescape ih =>
      rw [Quoted.readInside, if_neg hc, if_neg hescape] at h
      obtain ⟨⟨tail, _⟩, hrest, htext⟩ := Option.map_eq_some_iff.mp h
      obtain ⟨rfl, rfl⟩ := Prod.mk.inj htext
      rw [readFrom_cons]
      simpa [readChar, hc, hescape] using ih hrest (content ++ [c])

/-- A delimiter outside of quotes begins a quoted text. -/
theorem readOutside_delimiter (kind : Quote) :
    q.readOutside (q.delimiter kind) = ([], .inside kind []) := by
  cases kind with
  | string => simp [readOutside]
  | identifier =>
      have hne : q.delimiter .identifier ≠ q.delimiter .string := by
        unfold delimiter Dialect.identifierQuote
        cases q.dialect <;> decide
      simp [readOutside, hne]

/-- Enclosed text is one token. -/
theorem tokens?_enclose {kind : Quote} {special : Char → Bool}
    (hspecial : ∀ c, special c = (c == q.delimiter kind || (q.escapesIn kind && c == '\\')))
    (text : List Char) :
    q.tokens? (Quoted.enclose (q.delimiter kind) special text) = some [.quoted kind text] := by
  have hinside : Quoted.readInside (q.delimiter kind) (q.escapesIn kind)
      (text.flatMap (Quoted.double special) ++ [q.delimiter kind]) = some (text, []) := by
    rw [Quoted.readInside_flatMap hspecial, Quoted.readInside_delimiter (by simp)]
    simp
  have hread : q.readFrom .outside (Quoted.enclose (q.delimiter kind) special text)
      = ([], .closing kind text) := by
    rw [Quoted.enclose, List.cons_append, readFrom_cons, readChar, readOutside_delimiter,
      readFrom_of_readInside hinside]
    rfl
  rw [tokens?, hread]
  rfl

theorem identifier_special (q : Quoter) (c : Char) :
    (c == q.dialect.identifierQuote)
      = (c == q.delimiter .identifier || (q.escapesIn .identifier && c == '\\')) := by
  simp [delimiter, escapesIn]

theorem string_special (q : Quoter) (c : Char) :
    q.isSpecial c = (c == q.delimiter .string || (q.escapesIn .string && c == '\\')) := rfl

/-- A quoted identifier is one token. -/
theorem reads_identifier (q : Quoter) (name : String) :
    q.Reads (q.identifier name) [.quoted .identifier name.toList] := by
  rw [Reads, identifier, String.toList_ofList]
  exact tokens?_enclose q.identifier_special name.toList

/-- A quoted string is one token. -/
theorem reads_string (q : Quoter) (text : String) :
    q.Reads (q.string text) [.quoted .string text.toList] := by
  rw [Reads, string, String.toList_ofList]
  exact tokens?_enclose q.string_special text.toList

/-- Different names are different identifiers. -/
theorem identifier_injective {a b : String} (h : q.identifier a = q.identifier b) : a = b := by
  have ha := q.reads_identifier a
  have hb := q.reads_identifier b
  rw [h, Reads, hb] at ha
  exact String.toList_inj.mp (by simpa using ha.symm)

/-- Different texts are different strings. -/
theorem string_injective {a b : String} (h : q.string a = q.string b) : a = b := by
  have ha := q.reads_string a
  have hb := q.reads_string b
  rw [h, Reads, hb] at ha
  exact String.toList_inj.mp (by simpa using ha.symm)

-- ============================================================ in front of text

/-- In front of any text that does not begin with its delimiter, and of no
other, a quoted identifier is read back as it was, and the text behind it is
left; likewise a quoted string, whether backslashes escape or not. -/
theorem quoted_read_back (q : Quoter) (raw rest : String) :
    (Quoted.read q.dialect.identifierQuote false (q.identifier raw ++ rest).toList
          = some (raw.toList, rest.toList)
        ↔ rest.toList.head? ≠ some q.dialect.identifierQuote)
      ∧ (Quoted.read '\'' q.backslashEscapes (q.string raw ++ rest).toList
          = some (raw.toList, rest.toList)
        ↔ rest.toList.head? ≠ some '\'') := by
  constructor
  · rw [String.toList_append, identifier, String.toList_ofList]
    exact Quoted.read_enclose_iff q.identifier_special raw.toList rest.toList
  · rw [String.toList_append, string, String.toList_ofList]
    exact Quoted.read_enclose_iff q.string_special raw.toList rest.toList

/-- A backslash at the end does not reach past the quote behind it, whether
it escapes or not. -/
example :
    Quoted.read '\'' true ((ofDialect .mysql).string "it's\\" ++ " OR 1").toList
        = some ("it's\\".toList, " OR 1".toList)
      ∧ Quoted.read '\'' false ((ofDialect .ansi).string "it's\\" ++ " OR 1").toList
        = some ("it's\\".toList, " OR 1".toList) := by
  decide +kernel

end Quoter
end QueryText
