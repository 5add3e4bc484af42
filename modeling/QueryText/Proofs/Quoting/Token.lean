/-
A literal is one token. Whatever the column that it is compared with, it is
written as a word for null or a truth value, as a bare number, or as its bare
text between quotes (`value_one_token`). So text that comes from outside, in
a string or in a decimal, has no way past the quotes but one: to be a number
already.

Text is written without quotes only by a reader of numbers. Such a reader
takes nothing else than a numeral, the one of binary64 numbers apart, which
writes the number that it has read anew.
-/
import QueryText.Proofs.Lexical.Value

namespace QueryText

open Lexical Text

namespace Quoter

variable {q : Quoter}

-- =============================================================== the token

/-- What a literal is written as: a word, a number, or its bare text between
quotes. -/
inductive IsToken (q : Quoter) (literal : Literal) (out : String) : Prop
  | word : out ∈ ["NULL", "TRUE", "FALSE"] → IsToken q literal out
  | number : IsNumeral out.toList → IsToken q literal out
  | quoted : out = q.string literal.bare → IsToken q literal out

variable {literal : Literal} {out : String}

theorem isToken_of_value {column : Option Column} (h : q.value literal column = .ok out) :
    q.IsToken literal out := by
  have hsame := value_sameToken (q := q) rfl literal column
  rw [h] at hsame
  cases hsame with
  | word hword => exact .word hword
  | number hnumber => exact .number hnumber
  | quoted => exact .quoted rfl

-- ======================================================= text from outside

variable {text : String} {column : Option Column}

theorem source_of_string (h : q.value (.string text) column = .ok out) :
    out = q.string text ∨ IsNumeral (trim text.toList)
      ∨ ∃ c ∈ column, c.logicalType = .float ∧ ∃ x, Binary64.read (trim text.toList) = some x
        ∧ x.isFinite = true ∧ out.toList = x.write := by
  cases column with
  | none =>
      obtain rfl := Except.ok.inj h
      exact .inl rfl
  | some c =>
      cases hnumeric : c.logicalType.isNumeric with
      | true =>
          rw [value_string_of_numeric hnumeric, coerced_eq_ok_iff] at h
          rcases source_of_numeric? h with hnumeral | ⟨hfloat, hx⟩
          · exact .inr (.inl hnumeral)
          · exact .inr (.inr ⟨c, rfl, hfloat, hx⟩)
      | false =>
          simp only [value, hnumeric] at h
          obtain rfl := Except.ok.inj h
          exact .inl rfl

theorem source_of_decimal (h : q.value (.decimal text) column = .ok out) :
    out = q.string text ∨ IsNumeral text.toList := by
  have hwhole : ∀ {given name : String} {target : LogicalType},
      coerced given target name (integral? text.toList) = .ok out → IsNumeral text.toList := by
    intro given name target h
    exact ((readsExactly_integral.accepts _).mp ⟨_, coerced_eq_ok_iff.mp h⟩).isNumeral
  have hdecimal : ∀ {given name : String} {target : LogicalType},
      coerced given target name (decimal? text.toList) = .ok out → IsNumeral text.toList := by
    intro given name target h
    exact (readsExactly_decimal.accepts _).mp ⟨_, coerced_eq_ok_iff.mp h⟩
  cases column with
  | none => exact .inr (hdecimal h)
  | some c =>
      simp only [value] at h
      split at h
      · obtain rfl := Except.ok.inj h
        exact .inl rfl
      · split at h
        · exact .inr (hwhole h)
        · exact .inr (hdecimal h)

/-- A literal that is written is one token. The text of a string or of a
decimal stands between quotes as a whole, unless it is a number: a numeral, or
in a binary64 column what reads as a finite number, which is then written as
that number is. -/
theorem value_one_token (h : q.value literal column = .ok out) :
    q.IsToken literal out
      ∧ (∀ text, literal = .string text →
          q.Reads out [.quoted .string text.toList] ∨ IsNumeral (trim text.toList)
            ∨ ∃ c ∈ column, c.logicalType = .float
              ∧ ∃ x, Binary64.read (trim text.toList) = some x ∧ x.isFinite = true
                ∧ out.toList = x.write)
      ∧ (∀ text, literal = .decimal text →
          q.Reads out [.quoted .string text.toList] ∨ IsNumeral text.toList) := by
  refine ⟨isToken_of_value h, ?string, ?decimal⟩
  case string =>
    rintro text rfl
    rcases source_of_string h with rfl | hnumber
    · exact .inl (q.reads_string text)
    · exact .inr hnumber
  case decimal =>
    rintro text rfl
    rcases source_of_decimal h with rfl | hnumber
    · exact .inl (q.reads_string text)
    · exact .inr hnumber

/-- A string that tries to leave its quotes, with a backslash for the last of
them. -/
theorem value_one_token_backslash :
    ∃ out, (ofDialect .mysql).value (.string "1' OR '1'='1\\") (some ⟨"name", .string⟩) = .ok out
      ∧ (ofDialect .mysql).IsToken (.string "1' OR '1'='1\\") out
      ∧ (ofDialect .mysql).Reads out [.quoted .string "1' OR '1'='1\\".toList] := by
  have hvalue : (ofDialect .mysql).value (.string "1' OR '1'='1\\") (some ⟨"name", .string⟩)
      = .ok ((ofDialect .mysql).string "1' OR '1'='1\\") := rfl
  obtain ⟨htoken, hstring, -⟩ := value_one_token hvalue
  refine ⟨_, hvalue, htoken, ?_⟩
  rcases hstring _ rfl with hquoted | hnumeral | ⟨c, hc, hfloat, -⟩
  · exact hquoted
  · exact absurd hnumeral (not_isNumeral_of_read (by decide +kernel))
  · cases hc
    cases hfloat

end Quoter
end QueryText
