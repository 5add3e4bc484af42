/-
Which characters a literal brings into a query. A literal that is written at
all is written as a word, as a number, or as its bare text between quotes.
Which of them it is, and which word, number or text, does not depend on how
strings are quoted (`value_sameToken`).

Words and numbers are made of letters, digits, signs and points, hence hold
neither quotes nor brackets (`Bare`). That numbers do is the grammar of
numerals, whether a number was given as one or read from text.
-/
import QueryText.Proofs.Lexical.Quoted
import QueryText.Proofs.Quoting.Coercion
import QueryText.Proofs.Rendering.Outcome

namespace QueryText

open Lexical

-- ============================================================= bare words

/-- The characters of bare words and numbers. -/
def isBareChar (c : Char) : Bool :=
  Text.isDigit c || c.isAlpha || c == '+' || c == '-' || c == '.'

/-- A bare word or number. -/
def Bare (text : List Char) : Prop :=
  ∀ c ∈ text, isBareChar c = true

instance : DecidablePred Bare := fun text => List.decidableBAll _ text

/-- A bare word holds no quotes. -/
theorem Bare.plain {text : String} (h : Bare text.toList) : Quoter.Plain text := by
  intro c hc
  have hbare := h c hc
  simp only [Quoter.isPlain, Bool.and_eq_true, bne_iff_ne]
  have hne : ∀ d, isBareChar d = false → c ≠ d := by
    intro d hd heq
    rw [heq, hd] at hbare
    cases hbare
  exact ⟨⟨hne '\'' (by decide), hne '"' (by decide)⟩, hne '\x60' (by decide)⟩

theorem Text.IsNumeral.bare {s : List Char} (h : Text.IsNumeral s) : Bare s := by
  obtain ⟨n, hn⟩ := h
  intro c hc
  rcases hn.mem hc with hdigit | rfl | rfl | rfl
  · simp [isBareChar, hdigit]
  · rfl
  · rfl
  · rfl

-- =============================================================== literals

namespace Quoter

variable {q q' : Quoter} {literal : Literal}

/-- The same word, the same number, or the bare text of a literal in the
quotes of each. -/
inductive SameToken (q q' : Quoter) (literal : Literal) : String → String → Prop
  | word {s : String} : s ∈ ["NULL", "TRUE", "FALSE"] → SameToken q q' literal s s
  | number {s : String} : Text.IsNumeral s.toList → SameToken q q' literal s s
  | quoted : SameToken q q' literal (q.string literal.bare) (q'.string literal.bare)

/-- A number that is read from text is the same for both quoters, or both
refuse the text. -/
theorem agree_coerced {R : String → String → Prop} (hnumber : ∀ s, Text.IsNumeral s.toList → R s s)
    {given name : String} {target : LogicalType} {result : Option (List Char)}
    (h : ∀ s, result = some s → Text.IsNumeral s) :
    Agree R (coerced given target name result) (coerced given target name result) :=
  Agree.refl fun s hs => hnumber s (h _ (coerced_eq_ok_iff.mp hs))

/-- What a literal can be written as: null as its word, a truth value in one
of the styles, and everything else as a number or as its bare text in quotes.
Which of them it is, is the same for quoters that write truth values alike,
and so is what they refuse. -/
theorem value_agree_of_tokens {R : String → String → Prop}
    (hstyle : q'.booleanStyle = q.booleanStyle) (column : Option Column)
    (hnull : literal = .null → R "NULL" "NULL")
    (hbool : ∀ (b : Bool) (style : BooleanStyle), literal = .bool b →
      R (style.write b) (style.write b))
    (hnumber : ∀ s, Text.IsNumeral s.toList → R s s)
    (hquoted : R (q.string literal.bare) (q'.string literal.bare)) :
    Agree R (q.value literal column) (q'.value literal column) := by
  have hquoted : Agree R (.ok (q.string literal.bare) : Except QuotingError String)
      (.ok (q'.string literal.bare)) := Agree.ok hquoted
  have hwritten : ∀ {s : List Char}, Text.IsNumeral s →
      Agree R (.ok (String.ofList s) : Except QuotingError String) (.ok (String.ofList s)) := by
    intro s hs
    exact Agree.ok (hnumber _ (by rwa [String.toList_ofList]))
  cases literal with
  | null => exact Agree.ok (hnull rfl)
  | bool b =>
      -- only a whole-number column has truth values of its own
      have hstyled : Agree R (.ok (q.booleanStyle.write b) : Except QuotingError String)
          (.ok (q'.booleanStyle.write b)) := by
        rw [hstyle]
        exact Agree.ok (hbool b _ rfl)
      rcases column with _ | ⟨name, type⟩
      · exact hstyled
      · cases type with
        | int => exact Agree.ok (hbool b .numeric rfl)
        | _ => exact hstyled
  | int n =>
      cases column with
      | none => exact hwritten (Text.isNumeral_int n.toInt)
      | some c =>
          simp only [value]
          split
          · exact hquoted
          · exact hwritten (Text.isNumeral_int n.toInt)
  | float x =>
      cases column with
      | none =>
          simp only [value]
          split
          · exact Agree.error _
          · next hfinite => exact hwritten (x.isNumeral_write (by simpa using hfinite))
      | some c =>
          simp only [value]
          split
          · exact Agree.error _
          · next hfinite =>
            split
            · exact hquoted
            · split
              · exact agree_coerced hnumber (readsExactly_integral.numeral _)
              · exact hwritten (x.isNumeral_write (by simpa using hfinite))
  | decimal text =>
      cases column with
      | none => exact agree_coerced hnumber (readsExactly_decimal.numeral _)
      | some c =>
          simp only [value]
          split
          · exact hquoted
          · split
            · exact agree_coerced hnumber (readsExactly_integral.numeral _)
            · exact agree_coerced hnumber (readsExactly_decimal.numeral _)
  | string text =>
      cases column with
      | none => exact hquoted
      | some c =>
          simp only [value]
          split
          · exact agree_coerced hnumber fun s => isNumeral_of_numeric?
          · exact hquoted
  | date _ | timestamp _ =>
      cases column with
      | none => exact hquoted
      | some c =>
          simp only [value]
          split
          · exact Agree.error _
          · exact hquoted

theorem sameToken_boolean (style : BooleanStyle) (b : Bool) :
    SameToken q q' literal (style.write b) (style.write b) := by
  cases style with
  | keyword => cases b <;> exact .word (by simp [BooleanStyle.write])
  | numeric => cases b <;> exact .number (Text.isNumeral_digit (by decide))

/-- Quoters that write truth values alike write a literal as the same token,
or both refuse it. -/
theorem value_sameToken (hstyle : q'.booleanStyle = q.booleanStyle) (literal : Literal)
    (column : Option Column) :
    Agree (SameToken q q' literal) (q.value literal column) (q'.value literal column) :=
  value_agree_of_tokens hstyle column (fun _ => .word (by simp))
    (fun b style _ => sameToken_boolean style b) (fun _ => .number) .quoted

/-- The same bare word, or the same string in the quotes of each. -/
def WrittenAlike (q q' : Quoter) (a b : String) : Prop :=
  b = a ∧ Bare a.toList ∨ ∃ text, a = q.string text ∧ b = q'.string text

theorem SameToken.writtenAlike {a b : String} (h : SameToken q q' literal a b) :
    WrittenAlike q q' a b := by
  cases h with
  | word hword =>
      have hbare : ∀ s ∈ ["NULL", "TRUE", "FALSE"], Bare s.toList := by decide
      exact .inl ⟨rfl, hbare _ hword⟩
  | number hnumber => exact .inl ⟨rfl, hnumber.bare⟩
  | quoted => exact .inr ⟨literal.bare, rfl, rfl⟩

/-- Quoters that write truth values alike write a literal alike, or both
refuse it. -/
theorem value_agree (hstyle : q'.booleanStyle = q.booleanStyle) (literal : Literal)
    (column : Option Column) :
    Agree (WrittenAlike q q') (q.value literal column) (q'.value literal column) :=
  (value_sameToken hstyle literal column).mono fun _ _ h => h.writtenAlike

/-- A literal is written as a bare word or as a quoted string. -/
theorem value_bare_or_string {column : Option Column} {s : String}
    (h : q.value literal column = .ok s) : Bare s.toList ∨ ∃ text, s = q.string text := by
  have hagree := value_agree (q := q) rfl literal column
  rw [h] at hagree
  rcases hagree with ⟨-, hbare⟩ | ⟨text, hs, -⟩
  · exact .inl hbare
  · exact .inr ⟨text, hs⟩

/-- A literal is written as closed text. -/
theorem value_closed {column : Option Column} {s : String}
    (h : q.value literal column = .ok s) : q.Closed s := by
  rcases value_bare_or_string h with hbare | ⟨text, rfl⟩
  · exact ⟨_, hbare.plain.reads⟩
  · exact ⟨_, q.reads_string text⟩

end Quoter
end QueryText
