/-
The quoting of identifiers and values. A quoted text begins and ends with
its delimiter and doubles the delimiter inside; where backslashes escape,
strings double them too. Values are written for the column they are
compared with: numbers bare, text quoted, and text for a numeric column only
when it is a number.
-/
import QueryText.Config
import QueryText.Column
import QueryText.Literal
import QueryText.Text.Blank
import QueryText.Text.Numeral

namespace QueryText

-- =============================================================== errors

/-- Why a literal cannot be written. -/
inductive QuotingError
  /-- The text is no value of the column's type. -/
  | coercion (value : String) (target : LogicalType) (column : String)
  /-- An infinity or NaN. -/
  | nonFinite (value : Binary64)
  /-- The kind of literal has no form in the column's type. -/
  | unsupported (literal : String) (target : LogicalType) (column : String)
deriving DecidableEq

/-- The wording of an error. -/
def QuotingError.message : QuotingError → String
  | .coercion value target column =>
    "Cannot coerce '" ++ value ++ "' to " ++ target.describe ++ " for column '" ++ column ++ "'"
  | .nonFinite x => "Non-finite float " ++ String.ofList x.write ++ " has no SQL representation"
  | .unsupported literal target column =>
    "Cannot quote a " ++ literal ++ " literal for " ++ target.describe ++ " column '"
      ++ column ++ "'"

-- ======================================================== quoted texts

namespace Quoted

/-- A character inside of quotes: twice if it is special, else once. -/
def double (special : Char → Bool) (c : Char) : List Char :=
  if special c then [c, c] else [c]

/-- A text between two delimiters, with the special characters doubled. -/
def enclose (delimiter : Char) (special : Char → Bool) (s : List Char) : List Char :=
  delimiter :: s.flatMap (double special) ++ [delimiter]

end Quoted

-- ========================================================= the quoter

/-- How identifiers and values are quoted. -/
structure Quoter where
  dialect : Dialect
  booleanStyle : BooleanStyle
  backslashEscapes : Bool
deriving DecidableEq

namespace Quoter

/-- The dialect's own habits. -/
def ofDialect (d : Dialect) : Quoter :=
  ⟨d, d.booleanStyle, d.backslashEscapes⟩

/-- The dialect's habits with the overrides of a configuration. -/
def ofConfig (c : Config) : Quoter :=
  ⟨c.dialect, c.booleanStyle, c.backslashEscapes⟩

/-- An identifier between the quotes of the dialect. -/
def identifier (q : Quoter) (name : String) : String :=
  let quote := q.dialect.identifierQuote
  String.ofList (Quoted.enclose quote (· == quote) name.toList)

/-- Whether a character is doubled inside of a string. -/
def isSpecial (q : Quoter) (c : Char) : Bool :=
  c == '\'' || (q.backslashEscapes && c == '\\')

/-- A string between single quotes. -/
def string (q : Quoter) (text : String) : String :=
  String.ofList (Quoted.enclose '\'' q.isSpecial text.toList)

-- ============================================================== numbers

/-- Text as a bare whole number: a decimal numeral whose fraction is zero,
of any length. -/
def integral? (text : List Char) : Option (List Char) :=
  match Text.Numeral.read text with
  | some n => if n.isIntegral then some n.writeWhole else none
  | none => none

/-- Text as a bare decimal number: a decimal numeral, as it stands. -/
def decimal? (text : List Char) : Option (List Char) :=
  (Text.Numeral.read text).map fun _ => text

/-- Text as a bare binary64 number, as short as it can be written. -/
def finite? (text : List Char) : Option (List Char) :=
  match Binary64.read text with
  | some x => if x.isFinite then some x.write else none
  | none => none

/-- Text as a bare number of a numeric type. -/
def numeric? (target : LogicalType) (text : List Char) : Option (List Char) :=
  match target with
  | .int => integral? text
  | .float => finite? text
  | _ => decimal? text

/-- The text that a reader of numbers gives, or the refusal that names the
text as it was given. -/
def coerced (given : String) (target : LogicalType) (column : String)
    (result : Option (List Char)) : Except QuotingError String :=
  match result with
  | some s => .ok (String.ofList s)
  | none => .error (.coercion given target column)

-- =============================================================== values

/-- A literal as it is written where it is compared with a column, or where
no column is known. -/
def value (q : Quoter) (literal : Literal) (column : Option Column) :
    Except QuotingError String :=
  match literal, column with
  | .null, _ => .ok "NULL"
  | .bool b, some ⟨_, .int⟩ => .ok (BooleanStyle.numeric.write b)
  | .bool b, _ => .ok (q.booleanStyle.write b)
  | .int _, some c =>
    .ok (if c.logicalType.isTextual then q.string literal.bare else literal.bare)
  | .int _, none => .ok literal.bare
  | .float x, some c =>
    if !x.isFinite then .error (.nonFinite x)
    else if c.logicalType.isTextual then .ok (q.string literal.bare)
    else if c.logicalType = .int then
      coerced literal.bare .int c.name (integral? literal.bare.toList)
    else .ok literal.bare
  | .float x, none => if !x.isFinite then .error (.nonFinite x) else .ok literal.bare
  | .decimal text, some c =>
    if c.logicalType.isTextual then .ok (q.string text)
    else if c.logicalType = .int then coerced text .int c.name (integral? text.toList)
    else coerced text (.decimal none none) c.name (decimal? text.toList)
  | .decimal text, none => coerced text (.decimal none none) "" (decimal? text.toList)
  | .string text, some c =>
    if c.logicalType.isNumeric then
      coerced text c.logicalType c.name (numeric? c.logicalType (Text.trim text.toList))
    else .ok (q.string text)
  | .string text, none => .ok (q.string text)
  | .date _, some c | .timestamp _, some c =>
    if c.logicalType.isNumeric || c.logicalType = .bool then
      .error (.unsupported literal.typeName c.logicalType c.name)
    else .ok (q.string literal.bare)
  | .date _, none | .timestamp _, none => .ok (q.string literal.bare)

end Quoter
end QueryText
