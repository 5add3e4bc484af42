/-
The SQL dialects and what each of them decides by itself: the character
that delimits identifiers, how truth values are written, and whether a
backslash escapes inside a string.
-/
namespace QueryText

-- ======================================================= truth values

/-- How truth values are written. -/
inductive BooleanStyle
  | keyword
  | numeric
deriving DecidableEq

namespace BooleanStyle

/-- The style's name in documents. -/
def name : BooleanStyle → String
  | .keyword => "keyword"
  | .numeric => "numeric"

/-- Both styles, in the order that documents number them. -/
def all : List BooleanStyle :=
  [.keyword, .numeric]

/-- The text of a truth value. -/
def write : BooleanStyle → Bool → String
  | .keyword, true => "TRUE"
  | .keyword, false => "FALSE"
  | .numeric, true => "1"
  | .numeric, false => "0"

end BooleanStyle

-- =========================================================== dialects

/-- The dialects that text can be rendered in. -/
inductive Dialect
  | mysql
  | bigquery
  | snowflake
  | postgres
  | sqlite
  | ansi
deriving DecidableEq

namespace Dialect

/-- The dialect's name, in lower case. -/
def name : Dialect → String
  | .mysql => "mysql"
  | .bigquery => "bigquery"
  | .snowflake => "snowflake"
  | .postgres => "postgres"
  | .sqlite => "sqlite"
  | .ansi => "ansi"

/-- Every dialect, in the order that documents number them. -/
def all : List Dialect :=
  [.mysql, .bigquery, .snowflake, .postgres, .sqlite, .ansi]

/-- The dialect that a lower-case name means; one has two names. -/
def ofLowerName? (s : String) : Option Dialect :=
  if s = "postgresql" then some .postgres
  else all.find? (·.name = s)

/-- The character that delimits identifiers: a backtick or a double quote. -/
def identifierQuote : Dialect → Char
  | .mysql | .bigquery => '\x60'
  | .snowflake | .postgres | .sqlite | .ansi => '"'

/-- The style of truth values that the dialect has by itself. -/
def booleanStyle : Dialect → BooleanStyle
  | .mysql | .sqlite => .numeric
  | .bigquery | .snowflake | .postgres | .ansi => .keyword

/-- Whether a backslash escapes the character after it inside a string. -/
def backslashEscapes : Dialect → Bool
  | .mysql | .bigquery => true
  | .snowflake | .postgres | .sqlite | .ansi => false

end Dialect
end QueryText
