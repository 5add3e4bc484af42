/-
The configuration of a rendering: a dialect, what overrides the dialect's
own quoting habits, and how repeated relation names are told apart.
-/
import QueryText.Dialect

namespace QueryText

-- ============================================================ the parts

/-- What replaces the dialect's own habits of quoting values. -/
structure QuotingOptions where
  booleanStyle : Option BooleanStyle := none
  backslashEscapes : Option Bool := none
deriving DecidableEq

/-- How display names are formed. -/
structure NamingOptions where
  /-- What stands between a repeated name and its number. -/
  separator : String := "_"
deriving DecidableEq

/-- A configuration. -/
structure Config where
  dialect : Dialect := .ansi
  quoting : QuotingOptions := {}
  naming : NamingOptions := {}
deriving DecidableEq

namespace Config

/-- The style of truth values in effect. -/
def booleanStyle (c : Config) : BooleanStyle :=
  c.quoting.booleanStyle.getD c.dialect.booleanStyle

/-- Whether backslashes escape, in effect. -/
def backslashEscapes (c : Config) : Bool :=
  c.quoting.backslashEscapes.getD c.dialect.backslashEscapes

end Config

-- =============================================================== errors

/-- Why there is no configuration. -/
inductive ConfigError
  /-- A file could not be read or written. -/
  | inaccessible
  /-- The text is no configuration document. -/
  | malformed
  /-- No dialect has this name, given in lower case. -/
  | unknownDialect (name : String)
deriving DecidableEq

/-- The wording of an error. -/
def ConfigError.message : ConfigError → String
  | .inaccessible => "IO error"
  | .malformed => "Parse error"
  | .unknownDialect name => "Parse error: unknown dialect '" ++ name ++ "'"

/-- The dialect of a name, in any case of ASCII letters. -/
def Dialect.ofName (s : String) : Except ConfigError Dialect :=
  match ofLowerName? s.toLower with
  | some d => .ok d
  | none => .error (.unknownDialect s.toLower)

end QueryText
