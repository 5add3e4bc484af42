/-
Configurations as TOML documents. A table is a record with unknown entries
ignored; an array stands for the values of a record in order, as many of
them as there are. A point of time is a record without known entries.
-/
import QueryText.Config
import QueryText.Toml.Reader

namespace QueryText

namespace Toml

/-- The entries of a record with the given names. -/
def record (names : List String) : Toml → Option (List (String × Toml))
  | .table entries => some entries
  | .array items => some (names.zip items)
  | .moment _ => some []
  | _ => none

/-- An entry that may be missing. -/
def optional {α : Type} (entries : List (String × Toml)) (name : String)
    (read : Toml → Option α) : Option (Option α) :=
  match entries.lookup name with
  | none => some none
  | some v => (read v).map some

/-- The name of a constant: a string, or the only key of a table, with
nothing in it. -/
def constantName : Toml → Option String
  | .string name => some name
  | .table [(name, .table [])] => some name
  | .table [(name, .array [])] => some name
  | _ => none

/-- One of several constants. -/
def constant {α : Type} (all : List α) (name : α → String) (v : Toml) : Option α :=
  match constantName v with
  | some s => all.find? fun a => name a == s
  | none => none

/-- A truth value. -/
def boolean? : Toml → Option Bool
  | .boolean b => some b
  | _ => none

/-- A string. -/
def string? : Toml → Option String
  | .string s => some s
  | _ => none

end Toml

open Toml

/-- The overrides of a TOML value. -/
def QuotingOptions.ofToml? (v : Toml) : Option QuotingOptions := do
  let entries ← record ["boolean_literals", "backslash_escapes"] v
  return {
    booleanStyle :=
      ← optional entries "boolean_literals" (constant BooleanStyle.all BooleanStyle.name)
    backslashEscapes := ← optional entries "backslash_escapes" boolean? }

/-- The naming options of a TOML value. -/
def NamingOptions.ofToml? (v : Toml) : Option NamingOptions := do
  let entries ← record ["suffix_separator"] v
  return { separator := (← optional entries "suffix_separator" string?).getD "_" }

namespace Config

/-- The configuration of a TOML value. -/
def ofToml? (v : Toml) : Option Config := do
  let entries ← record ["dialect", "quoting", "naming"] v
  return {
    dialect := (← optional entries "dialect" (constant Dialect.all Dialect.name)).getD .ansi
    quoting := (← optional entries "quoting" QuotingOptions.ofToml?).getD {}
    naming := (← optional entries "naming" NamingOptions.ofToml?).getD {} }

/-- The configuration of a text. -/
def ofText (text : String) : Except ConfigError Config :=
  match (Toml.read text).bind ofToml? with
  | some c => .ok c
  | none => .error .malformed

/-- The text that a new configuration file starts with: the defaults, and a
heading for the overrides. -/
def initialText : String :=
  let c : Config := {}
  "dialect = \"" ++ c.dialect.name ++ "\"\n\n[quoting]\n\n[naming]\nsuffix_separator = \""
    ++ c.naming.separator ++ "\"\n"

end Config
end QueryText
