/-
TOML values. Points of time are kept as they are written; nothing here asks
what they mean.
-/
import QueryText.Number.Binary64

namespace QueryText

/-- A TOML value. -/
inductive Toml where
  | string (text : String)
  | integer (value : Int)
  | float (value : Binary64)
  | boolean (value : Bool)
  | moment (text : String)
  | array (items : List Toml)
  | table (entries : List (String × Toml))
deriving Inhabited

namespace Toml

/-- A reader: what it read, and the characters after it. -/
abbrev Reader (α : Type) := List Char → Option (α × List Char)

-- =========================================================== characters

/-- Spaces and tabs. -/
def isSpace (c : Char) : Bool :=
  c == ' ' || c == '\t'

/-- The text without the spaces and tabs it begins with. -/
def skipSpaces (s : List Char) : List Char :=
  s.dropWhile isSpace

/-- What may stand in a comment or a string: no control character but the
tab. -/
def isPrintable (c : Char) : Bool :=
  c == '\t' || (0x20 ≤ c.toNat && c.toNat != 0x7F)

/-- The end of a line, alone or after a carriage return. -/
def readNewline : List Char → Option (List Char)
  | '\n' :: s => some s
  | '\r' :: '\n' :: s => some s
  | _ => none

end Toml
end QueryText
