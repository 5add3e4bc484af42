/-
The four kinds of TOML strings. Basic ones, in double quotes, have escapes;
literal ones, in single quotes, have none. Both come in a form that may go
over several lines, which three quotes open and close; a line end right
after the opening is dropped, and up to two quotes may stand before the
closing ones.
-/
import QueryText.Text.Digits
import QueryText.Toml.Basic

namespace QueryText.Toml

-- ============================================================== escapes

/-- The value of a hexadecimal digit of either case. -/
def hexValue (c : Char) : Option Nat :=
  if Text.isDigit c then some (c.toNat - '0'.toNat)
  else if 'a' ≤ c && c ≤ 'f' then some (c.toNat - 'a'.toNat + 10)
  else if 'A' ≤ c && c ≤ 'F' then some (c.toNat - 'A'.toNat + 10)
  else none

/-- The number of a run of hexadecimal digits. -/
def hexNumber (s : List Char) : Option Nat :=
  s.foldlM (fun n c => (hexValue c).map (16 * n + ·)) 0

/-- The character of a code point that is written with so many digits. -/
def readCodePoint (width : Nat) : Reader Char := fun s =>
  let d := s.take width
  if d.length < width then none
  else match hexNumber d with
    | some n => if n.isValidChar then some (Char.ofNat n, s.drop width) else none
    | none => none

/-- What follows a backslash, other than a line end. -/
def readEscape : Reader Char
  | 'b' :: s => some ('\x08', s)
  | 't' :: s => some ('\t', s)
  | 'n' :: s => some ('\n', s)
  | 'f' :: s => some ('\x0c', s)
  | 'r' :: s => some ('\r', s)
  | '"' :: s => some ('"', s)
  | '\\' :: s => some ('\\', s)
  | 'u' :: s => readCodePoint 4 s
  | 'U' :: s => readCodePoint 8 s
  | _ => none

/-- Spaces, a line end, and all spaces and line ends after it. -/
def skipLineEnd (s : List Char) : Option (List Char) :=
  (readNewline (skipSpaces s)).map go
where
  /-- Drops spaces and line ends; a carriage return only before a line feed. -/
  go : List Char → List Char
    | '\r' :: '\n' :: s => go s
    | c :: s => if c == '\n' || isSpace c then go s else c :: s
    | [] => []

-- ============================================================ one line

/-- The rest of a basic string. Each step reads one character or escape. -/
def readBasic : Nat → Reader (List Char)
  | 0, _ => none
  | _ + 1, '"' :: s => some ([], s)
  | steps + 1, '\\' :: s =>
    match readEscape s with
    | some (c, s) => (readBasic steps s).map fun (t, s) => (c :: t, s)
    | none => none
  | steps + 1, c :: s =>
    if isPrintable c then (readBasic steps s).map fun (t, s) => (c :: t, s) else none
  | _, [] => none

/-- The rest of a literal string. -/
def readLiteral : Reader (List Char)
  | '\'' :: s => some ([], s)
  | c :: s =>
    if isPrintable c then (readLiteral s).map fun (t, s) => (c :: t, s) else none
  | [] => none

-- ======================================================== several lines

/-- At a quote inside of a string of several lines: the quotes that belong
to the string, and what is left if the string ends with them. -/
def readQuotes (quote : Char) (s : List Char) : Option (List Char × Bool × List Char) :=
  let quotes := s.takeWhile (· == quote)
  let rest := s.dropWhile (· == quote)
  if quotes.length < 3 then some (quotes, false, rest)
  else if quotes.length ≤ 5 then some (quotes.drop 3, true, rest)
  else none

/-- The rest of a string of several lines; escapes only in a basic one. -/
def readLines (quote : Char) : Nat → Reader (List Char)
  | 0, _ => none
  | _, [] => none
  | steps + 1, c :: s =>
    if c == quote then
      match readQuotes quote (c :: s) with
      | none => none
      | some (quotes, true, s) => some (quotes, s)
      | some (quotes, false, s) =>
        (readLines quote steps s).map fun (t, s) => (quotes ++ t, s)
    else if c == '\\' && quote == '"' then
      match skipLineEnd s with
      | some s => readLines quote steps s
      | none =>
        match readEscape s with
        | some (c, s) => (readLines quote steps s).map fun (t, s) => (c :: t, s)
        | none => none
    else match readNewline (c :: s) with
      | some s => (readLines quote steps s).map fun (t, s) => ('\n' :: t, s)
      | none =>
        if isPrintable c then (readLines quote steps s).map fun (t, s) => (c :: t, s)
        else none

/-- The text without a line end at its start. -/
def dropNewline (s : List Char) : List Char :=
  (readNewline s).getD s

/-- A string of one line. -/
def readSingle : Reader String
  | '"' :: s => (readBasic (s.length + 1) s).map fun (t, s) => (String.ofList t, s)
  | '\'' :: s => (readLiteral s).map fun (t, s) => (String.ofList t, s)
  | _ => none

/-- A string of any kind. -/
def readString : Reader String
  | '"' :: '"' :: '"' :: s =>
    (readLines '"' (s.length + 1) (dropNewline s)).map fun (t, s) => (String.ofList t, s)
  | '\'' :: '\'' :: '\'' :: s =>
    (readLines '\'' (s.length + 1) (dropNewline s)).map fun (t, s) => (String.ofList t, s)
  | s => readSingle s

end QueryText.Toml
