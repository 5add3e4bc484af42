/-
The grammar of TOML texts, version 1.0: lines of pairs, headers and
comments, and the values in them. Arrays may go over several lines and end
with a comma, inline tables may not. Arrays and inline tables may stand
inside one another to a fixed depth, and the readers recurse on a count of
steps that the length of the text bounds.
-/
import QueryText.Toml.Document
import QueryText.Toml.Scalar

namespace QueryText.Toml

/-- How many arrays and inline tables may be open at once, or parts stand in
a key, and one more. -/
def nestingLimit : Nat := 80

-- ======================================================= between values

/-- Drops a comment, if there is one. -/
def skipComment : List Char → List Char
  | '#' :: s => s.dropWhile isPrintable
  | s => s

/-- Drops spaces, comments and line ends. -/
def skipGaps : Nat → List Char → List Char
  | 0, s => s
  | steps + 1, s =>
    let s := skipComment (skipSpaces s)
    match readNewline s with
    | some s => skipGaps steps s
    | none => s

/-- The end of a line after spaces and perhaps a comment: a line end, or the
end of the text. -/
def readLineEnd (s : List Char) : Option (List Char) :=
  match skipComment (skipSpaces s) with
  | [] => some []
  | s => readNewline s

-- ================================================================= keys

/-- The characters of bare keys. -/
def isKeyChar (c : Char) : Bool :=
  c.isAlphanum || c == '_' || c == '-'

/-- One part of a key. -/
def readKeyPart : Reader String
  | '"' :: s => readSingle ('"' :: s)
  | '\'' :: s => readSingle ('\'' :: s)
  | s =>
    let part := s.takeWhile isKeyChar
    if part.isEmpty then none else some (String.ofList part, s.dropWhile isKeyChar)

/-- The parts of a key, with points between them and spaces around each. -/
def readKeyParts : Nat → Reader (List String)
  | 0, _ => none
  | steps + 1, s => do
    let (part, s) ← readKeyPart (skipSpaces s)
    match skipSpaces s with
    | '.' :: s => do
      let (parts, s) ← readKeyParts steps s
      return (part :: parts, s)
    | s => return ([part], s)

/-- A key, as the path to its table and its last part. -/
def readKey : Reader (List String × String) := fun s => do
  let (parts, s) ← readKeyParts (s.length + 1) s
  if nestingLimit ≤ parts.length then none
  else match parts.getLast? with
    | some key => return ((parts.dropLast, key), s)
    | none => none

-- =============================================================== values

mutual

/-- A value, at its first character. -/
def readValue : Nat → Nat → Reader Toml
  | 0, _, _ => none
  | steps + 1, room, s =>
    match s with
    | '"' :: _ => (readString s).map fun (t, s) => (.string t, s)
    | '\'' :: _ => (readString s).map fun (t, s) => (.string t, s)
    | '[' :: s => if room ≤ 1 then none else readItems steps (room - 1) [] s
    | '\x7b' :: s =>
      if room ≤ 1 then none
      else match skipSpaces s with
        | '\x7d' :: s => some (.table [], s)
        | s => readPairs steps (room - 1) [] s
    | s =>
      let (word, s) := spanWord s
      (ofWord word).map fun v => (v, s)

/-- The rest of an array, after its opening bracket or a comma; the items so
far are given in reverse order. -/
def readItems : Nat → Nat → List Toml → Reader Toml
  | 0, _, _, _ => none
  | steps + 1, room, before, s =>
    match skipGaps (s.length + 1) s with
    | ']' :: s => some (.array before.reverse, s)
    | s =>
      match readValue steps room s with
      | none => none
      | some (item, s) =>
        match skipGaps (s.length + 1) s with
        | ',' :: s => readItems steps room (item :: before) s
        | ']' :: s => some (.array (item :: before).reverse, s)
        | _ => none

/-- The rest of an inline table, at a key. -/
def readPairs : Nat → Nat → Entries → Reader Toml
  | 0, _, _, _ => none
  | steps + 1, room, before, s =>
    match readKey s with
    | some ((path, key), '=' :: s) =>
      match readValue steps room (skipSpaces s) with
      | none => none
      | some (value, s) =>
        match Entries.putPath path key value before with
        | none => none
        | some entries =>
          match skipSpaces s with
          | ',' :: s => readPairs steps room entries s
          | '\x7d' :: s => some (.table (entriesToToml entries), s)
          | _ => none
    | _ => none

end

-- ================================================================ lines

/-- A line that is not blank, at its first character. -/
def readLine (s : List Char) : Option (Line × List Char) :=
  match s with
  | '[' :: '[' :: s =>
    match readKey s with
    | some ((path, key), ']' :: ']' :: s) => some (.arrayHeader path key, s)
    | _ => none
  | '[' :: s =>
    match readKey s with
    | some ((path, key), ']' :: s) => some (.header path key, s)
    | _ => none
  | s =>
    match readKey s with
    | some ((path, key), '=' :: s) =>
      (readValue (2 * s.length + 2) nestingLimit (skipSpaces s)).map fun (value, s) =>
        (.pair path key value, s)
    | _ => none

/-- The lines of a text. -/
def readDocument : Nat → List Char → Option (List Line)
  | 0, _ => none
  | steps + 1, s =>
    match skipGaps (s.length + 1) s with
    | [] => some []
    | s => do
      let (line, s) ← readLine s
      let s ← readLineEnd s
      return line :: (← readDocument steps s)

/-- The table that a text holds; a byte order mark may stand before it. -/
def read (text : String) : Option Toml := do
  let s := match text.toList with
    | '\ufeff' :: s => s
    | s => s
  ofLines (← readDocument (s.length + 1) s)

end QueryText.Toml
