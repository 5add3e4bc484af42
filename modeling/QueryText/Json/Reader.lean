/-
The reading of JSON texts. The grammar is the strict one: no comments, no
trailing commas, nothing but blanks after the value. Lists and objects may
stand inside one another to a fixed depth. A value that goes deeper, or that
cannot be held for another reason, is invalid; the values around it are read
as ever.

The readers of values recurse on a count of steps that the length of the
text bounds; the outer function `read` provides enough of them. At a value
there are always two left for each character, and two more, which is also
enough to go past it.
-/
import QueryText.Json.Skip

namespace QueryText.Json

/-- How many lists and objects may be open at once, and one more. -/
def nestingLimit : Nat := 128

-- =============================================================== values

mutual

/-- A value, at the first character. `room` more lists and objects may be
opened, the last one excepted. What cannot be held is gone past. -/
def readValue : Nat → Nat → Reader Json
  | 0, _, _ => none
  | steps + 1, room, s =>
    (match s with
    | 'n' :: 'u' :: 'l' :: 'l' :: s => some (.null, s)
    | 't' :: 'r' :: 'u' :: 'e' :: s => some (.bool true, s)
    | 'f' :: 'a' :: 'l' :: 's' :: 'e' :: s => some (.bool false, s)
    | '"' :: s => (readQuoted s).map fun (t, s) => (.text (String.ofList t), s)
    | '[' :: s =>
      if room ≤ 1 then none
      else match skipBlanks s with
        | ']' :: s => some (.list [], s)
        | s => (readItems steps (room - 1) s).map fun (items, s) => (.list items, s)
    | '\x7b' :: s =>
      if room ≤ 1 then none
      else match skipBlanks s with
        | '\x7d' :: s => some (.object [], s)
        | s => (readFields steps (room - 1) s).map fun (fields, s) => (.object fields, s)
    | s => readNumber s)
    <|> (skipValue steps s).map (.invalid, ·)

/-- The items of a list up to its closing bracket, at the first one. -/
def readItems : Nat → Nat → Reader (List Json)
  | 0, _, _ => none
  | steps + 1, room, s =>
    match readValue steps room s with
    | none => none
    | some (item, s) =>
      match skipBlanks s with
      | ']' :: s => some ([item], s)
      | ',' :: s =>
        (readItems steps room (skipBlanks s)).map fun (items, s) => (item :: items, s)
      | _ => none

/-- The fields of an object up to its closing brace, at the first one. -/
def readFields : Nat → Nat → Reader (List (String × Json))
  | 0, _, _ => none
  | steps + 1, room, s =>
    match s with
    | '"' :: s =>
      match readQuoted s with
      | none => none
      | some (name, s) =>
        match skipBlanks s with
        | ':' :: s =>
          match readValue steps room (skipBlanks s) with
          | none => none
          | some (value, s) =>
            let field := (String.ofList name, value)
            match skipBlanks s with
            | '\x7d' :: s => some ([field], s)
            | ',' :: s =>
              (readFields steps room (skipBlanks s)).map fun (fields, s) => (field :: fields, s)
            | _ => none
        | _ => none
    | _ => none

end

/-- What a text holds, with nothing but blanks around it. -/
def read (text : String) : Option Json :=
  let s := text.toList
  match readValue (2 * s.length + 2) nestingLimit (skipBlanks s) with
  | some (value, rest) => if (skipBlanks rest).isEmpty then some value else none
  | none => none

/-- What a text holds, if it is valid throughout. -/
def readValid (text : String) : Option Json :=
  (read text).filter isValid

end QueryText.Json
