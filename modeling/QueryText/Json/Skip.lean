/-
Going past a JSON value without holding it. Only the grammar counts: a
number may be of any size, a text may have half of a surrogate pair in it,
and lists and objects may stand inside one another to any depth.

The lists and objects that are open are kept in a list of their own, the
innermost first, so that one loop walks the whole text however deep it is.
Each step but the last takes a character, so the length of the text bounds
their number.
-/
import QueryText.Json.Scalar

namespace QueryText.Json

-- ============================================================== scalars

/-- The text behind the closing quotation mark. -/
def skipQuoted : List Char → Option (List Char)
  | [] => none
  | '"' :: s => some s
  | '\\' :: 'u' :: a :: b :: c :: d :: s =>
    if (codeUnit a b c d).isSome then skipQuoted s else none
  | '\\' :: c :: s => if (unescape c).isSome then skipQuoted s else none
  | c :: s => if c.toNat < 0x20 then none else skipQuoted s

/-- The text behind a value that is neither a list nor an object. -/
def skipScalar : List Char → Option (List Char)
  | 'n' :: 'u' :: 'l' :: 'l' :: s => some s
  | 't' :: 'r' :: 'u' :: 'e' :: s => some s
  | 'f' :: 'a' :: 'l' :: 's' :: 'e' :: s => some s
  | '"' :: s => skipQuoted s
  | s => (readNumeral s).map (·.2)

/-- The text behind the name of a field and its colon. -/
def skipName : List Char → Option (List Char)
  | '"' :: s =>
    match (skipQuoted s).map skipBlanks with
    | some (':' :: s) => some (skipBlanks s)
    | _ => none
  | _ => none

-- =============================================================== values

/-- What is open. -/
inductive Bracket where
  | list
  | object

/-- What comes next. -/
inductive Place where
  | value
  | name
  /-- A comma, or the end of what is open. -/
  | mark

/-- Goes on until nothing is open any more. -/
def skipAll : Nat → Place → List Bracket → List Char → Option (List Char)
  | 0, _, _, _ => none
  | steps + 1, .value, brackets, s =>
    match s with
    | '[' :: s =>
      match skipBlanks s with
      | ']' :: s => skipAll steps .mark brackets s
      | s => skipAll steps .value (.list :: brackets) s
    | '\x7b' :: s =>
      match skipBlanks s with
      | '\x7d' :: s => skipAll steps .mark brackets s
      | s => skipAll steps .name (.object :: brackets) s
    | s =>
      match skipScalar s with
      | some s => skipAll steps .mark brackets s
      | none => none
  | steps + 1, .name, brackets, s =>
    match skipName s with
    | some s => skipAll steps .value brackets s
    | none => none
  | _ + 1, .mark, [], s => some s
  | steps + 1, .mark, .list :: brackets, s =>
    match skipBlanks s with
    | ']' :: s => skipAll steps .mark brackets s
    | ',' :: s => skipAll steps .value (.list :: brackets) (skipBlanks s)
    | _ => none
  | steps + 1, .mark, .object :: brackets, s =>
    match skipBlanks s with
    | '\x7d' :: s => skipAll steps .mark brackets s
    | ',' :: s => skipAll steps .name (.object :: brackets) (skipBlanks s)
    | _ => none

/-- The text behind a value, from its first character. One step more than
there are characters is enough. -/
def skipValue (steps : Nat) : List Char → Option (List Char) :=
  skipAll steps .value []

end QueryText.Json
