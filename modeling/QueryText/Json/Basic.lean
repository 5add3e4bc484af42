/-
JSON values. A number keeps the distinction that documents make: a whole
number of at most sixty-four bits, written without fraction and exponent,
or a binary64 number. An object keeps its fields in the order they were
written, repeated names included, so that a reader of documents can refuse
the repetition.

A text can follow the grammar where there is nothing to hold: a number that
is too large, half of a surrogate pair, or too many lists inside one
another. Such a part is `invalid`. It is kept in its place, because it does
no harm where nobody looks.
-/
import QueryText.Number.Binary64

namespace QueryText

/-- A JSON value. -/
inductive Json where
  | null
  | bool (value : Bool)
  | whole (value : Int)
  | real (value : Binary64)
  | text (value : String)
  | list (items : List Json)
  | object (fields : List (String × Json))
  /-- A part that follows the grammar and has no value. -/
  | invalid
deriving Inhabited

namespace Json

-- ========================================================== the nesting

mutual

/-- How many lists and objects stand inside one another. -/
def depth : Json → Nat
  | .list items => depthOfItems items + 1
  | .object fields => depthOfFields fields + 1
  | _ => 0

/-- The depth of the deepest item. -/
def depthOfItems : List Json → Nat
  | [] => 0
  | item :: rest => max item.depth (depthOfItems rest)

/-- The depth of the deepest field. -/
def depthOfFields : List (String × Json) → Nat
  | [] => 0
  | (_, value) :: rest => max value.depth (depthOfFields rest)

end

-- ========================================================= the validity

mutual

/-- Whether there is a value throughout. -/
def isValid : Json → Bool
  | .list items => areValid items
  | .object fields => areValidFields fields
  | .invalid => false
  | _ => true

/-- Whether every item is valid. -/
def areValid : List Json → Bool
  | [] => true
  | item :: rest => item.isValid && areValid rest

/-- Whether every field is valid. -/
def areValidFields : List (String × Json) → Bool
  | [] => true
  | (_, value) :: rest => value.isValid && areValidFields rest

end

-- =========================================================== the fields

/-- The first field of the name, if the value is an object that has one. -/
def get? (name : String) : Json → Option Json
  | .object fields => fields.lookup name
  | _ => none

/-- The characters that a name or a text is made of. -/
def text? : Json → Option String
  | .text s => some s
  | _ => none

/-- The items of a list. -/
def items? : Json → Option (List Json)
  | .list items => some items
  | _ => none

end Json
end QueryText
