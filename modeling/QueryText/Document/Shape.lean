/-
The shapes that documents are made of, as readers of JSON values.

* A record is an object with fields of known names, unknown ones ignored
  and none of the known ones repeated; or a list of the values in the order
  of the names, from which the last ones may be missing.
* A tagged value is an object whose tag says which fields belong to it, or a
  list of the tag and those fields.
* A constant is its name; an object with the name as its only field means
  the same when the field is empty.

A field that a record ignores may be invalid. A tagged value is looked
through before its tag is known, so nothing in it may be.

Inside of a tagged value two readings are wider: a tag may be given by its
number, and the field of a constant may hold an empty object instead of
null. The argument `inner` says that a value stands there.
-/
import QueryText.Json.Basic

namespace QueryText.Document

-- ============================================================== records

/-- The fields of a record, by name. -/
abbrev Fields := List (String × Json)

/-- The fields of a record with the given names. -/
def record (names : List String) : Json → Option Fields
  | .object fields =>
    if names.all fun name => fields.countP (·.1 == name) ≤ 1 then some fields else none
  | .list items => if items.length ≤ names.length then some (names.zip items) else none
  | _ => none

/-- A field that has to be there. -/
def required {α : Type} (fields : Fields) (name : String) (read : Json → Option α) : Option α :=
  match fields.lookup name with
  | some j => read j
  | none => none

/-- A field that may be missing or null. -/
def optional {α : Type} (fields : Fields) (name : String) (read : Json → Option α) :
    Option (Option α) :=
  match fields.lookup name with
  | none | some .null => some none
  | some j => (read j).map some

/-- A field that may be missing, and then has a value of its own. -/
def defaulted {α : Type} (fields : Fields) (name : String) (read : Json → Option α)
    (value : α) : Option α :=
  match fields.lookup name with
  | none => some value
  | some j => read j

/-- A field that is written only when it has a value. -/
def written (name : String) : Option Json → Fields
  | some j => [(name, j)]
  | none => []

-- =============================================================== values

/-- A truth value. -/
def bool? : Json → Option Bool
  | .bool b => some b
  | _ => none

/-- A whole number from zero up to, but not including, a bound. -/
def natural? (bound : Nat) : Json → Option Nat
  | .whole n => if 0 ≤ n ∧ n < bound then some n.toNat else none
  | _ => none

/-- A number of sixteen bits. -/
def uint16? (j : Json) : Option UInt16 :=
  (natural? (twoTo 16) j).map UInt16.ofNat

/-- A number of thirty-two bits. -/
def uint32? (j : Json) : Option UInt32 :=
  (natural? (twoTo 32) j).map UInt32.ofNat

/-- A number of sixty-four bits. -/
def uint64? (j : Json) : Option UInt64 :=
  (natural? (twoTo 64) j).map UInt64.ofNat

/-- A signed number of sixty-four bits. -/
def int64? : Json → Option Int64
  | .whole n => if -(twoTo 63 : Int) ≤ n ∧ n < twoTo 63 then some (Int64.ofInt n) else none
  | _ => none

/-- Any number, as a binary64 one. -/
def float? : Json → Option Binary64
  | .whole n => some ((Binary64.ofNat n.natAbs).withSign (n < 0))
  | .real x => some x
  | _ => none

/-- A list, item by item. -/
def listOf {α : Type} (read : Json → Option α) : Json → Option (List α)
  | .list items => items.mapM read
  | _ => none

-- ============================================================ constants

/-- Whether a value is the empty one. -/
def isEmpty (inner : Bool) : Json → Bool
  | .null => true
  | .object [] => inner
  | _ => false

/-- The name of a constant. -/
def constantName (inner : Bool) : Json → Option String
  | .text name => some name
  | .object [(name, j)] => if isEmpty inner j then some name else none
  | _ => none

/-- One of several constants. -/
def constant {α : Type} (inner : Bool) (all : List α) (name : α → String) (j : Json) : Option α :=
  match constantName inner j with
  | some s => all.find? fun a => name a == s
  | none => none

-- ========================================================= tagged values

/-- The tag that a value spells. -/
def tagName (inner : Bool) (tags : List String) : Json → Option String
  | .text name => if name ∈ tags then some name else none
  | .whole n => if inner && 0 ≤ n then tags[n.toNat]? else none
  | _ => none

/-- The tag of a value and the rest of it. -/
def splitTag (inner : Bool) (tag : String) (tags : List String) : Json → Option (String × Json)
  | .object fields =>
    match fields.filter (·.1 == tag) with
    | [(_, t)] =>
      (tagName inner tags t).map fun name => (name, .object (fields.filter (·.1 != tag)))
    | _ => none
  | .list (t :: rest) => (tagName inner tags t).map fun name => (name, .list rest)
  | _ => none

/-- The tag and the rest of a value that is valid throughout. What stands
inside of a tagged value was looked through with it. -/
def tagged (inner : Bool) (tag : String) (tags : List String) (j : Json) :
    Option (String × Json) :=
  if inner || j.isValid then splitTag inner tag tags j else none

/-- The rest of a tagged value whose tag has no fields. -/
def noFields : Json → Option Unit
  | .object _ | .list [] => some ()
  | _ => none

/-- An object of a tag and fields. -/
def tagging (tag name : String) (fields : Fields) : Json :=
  .object ((tag, .text name) :: fields)

end QueryText.Document
