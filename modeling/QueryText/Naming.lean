/-
Display names. Every relation of a query is given a name before rendering:
the first one with a base name keeps it, later ones are numbered. A number
whose name another relation already has is passed over, and a relation's
name never changes once it is given.

The state says the same thing several times over: the names by relation,
the relations in the order they were named, and the names in use. Besides
them it keeps for each base name the last number tried. The search for a
free number always ends: the candidates are distinct, so one more of them
than there are names in use is enough.
-/
import QueryText.Config
import QueryText.Relation
import QueryText.Table

namespace QueryText

/-- The names that have been given. -/
structure Naming where
  /-- What stands between a repeated base name and its number. -/
  separator : String
  /-- The name of each relation that has one. -/
  names : List (Relation × String)
  /-- The relations in the order they were named. -/
  order : List Relation
  /-- The last number tried for each base name. -/
  counts : List (String × Nat)
  /-- The names that are in use. -/
  taken : List String
deriving DecidableEq

namespace Naming

-- ============================================================= the state

/-- No names yet. -/
def empty (options : NamingOptions) : Naming :=
  ⟨options.separator, [], [], [], []⟩

/-- The name of a relation, once it has one. -/
def nameOf? (n : Naming) (r : Relation) : Option String :=
  n.names.lookup r

/-- The relations in the order they were named, each with its name. -/
def given (n : Naming) : List (Relation × String) :=
  n.order.filterMap fun r => (n.nameOf? r).map fun name => (r, name)

/-- The last number tried for a base name; none was tried before zero. -/
def countOf (n : Naming) (base : String) : Nat :=
  (n.counts.lookup base).getD 0

/-- How many relations have names. -/
def size (n : Naming) : Nat :=
  n.order.length

-- ============================================================= the names

/-- The name that a base name has with a number: the first is bare. -/
def candidate (separator base : String) (number : Nat) : String :=
  if number ≤ 1 then base
  else base ++ separator ++ String.ofList (Text.digits number)

/-- The first number from `number` on whose candidate is not taken; `more`
bounds how many are passed over. -/
def firstFree (taken : List String) (name : Nat → String) : Nat → Nat → Nat
  | 0, number => number
  | more + 1, number =>
    if name number ∈ taken then firstFree taken name more (number + 1) else number

/-- The number that a new relation of a base name gets. -/
def nextNumber (n : Naming) (base : String) : Nat :=
  firstFree n.taken (candidate n.separator base) n.taken.length (n.countOf base + 1)

/-- The name that a new relation of a base name gets. -/
def nextName (n : Naming) (base : String) : String :=
  candidate n.separator base (n.nextNumber base)

-- ========================================================== the actions

/-- Gives a relation its name, unless it has one. -/
def christen (n : Naming) (r : Relation) : Naming :=
  match n.nameOf? r with
  | some _ => n
  | none =>
    let name := n.nextName r.baseName
    { n with
      names := Table.set r name n.names
      order := n.order ++ [r]
      counts := Table.set r.baseName (n.nextNumber r.baseName) n.counts
      taken := n.taken.insert name }

/-- Gives names to several relations, in order. -/
def christenAll (n : Naming) (rs : List Relation) : Naming :=
  rs.foldl christen n

end Naming
end QueryText
