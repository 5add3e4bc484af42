/-
Relations as a query mentions them. Two mentions are the same relation when
name, label and occurrence all agree. The label is the alias that the query
gives the relation; the occurrence tells apart repeated uses of one table
without an alias, as in a self-join.
-/
import QueryText.Text.Digits

namespace QueryText

/-- A relation of a query. -/
structure Relation where
  name : String
  label : Option String := none
  occurrence : UInt32 := 0
deriving DecidableEq

namespace Relation

/-- The name that the relation is displayed under when nothing else claims
it: its label, or else its own name. -/
def baseName (r : Relation) : String :=
  r.label.getD r.name

/-- The relation as messages show it. -/
def describe (r : Relation) : String :=
  let label := match r.label with
    | some a => " AS " ++ a
    | none => ""
  let occurrence :=
    if r.occurrence = 0 then ""
    else "#" ++ String.ofList (Text.digits r.occurrence.toNat)
  r.name ++ label ++ occurrence

end Relation
end QueryText
