/-
What a rendering needs besides the tree: how to quote, and the names that
relations have. Rendering only reads it.
-/
import QueryText.Naming
import QueryText.Quoting

namespace QueryText

/-- The surroundings of a rendering. -/
structure Environment where
  quoter : Quoter
  naming : Naming
deriving DecidableEq

namespace Environment

/-- The environment of a configuration, without names. -/
def ofConfig (c : Config) : Environment :=
  ⟨.ofConfig c, .empty c.naming⟩

/-- Gives names to relations, in order. -/
def christen (env : Environment) (rs : List Relation) : Environment :=
  { env with naming := env.naming.christenAll rs }

/-- The name of a relation, once it has one. -/
def nameOf? (env : Environment) (r : Relation) : Option String :=
  env.naming.nameOf? r

/-- A relation's name between the quotes of the dialect. -/
def identifier (env : Environment) (name : String) : String :=
  env.quoter.identifier name

end Environment
end QueryText
