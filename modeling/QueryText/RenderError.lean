/-
Why a rendering fails. Each error knows the context it arose in and the kind
of thing that was being rendered there.
-/
import QueryText.Context
import QueryText.Quoting

namespace QueryText

/-- The words that join the members of a predicate group. -/
inductive Connective
  | and
  | or
deriving DecidableEq

namespace Connective

/-- The word in SQL. -/
def keyword : Connective → String
  | .and => "AND"
  | .or => "OR"

/-- The word in documents. -/
def name : Connective → String
  | .and => "and"
  | .or => "or"

end Connective

/-- Why a rendering fails. -/
inductive RenderError
  /-- The context has no rule for the kind of node. -/
  | unsupported (node : NodeKind) (context : Context)
  /-- The relation has no display name. -/
  | unresolved (relation : Relation) (node : NodeKind) (context : Context)
  /-- A literal cannot be written. -/
  | unquotable (cause : QuotingError) (context : Context)
  /-- A group has no members. -/
  | emptyGroup (connective : Connective) (context : Context)
deriving DecidableEq

namespace RenderError

/-- The context that the failure arose in. -/
def context : RenderError → Context
  | .unsupported _ c | .unresolved _ _ c | .unquotable _ c | .emptyGroup _ c => c

/-- The kind of thing that was being rendered; only literals are quoted. -/
def node : RenderError → NodeKind
  | .unsupported k _ | .unresolved _ k _ => k
  | .unquotable _ _ => .scalar
  | .emptyGroup _ _ => .predicate

/-- The wording of an error. -/
def message (e : RenderError) : String :=
  let place := e.node.name ++ " in " ++ e.context.name ++ " context"
  match e with
  | .unsupported _ _ => "Cannot render " ++ place
  | .unresolved relation _ _ =>
    "No display name for relation '" ++ relation.describe ++ "' while rendering " ++ place
  | .unquotable cause _ => "Failed to quote " ++ place ++ ": " ++ cause.message
  | .emptyGroup connective context =>
    "Empty " ++ connective.keyword ++ " predicate group in " ++ context.name ++ " context"

end RenderError
end QueryText
