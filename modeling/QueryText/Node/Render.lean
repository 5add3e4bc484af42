/-
The SQL text of a node. One function per kind of node says what stands in
each context, and `Node.render` goes through the tree. The hint is the
column that an operand is compared with; it goes down to every literal of
the operand and comes before the literal's own column.
-/
import QueryText.Environment
import QueryText.Identifier
import QueryText.RenderError

namespace QueryText

-- ============================================================ the pieces

/-- Refuses a kind of node that the context has no rule for. -/
def Context.demand (context : Context) (kind : NodeKind) : Except RenderError Unit :=
  if context.admits kind then .ok () else .error (.unsupported kind context)

/-- The name of a relation, for a node that needs it. -/
def Environment.resolve (env : Environment) (context : Context) (kind : NodeKind)
    (r : Relation) : Except RenderError String :=
  match env.nameOf? r with
  | some name => .ok name
  | none => .error (.unresolved r kind context)

/-- The name given to a column of the result, in a context that allows it. -/
def Environment.aliasSuffix (env : Environment) (context : Context) : Option String → String
  | some label => if context.allowsAlias then " AS " ++ env.identifier label else ""
  | none => ""

/-- A column with its relation in front, or a piece of SQL as it stands. -/
def Attribute.qualified (env : Environment) (context : Context) (a : Attribute) :
    Except RenderError String :=
  if Identifier.isSimple a.name then do
    let relation ← env.resolve context .attr a.relation
    return env.identifier relation ++ "." ++ env.identifier a.name
  else .ok a.name

/-- A column reference. -/
def Attribute.render (env : Environment) (context : Context) (a : Attribute) :
    Except RenderError String := do
  context.demand .attr
  let sql ← a.qualified env context
  return sql ++ env.aliasSuffix context a.label

/-- A function around its operand, or the DISTINCT modifier before it. -/
def applied (function operand : String) : String :=
  if function = Node.distinctWord then function ++ " " ++ operand
  else function ++ "(" ++ operand ++ ")"

/-- The column that a literal is quoted for. -/
def Scalar.hint (context : Context) (hint : Option Column) (s : Scalar) : Option Column :=
  if context = .attributeOperand then hint <|> s.column else s.column

/-- A quoted literal. -/
def Scalar.render (env : Environment) (context : Context) (hint : Option Column) (s : Scalar) :
    Except RenderError String := do
  context.demand .scalar
  match env.quoter.value s.value (s.hint context hint) with
  | .ok sql => return sql
  | .error cause => .error (.unquotable cause context)

/-- An inner query: named among columns and tables, in brackets as an operand,
bare as a statement. -/
def Subselect.render (env : Environment) (context : Context) (s : Subselect) :
    Except RenderError String := do
  context.demand .subselect
  match context with
  | .selectList | .tableReference =>
    let name ← env.resolve context .subselect s.source
    return "(" ++ s.sql ++ ") AS " ++ env.identifier name
  | .selectStatement => return s.sql
  | _ => return "(" ++ s.sql ++ ")"

/-- A table, with its display name where that is another one. A table name
that is a piece of SQL is not quoted, and neither is its display name. -/
def Relation.render (env : Environment) (context : Context) (r : Relation) :
    Except RenderError String := do
  context.demand .table
  let name ← env.resolve context .table r
  let quote := if Identifier.isSimpleTable r.name then env.identifier else id
  return if name = r.name then quote r.name else quote r.name ++ " AS " ++ quote name

-- ============================================================== the tree

namespace Node

mutual

/-- The text of a node in a context. -/
def render (env : Environment) (context : Context) (hint : Option Column) :
    Node → Except RenderError String
  | .attr a => a.render env context
  | .expression function operand label => do
    context.demand .expression
    let sql ← operand.render env context hint
    return applied function sql ++ env.aliasSuffix context label
  | .scalar s => s.render env context hint
  | .value operand => do
    context.demand .value
    match operand with
    | .scalar s => if context.passesValues then return s.value.bare else s.render env context hint
    | node => node.render env context hint
  | .array items => do
    context.demand .array
    let parts ← renderAll env context hint items
    return "(" ++ ", ".intercalate parts ++ ")"
  | .range low high => do
    context.demand .range
    let low ← low.render env context hint
    let high ← high.render env context hint
    return low ++ " AND " ++ high
  | .table r => r.render env context
  | .subselect s => s.render env context

/-- The texts of several nodes; the first failure counts. -/
def renderAll (env : Environment) (context : Context) (hint : Option Column) :
    List Node → Except RenderError (List String)
  | [] => .ok []
  | node :: rest => do
    let sql ← node.render env context hint
    let others ← renderAll env context hint rest
    return sql :: others

end

end Node
end QueryText
