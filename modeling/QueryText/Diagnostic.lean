/-
Diagnostics: what is reported when no text could be produced, or when the
text deserves a second look. The codes are fixed for good.
-/
import QueryText.RenderError

namespace QueryText

/-- What a diagnostic is about. -/
inductive DiagnosticCode
  | unsupportedContext
  | unresolvedRelation
  | quotingFailed
  | emptyPredicate
  | inputInvalid
  | columnHintIgnored
  | configInvalid
deriving DecidableEq

namespace DiagnosticCode

/-- The code as it is shown. -/
def name : DiagnosticCode → String
  | .unsupportedContext => "RENDER_UNSUPPORTED_CONTEXT"
  | .unresolvedRelation => "RENDER_UNRESOLVED_RELATION"
  | .quotingFailed => "RENDER_QUOTING_FAILED"
  | .emptyPredicate => "RENDER_EMPTY_PREDICATE"
  | .inputInvalid => "INPUT_INVALID"
  | .columnHintIgnored => "COLUMN_HINT_IGNORED"
  | .configInvalid => "CONFIG_INVALID"

/-- Every code, in the order that documents number them. -/
def all : List DiagnosticCode :=
  [.unsupportedContext, .unresolvedRelation, .quotingFailed, .emptyPredicate,
    .inputInvalid, .columnHintIgnored, .configInvalid]

end DiagnosticCode

/-- How serious a diagnostic is: a warning accompanies a text, an error
stands in for it. -/
inductive Severity
  | warn
  | error
deriving DecidableEq

namespace Severity

/-- The severity as it is shown. -/
def name : Severity → String
  | .warn => "warn"
  | .error => "error"

/-- Both severities, in the order that documents number them. -/
def all : List Severity :=
  [.warn, .error]

end Severity

/-- A diagnostic. -/
structure Diagnostic where
  code : DiagnosticCode
  severity : Severity
  message : String
  /-- The kind of node that was being rendered, if known. -/
  node : Option String := none
  /-- The context in effect, if known. -/
  context : Option String := none
deriving DecidableEq

/-- One line for a reader. -/
def Diagnostic.describe (d : Diagnostic) : String :=
  d.severity.name ++ " [" ++ d.code.name ++ "]: " ++ d.message

-- ======================================================= rendering errors

namespace RenderError

/-- The code of a rendering error. -/
def code : RenderError → DiagnosticCode
  | .unsupported _ _ => .unsupportedContext
  | .unresolved _ _ _ => .unresolvedRelation
  | .unquotable _ _ => .quotingFailed
  | .emptyGroup _ _ => .emptyPredicate

/-- The diagnostic of a rendering error. -/
def diagnostic (e : RenderError) : Diagnostic :=
  { code := e.code
    severity := .error
    message := e.message
    node := some e.node.name
    context := some e.context.name }

end RenderError

-- ============================================================ the warning

/-- The warning about a column given where nothing is quoted for it: only
operands of attributes use the column. -/
def columnHintWarning (context : Context) : Option Column → Option Diagnostic
  | none => none
  | some column =>
    if context = .attributeOperand then none
    else some
      { code := .columnHintIgnored
        severity := .warn
        message := "Column hint '" ++ column.name ++ "' is not used in " ++ context.name
          ++ " context"
        context := some context.name }

end QueryText
