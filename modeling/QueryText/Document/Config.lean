/-
Configurations and diagnostics as documents.
-/
import QueryText.Config
import QueryText.Diagnostic
import QueryText.Document.Shape

namespace QueryText

open Document

-- ======================================================== configurations

/-- The dialect of a document; the names are the lower-case ones. -/
def Dialect.ofJson? : Json → Option Dialect :=
  constant false Dialect.all Dialect.name

/-- The style of a document. -/
def BooleanStyle.ofJson? : Json → Option BooleanStyle :=
  constant false BooleanStyle.all BooleanStyle.name

namespace QuotingOptions

/-- The document of the overrides; those that are not set are left out. -/
def toJson (o : QuotingOptions) : Json :=
  .object (written "boolean_literals" (o.booleanStyle.map fun s => .text s.name)
    ++ written "backslash_escapes" (o.backslashEscapes.map .bool))

/-- The overrides of a document. -/
def ofJson? (j : Json) : Option QuotingOptions := do
  let fields ← record ["boolean_literals", "backslash_escapes"] j
  return {
    booleanStyle := ← optional fields "boolean_literals" BooleanStyle.ofJson?
    backslashEscapes := ← optional fields "backslash_escapes" bool? }

end QuotingOptions

namespace NamingOptions

/-- The document of the naming options. -/
def toJson (o : NamingOptions) : Json :=
  .object [("suffix_separator", .text o.separator)]

/-- The naming options of a document. -/
def ofJson? (j : Json) : Option NamingOptions := do
  let fields ← record ["suffix_separator"] j
  return { separator := ← defaulted fields "suffix_separator" Json.text? "_" }

end NamingOptions

namespace Config

/-- The document of a configuration. -/
def toJson (c : Config) : Json :=
  .object [("dialect", .text c.dialect.name), ("quoting", c.quoting.toJson),
    ("naming", c.naming.toJson)]

/-- The configuration of a document. -/
def ofJson? (j : Json) : Option Config := do
  let fields ← record ["dialect", "quoting", "naming"] j
  return {
    dialect := ← defaulted fields "dialect" Dialect.ofJson? .ansi
    quoting := ← defaulted fields "quoting" QuotingOptions.ofJson? {}
    naming := ← defaulted fields "naming" NamingOptions.ofJson? {} }

end Config

-- =========================================================== diagnostics

/-- The code of a document. -/
def DiagnosticCode.ofJson? : Json → Option DiagnosticCode :=
  constant false DiagnosticCode.all DiagnosticCode.name

/-- The severity of a document. -/
def Severity.ofJson? : Json → Option Severity :=
  constant false Severity.all Severity.name

namespace Diagnostic

/-- The document of a diagnostic. -/
def toJson (d : Diagnostic) : Json :=
  .object ([("code", .text d.code.name), ("severity", .text d.severity.name),
      ("message", .text d.message)]
    ++ written "node" (d.node.map .text) ++ written "context" (d.context.map .text))

/-- The diagnostic of a document. -/
def ofJson? (j : Json) : Option Diagnostic := do
  let fields ← record ["code", "severity", "message", "node", "context"] j
  return {
    code := ← required fields "code" DiagnosticCode.ofJson?
    severity := ← required fields "severity" Severity.ofJson?
    message := ← required fields "message" Json.text?
    node := ← optional fields "node" Json.text?
    context := ← optional fields "context" Json.text? }

end Diagnostic
end QueryText
