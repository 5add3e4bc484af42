/-
What a command answers, as a function of what the files hold: a line of
text, perhaps with a file to be written, or a diagnostic. Reading files and
writing the new one is left to whoever calls; so is showing the answer.

The causes are met in this order: the configuration file, the dialect on
the command line, the file of the node or statement, the column, and then
the rendering.
-/
import QueryText.Diagnostic
import QueryText.CommandLine.Invocation
import QueryText.Document.Config
import QueryText.Document.Statement
import QueryText.Json.Reader
import QueryText.Statement.Render
import QueryText.Toml.Config

namespace QueryText

-- ================================================================ files

/-- What a path leads to. -/
inductive FileState
  /-- Nothing, and a file can be made there. -/
  | absent
  /-- Nothing, and no file can be made there. -/
  | unreachable
  /-- Something that is not a file of text. -/
  | unreadable
  | holds (text : String)
deriving DecidableEq

/-- What each path leads to. -/
abbrev Files := String → FileState

namespace FileState

/-- The text of a file. -/
def text? : FileState → Option String
  | .holds text => some text
  | _ => none

/-- Whether there is something. -/
def isPresent : FileState → Bool
  | .unreadable | .holds _ => true
  | _ => false

end FileState

-- =============================================================== causes

/-- Why a command failed. -/
inductive CommandError
  | config (cause : ConfigError)
  /-- The file to be made is there already. -/
  | present (file : String)
  /-- The document's file cannot be read. -/
  | unreadable (file : String)
  /-- The file holds no such document. -/
  | malformed (file : String)
  /-- The column is no document of one. -/
  | malformedColumn
  | rendering (cause : RenderError)
deriving DecidableEq

namespace CommandError

/-- The diagnostic of a failure. -/
def diagnostic : CommandError → Diagnostic
  | .config cause =>
    { code := .configInvalid, severity := .error, message := cause.message }
  | .present file =>
    { code := .configInvalid, severity := .error, message := file ++ " already exists" }
  | .unreadable file =>
    { code := .inputInvalid, severity := .error, message := "Failed to read " ++ file }
  | .malformed file =>
    { code := .inputInvalid, severity := .error, message := "Failed to parse " ++ file }
  | .malformedColumn =>
    { code := .inputInvalid, severity := .error, message := "Invalid column metadata" }
  | .rendering cause => cause.diagnostic

end CommandError

-- ============================================================== answers

/-- The answer of a command that went well. -/
structure Answer where
  /-- The line to be shown. -/
  line : String
  /-- The path and the text of a file to be written. -/
  creates : Option (String × String) := none
deriving DecidableEq

namespace Config

/-- The file that a configuration is looked for in, and written to, unless
another one is named. -/
def defaultFile : String := "sqlweave.toml"

/-- The configuration of a file. -/
def ofFile (files : Files) (file : String) : Except ConfigError Config :=
  match (files file).text? with
  | some text => ofText text
  | none => .error .inaccessible

end Config

/-- A value of a JSON document in a file. -/
def Files.document (files : Files) (file : String) {α : Type} (ofJson? : Json → Option α) :
    Except CommandError α :=
  match (files file).text? with
  | none => .error (.unreadable file)
  | some text =>
    match (Json.read text).bind ofJson? with
    | some a => .ok a
    | none => .error (.malformed file)

/-- A column on the command line. -/
def Column.ofArgument (text : String) : Except CommandError Column :=
  match (Json.read text).bind (Column.ofJson? false) with
  | some column => .ok column
  | none => .error .malformedColumn

namespace Invocation

/-- The configuration in effect: of the named file, else of the default
file if it is there, else the default; and the dialect of the command line
in place of its own. -/
def configuration (inv : Invocation) (files : Files) : Except ConfigError Config := do
  let config ←
    match inv.config with
    | some file => Config.ofFile files file
    | none =>
      if (files Config.defaultFile).isPresent then Config.ofFile files Config.defaultFile
      else .ok {}
  match inv.dialect with
  | some name => return { config with dialect := ← Dialect.ofName name }
  | none => return config

/-- The text of a node, whose relations get their names first. -/
def renderNode (config : Config) (context : Context) (column : Option Column) (node : Node) :
    Except RenderError String :=
  node.render ((Environment.ofConfig config).christen node.relations) context column

/-- The text of a statement, whose relations get their names first. -/
def renderStatement (config : Config) (statement : Statement) : Except RenderError String :=
  statement.render ((Environment.ofConfig config).christen statement.relations)

/-- A new configuration file, where there is nothing yet. -/
def startConfig (files : Files) (file : String) : Except CommandError Answer :=
  match files file with
  | .absent => .ok { line := "Created " ++ file, creates := some (file, Config.initialText) }
  | .unreachable => .error (.config .inaccessible)
  | _ => .error (.present file)

/-- The answer to an invocation. -/
def answer (inv : Invocation) (files : Files) : Except CommandError Answer :=
  match inv.command with
  | .render file context column => do
    let config ← (inv.configuration files).mapError .config
    let node ← files.document file (Node.ofJson? false)
    let column ← column.mapM Column.ofArgument
    let line ← (renderNode config context column node).mapError .rendering
    return { line }
  | .statement file => do
    let config ← (inv.configuration files).mapError .config
    let statement ← files.document file Statement.ofJson?
    let line ← (renderStatement config statement).mapError .rendering
    return { line }
  | .initConfig file => startConfig files (file.getD Config.defaultFile)

/-- Every path that an answer depends on. -/
def paths (inv : Invocation) : List String :=
  let config := inv.config.getD Config.defaultFile
  match inv.command with
  | .render file _ _ | .statement file => [config, file]
  | .initConfig file => [file.getD Config.defaultFile]

end Invocation
end QueryText
