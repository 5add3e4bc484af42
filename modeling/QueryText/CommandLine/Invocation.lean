/-
What a command line asks for: one of three commands, with the switches that
every command understands. These may stand before the command's name or
after it, once in each place; what stands after the name counts.
-/
import QueryText.Context
import QueryText.CommandLine.Arguments

namespace QueryText

-- ============================================================= requests

/-- A command with what belongs to it. -/
inductive Command
  /-- Renders the node of a document. -/
  | render (file : String) (context : Context) (column : Option String)
  /-- Renders the statement of a document. -/
  | statement (file : String)
  /-- Writes a configuration file to start from. -/
  | initConfig (file : Option String)
deriving DecidableEq

/-- All that a command line asks for. -/
structure Invocation where
  config : Option String := none
  dialect : Option String := none
  verbose : Bool := false
  json : Bool := false
  command : Command
deriving DecidableEq

-- ============================================================= switches

namespace Switch

/-- Names the configuration file. -/
def config : Switch := { name := "config", letter := some 'c' }

/-- Names the dialect. -/
def dialect : Switch := { name := "dialect", letter := some 'd' }

/-- Asks for remarks along the way. -/
def verbose : Switch := { name := "verbose", letter := some 'v', valued := false }

/-- Asks for diagnostics as documents. -/
def json : Switch := { name := "json", valued := false }

/-- Names the context of a node. -/
def context : Switch := { name := "context" }

/-- Holds the column that operands are quoted for. -/
def column : Switch := { name := "column" }

/-- The switches of every command. -/
def shared : List Switch :=
  [config, dialect, verbose, json]

end Switch

/-- The name of a context on the command line, with hyphens. -/
def Context.switchName (c : Context) : String :=
  c.name.map fun ch => if ch = '_' then '-' else ch

/-- The context of a name with hyphens. -/
def Context.ofSwitchName? (s : String) : Option Context :=
  all.find? (·.switchName = s)

namespace Settings

/-- Whether no switch is given twice, and no file has the empty name. -/
def isInOrder (settings : Settings) : Bool :=
  settings.areDistinct && settings.all fun (s, value) => s ≠ .config || value ≠ ""

/-- The context that was given, or the select list. -/
def context? (settings : Settings) : Option Context :=
  match settings.value? .context with
  | none => some .selectList
  | some name => Context.ofSwitchName? name

end Settings

-- ============================================================== reading

namespace Command

/-- The switches that only one command understands. -/
def switchesOf? : String → Option (List Switch)
  | "render" => some [.context, .column]
  | "statement" | "init-config" => some []
  | _ => none

/-- The command of a name and the words after it. -/
def ofArguments? (name : String) (args : Arguments) : Option Command :=
  if "" ∈ args.words then none
  else
    match name, args.words with
    | "render", [file] =>
      args.settings.context?.map fun context =>
        .render file context (args.settings.value? .column)
    | "statement", [file] => some (.statement file)
    | "init-config", [] => some (.initConfig none)
    | "init-config", [file] => some (.initConfig (some file))
    | _, _ => none

end Command

/-- What the words of a command line ask for, if they are in order. -/
def Invocation.ofArguments? (words : List String) : Option Invocation := do
  let before ← Arguments.read? Switch.shared true none words
  match before.words with
  | [] => none
  | name :: words =>
    let own ← Command.switchesOf? name
    let after ← Arguments.read? (Switch.shared ++ own) false none words
    let command ← Command.ofArguments? name after
    let outer := before.settings
    let inner := after.settings
    if outer.isInOrder && inner.isInOrder then
      return {
        config := inner.value? .config <|> outer.value? .config
        dialect := inner.value? .dialect <|> outer.value? .dialect
        verbose := inner.has .verbose || outer.has .verbose
        json := inner.has .json || outer.has .json
        command }
    else none

end QueryText
