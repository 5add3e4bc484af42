/-
The command line itself: reads the files that a command depends on, writes
the file that it makes, and shows the answer.
-/
import QueryText.CommandLine.Answer
import QueryText.Json.Printer

namespace QueryText

/-- Looks at a path. -/
def FileState.look (path : String) : IO FileState := do
  try
    return .holds (← IO.FS.readFile path)
  catch _ =>
    try
      let _ ← IO.FS.realPath path
      return .unreadable
    catch _ => return .absent

/-- Looks at several paths. -/
def Files.look : List String → IO Files
  | [] => return fun _ => .absent
  | path :: rest => do
    let state ← FileState.look path
    let files ← look rest
    return fun p => if p = path then state else files p

/-- Writes the file of an answer. -/
def Answer.store (answer : Answer) : IO (Except CommandError String) := do
  match answer.creates with
  | none => return .ok answer.line
  | some (path, text) =>
    try
      IO.FS.writeFile path text
      return .ok answer.line
    catch _ => return .error (.config .inaccessible)

/-- Carries out an invocation. -/
def Invocation.carryOut (inv : Invocation) : IO (Except CommandError String) := do
  match inv.answer (← Files.look inv.paths) with
  | .error e => return .error e
  | .ok answer => answer.store

/-- Shows a diagnostic. -/
def Diagnostic.report (d : Diagnostic) (json : Bool) : IO Unit :=
  if json then IO.println d.toJson.print else IO.eprintln ("✗ " ++ d.describe)

end QueryText

open QueryText

/-- Runs the command of the arguments; the exit code tells how it went. -/
def main (args : List String) : IO UInt32 := do
  match Invocation.ofArguments? args with
  | none =>
    IO.eprintln ("usage: [-c FILE] [-d NAME] [-v] [--json] "
      ++ "render NODE [--context NAME] [--column JSON] | statement FILE | init-config [PATH]")
    return 2
  | some inv =>
    match ← inv.carryOut with
    | .ok line =>
      IO.println line
      return 0
    | .error e =>
      e.diagnostic.report inv.json
      return 1
