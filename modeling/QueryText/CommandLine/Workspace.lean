/-
A working directory in memory, and what a command does to it: the answer is
a function of the files, and at most one file is added.

The directory is flat. A path may go through `.` and repeat slashes, and
leads to a file of the directory when nothing else is on the way.

Of what is outside only a little is known: the way up consists of
directories, the root has some that no system is without, and there is room
for files one step up and among the temporary ones. A file that is made
there is not kept track of.
-/
import QueryText.CommandLine.Answer

namespace QueryText

/-- A directory of files, by name. -/
structure Workspace where
  files : List (String × String) := []
deriving DecidableEq

namespace Workspace

/-- How many bytes the name of a file may have. -/
def nameLimit : Nat := 255

/-- The first size in bytes that is too much for a path. -/
def pathLimit : Nat := 4096

/-- Whether a path can lead anywhere. -/
def isPath (path : String) : Bool :=
  path ≠ "" && path.utf8ByteSize < pathLimit && !path.toList.contains '\x00'

/-- The names that a path goes through; `.` stays where it is. -/
def namesOf (path : String) : List String :=
  (path.splitOn "/").filter fun name => name ≠ "" && name ≠ "."

/-- Whether a path asks for a directory. -/
def endsInDirectory (path : String) : Bool :=
  match (path.splitOn "/").getLast? with
  | some last => last = "" || last = "." || last = ".."
  | none => true

/-- Whether a path starts at the root and not here. -/
def isAbsolute (path : String) : Bool :=
  path.toList.head? = some '/'

/-- Directories that every system has at its root. -/
def rootDirectories : List String :=
  ["bin", "dev", "etc", "lib", "proc", "tmp", "usr", "var"]

/-- Whether a path leads to a directory. -/
def isDirectory (path : String) : Bool :=
  let names := namesOf path
  names.all (· = "..") || isAbsolute path && rootDirectories.any fun name => names = [name]

/-- What a name leads to in a directory that has no such file. -/
def vacancy (name : String) : FileState :=
  if name.utf8ByteSize ≤ nameLimit then .absent else .unreachable

/-- What a path leads to. -/
def stateOf (w : Workspace) (path : String) : FileState :=
  if !isPath path then .unreachable
  else if isDirectory path then .unreadable
  else if endsInDirectory path then .unreachable
  else
    match isAbsolute path, namesOf path with
    | false, [name] =>
      match w.files.lookup name with
      | some text => .holds text
      | none => vacancy name
    | false, ["..", name] | true, ["tmp", name] => vacancy name
    | true, ["dev", "null"] => .holds ""
    | _, _ => .unreachable

/-- Puts a file at a path that a file can be made at. -/
def write (w : Workspace) (path text : String) : Workspace :=
  match namesOf path with
  | [name] => ⟨w.files.filter (·.1 ≠ name) ++ [(name, text)]⟩
  | _ => w

/-- Runs a command: its line or failure, and the directory afterwards. -/
def run (w : Workspace) (inv : Invocation) : Except CommandError String × Workspace :=
  match inv.answer w.stateOf with
  | .error e => (.error e, w)
  | .ok answer =>
    match answer.creates with
    | some (path, text) => (.ok answer.line, w.write path text)
    | none => (.ok answer.line, w)

end Workspace
end QueryText
