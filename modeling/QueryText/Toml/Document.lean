/-
How the lines of a TOML document build up its tables. A table knows how it
came to be, because that decides what may still be added to it: a header may
open a table that only other headers implied, a dotted key may add to tables
that are implied, and nothing may be defined twice.
-/
import QueryText.Toml.Basic

namespace QueryText.Toml

/-- How a table came to be: by its own header, by the header of a table
inside it, or by a dotted key. -/
inductive Origin
  | header
  | implied
  | dotted
deriving DecidableEq

/-- What stands under a key of a table that is being built. -/
inductive Item where
  | value (value : Toml)
  | table (origin : Origin) (entries : List (String × Item))
  /-- The tables of an array, in reverse order; the first can be added to. -/
  | tables (last : List (String × Item)) (before : List (List (String × Item)))
deriving Inhabited

/-- The entries of a table that is being built. -/
abbrev Entries := List (String × Item)

namespace Entries

/-- The entries with an item put under a key. -/
def put (key : String) (item : Item) : Entries → Entries
  | [] => [(key, item)]
  | (k, i) :: rest => if k = key then (key, item) :: rest else (k, i) :: put key item rest

-- ======================================================== keys and values

/-- Puts a value under a new key. -/
def putNew (key : String) (value : Toml) (entries : Entries) : Option Entries :=
  if (entries.lookup key).isSome then none else some (put key (.value value) entries)

/-- Puts a value under a dotted key. The tables on the way are made where
they are missing; those with a header of their own are not added to, and the
last one must come from dotted keys alone. -/
def putDotted (key : String) (value : Toml) : List String → Origin → Entries → Option Entries
  | [], origin, entries => if origin = .dotted then putNew key value entries else none
  | step :: path, _, entries =>
    match entries.lookup step with
    | none => (putDotted key value path .dotted []).map fun inside =>
        put step (.table .dotted inside) entries
    | some (.value _) => none
    | some (.tables last before) => (putDotted key value path .header last).map fun last =>
        put step (.tables last before) entries
    | some (.table origin inside) =>
      if origin = .header then none
      else (putDotted key value path origin inside).map fun inside =>
        put step (.table origin inside) entries

/-- Puts a value under a key of one or more parts. -/
def putPath (path : List String) (key : String) (value : Toml) (entries : Entries) :
    Option Entries :=
  match path with
  | [] => putNew key value entries
  | path => putDotted key value path .header entries

-- ============================================================== headers

/-- Changes the table at a path of headers. Tables on the way are implied
where they are missing; in an array it is the last table. -/
def within (change : Entries → Option Entries) : List String → Entries → Option Entries
  | [], entries => change entries
  | step :: path, entries =>
    match entries.lookup step with
    | none => (within change path []).map fun inside =>
        put step (.table .implied inside) entries
    | some (.value _) => none
    | some (.tables last before) => (within change path last).map fun last =>
        put step (.tables last before) entries
    | some (.table origin inside) => (within change path inside).map fun inside =>
        put step (.table origin inside) entries

/-- Opens a table by its header. -/
def openTable (key : String) (entries : Entries) : Option Entries :=
  match entries.lookup key with
  | none => some (put key (.table .header []) entries)
  | some (.table .implied inside) => some (put key (.table .header inside) entries)
  | some _ => none

/-- Opens one more table of an array. -/
def openTables (key : String) (entries : Entries) : Option Entries :=
  match entries.lookup key with
  | none => some (put key (.tables [] []) entries)
  | some (.tables last before) => some (put key (.tables [] (last :: before)) entries)
  | some _ => none

end Entries

-- ============================================================ the result

mutual

/-- The value of an item. -/
def Item.toToml : Item → Toml
  | .value v => v
  | .table _ entries => .table (entriesToToml entries)
  | .tables last before => .array (tablesToToml before [.table (entriesToToml last)])

/-- The values of entries. -/
def entriesToToml : List (String × Item) → List (String × Toml)
  | [] => []
  | (key, item) :: rest => (key, item.toToml) :: entriesToToml rest

/-- The values of tables in reverse order, before those after them. -/
def tablesToToml : List (List (String × Item)) → List Toml → List Toml
  | [], after => after
  | entries :: before, after => tablesToToml before (.table (entriesToToml entries) :: after)

end

-- ============================================================ the lines

/-- A line of a document. -/
inductive Line where
  | pair (path : List String) (key : String) (value : Toml)
  | header (path : List String) (key : String)
  | arrayHeader (path : List String) (key : String)

/-- A document that is being read: all entries, and the path of the table
that the next pairs belong to. -/
structure Draft where
  entries : Entries
  current : List String

/-- Adds a line. -/
def Draft.add (draft : Draft) : Line → Option Draft
  | .pair path key value =>
    (Entries.within (Entries.putPath path key value) draft.current draft.entries).map fun e =>
      { draft with entries := e }
  | .header path key =>
    (Entries.within (Entries.openTable key) path draft.entries).map fun e =>
      ⟨e, path ++ [key]⟩
  | .arrayHeader path key =>
    (Entries.within (Entries.openTables key) path draft.entries).map fun e =>
      ⟨e, path ++ [key]⟩

/-- The table of a document's lines. -/
def ofLines (lines : List Line) : Option Toml :=
  (lines.foldlM Draft.add ⟨[], []⟩).map fun draft => .table (entriesToToml draft.entries)

end QueryText.Toml
