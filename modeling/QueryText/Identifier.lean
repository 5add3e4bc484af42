/-
Simple identifiers: names made of ASCII letters, digits and underscores
alone, for tables hyphens as well. This is the border between names, which
are quoted, and pieces of SQL, which pass through as they are. The empty
name is a name.
-/
namespace QueryText.Identifier

/-- ASCII letters, digits and the underscore. -/
def isWordChar (c : Char) : Bool :=
  c.isAlphanum || c == '_'

/-- Whether a column name is a plain identifier. -/
def isSimple (name : String) : Bool :=
  name.toList.all isWordChar

/-- Whether a table name is a plain identifier. -/
def isSimpleTable (name : String) : Bool :=
  name.toList.all fun c => isWordChar c || c == '-'

end QueryText.Identifier
