/-!
# Paths

A path is a list of names between slashes. The last one says what is meant, those
before it are directories on the way.
-/
namespace FantasyConsole

/-- The names of a path, from the root of all files or from the directory one is in. -/
structure Path where
  absolute : Bool
  names : List String
  slashAtEnd : Bool
  deriving DecidableEq, Repr

namespace Path

def ofString (path : String) : Path where
  absolute := path.toList.head? = some '/'
  names := (path.splitOn "/").filter (· != "")
  slashAtEnd := path.toList.getLast? = some '/'

def directories (p : Path) : List String := p.names.dropLast

def last? (p : Path) : Option String := p.names.getLast?

/-- The last name other than a single dot, none if that is a parent directory or there is no
name. -/
def fileName? (path : String) : Option String :=
  ((ofString path).names.filter (· != ".")).getLast?.filter (· != "..")

/-- What follows the last dot of the file name, if something stands before that dot. -/
def extension? (path : String) : Option String := do
  let name ← fileName? path
  let reversed := name.toList.reverse
  let extension := reversed.takeWhile (· != '.')
  let stem := reversed.drop (extension.length + 1)
  if extension.length = reversed.length || stem.isEmpty then none
  else some (String.ofList extension.reverse)

def nameLimit : Nat := 255

def sizeLimit : Nat := 4096

end Path

end FantasyConsole
