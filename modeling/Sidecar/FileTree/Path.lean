/-!
# FileTree/Path — the text of a path

A path is text: names between slashes.  `names` are what a look-up walks through, and `parent?` is
the text of the directory that a path stands in, found from the text alone.
-/

namespace Sidecar.Path

/-- A path that starts from the root. -/
def isAbsolute (path : List Char) : Bool := path.head? = some '/'

/-- Whether the text ends in a slash, so that it can only name a directory. -/
def endsInSlash (path : List Char) : Bool := path.getLast? = some '/'

/-- The names in a path, `.` and `..` among them. -/
def names (path : List Char) : List (List Char) := (path.splitOn '/').filter (!·.isEmpty)

/-- Drops slashes and `.` names from the end of a reversed path; **a lone `.` or `/` stays.** -/
def dropEmptyEnd : List Char → List Char
  | '/' :: c :: rest => dropEmptyEnd (c :: rest)
  | '.' :: '/' :: rest => dropEmptyEnd ('/' :: rest)
  | reversed => reversed

/-- The path of the directory that a path's last name stands in; empty for a single name, and `none`
for the root and for the empty path. -/
def parent? (path : List Char) : Option (List Char) :=
  match dropEmptyEnd path.reverse with
  | [] => none
  | ['/'] => none
  | reversed => some (dropEmptyEnd (reversed.dropWhile (· ≠ '/'))).reverse

/-- A path inside a directory; an absolute one stands for itself. -/
def join (directory path : List Char) : List Char :=
  if isAbsolute path then path
  else if endsInSlash directory || directory.isEmpty then directory ++ path
  else directory ++ '/' :: path

end Sidecar.Path
