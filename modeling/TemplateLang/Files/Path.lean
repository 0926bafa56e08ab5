/-!
# Paths

A path is a text with slashes between names.  One that begins with a slash starts
at the root of the tree, any other one in a directory.
-/

namespace TemplateLang.Path

/-- Whether a path starts at the root. -/
def isAbsolute (path : String) : Bool :=
  path.toList.head? = some '/'

/-- A path continued by another one.  An absolute one replaces it. -/
def join (base path : String) : String :=
  if isAbsolute path || base.isEmpty then path
  else if base.toList.getLast? = some '/' then base ++ path
  else base ++ "/" ++ path

/-- The parts between the slashes of a text, of which `part` is the start of the
first, last character first. -/
def splitFrom : List Char → List Char → List (List Char)
  | part, [] => [part.reverse]
  | part, c :: rest =>
    if c = '/' then part.reverse :: splitFrom [] rest else splitFrom (c :: part) rest

/-- The names of a path, without the empty ones. -/
def names (path : String) : List String :=
  ((splitFrom [] path.toList).filter (!·.isEmpty)).map String.ofList

/-- Whether a path can only lead to a directory: it ends with a slash. -/
def endsInSlash (path : String) : Bool :=
  path.toList.getLast? = some '/'

/-- The name of what a path leads to, if its last name is one.  Dots that stand for
the same directory are passed over. -/
def fileName? (path : String) : Option String :=
  match ((names path).filter (· ≠ ".")).getLast? with
  | some ".." => none
  | last => last

/-- What comes after the last dot of a file's name, if something comes before it. -/
def extension? (path : String) : Option String :=
  match fileName? path with
  | some name =>
    let last := name.toList.reverse.takeWhile (· ≠ '.')
    let before := name.toList.reverse.dropWhile (· ≠ '.')
    if before.length ≤ 1 then none else some (String.ofList last.reverse)
  | none => none

end TemplateLang.Path
