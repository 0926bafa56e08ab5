import TemplateLang.Files.Path

/-!
# File trees

A tree of files, as a program sees it from the directory that it works in.  A file
is known by the names that lead to it from the root; a directory is there when it
is listed, when a file is in it, or when it is on the way to the working directory.
-/

namespace TemplateLang

/-- Why a file is not read or written. -/
inductive FileError where
  | missing
  | notADirectory
  | isADirectory
  | nameTooLong
  | badName
  | notText
deriving DecidableEq, Repr

/-- What an error says. -/
def FileError.message : FileError → String
  | missing => "No such file or directory (os error 2)"
  | notADirectory => "Not a directory (os error 20)"
  | isADirectory => "Is a directory (os error 21)"
  | nameTooLong => "File name too long (os error 36)"
  | badName => "file name contained an unexpected NUL byte"
  | notText => "stream did not contain valid UTF-8"

/-- The names that lead from the root to a place. -/
abbrev Location : Type :=
  List String

/-- The files of a tree, the working directory, and directories that may be empty. -/
structure FileTree where
  here : Location
  files : List (Location × ByteArray)
  directories : List Location

/-- What is at a place. -/
inductive FileNode where
  | file (content : ByteArray)
  | directory

namespace FileTree

/-- The path of the working directory. -/
def herePath (tree : FileTree) : String :=
  "/" ++ "/".intercalate tree.here

/-- The longest name, in bytes. -/
def maxNameLength : Nat :=
  255

/-- What is at a place, if anything. -/
def node? (tree : FileTree) (place : Location) : Option FileNode :=
  match tree.files.find? (·.1 == place) with
  | some (_, content) => some (.file content)
  | none =>
    if place.isPrefixOf tree.here || tree.files.any (place.isPrefixOf ·.1) ||
        tree.directories.any (place.isPrefixOf ·) then some .directory
    else none

/-- That a place is a directory, or why names cannot be looked up in it. -/
def requireDirectory (tree : FileTree) (place : Location) : Except FileError Unit :=
  match tree.node? place with
  | some .directory => .ok ()
  | some (.file _) => .error .notADirectory
  | none => .error .missing

/-- The place of a name in a directory. -/
def step (place : Location) (name : String) : Except FileError Location :=
  if name = "." then .ok place
  else if name = ".." then .ok place.dropLast
  else if maxNameLength < name.utf8ByteSize then .error .nameTooLong
  else .ok (place ++ [name])

/-- The place that names lead to. -/
def walk (tree : FileTree) : Location → List String → Except FileError Location
  | place, [] => .ok place
  | place, name :: rest => do
    tree.requireDirectory place
    walk tree (← step place name) rest

/-- Where a path starts. -/
def startOf (tree : FileTree) (path : String) : Location :=
  if Path.isAbsolute path then [] else tree.here

/-- A bound on the length of paths, in bytes. -/
def pathBound : Nat :=
  4096

/-- Refuse paths that no system takes. -/
def checkPath (path : String) : Except FileError Unit :=
  if path.toList.contains '\x00' then .error .badName
  else if path.isEmpty then .error .missing
  else if pathBound ≤ path.utf8ByteSize then .error .nameTooLong
  else .ok ()

/-- What a path leads to. -/
def find (tree : FileTree) (path : String) : Except FileError FileNode := do
  checkPath path
  let place ← tree.walk (tree.startOf path) (Path.names path)
  if Path.endsInSlash path then tree.requireDirectory place
  match tree.node? place with
  | some node => .ok node
  | none => .error .missing

/-- Whether a path leads to anything. -/
def includes (tree : FileTree) (path : String) : Bool :=
  (tree.find path).isOk

/-- The text of a file. -/
def readText (tree : FileTree) (path : String) : Except FileError String := do
  match ← tree.find path with
  | .directory => .error .isADirectory
  | .file content =>
    match String.fromUTF8? content with
    | some text => .ok text
    | none => .error .notText

/-- Files with the content of one replaced, or with one more. -/
def put (place : Location) (content : ByteArray) :
    List (Location × ByteArray) → List (Location × ByteArray)
  | [] => [(place, content)]
  | (other, old) :: rest =>
    if other = place then (other, content) :: rest else (other, old) :: put place content rest

/-- A tree with a text written to a file, which is made if it is not there. -/
def writeText (tree : FileTree) (path text : String) : Except FileError FileTree := do
  checkPath path
  let names := Path.names path
  let parent ← tree.walk (tree.startOf path) names.dropLast
  tree.requireDirectory parent
  match names.getLast? with
  | none => .error .isADirectory
  | some name =>
    if Path.endsInSlash path || name = "." || name = ".." then .error .isADirectory
    else do
      let place ← step parent name
      match tree.node? place with
      | some .directory => .error .isADirectory
      | _ => .ok { tree with files := put place text.toUTF8 tree.files }

end FileTree

end TemplateLang
