import Std.Time.Zoned
import TemplateLang.CommandLine.Run

/-!
# The program

The outer layer of the command line.  What a run may look at is read from the disk
before it, and the files that it leaves changed are written after it; what happens in
between is `Surroundings.run`.  A template can name any file, so the working directory
is read as a whole when one is rendered.
-/

namespace TemplateLang.CommandLine

/-! ## What the program says of itself -/

/-- How the program is used. -/
def usageText : String :=
  String.intercalate "\n" [
    "Usage: [OPTIONS] <COMMAND>",
    "",
    "Commands:",
    "  render <INPUT>            Render a template",
    "      -o, --output <FILE>       Write to a file and not to the output",
    "          --vars <FILE>         Take variables from a file (.json or .toml)",
    "          --set <KEY=VALUE>     Set a variable, to JSON or else to a text",
    "  fmt <INPUT>               Print a template in canonical form",
    "          --check               Only tell whether it is in that form",
    "      -w, --write               Replace the file by that form",
    "  tokens <INPUT>            Print the tokens of a template",
    "",
    "Options:",
    "  -c, --config <FILE>       The configuration (TOML)",
    "      --log-level <LEVEL>   off, error, warn, info, debug or trace",
    "  -h, --help                Print this text",
    "  -V, --version             Print the version",
    ""]

def versionText : String :=
  "0.1.0\n"

/-- What is said of a command line that is not followed. -/
def UsageError.message : UsageError → String
  | help => usageText
  | version => versionText
  | nothingAsked => usageText
  | missingCommand => "error: a command is missing\n"
  | unknownCommand => "error: there is no such command\n"
  | unknownWord => "error: an argument is not expected\n"
  | missingWord => "error: an argument is missing\n"
  | missingValue => "error: an option is without its value\n"
  | needlessValue => "error: an option does not take a value\n"
  | refusedValue => "error: a variable is set by KEY=VALUE\n"
  | conflict => "error: options cannot be used together\n"

/-! ## The disk before and after a run -/

/-- What an entry of a directory is on the disk.  What cannot be read is not there. -/
def readNode? (entry : IO.FS.DirEntry) : IO (Option FileNode) := do
  try
    match (← entry.path.metadata).type with
    | .dir => return some .directory
    | .file => return some (.file (← IO.FS.readBinFile entry.path))
    | _ => return none
  catch _ => return none

/-- A tree with one more place. -/
def addNode (tree : FileTree) (place : Location) : Option FileNode → FileTree
  | some (.file content) => { tree with files := tree.files ++ [(place, content)] }
  | some .directory => { tree with directories := tree.directories ++ [place] }
  | none => tree

/-- A tree with what is on the disk where a path leads to, and on the way there. -/
def addPath (tree : FileTree) (path : String) : IO FileTree := do
  match (Path.names path).foldlM FileTree.step (tree.startOf path) with
  | .error _ => return tree
  | .ok place =>
    let root ← IO.currentDir
    let mut tree := tree
    for length in List.range (place.length + 1) do
      let place := place.take length
      let node ← readNode? ⟨root, "/" ++ "/".intercalate place⟩
      tree := addNode tree place node
    return tree

/-- The entries of a directory that can be read. -/
def readEntries (directory : IO.FS.DirEntry) : IO (Array IO.FS.DirEntry) := do
  try directory.path.readDir catch _ => return #[]

/-- How deep directories are looked into. -/
def maxDepth : Nat :=
  64

/-- A tree with what is on the disk in a directory, to a depth.  Directories that are
links are not looked into, since they can lead back. -/
def addEntries : Nat → FileTree → Location → IO.FS.DirEntry → IO FileTree
  | 0, tree, _, _ => return tree
  | depth + 1, tree, place, directory => do
    let mut tree := tree
    for entry in ← readEntries directory do
      let inner := place ++ [entry.fileName]
      let node ← readNode? entry
      tree := addNode tree inner node
      if (← entry.path.symlinkMetadata).type == .dir then
        tree ← addEntries depth tree inner entry
    return tree

/-- The words of a command line that may be paths. -/
def pathsOf (request : Request) : List String :=
  request.config.toList ++
    match request.command with
    | .render input output variableFile _ => input :: (output.toList ++ variableFile.toList)
    | .format input _ _ | .tokens input => [input]

/-- Whether a command may read files that the command line does not name. -/
def readsFreely : Command → Bool
  | .render .. => true
  | .format .. | .tokens .. => false

/-- Where the configurations of the user are. -/
def findUserDirectory : IO (Option String) := do
  match ← IO.getEnv "XDG_CONFIG_HOME" with
  | some path => if Path.isAbsolute path then return some path
  | none => pure ()
  return (← IO.getEnv "HOME").map fun home => Path.join home ".config"

/-- The current moment, on the clock of Greenwich if there is no local one. -/
def readClock : IO Moment := do
  try
    let time ← Std.Time.DateTime.now
    let stamp := time.timestamp.val
    return ⟨stamp.second.val, stamp.nano.val.toNat, time.timezone.offset.second.val⟩
  catch _ =>
    let stamp := (← Std.Time.Timestamp.now).val
    return ⟨stamp.second.val, stamp.nano.val.toNat, 0⟩

/-- What a run of a request may look at. -/
def readSurroundings (request : Request) : IO Surroundings := do
  let root ← IO.currentDir
  let here := Path.names root.toString
  let userDirectory ← findUserDirectory
  let configPaths := configPath :: (userDirectory.map (Path.join · configPath)).toList
  let mut tree : FileTree := ⟨here, [], []⟩
  if readsFreely request.command then
    tree ← addEntries maxDepth tree here ⟨root, "."⟩
  for path in configPaths ++ pathsOf request do
    tree ← addPath tree path
  return ⟨tree, ← readClock, userDirectory⟩

/-- Write the files of a tree that differ from those of an earlier one. -/
def writeChanges (before after : FileTree) : IO Unit := do
  for (place, content) in after.files do
    if !before.files.contains (place, content) then
      IO.FS.writeBinFile ("/" ++ "/".intercalate place) content

/-! ## A run -/

/-- Run a request on the disk. -/
def runRequest (request : Request) : IO UInt32 := do
  let surroundings ← readSurroundings request
  match surroundings.run request with
  | .error error =>
    IO.eprintln error.report
    return 1
  | .ok outcome =>
    writeChanges surroundings.files outcome.files
    IO.print outcome.output
    return match outcome.status with
      | .success => 0
      | .unformatted => 1

/-- Answer a command line that does not lead to a run. -/
def refuseWords (error : UsageError) : IO UInt32 := do
  match error with
  | .help | .version =>
    IO.print error.message
    return 0
  | _ =>
    IO.eprint error.message
    return 2

/-- Follow a command line. -/
def runWords (words : List String) : IO UInt32 :=
  match Request.ofWords words with
  | .ok request => runRequest request
  | .error error => refuseWords error

end TemplateLang.CommandLine

/-- Read the command line and do what it asks for. -/
def main (words : List String) : IO UInt32 :=
  TemplateLang.CommandLine.runWords words
