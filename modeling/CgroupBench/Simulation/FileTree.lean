import CgroupBench.Path
import CgroupBench.Simulation.Entries
import CgroupBench.SystemError

/-!
# A file tree in memory

Files and directories by name. A path is followed name by name, each step from a
directory; only the last name may be new. A path that ends in a separator or in a dot
stands for a directory, and no file is written through such a path, whatever its name.
-/
namespace CgroupBench.Simulation

inductive Node where
  | file (contents : List UInt8)
  | directory (entries : List (String × Node))
deriving Repr

/-- The names from the root down. -/
abbrev Place := List String

structure FileTree where
  /-- What stands in the root. -/
  entries : List (String × Node) := []
  /-- The directory where relative paths begin. -/
  current : Place := []
deriving Repr

/-- Where a walk through the tree stands. -/
structure Position where
  /-- What is found there, if anything. -/
  node : Option Node
  /-- The names followed so far and the directories they were followed from, latest first. -/
  trail : List (String × Node) := []

/-- Where the last name of a path is looked up. -/
inductive Target where
  /-- The path ends in a directory that it names by dots or separators alone. -/
  | reached
  | named (directory : Position) (name : String) (slashed : Bool)

namespace Position

def place (position : Position) : Place :=
  (position.trail.map (·.1)).reverse

/-- The directory above; the root is above itself. -/
def up (position : Position) : Position :=
  match position.trail with
  | [] => position
  | (_, directory) :: trail => ⟨some directory, trail⟩

def longestName : Nat := 255

def entries (position : Position) : Except SystemError (List (String × Node)) :=
  match position.node with
  | none => .error .noSuchFile
  | some (.file _) => .error .notADirectory
  | some (.directory entries) => .ok entries

def follow (position : Position) (name : String) : Except SystemError Position := do
  let entries ← position.entries
  if name = "" ∨ name = "." then return position
  else if name = ".." then return position.up
  else if longestName < name.utf8ByteSize then throw .nameTooLong
  else return ⟨entries.lookup name, (name, .directory entries) :: position.trail⟩

end Position

namespace FileTree

def root (tree : FileTree) : Position :=
  { node := some (.directory tree.entries) }

def longestPath : Nat := 4095

def embeddedNul : SystemError := .described "file name contained an unexpected NUL byte"

/-- Follows a path up to its last name. -/
def locate (tree : FileTree) (path : String) : Except SystemError Target := do
  if '\x00' ∈ path.toList then throw embeddedNul
  if path = "" then throw .noSuchFile
  if longestPath < path.utf8ByteSize then throw .nameTooLong
  let start ← (if Path.isAbsolute path then [] else tree.current).foldlM Position.follow tree.root
  match (Path.pieces path).reverse.dropWhile (· == "") with
  | [] => return .reached
  | last :: before =>
    let directory ← before.reverse.foldlM Position.follow start
    let _ ← directory.entries
    if last = "." ∨ last = ".." then return .reached
    else return .named directory last (path.toList.getLast? == some '/')

def read (tree : FileTree) (path : String) : Except SystemError (List UInt8) := do
  match ← tree.locate path with
  | .reached => throw .isADirectory
  | .named directory name slashed =>
    match (← directory.follow name).node with
    | none => throw .noSuchFile
    | some (.directory _) => throw .isADirectory
    | some (.file contents) => if slashed then throw .notADirectory else return contents

/-- Puts a node at a place, making the directories that are missing above it. Nothing is
put below a file, and the root stays what it is. -/
def put (node : Node) : Place → List (String × Node) → List (String × Node)
  | [], entries => entries
  | [name], entries => assign name node entries
  | name :: rest, entries =>
    match entries.lookup name with
    | none => assign name (.directory (put node rest [])) entries
    | some (.directory inner) => assign name (.directory (put node rest inner)) entries
    | some (.file _) => entries

def plant (tree : FileTree) (place : Place) (node : Node) : FileTree :=
  { tree with entries := put node place tree.entries }

/-- Makes or replaces a file. -/
def write (tree : FileTree) (path : String) (contents : List UInt8) :
    Except SystemError FileTree := do
  match ← tree.locate path with
  | .reached | .named _ _ true => throw .isADirectory
  | .named directory name false =>
    let position ← directory.follow name
    match position.node with
    | some (.directory _) => throw .isADirectory
    | _ => return tree.plant position.place (.file contents)

def createDirectory (tree : FileTree) (path : String) : Except SystemError FileTree := do
  match ← tree.locate path with
  | .reached => throw .fileExists
  | .named directory name _ =>
    let position ← directory.follow name
    match position.node with
    | some _ => throw .fileExists
    | none => return tree.plant position.place (.directory [])

def isDirectory (tree : FileTree) (path : String) : Bool :=
  match tree.locate path with
  | .ok .reached => true
  | .ok (.named directory name _) => ((directory.follow name).bind Position.entries).isOk
  | .error _ => false

end FileTree
end CgroupBench.Simulation
