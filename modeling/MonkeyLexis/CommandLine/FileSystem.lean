import MonkeyLexis.Byte

/-!
# Files

What the program finds where it looks for a file, and trees of files that are held in memory. A
path is followed name by name from the root of the tree, and each name but the last has to lead to
a directory. Nothing is known of what lies outside the tree, except that there are directories
above its root.
-/

namespace MonkeyLexis.CommandLine

inductive FileLookup where
  | missing
  | unreadable (reason : String)
  | contents (bytes : List Byte)
deriving DecidableEq

abbrev FileSystem := String → FileLookup

/-- Where something is in a tree: the names on the way there from the root, the last one first. The
name `..` stands for a step above the root, and `/` for the top of the whole system. -/
abbrev Location := List String

namespace Location

def parent : Location → Location
  | [] => [".."]
  | name :: outer =>
      if name = ".." then ".." :: name :: outer
      else if name = "/" then name :: outer
      else outer

/-- The location to which a name in a path leads. The empty name and `.` lead nowhere else. -/
def enter (location : Location) (name : String) : Location :=
  if name = "" || name = "." then location
  else if name = ".." then location.parent
  else name :: location

/-- All locations through which names in a path lead, in order. -/
def trail (location : Location) : List String → List Location
  | [] => []
  | name :: names => location.enter name :: (location.enter name).trail names

/-- Whether the location is the root of a tree or a directory above it. -/
def isTop (location : Location) : Bool :=
  location.all fun name => name = ".." || name = "/"

def names (path : String) : List String :=
  (path.toList.splitOn '/').map String.ofList

def origin (path : String) : Location :=
  match path.toList with
  | '/' :: _ => ["/"]
  | _ => []

/-- Where a path leads if all its names but the last lead to directories. -/
def ofPath (path : String) : Location :=
  (names path).foldl enter (origin path)

end Location

structure FileTree where
  directories : List Location
  files : List (Location × List Byte)
deriving DecidableEq

namespace FileTree

inductive Place where
  | directory (location : Location)
  | file (contents : List Byte)
deriving DecidableEq

/-- The tree in which the directories were made and then the files written, with every directory
that is on the way to one of them. Of two files in one place the later one stays. -/
def ofPaths (directories : List String) (files : List (String × List Byte)) : FileTree where
  directories :=
    directories.flatMap (fun path => (Location.origin path).trail (Location.names path))
      ++ files.flatMap fun file =>
        (Location.origin file.1).trail (Location.names file.1).dropLast
  files := (files.map fun file => (Location.ofPath file.1, file.2)).reverse

def hasDirectory (tree : FileTree) (location : Location) : Bool :=
  location.isTop || tree.directories.contains location

/-- What one more name leads to, if anything. -/
def step? (tree : FileTree) (place : Place) (name : String) : Option Place :=
  match place with
  | .file _ => none
  | .directory location =>
      let next := location.enter name
      match tree.files.lookup next with
      | some contents => some (.file contents)
      | none => if tree.hasDirectory next then some (.directory next) else none

/-- The length in bytes from which on a path is too long to be followed. -/
def pathLimit : Nat := 4096

/-- What a program finds that starts in the root of the tree. -/
def lookup (tree : FileTree) : FileSystem := fun path =>
  if path = "" || pathLimit ≤ path.utf8ByteSize then
    .missing
  else
    match (Location.names path).foldlM tree.step? (.directory (Location.origin path)) with
    | none => .missing
    | some (.file contents) => .contents contents
    | some (.directory _) => .unreadable "Is a directory (os error 21)"

end FileTree

end MonkeyLexis.CommandLine
