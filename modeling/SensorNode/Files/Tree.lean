import SensorNode.Files.Access
import SensorNode.Text.Lines

/-!
# Files in memory

A tree of directories and files with a working directory. Paths are followed from left to right:
every name that another one follows must be a directory, `.` and an empty name stay where they are,
`..` goes up and stays at the root.
-/

namespace SensorNode

inductive FileTree where
  | file (content : ByteArray)
  | directory (entries : List (String × FileTree))

namespace FileTree

def isDirectory : FileTree → Bool
  | file _ => false
  | directory _ => true

/-- What stands at a place, given by the names on the way down. -/
def at? : FileTree → List String → Option FileTree
  | tree, [] => some tree
  | file _, _ :: _ => none
  | directory entries, name :: names => (entries.lookup name).bind fun tree => tree.at? names

/-- Replace the entry of a name, or add it at the end. -/
def setEntry (name : String) (tree : FileTree) :
    List (String × FileTree) → List (String × FileTree)
  | [] => [(name, tree)]
  | entry :: entries =>
    if entry.1 = name then (name, tree) :: entries else entry :: setEntry name tree entries

/-- Put a tree at a place, making the directories on the way that are not there. -/
def put (new : FileTree) : FileTree → List String → FileTree
  | _, [] => new
  | file content, _ :: _ => file content
  | directory entries, name :: names =>
    let below := (entries.lookup name).getD (directory [])
    directory (setEntry name (new.put below names) entries)

mutual

/-- The files below a place, each with the names on its way. -/
def files : FileTree → List (List String × ByteArray)
  | file content => [([], content)]
  | directory entries => entryFiles entries

def entryFiles : List (String × FileTree) → List (List String × ByteArray)
  | [] => []
  | (name, tree) :: entries =>
    (files tree).map (fun found => (name :: found.1, found.2)) ++ entryFiles entries

end

end FileTree

/-- A file tree and the place in it where relative paths start. -/
structure Disk where
  root : FileTree
  home : List String

namespace Disk

/-- Follow names from a place. -/
def walk (disk : Disk) : List String → List String → Except FileError (List String)
  | here, [] => .ok here
  | here, name :: names =>
    match disk.root.at? here with
    | none => .error .notFound
    | some (.file _) => .error .notADirectory
    | some (.directory entries) =>
      if name = "" ∨ name = "." then disk.walk here names
      else if name = ".." then disk.walk here.dropLast names
      else if (entries.lookup name).isSome then disk.walk (here ++ [name]) names
      else .error .notFound

/-- Where a path starts. -/
def origin (disk : Disk) (path : String) : List String :=
  if path.toList.head? = some '/' then [] else disk.home

/-- What a path leads to. -/
def follow (disk : Disk) (path : String) : Except FileError FileTree :=
  if path.isEmpty then .error .notFound
  else do
    let place ← disk.walk (disk.origin path) (Text.splitText '/' path)
    match disk.root.at? place with
    | some tree => .ok tree
    | none => .error .notFound

def isDirectory (disk : Disk) (path : String) : Bool :=
  match disk.follow path with
  | .ok tree => tree.isDirectory
  | .error _ => false

def names (disk : Disk) (path : String) : Except FileError (List String) := do
  match ← disk.follow path with
  | .directory entries => return entries.map Prod.fst
  | .file _ => throw .notADirectory

def read (disk : Disk) (path : String) : Except FileError ByteArray := do
  match ← disk.follow path with
  | .file content => return content
  | .directory _ => throw .isADirectory

/-- The place of a file to write. Its directory must be there and the path must not name a
directory; one that ends in a slash names a directory even if there is none. -/
def target (disk : Disk) (path : String) : Except FileError (List String) := do
  if path.isEmpty then throw .notFound
  let parts := (Text.splitText '/' path).reverse
  let trailing := parts.takeWhile (·.isEmpty)
  match parts.dropWhile (·.isEmpty) with
  | [] => throw .isADirectory
  | name :: above =>
    let place ← disk.walk (disk.origin path) above.reverse
    match disk.root.at? place with
    | none => throw .notFound
    | some (.file _) => throw .notADirectory
    | some (.directory entries) =>
      if !trailing.isEmpty || name = "." || name = ".." then throw .isADirectory
      match entries.lookup name with
      | some (.directory _) => throw .isADirectory
      | _ => return place ++ [name]

def write (disk : Disk) (path content : String) : Except FileError Disk := do
  let place ← disk.target path
  return { disk with root := FileTree.put (.file content.toUTF8) disk.root place }

/-- Access to the files of a disk in memory; a write that fails changes nothing. -/
def access : FileAccess (StateM Disk) where
  isDirectory path := return (← get).isDirectory path
  names path := return (← get).names path
  read path := return (← get).read path
  write path content := do
    match (← get).write path content with
    | .ok disk => set disk; return .ok ()
    | .error error => return .error error

end Disk

end SensorNode
