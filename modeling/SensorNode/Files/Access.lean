/-!
# Access to files

What the program asks of files, in any monad: of a disk when it runs, of a tree in memory when it is
tested or reasoned about.

## Implementation notes

Names and paths are texts. An entry of a directory whose name is no UTF-8 text has no place among
`names`, so nothing is said here about such entries.
-/

namespace SensorNode

inductive FileError where
  | notFound
  | notADirectory
  | isADirectory
  | notUtf8
  | other (text : String)
deriving DecidableEq, Repr

namespace FileError

def message : FileError → String
  | notFound => "No such file or directory (os error 2)"
  | notADirectory => "Not a directory (os error 20)"
  | isADirectory => "Is a directory (os error 21)"
  | notUtf8 => "stream did not contain valid UTF-8"
  | other text => text

end FileError

structure FileAccess (m : Type → Type) where
  isDirectory : (path : String) → m Bool
  /-- The names in a directory, in no particular order. -/
  names : (directory : String) → m (Except FileError (List String))
  read : (path : String) → m (Except FileError ByteArray)
  /-- Make a file or replace its content. -/
  write : (path content : String) → m (Except FileError Unit)

/-- The path of a name in a directory. -/
def joinPath (directory name : String) : String :=
  if directory.isEmpty || directory.toList.getLast? = some '/' then directory ++ name
  else directory ++ "/" ++ name

/-- Whether a name ends in `.json` after at least one other character. -/
def isJsonName (name : String) : Bool :=
  let ending := ".json".toList
  ending.isSuffixOf name.toList && ending.length < name.length

end SensorNode
