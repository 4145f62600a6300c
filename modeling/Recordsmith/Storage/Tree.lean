import Recordsmith.Storage.Location

/-!
File trees. Every file and directory lies at a location: the names that lead to it from the top,
which is always a directory. Paths are followed from the top, one part after another: two dots
lead back to the directory above, any other part is a name of at most 255 bytes. A path that holds
a null character, and a path of 4096 bytes or more, are refused before anything is done.
-/

namespace Recordsmith.Storage

/-- The names that lead from the top to a file or directory. -/
abbrev Location := List String

/-- What lies at a location. -/
inductive Node where
  | file (content : String)
  | directory
  deriving DecidableEq, Repr

/-- The files and directories below the top, each location once. -/
structure Tree where
  entries : List (Location × Node)
  deriving DecidableEq, Repr

/-- Why something cannot be done in a tree. -/
inductive TreeFault where
  | missing
  | exists
  | notDirectory
  | isDirectory
  | nameTooLong
  | nullCharacter
  deriving DecidableEq, Repr

/-- The words for a fault. -/
def TreeFault.message : TreeFault → String
  | .missing => "No such file or directory (os error 2)"
  | .exists => "File exists (os error 17)"
  | .notDirectory => "Not a directory (os error 20)"
  | .isDirectory => "Is a directory (os error 21)"
  | .nameTooLong => "File name too long (os error 36)"
  | .nullCharacter => "file name contained an unexpected NUL byte"

/-- The most bytes of a name. -/
def longestName : Nat := 255

/-- The most bytes of a path. -/
def longestPath : Nat := 4095

namespace Tree

/-- Only the top. -/
def empty : Tree := ⟨[]⟩

/-- What lies at a location. -/
def at? (tree : Tree) (location : Location) : Option Node :=
  if location.isEmpty then some .directory
  else (tree.entries.find? fun entry => decide (entry.1 = location)).map (·.2)

/-- Puts something at a location, in place of what was there. -/
def put (tree : Tree) (location : Location) (node : Node) : Tree :=
  ⟨tree.entries.filter (fun entry => decide (entry.1 ≠ location)) ++ [(location, node)]⟩

/-- A tree with the outcome of what was done in it. -/
abbrev Result (Value : Type) := Tree × Except TreeFault Value

/-- Makes sure that a name in a directory is a directory; `isLast` says whether the path ends
with it. -/
def enter (tree : Tree) (parent : Location) (name : String) (isLast : Bool) :
    Result Location :=
  let location := parent ++ [name]
  if longestName < name.utf8ByteSize then (tree, .error .nameTooLong)
  else match tree.at? location with
    | some .directory => (tree, .ok location)
    | some (.file _) => (tree, .error (if isLast then .exists else .notDirectory))
    | none => (tree.put location .directory, .ok location)

/-- Follows the parts of a path from a directory, making the directories that are missing. -/
def enterAll (tree : Tree) (location : Location) : List String → Result Location
  | [] => (tree, .ok location)
  | part :: rest =>
      if part = ".." then enterAll tree location.dropLast rest
      else match tree.enter location part rest.isEmpty with
        | (grown, .ok next) => enterAll grown next rest
        | (same, .error fault) => (same, .error fault)

/-- Why no tree follows a path, whatever lies in it. -/
def pathFault? (path : String) : Option TreeFault :=
  if path.toList.contains (Char.ofNat 0) then some .nullCharacter
  else if longestPath < path.utf8ByteSize then some .nameTooLong
  else none

/-- Makes a directory and all directories on the way to it. -/
def makeDirectories (tree : Tree) (path : String) : Result Location :=
  match pathFault? path with
  | some fault => (tree, .error fault)
  | none => tree.enterAll [] (parts path)

/-- Follows the parts of a path without making anything. The last part need not be there. -/
def follow (tree : Tree) (location : Location) : List String → Except TreeFault Location
  | [] => .ok location
  | part :: rest =>
      if part = ".." then follow tree location.dropLast rest
      else if longestName < part.utf8ByteSize then .error .nameTooLong
      else
        let next := location ++ [part]
        if rest.isEmpty then .ok next
        else match tree.at? next with
          | some .directory => follow tree next rest
          | some (.file _) => .error .notDirectory
          | none => .error .missing

/-- The location that a path leads to. -/
def locate (tree : Tree) (path : String) : Except TreeFault Location :=
  match pathFault? path with
  | some fault => .error fault
  | none => tree.follow [] (parts path)

/-- Writes a file, in place of the file that was there. Its directory must be there. -/
def write (tree : Tree) (path content : String) : Result Unit :=
  match tree.locate path with
  | .error fault => (tree, .error fault)
  | .ok location =>
      match tree.at? location with
      | some .directory => (tree, .error .isDirectory)
      | _ => (tree.put location (.file content), .ok ())

/-- The content of the file that a path leads to. -/
def read? (tree : Tree) (path : String) : Option String :=
  match tree.locate path with
  | .error _ => none
  | .ok location =>
      match tree.at? location with
      | some (.file content) => some content
      | _ => none

end Tree

end Recordsmith.Storage
