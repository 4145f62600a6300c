import Recordsmith.Generation.Sink
import Recordsmith.Storage.Tree

/-!
Writing artifacts to a directory. Each artifact becomes a file at its target below the root of
the directory; directories that are missing are made first, and stay when the file cannot be
written. The paths of the written files are kept in order, a file that is written twice counts
twice.
-/

namespace Recordsmith

/-- A directory that takes artifacts, with the tree it lies in. -/
structure Directory where
  root : String
  tree : Storage.Tree
  written : List String
  diagnostics : List Diagnostic

namespace Directory

/-- A directory that nothing was written to yet. -/
def ofRoot (root : String) (tree : Storage.Tree) : Directory := ⟨root, tree, [], []⟩

/-- The path of the file for an artifact. -/
def path (directory : Directory) (artifact : Artifact) : String :=
  Storage.join directory.root artifact.targetFile

/-- A failed action on a path. -/
def fileReport (action : FileAction) (path : String) (fault : Storage.TreeFault) : Report :=
  Report.ofFault (.fileOperation action path fault.message)

/-- Makes the directories on the way to a path. A path without a parent has none. -/
def prepare (directory : Directory) (path : String) : Directory × Outcome Unit :=
  match Storage.parent? path with
  | none => (directory, .ok ())
  | some parent =>
      match directory.tree.makeDirectories parent with
      | (tree, .ok _) => ({ directory with tree }, .ok ())
      | (tree, .error fault) =>
          ({ directory with tree }, .error (fileReport .createDirectory parent fault))

/-- Writes a text to a path whose directory is there. -/
def writeText (directory : Directory) (path text : String) : Emission Directory :=
  match directory.tree.write path text with
  | (tree, .ok ()) =>
      ⟨{ directory with tree, written := directory.written ++ [path] }, .ok (),
        [.fileWritten path]⟩
  | (tree, .error fault) =>
      ⟨{ directory with tree }, .error (fileReport .write path fault), []⟩

instance : Sink Directory where
  emit artifact directory :=
    let path := directory.path artifact
    match directory.prepare path with
    | (prepared, .ok ()) => prepared.writeText path artifact.text
    | (prepared, .error report) => ⟨prepared, .error report, []⟩
  report diagnostic directory :=
    { directory with diagnostics := directory.diagnostics ++ [diagnostic] }

end Directory

end Recordsmith
