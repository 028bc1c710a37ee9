import CoverageWindows.Files.Tree

/-!
# Access to files

A program that reads and writes files does so through these operations, whatever carries them out.
A tree of files carries them out as a state; outside of proofs a system does.

Main results:

- Theorem `tree_readText`: reading leaves a tree as it is.
-/

namespace CoverageWindows

/-- Operations on files, carried out in `m`. -/
structure FileAccess (m : Type → Type) where
  readText : Bytes → m (Except FileFault String)
  write : Bytes → Bytes → m (Except FileFault Unit)
  append : Bytes → Bytes → m (Except FileFault Unit)
  makeFolders : Bytes → m (Except FileFault Unit)

namespace FileAccess

/-- The outcome of a change of a tree, which stays as it is where the change fails. -/
def changed (t : FileTree) : Except FileFault FileTree → Except FileFault Unit × FileTree
  | .ok t => (.ok (), t)
  | .error e => (.error e, t)

/-- Operations on a tree of files. -/
def tree : FileAccess (StateM FileTree) where
  readText path := fun t => (t.readText path, t)
  write path content := fun t => changed t (t.write path content)
  append path content := fun t => changed t (t.append path content)
  makeFolders path := fun t => t.makeFolders path

/-- Reading leaves a tree as it is. -/
@[simp]
theorem tree_readText (path : Bytes) (t : FileTree) :
    (tree.readText path).run t = (t.readText path, t) := rfl

end FileAccess
end CoverageWindows
