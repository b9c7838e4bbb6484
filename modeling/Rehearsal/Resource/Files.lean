import Rehearsal.Resource.Basic

/-!
# Trees of files

A tree of files below a working directory. A path is followed component by component: a dot stays
where it is, two dots go back, and what is left behind has to be a directory. The directories are
those on the way to the files.
-/

namespace Rehearsal

/-- Files with their paths from the working directory. -/
structure FileTree where
  files : List (List String × Bytes)

namespace FileTree

/-- The components of a path; empty ones and dots do not count. -/
def components (path : String) : List String :=
  ((Text.splitOn '/' path.toList).map String.ofList).filter fun p => p ≠ "" ∧ p ≠ "."

def ofList (files : List (String × Bytes)) : FileTree :=
  ⟨files.map fun (path, bytes) => (components path, bytes)⟩

/-- Is there a directory with this path? -/
def isDirectory (t : FileTree) (path : List String) : Bool :=
  path.isEmpty || t.files.any fun (p, _) => path.isPrefixOf p && path ≠ p

/-- Where components lead from a directory: two dots go back, and only a directory is gone
through. -/
def follow? (t : FileTree) (directory : List String) : List String → Option (List String)
  | [] => some directory
  | p :: ps =>
    if t.isDirectory directory then
      if p = ".." then
        if directory.isEmpty then none else follow? t directory.dropLast ps
      else follow? t (directory ++ [p]) ps
    else none

/-- The content of the file with this path, the last one with it if there are several. -/
def read? (t : FileTree) (path : String) : Option Bytes :=
  if Text.startsWith ['/'] path.toList ∨ Text.endsWith ['/'] path.toList
      ∨ Text.endsWith ['/', '.'] path.toList then none
  else do
    let p ← t.follow? [] (components path)
    let (_, bytes) ← t.files.reverse.find? fun (q, _) => q = p
    return bytes

end FileTree
end Rehearsal
