import NetWarden.Dictionary
import NetWarden.Text.Split

/-!
# Files

What the commands need of files: to read one, to see whether there is one, and to write one. They
need it of whatever keeps the files, which `FileAccess` leaves open. A `FileTree` keeps them as a
value: the files below a directory, by the names that lead to them from there.

A name is a path of parts between slashes. In a tree it starts from the tree's own directory, which
may itself stand in front of it. A directory is there as long as a file is below it.
-/

namespace NetWarden

/-- Steps that may access files by their names. -/
class FileAccess (m : Type → Type) where
  /-- The text of a file, if it can be read. -/
  read? : String → m (Option String)
  /-- Whether there is a file or a directory. -/
  isThere : String → m Bool
  /-- Writes a file; whether that could be done. -/
  write : String → String → m Bool

/-- Files below a directory. -/
structure FileTree where
  /-- The name of the directory. -/
  directory : String
  /-- The texts of the files, by the parts of their names with slashes between them. -/
  files : Dictionary String := .empty
deriving Repr

namespace FileTree

/-- The parts of a name. -/
def parts (name : String) : List String := (Text.splitOn '/' name.toList).map String.ofList

/-- The name of parts. -/
def joined (ps : List String) : String := "/".intercalate ps

/-- A tree of files with the given names and texts, all below the directory. -/
def ofFiles (directory : String) (files : List (String × String)) : FileTree where
  directory := directory
  files := .ofList (files.map fun f ↦
    (joined ((parts f.1).filter fun p ↦ p ≠ "" ∧ p ≠ "."), f.2))

/-- Whether there is a directory below the tree's own, or it is that one. -/
def isDirectory (t : FileTree) (ps : List String) : Bool :=
  ps.isEmpty || t.files.keys.any fun k ↦ (joined ps ++ "/").toList.isPrefixOf k.toList

/-- Where a name leads from the parts already passed; every part but the last must lead to a
directory. -/
def follow (t : FileTree) (passed : List String) : List String → Option (List String)
  | [] => some passed
  | p :: ps =>
    if !t.isDirectory passed then none
    else if p = "" ∨ p = "." then follow t passed ps
    else if p = ".." then if passed.isEmpty then none else follow t passed.dropLast ps
    else follow t (passed ++ [p]) ps

/-- Where a name leads: nowhere if it is empty or starts outside of the tree. -/
def resolve? (t : FileTree) (name : String) : Option (List String) :=
  match parts name with
  | "" :: _ => none
  | p :: ps => if p = t.directory then t.follow [] ps else t.follow [] (p :: ps)
  | [] => none

/-- The text of a file. -/
def read? (t : FileTree) (name : String) : Option String := do
  t.files.get? (joined (← t.resolve? name))

/-- Whether there is a file or a directory with a name. -/
def isThere (t : FileTree) (name : String) : Bool :=
  match t.resolve? name with
  | none => false
  | some ps => t.isDirectory ps || (t.files.get? (joined ps)).isSome

/-- The tree with a text in a file. The file's directory must be there, and the file must not be a
directory. -/
def write? (t : FileTree) (name text : String) : Option FileTree := do
  let ps ← t.resolve? name
  if t.isDirectory ps then none
  else if !t.isDirectory ps.dropLast then none
  else some { t with files := t.files.insert (joined ps) text }

instance : FileAccess (StateM FileTree) where
  read? name := do return (← get).read? name
  isThere name := do return (← get).isThere name
  write name text := do
    match (← get).write? name text with
    | some t => set t; return true
    | none => return false

end FileTree

end NetWarden
