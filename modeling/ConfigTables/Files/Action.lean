import ConfigTables.Files.Tree
/-!
# Changes to the file tree

An action changes the tree as a program or a person would: write or append to a file
(making the directories above it), remove a path with everything below it, make a
directory with its parents, rename a path, or change a path's mode (which the tree does not
keep). An action that cannot be done changes nothing.

Each action also gives the events a watcher of the tree would see: the paths it touched and
how, in order. Writing a new file creates it and then writes it; removing a directory
removes what is below it first; renaming is seen at the old path and as a creation at the
new one.
-/

namespace ConfigTables.Files

/-- An action on the tree. -/
inductive Action where
  | write (path : String) (data : List UInt8)
  | append (path : String) (data : List UInt8)
  | remove (path : String)
  | mkdir (path : String)
  | rename (path target : String)
  | chmod (path : String)
  deriving Repr, Inhabited

/-- How a path was touched. -/
inductive Op where
  | create
  | write
  | remove
  | rename
  | chmod
  deriving Repr, DecidableEq, Inhabited

/-- A path touched, and how. -/
structure Event where
  path : String
  op : Op
  deriving Repr, Inhabited

/-- The directories of a path's parent chain that one tree lacks and another has, outermost
first. -/
def madeDirs (before after : Tree) (p : String) : List String :=
  match before.elementsOf (Path.dir p) with
  | none => []
  | some es => (Tree.prefixes es).filter fun d => !before.isDir d && after.isDir d

/-- Writes a file, making its directories. -/
def writeWithDirs (t : Tree) (p : String) (data : List UInt8) (append : Bool) : Tree :=
  let t' := (t.mkdirAll (Path.dir p)).toOption.getD t
  ((if append then t'.append p data else t'.write p data)).toOption.getD t'

/-- The events of writing a file, from the trees before and after: the directories made,
then the file created (when it was new) and written. -/
def writeEvents (t t' : Tree) (p : String) : List Event :=
  let dirs := (madeDirs t t' p).map (⟨·, .create⟩)
  let file := if t.isFile p then [⟨Path.clean p, .write⟩] else [⟨Path.clean p, .create⟩, ⟨Path.clean p, .write⟩]
  if t'.isFile p then dirs ++ file else dirs

/-- Does an action: the tree after it, and the events seen. -/
def Action.run (t : Tree) : Action → Tree × List Event
  | .write p data =>
    let t' := writeWithDirs t p data false
    (t', writeEvents t t' p)
  | .append p data =>
    let t' := writeWithDirs t p data true
    (t', writeEvents t t' p)
  | .remove p =>
    let key := t.keyOf p
    let gone := (t.keysUnder key).reverse.filter (· ≠ key) ++ (if t.exists? p && key ≠ "." then [key] else [])
    (t.removeAll p, gone.map (⟨·, .remove⟩))
  | .mkdir p =>
    let t' := (t.mkdirAll p).toOption.getD t
    (t', ((match t.elementsOf p with
      | some es => Tree.prefixes es
      | none => []).filter fun d => !t.isDir d && t'.isDir d).map (⟨·, .create⟩))
  | .rename src dst =>
    match t.rename src dst with
    | .ok t' => (t', [⟨Path.clean src, .rename⟩, ⟨Path.clean dst, .create⟩])
    | .error _ => (t, [])
  | .chmod p => (t, if t.exists? p then [⟨Path.clean p, .chmod⟩] else [])

/-- Does actions in order: the tree after them and every event seen. -/
def Action.runAll (t : Tree) (as : List Action) : Tree × List Event :=
  as.foldl (fun (acc : Tree × List Event) a =>
    let (t', es) := a.run acc.1
    (t', acc.2 ++ es)) (t, [])

end ConfigTables.Files
