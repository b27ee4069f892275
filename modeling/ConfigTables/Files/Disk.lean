import ConfigTables.Files.Tree
/-!
# A disk: files with modification times

A `Disk` is a `Tree` whose files remember when they were last written, together with a
clock. Writing a file stamps its key with the time now, waiting moves the clock on, and no
key is stamped later than now (`Disk.stamp_le_now`).

Looking at a path (`Disk.stat`) tells a directory from a file, and of a file its size and
modification time, failing as `stat` does.
-/

namespace ConfigTables.Files

/-- What looking at a path tells: a directory, or a file with its size and modification time
(nanoseconds since the epoch). -/
inductive Info where
  | dir
  | file (size : Nat) (mtime : Int)
  deriving Repr, DecidableEq

/-- A tree of files, the time each key was last written, and the time now. -/
structure Disk where
  tree : Tree
  stamp : String → Int
  now : Int
  stamp_le_now : ∀ k, stamp k ≤ now

namespace Disk

/-- A tree at rest: every file was written at time zero, and it is time zero now. -/
def rest (t : Tree) : Disk := ⟨t, fun _ => 0, 0, fun _ => Int.le_refl 0⟩

/-- Looks at a path. -/
def stat (d : Disk) (p : String) : Except OsError Info :=
  match d.tree.find p with
  | .error c => .error (OsError.at "stat" p c)
  | .ok .dir => .ok .dir
  | .ok (.file data) => .ok (.file data.length (d.stamp (d.tree.keyOf p)))

/-- Replaces the tree and stamps one key with the time now. -/
def restamp (d : Disk) (t : Tree) (key : String) : Disk where
  tree := t
  stamp k := if k = key then d.now else d.stamp k
  now := d.now
  stamp_le_now k := by
    by_cases h : k = key
    · simp only [h, if_true]
      exact Int.le_refl _
    · simp only [h, if_false]
      exact d.stamp_le_now k

@[simp] theorem restamp_tree (d : Disk) (t : Tree) (key : String) : (d.restamp t key).tree = t := rfl

@[simp] theorem restamp_now (d : Disk) (t : Tree) (key : String) : (d.restamp t key).now = d.now :=
  rfl

theorem restamp_stamp (d : Disk) (t : Tree) (key k : String) :
    (d.restamp t key).stamp k = if k = key then d.now else d.stamp k := rfl

/-- Writes a file, creating or truncating it, and stamps it with the time now. -/
def write (d : Disk) (p : String) (data : List UInt8) : Except OsError Disk :=
  (d.tree.write p data).map fun t => d.restamp t (d.tree.keyOf p)

/-- Removes a file or an empty directory. -/
def remove (d : Disk) (p : String) : Except OsError Disk :=
  (d.tree.remove p).map fun t => { d with tree := t }

/-- Moves the clock on by some nanoseconds. -/
def wait (d : Disk) (ns : Nat) : Disk where
  tree := d.tree
  stamp := d.stamp
  now := d.now + ns
  stamp_le_now k := by
    have := d.stamp_le_now k
    omega

@[simp] theorem wait_tree (d : Disk) (ns : Nat) : (d.wait ns).tree = d.tree := rfl

@[simp] theorem wait_stamp (d : Disk) (ns : Nat) : (d.wait ns).stamp = d.stamp := rfl

@[simp] theorem wait_now (d : Disk) (ns : Nat) : (d.wait ns).now = d.now + ns := rfl

end Disk

end ConfigTables.Files
