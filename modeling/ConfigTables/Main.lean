import ConfigTables.Command.Run
/-!
# The command line

`main` runs one command line against the working directory. The directory's files are read
into a tree, the command runs on that tree, and what it changed (files written, directories
made, files removed) is written back. Command output goes to standard output, error lines
and log lines to standard error, and a fault ends the process with status 1.

A run reads the home directory and the `CONFHUB_` variable of every settings key and of
each of its parents. Its clock is the boot time the kernel reports plus the time since boot,
and its identifiers start from a random count, so that two runs do not share session ids.
Files outside the working directory are not seen, and a watch sees no changes.
-/

namespace ConfigTables.Command

/-- The environment variables a run reads: the home directory, and the variable of every
default settings key and of each of its parents. -/
def environmentNames : List String :=
  let keys := (Config.Layers.ofDocument "" []).keys
  let all := keys.flatMap fun k =>
    let path := Config.pathOf k
    (List.range path.length).map fun i => ".".intercalate (path.take (i + 1))
  "HOME" :: all.eraseDups.map fun k => String.map Char.toUpper ("CONFHUB_" ++ k)

/-- The key of an entry below a directory's key. -/
def keyBelow (dir name : String) : String := if dir = "." then name else dir ++ "/" ++ name

/-- Reads the files and directories below a directory of the disk into a tree, under the
directory's key. What cannot be read is left out. -/
partial def readBelow (dir key : String) (t : Files.Tree) : IO Files.Tree := do
  let entries ← try (← IO.FS.realPath dir).readDir catch _ => pure #[]
  entries.foldlM (fun t e => do
    let path := dir ++ "/" ++ e.fileName
    let k := keyBelow key e.fileName
    try
      let data ← IO.FS.readBinFile path
      pure (t.put k (.file data.toList))
    catch _ => readBelow path k (t.put k .dir)) t

/-- Whether two entries of a tree are of one kind. -/
def sameKind : Files.Node → Files.Node → Bool
  | .file _, .file _ => true
  | .dir, .dir => true
  | _, _ => false

/-- Brings a directory of the disk in line with a tree it was read into: removes what the
tree lost, makes the directories it gained and writes the files that changed. -/
def writeBack (dir : String) (before after : Files.Tree) : IO Unit := do
  for (k, n) in before.nodes.reverse do
    let gone := match after.get? k with
      | some m => !sameKind n m
      | none => true
    if gone then
      try
        match n with
        | .file _ => IO.FS.removeFile (dir ++ "/" ++ k)
        | .dir => IO.FS.removeDirAll (dir ++ "/" ++ k)
      catch _ => pure ()
  for (k, n) in after.nodes do
    match n with
    | .dir => if before.get? k != some .dir then IO.FS.createDirAll (dir ++ "/" ++ k)
    | .file d =>
      if before.get? k != some (.file d) then IO.FS.writeBinFile (dir ++ "/" ++ k) (ByteArray.mk d.toArray)

/-- The time now, in nanoseconds since the epoch: the boot time the kernel reports plus the
time since boot. -/
def wallClock : IO Int := do
  let sinceBoot ← IO.monoNanosNow
  let boot ← try
      let stat ← IO.FS.readFile "/proc/stat"
      pure ((stat.splitOn "\n").findSome? fun l =>
        if l.startsWith "btime " then ((l.drop 6).toString.trimAscii.toString).toNat? else none)
    catch _ => pure none
  return Int.ofNat (boot.getD 0 * 1000000000 + sinceBoot)

end ConfigTables.Command

open ConfigTables in
/-- Runs the command line against the working directory. -/
def main (args : List String) : IO UInt32 := do
  let root ← IO.currentDir
  let fs ← Command.readBelow "." "." (Files.Tree.rooted root.toString)
  let env ← Command.environmentNames.filterMapM fun n => do return (← IO.getEnv n).map (n, ·)
  let clock ← Command.wallClock
  let start ← IO.rand 0 (Nat.pow 2 30)
  -- the files are written back to the real device, which reports its own want of room
  let (w, console, ending) := Command.runIn ⟨fs, clock, start, ⟨none, false⟩⟩ env args []
  Command.writeBack "." fs w.fs
  IO.print console.out
  IO.print console.osOut
  console.logs.forM IO.eprintln
  IO.eprint console.err
  return if ending.fault.isSome then 1 else 0
