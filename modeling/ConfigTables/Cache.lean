import ConfigTables.Files.Disk
/-!
# A cache of octets

`Cache` keeps octet strings under text keys and counts how many lookups found their key
(hits) and how many did not (misses).

`Cache.readVia` reads a file through the cache. It looks at the path first, and its key is
the file's path together with its size and modification time, so a file that is written
again is read again, and the old contents stay cached under the old key until they expire or
the cache is flushed. A failed look or read leaves the entries as they were.
-/

namespace ConfigTables

/-- Octet strings by key, with the counts of lookups that found and missed their key. -/
structure Cache where
  entries : List (String × List UInt8)
  hits : Nat
  misses : Nat
  deriving Inhabited

namespace Cache

/-- The empty cache, with no lookups counted. -/
def empty : Cache := ⟨[], 0, 0⟩

/-- Looks a key up, counting a hit or a miss. -/
def get (c : Cache) (key : String) : Option (List UInt8) × Cache :=
  match c.entries.lookup key with
  | some v => (some v, { c with hits := c.hits + 1 })
  | none => (none, { c with misses := c.misses + 1 })

/-- Stores a value under a key, replacing what was there. -/
def set (c : Cache) (key : String) (v : List UInt8) : Cache :=
  { c with entries := (key, v) :: c.entries.filter (·.1 ≠ key) }

/-- Removes the given keys. -/
def delete (c : Cache) (keys : List String) : Cache :=
  { c with entries := c.entries.filter (fun e => !keys.contains e.1) }

/-- Removes every entry; the counts stay. -/
def flush (c : Cache) : Cache := { c with entries := [] }

/-- The number of entries. -/
def size (c : Cache) : Nat := c.entries.length

/-- The key a file is cached under: its path, size and modification time. -/
def fileKey (path : String) (size : Nat) (mtime : Int) : String :=
  path ++ "|" ++ toString size ++ "|" ++ toString mtime

/-- Reads a file through the cache, given how to look at a path and how to read a file:
a failed look fails the read, and a directory is refused before the cache is asked. -/
def readVia (c : Cache) (stat : String → Except String Files.Info)
    (readFile : String → Except String (List UInt8)) (path : String) :
    Except String (List UInt8) × Cache :=
  match stat path with
  | .error e => (.error e, c)
  | .ok .dir => (.error (path ++ " is a directory"), c)
  | .ok (.file size mtime) =>
    let key := fileKey path size mtime
    match c.get key with
    | (some v, c) => (.ok v, c)
    | (none, c) =>
      match readFile path with
      | .error e => (.error e, c)
      | .ok data => (.ok data, c.set key data)

/-- Reads a file of a disk through the cache. -/
def readFrom (c : Cache) (d : Files.Disk) (path : String) : Except String (List UInt8) × Cache :=
  c.readVia (fun p => (d.stat p).mapError (·.message)) (fun p => (d.tree.read p).mapError (·.message))
    path

/-- Reads a file of a tree at rest through the cache. -/
def readThrough (c : Cache) (fs : Files.Tree) (path : String) : Except String (List UInt8) × Cache :=
  c.readFrom (Files.Disk.rest fs) path

end Cache

end ConfigTables
