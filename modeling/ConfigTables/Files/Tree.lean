import ConfigTables.Files.Path
/-!
# A tree of files

The working directory as a value: a map from cleaned relative paths to files (their octets)
and directories. The working directory itself (`.`) is always a directory; a path that
leaves it is missing.

Each operation follows the rules of a POSIX file system and fails as one does, with the
operation, the path as given and the cause: a missing element (`no such file or directory`),
a file where a directory must be (`not a directory`), reading a directory (`is a directory`),
creating what exists (`file exists`) and removing a directory that holds something
(`directory not empty`).

The tree lives on a `Device` that may hold only so many octets of file data. Writing data to an
open file fails on a full device (`no space left on device`); a device that allocates late
takes the data and reports the want of room when the file is closed.
-/

namespace ConfigTables.Files

/-- What a path names. -/
inductive Node where
  | file (data : List UInt8)
  | dir
  deriving Repr, BEq, Inhabited

/-- Why a file operation failed. -/
inductive Cause where
  | noEntry
  | notDir
  | isDir
  | exists
  | notEmpty
  | noSpace
  deriving Repr, DecidableEq, Inhabited

/-- The text of a cause. -/
def Cause.text : Cause → String
  | .noEntry => "no such file or directory"
  | .notDir => "not a directory"
  | .isDir => "is a directory"
  | .exists => "file exists"
  | .notEmpty => "directory not empty"
  | .noSpace => "no space left on device"

/-- A failed file operation: the operation, the path (and the second path of a rename). -/
structure OsError where
  op : String
  path : String
  target : Option String
  cause : Cause
  deriving Repr, Inhabited

/-- The text of a failed operation: `op path[ target]: cause`. -/
def OsError.message (e : OsError) : String :=
  e.op ++ " " ++ e.path ++
    (match e.target with
     | some t => " " ++ t
     | none => "") ++ ": " ++ e.cause.text

/-- A failure of an operation on one path. -/
def OsError.at (op path : String) (cause : Cause) : OsError := ⟨op, path, none, cause⟩

/-- The files and directories below the working directory, by cleaned path, in path order. -/
structure Tree where
  nodes : List (String × Node)
  /-- The absolute path of the working directory, or empty when it has none: an absolute
  path at or below it names what its relative form names. -/
  root : String
  deriving Repr, Inhabited

namespace Tree

/-- The empty working directory. -/
def empty : Tree := ⟨[], ""⟩

/-- The empty working directory at an absolute path. -/
def rooted (root : String) : Tree := ⟨[], root⟩

/-- A path with the working directory's absolute path taken off its front. -/
def relative (t : Tree) (p : String) : String :=
  let c := Path.clean p
  if t.root = "" then p
  else if c = t.root then "."
  else if c.startsWith (t.root ++ "/") then (c.drop (t.root.length + 1)).toString
  else p

/-- The cleaned elements of a path inside the working directory; `none` for the empty path
and for a path that leaves the working directory. -/
def elementsOf (t : Tree) (p : String) : Option (List String) :=
  let p := t.relative p
  let c := Path.clean p
  if p.isEmpty then none
  else if c = "." then some []
  else if c.startsWith "/" || c = ".." || c.startsWith "../" then none
  else some (Path.elements c)

/-- The paths of the elements' directories and of the path itself, outermost first. -/
def prefixes (es : List String) : List String :=
  (List.range es.length).map (fun i => "/".intercalate (es.take (i + 1)))

/-- The node at a cleaned path, without looking at the elements above it. -/
def get? (t : Tree) (key : String) : Option Node :=
  if key = "." || key = "" then some .dir else (t.nodes.find? (·.1 = key)).map (·.2)

/-- Walks a path element by element: the node it names, or why it names none. -/
def find (t : Tree) (p : String) : Except Cause Node :=
  match t.elementsOf p with
  | none => .error .noEntry
  | some [] => .ok .dir
  | some es => go (prefixes es)
where
  /-- Every prefix but the last must be a directory. -/
  go : List String → Except Cause Node
    | [] => .ok .dir
    | [last] =>
      match t.get? last with
      | some n => .ok n
      | none => .error .noEntry
    | q :: rest =>
      match t.get? q with
      | some .dir => go rest
      | some (.file _) => .error .notDir
      | none => .error .noEntry

/-- The key of a path inside the working directory. -/
def keyOf (t : Tree) (p : String) : String := Path.clean (t.relative p)

/-- Sets the node at a cleaned path, keeping path order. -/
def put (t : Tree) (key : String) (n : Node) : Tree :=
  { t with nodes := go t.nodes }
where
  /-- Inserts or replaces in path order. -/
  go : List (String × Node) → List (String × Node)
    | [] => [(key, n)]
    | (k, m) :: rest =>
      if key = k then (key, n) :: rest
      else if key < k then (key, n) :: (k, m) :: rest
      else (k, m) :: go rest

/-- Whether `k` lies strictly below the directory key `d`. -/
def below (d k : String) : Bool :=
  if d = "." then true else k.startsWith (d ++ "/")

/-- The node at a path, or the failure of looking at it. -/
def stat (t : Tree) (op p : String) : Except OsError Node :=
  (t.find p).mapError (OsError.at op p)

/-- Whether a path names something. -/
def exists? (t : Tree) (p : String) : Bool :=
  (t.find p).toBool

/-- Whether a path names a directory. -/
def isDir (t : Tree) (p : String) : Bool :=
  match t.find p with
  | .ok .dir => true
  | _ => false

/-- Whether a path names a file. -/
def isFile (t : Tree) (p : String) : Bool :=
  match t.find p with
  | .ok (.file _) => true
  | _ => false

/-- The octets of a file: opening fails on a missing path, reading on a directory. -/
def read (t : Tree) (p : String) : Except OsError (List UInt8) :=
  match t.find p with
  | .ok (.file d) => .ok d
  | .ok .dir => .error (OsError.at "read" p .isDir)
  | .error c => .error (OsError.at "open" p c)

/-- Checks that the directory holding a path exists. -/
def parentReady (t : Tree) (p : String) : Except Cause Unit :=
  match t.elementsOf p with
  | none => .error .noEntry
  | some [] => .ok ()
  | some es =>
    match es.dropLast with
    | [] => .ok ()
    | front =>
      match t.find ("/".intercalate front) with
      | .ok .dir => .ok ()
      | .ok (.file _) => .error .notDir
      | .error c => .error c

/-- Writes a file, creating or truncating it; its directory must exist. -/
def write (t : Tree) (p : String) (data : List UInt8) : Except OsError Tree :=
  match t.find p with
  | .ok .dir => .error (OsError.at "open" p .isDir)
  | .ok (.file _) => .ok (t.put (t.keyOf p) (.file data))
  | .error _ =>
    match t.parentReady p with
    | .ok () => .ok (t.put (t.keyOf p) (.file data))
    | .error c => .error (OsError.at "open" p c)

/-- Appends to a file, creating it if missing. -/
def append (t : Tree) (p : String) (data : List UInt8) : Except OsError Tree :=
  match t.find p with
  | .ok (.file old) => .ok (t.put (t.keyOf p) (.file (old ++ data)))
  | _ => t.write p data

/-- Makes one directory; its parent must exist and the path must be free. -/
def mkdir (t : Tree) (p : String) : Except OsError Tree :=
  match t.find p with
  | .ok _ => .error (OsError.at "mkdir" p .exists)
  | .error _ =>
    match t.parentReady p with
    | .ok () =>
      match t.elementsOf p with
      | some (_ :: _) => .ok (t.put (t.keyOf p) .dir)
      | _ => .error (OsError.at "mkdir" p .noEntry)
    | .error c => .error (OsError.at "mkdir" p c)

/-- The text before the last slash of a path (trailing slashes ignored), as a parent to make
first. -/
def parentText (p : String) : String :=
  let cs := p.toList.reverse.dropWhile (· = '/')
  let rest := cs.dropWhile (· ≠ '/')
  String.ofList (rest.drop 1).reverse

/-- Makes a directory and every missing directory above it; an existing directory is
success and a file in the way fails. -/
def mkdirAll (t : Tree) (p : String) : Except OsError Tree :=
  go (p.length + 1) t p
where
  /-- One level per step, parents first. -/
  go : Nat → Tree → String → Except OsError Tree
    | 0, t, _ => .ok t
    | fuel + 1, t, p =>
      match t.find p with
      | .ok .dir => .ok t
      | .ok (.file _) => .error (OsError.at "mkdir" p .notDir)
      | .error _ => do
        let parent := parentText p
        let t ← if parent.isEmpty || parent = "/" then pure t else go fuel t parent
        match t.mkdir p with
        | .ok t => .ok t
        | .error e => if t.isDir p then .ok t else .error e

/-- Every key at or below a directory key. -/
def keysUnder (t : Tree) (key : String) : List String :=
  (t.nodes.filter (fun (k, _) => k = key || below key k)).map (·.1)

/-- Removes a file or an empty directory. -/
def remove (t : Tree) (p : String) : Except OsError Tree :=
  match t.find p with
  | .error c => .error (OsError.at "remove" p c)
  | .ok (.file _) => .ok { t with nodes := t.nodes.filter (·.1 ≠ t.keyOf p) }
  | .ok .dir =>
    let key := t.keyOf p
    if key = "." then .error (OsError.at "remove" p .notEmpty)
    else if t.nodes.any (fun (k, _) => below key k) then .error (OsError.at "remove" p .notEmpty)
    else .ok { t with nodes := t.nodes.filter (·.1 ≠ key) }

/-- Removes a path and everything below it; a missing path is no failure. -/
def removeAll (t : Tree) (p : String) : Tree :=
  match t.find p with
  | .error _ => t
  | .ok _ =>
    let key := t.keyOf p
    if key = "." then { t with nodes := [] }
    else { t with nodes := t.nodes.filter (fun (k, _) => k ≠ key && !below key k) }

/-- Renames a path: a file may replace a file, never a directory; the target's directory
must exist. -/
def rename (t : Tree) (src dst : String) : Except OsError Tree :=
  let fail (c : Cause) : Except OsError Tree := .error ⟨"rename", src, some dst, c⟩
  match t.find src with
  | .error c => fail c
  | .ok n =>
    match t.find dst with
    | .ok .dir => fail .exists
    | .ok (.file _) =>
      match n with
      | .dir => fail .notDir
      | .file d => .ok ({ t with nodes := t.nodes.filter (·.1 ≠ t.keyOf src) }.put (t.keyOf dst) (.file d))
    | .error _ =>
      match t.parentReady dst with
      | .error c => fail c
      | .ok () =>
        let sk := t.keyOf src
        let dk := t.keyOf dst
        let moved := t.nodes.filterMap (fun (k, m) =>
          if k = sk then some (dk, m)
          else if below sk k then some (dk ++ (k.drop sk.length).toString, m)
          else none)
        let kept := t.nodes.filter (fun (k, _) => k ≠ sk && !below sk k)
        .ok (moved.foldl (fun acc (k, m) => acc.put k m) { t with nodes := kept })

/-- The files at or below a directory, by path in path order, written with the directory as
given in front. -/
def filesUnder (t : Tree) (d : String) : List String :=
  let key := t.keyOf d
  (t.nodes.filter (fun (k, n) =>
    (k = key || below key k) && match n with
      | .file _ => true
      | .dir => false)).map (fun (k, _) => Path.join [d, if key = "." then k else (k.drop (key.length + 1)).toString])

/-- The entries directly inside a directory: name and node, in name order. -/
def children (t : Tree) (d : String) : Except OsError (List (String × Node)) :=
  match t.find d with
  | .error c => .error (OsError.at "open" d c)
  | .ok (.file _) => .error (OsError.at "open" d .notDir)
  | .ok .dir =>
    let key := t.keyOf d
    .ok (t.nodes.filterMap (fun (k, n) =>
      if below key k then
        let rest := if key = "." then k else (k.drop (key.length + 1)).toString
        if rest.contains '/' then none else some (rest, n)
      else none))

/-- The octets the files of a tree hold in all. -/
def used (t : Tree) : Nat :=
  t.nodes.foldl (fun n e => n + match e.2 with
    | .file d => d.length
    | .dir => 0) 0

end Tree

/-- The device a tree lives on, as writing a file's data sees it: it holds at most `capacity`
octets of file data (none: no bound). A device that allocates late takes data it has no room for
and reports the want of room only when the file is closed. -/
structure Device where
  capacity : Option Nat
  late : Bool
  deriving Repr, Inhabited

namespace Device

/-- Whether a tree's files fit on the device. -/
def holds (d : Device) (t : Tree) : Bool := d.capacity.all (t.used ≤ ·)

/-- Writes data to an open file: a device that allocates early refuses data that does not fit. -/
def write (d : Device) (t : Tree) (p : String) (data : List UInt8) : Except OsError Tree :=
  match t.write p data with
  | .ok t' => if d.late || d.holds t' then .ok t' else .error (OsError.at "write" p .noSpace)
  | .error e => .error e

/-- Closes a written file: the data that did not fit is reported here by a device that allocates
late. -/
def close (d : Device) (t : Tree) (p : String) : Except OsError Unit :=
  if d.holds t then .ok () else .error (OsError.at "close" p .noSpace)

end Device

end ConfigTables.Files
