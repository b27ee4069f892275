import ConfigTables.Load.Options
import ConfigTables.Files.Tree
/-!
# Loading a table's payload

A table named `name` is read from `<dir>/<name><ext>`, or from the explicit file of its
options (whose extension then decides the format). Patch files are the explicit patch files
if any, else `<patchdir>/<name><ext>` in each patch directory, kept when they exist as files.

* Mode `onlyMain` ignores patches. Without patches, mode `onlyPatch` leaves the payload as
  it is, and any other mode reads the main file.
* With patches, `merge` reads the main file (unless `onlyPatch`) and then each patch into a
  fresh payload, merged over the payload; `replace` reads only the last patch.

Every failure is a table-load fault naming the table. A fault of a custom load step that is
already a table-load fault keeps its kind (and its name, if it has one); any other fault is
a parse failure of the file being read.
-/

namespace ConfigTables.Load

/-- The error of reading through options that do not exist. -/
def nilOptionsPanic : String := "runtime error: invalid memory address or nil pointer dereference"

/-- The file a table is read from: the explicit file if set, else `<dir>/<name><ext>`. -/
def tablePath (name dir : String) (f : Format) (o : Option TableOptions) : String :=
  match o with
  | some o => if o.path ≠ "" then o.path else Files.Path.join [dir, name ++ f.ext]
  | none => Files.Path.join [dir, name ++ f.ext]

/-- A file's octets, through the custom reader if there is one. -/
def readOctets (fs : Files.Tree) (o : TableOptions) (path : String) : Except Fault (List UInt8) :=
  match o.shared.reader with
  | some r => r path
  | none => (fs.read path).mapError (fun e => .text e.message)

/-- The default load step: read the file and decode it with the codec of its format. Faults
carry the file but no table name. -/
def loadByPath (fs : Files.Tree) (p : Payload) (path : String) (f : Format)
    (o : Option TableOptions) : Step :=
  if !f.loadable then .failed p (.load .illegalParam "" path (some (.text ("cannot load format " ++ f.name))))
  else
    match Codec.ofFormat f with
    | .error e => .failed p (.load .illegalParam "" path (some (.text e)))
    | .ok c =>
      match o with
      | none => .panicked nilOptionsPanic
      | some o =>
        match readOctets fs o path with
        | .error e => .failed p (.load .notFound "" path (some e))
        | .ok bs =>
          match c.read o.ignoreUnknown bs p with
          | (p', none) => .filled p'
          | (p', some e) => .failed p' (.load .parse "" path (some (.text e)))

/-- Runs the table's load step: the custom one if set, else `loadByPath`. -/
def runStep (fs : Files.Tree) (o : TableOptions) (p : Payload) (path : String) (f : Format) : Step :=
  match o.shared.loader with
  | some l => l p path f
  | none => loadByPath fs p path f (some o)

/-- The first table-load failure of a fault, as a fault of its own. -/
def firstLoadFault? (f : Fault) : Option Fault :=
  f.nodes.find? fun
    | .load _ _ _ _ => true
    | _ => false

/-- Names a fault for a table: the first table-load failure inside it, given the table's
name if it has none; any other fault becomes a parse failure of `path`. -/
def classify (name path : String) (f : Fault) : Fault :=
  match firstLoadFault? f with
  | some (.load k t p c) => if t = "" then .load k name p c else .load k t p c
  | _ => .load .parse name path (some f)

/-- A step whose fault is named for the table. -/
def Step.classify (name path : String) : Step → Step
  | .failed p f => .failed p (Load.classify name path f)
  | s => s

/-- The patch files of a table that exist as files, in the order they apply. -/
def patchFiles (fs : Files.Tree) (name : String) (f : Format) (o : TableOptions) : List String :=
  let candidates :=
    if o.patchPaths.isEmpty then o.shared.patchDirs.map (fun d => Files.Path.join [d, name ++ f.ext])
    else o.patchPaths
  candidates.filter fs.isFile

/-- The fault of a patch file whose extension names no loadable format. -/
def patchExtensionFault (name q : String) : Fault :=
  .load .unknownFormat name q (some (.text ("unrecognized patch extension " ++ Text.Quoted.quote (Files.Path.ext q))))

/-- Merges the patches, in order, over the payload. -/
def mergePatches (fs : Files.Tree) (o : TableOptions) (name : String) : Payload → List String → Step
  | cur, [] => .filled cur
  | cur, q :: qs =>
    let pf := Format.ofPath q
    if pf = .unknown then .failed cur (patchExtensionFault name q)
    else
      match cur.fresh with
      | .error e => .failed cur (.load .illegalParam name q (some (.text e)))
      | .ok next =>
        match runStep fs o next q pf with
        | .panicked v => .panicked v
        | .failed _ e => .failed cur (Load.classify name q e)
        | .filled n =>
          match cur.mergeOver n with
          | .error e => .failed cur (.load .parse name q (some (.text e)))
          | .ok merged => mergePatches fs o name merged qs

/-- Loads with patches present: `replace` reads the last patch, `merge` the main file (unless
only patches are wanted) and then every patch over it. -/
def loadWithPatches (fs : Files.Tree) (o : TableOptions) (p : Payload) (name path : String)
    (f : Format) (patches : List String) : Step :=
  if o.patch = PatchRule.replace then
    let last := patches.getLastD ""
    let pf := Format.ofPath last
    if pf = .unknown then .failed p (patchExtensionFault name last)
    else (runStep fs o p last pf).classify name last
  else if o.patch = PatchRule.merge then
    let start :=
      if o.mode ≠ Mode.onlyPatch then (runStep fs o p path f).classify name path else .filled p
    match start with
    | .filled cur => mergePatches fs o name cur patches
    | s => s
  else .failed p (.load .illegalParam name path (some (.text ("unknown patch type " ++ o.patch.name))))

/-- What loading a table did, and the patch files applied when patches were used
successfully. -/
structure Loaded where
  step : Step
  patched : List String
  deriving Inhabited

/-- Loads a table's payload by its options. -/
def loadMessage (fs : Files.Tree) (p : Payload) (name dir : String) (f : Format)
    (opts : Option TableOptions) : Loaded :=
  let o := opts.getD TableOptions.unset
  let chosen : Except Fault Format :=
    if o.path ≠ "" then
      let pf := Format.ofPath o.path
      if pf = .unknown then
        .error (.load .unknownFormat name o.path
          (some (.text ("unrecognized extension " ++ Text.Quoted.quote (Files.Path.ext o.path)))))
      else .ok pf
    else if !f.loadable then
      .error (.load .illegalParam name "" (some (.text ("cannot load format " ++ f.name))))
    else .ok f
  match chosen with
  | .error e => ⟨.failed p e, []⟩
  | .ok f =>
    let path := tablePath name dir f (some o)
    let plain : Loaded := ⟨(runStep fs o p path f).classify name path, []⟩
    if o.mode = Mode.onlyMain then plain
    else
      let patches := patchFiles fs name f o
      if patches.isEmpty then
        if o.mode = Mode.onlyPatch then ⟨.filled p, []⟩ else plain
      else
        match loadWithPatches fs o p name path f patches with
        | .filled q => ⟨.filled q, patches⟩
        | s => ⟨s, []⟩

/-- The name of the temporary file a payload is first written to; the part a writer would
make random is left as the pattern's star. -/
def tempName (dir name : String) : String :=
  (if dir.endsWith "/" then dir else dir ++ "/") ++ "." ++ name ++ ".tmp.*"

/-- Puts bytes in place of the file at `path` through a new temporary file `.<name>.tmp.*` in
`dir`: the temporary file is made empty, written, closed and renamed over the file, so that the
file is replaced in one step by the complete bytes. Each step works on the tree the one before it
left; once the temporary file is made, a failure removes it again, and a removal that fails is
not reported. The tree, and the path or the fault. -/
def replaceFile (dev : Files.Device) (fs : Files.Tree) (name dir path : String)
    (data : List UInt8) : Files.Tree × Except Fault String :=
  -- a temporary name is made from a pattern, which must be one path element
  if name.toList.contains '/' then
    (fs, .error (.wrap "creating temp file: "
      (.text ("createtemp ." ++ name ++ ".tmp.*: pattern contains path separator")) ""))
  else
    let temp := tempName dir name
    let discard (fs : Files.Tree) : Files.Tree := (fs.remove temp).toOption.getD fs
    match fs.write temp [] with
    | .error e => (fs, .error (.wrap "creating temp file: " (.text e.message) ""))
    | .ok fs =>
      match dev.write fs temp data with
      | .error e => (discard fs, .error (.wrap "writing temp file: " (.text e.message) ""))
      | .ok fs =>
        match dev.close fs temp with
        | .error e => (discard fs, .error (.wrap "closing temp file: " (.text e.message) ""))
        | .ok () =>
          match fs.rename temp path with
          | .error e => (discard fs, .error (.wrap "renaming temp file: " (.text e.message) ""))
          | .ok fs => (fs, .ok path)

/-- Writes a payload to `<dir>/<name><ext>` on a device: the format's codec writes it, the
directory is made with its parents, and the bytes replace the file through a temporary one. A
failure keeps what the steps before it did, the directory made among them. The tree, and the
path written or the fault. -/
def storeMessage (dev : Files.Device) (fs : Files.Tree) (p : Payload) (name dir : String)
    (f : Format) : Files.Tree × Except Fault String :=
  if !f.loadable then
    (fs, .error (.load .illegalParam name "" (some (.text ("cannot store format " ++ f.name)))))
  else
    match Codec.ofFormat f with
    | .error e => (fs, .error (.load .illegalParam name "" (some (.text e))))
    | .ok c =>
      match c.write p with
      | .error e => (fs, .error (.wrap ("marshaling " ++ name ++ ": ") (.text e) ""))
      | .ok data =>
        match fs.mkdirAll dir with
        | .error e => (fs, .error (.wrap "creating directory: " (.text e.message) ""))
        | .ok fs => replaceFile dev fs name dir (Files.Path.join [dir, name ++ f.ext]) data

end ConfigTables.Load
