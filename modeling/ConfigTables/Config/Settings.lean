import ConfigTables.Load.Options
import ConfigTables.Load.Message
import ConfigTables.Config.Layers
import ConfigTables.Config.Weak
import ConfigTables.Data.FromJson
import ConfigTables.Format
import ConfigTables.Log.Line
/-!
# The program's settings

The settings say where the tables live and how they are read (`dir`, `format`, `mode`,
`ignore_unknown_fields`, `patch_dirs`, and per table a file, patch files and a patch rule),
which tables are loaded (`only`, `exclude`), and how logging, caching, watching, change
checks, the load history and tracing behave.

They are read from the settings tree of `Layers`, member by member: a member the tree lacks
keeps its zero, and a member that cannot be read keeps its zero and adds a fault. A table
entry with any fault is dropped as a whole.

`validate` names the first thing wrong, checking in a fixed order; the other functions
derive what the rest of the program needs: the format, the directories to watch, the files
pinned by name, the table filter and the load setters.

`Settings.summary` describes, for a list of table names, everything the settings decide: the
outcome of validation, the table format, directory, concurrency and timeout, the directories
and pinned files a watch follows, which tables are accepted, each table's resolved load
options and file, tracing, logging, the cache and the watch timings.
-/

namespace ConfigTables.Config

/-- The settings of one table. -/
structure TableSettings where
  /-- A file read instead of the one in the table directory. -/
  path : String
  /-- Whether unknown fields are skipped, when this table says. -/
  ignoreUnknown : Option Bool
  /-- Patch files used instead of searching the patch directories. -/
  patchPaths : List String
  /-- How patches combine: `merge` (or empty) or `replace`. -/
  patch : String
  deriving Repr, Inhabited

/-- Tracing settings. -/
structure TracingSettings where
  enabled : Bool
  exporter : String
  filePath : String
  otlpEndpoint : String
  sampleRate : Binary64
  deriving Inhabited

/-- All settings. Durations are in nanoseconds. -/
structure Settings where
  dir : String
  format : String
  concurrency : Int
  timeout : Int
  ignoreUnknown : Bool
  only : List String
  exclude : List String
  /-- Table settings by lower-cased table name, in name order. -/
  tables : List (String × TableSettings)
  patchDirs : List String
  mode : String
  logLevel : String
  logFile : String
  cacheEnabled : Bool
  cacheTtl : Int
  watchDebounce : Int
  watchMinInterval : Int
  mutableCheck : Bool
  mutableInterval : Int
  journalEnabled : Bool
  journalPath : String
  tracing : TracingSettings
  deriving Inhabited

/-- Settings with every member zero. -/
def Settings.zero : Settings :=
  ⟨"", "", 0, 0, false, [], [], [], [], "", "", "", false, 0, 0, 0, false, 0, false, "",
    ⟨false, "", "", "", Binary64.zero⟩⟩

/-! ## Defaults -/

/-- The file of the load history under a home directory; none without a home. -/
def journalPathIn (home : String) : String :=
  if home = "" then "" else Files.Path.join [home, ".config", "confhub", "journal.db"]

/-- A settings document read from JSON: an object with its keys lower-cased, or nothing for
`null`; any other value is a fault. -/
def documentOf (j : Json) : Except String (List (String × Dynamic)) :=
  let refuse (what : String) : Except String (List (String × Dynamic)) :=
    .error ("While parsing config: json: cannot unmarshal " ++ what ++
      " into Go value of type map[string]interface {}")
  match j with
  | .null => .ok []
  | .array _ => refuse "array"
  | .string _ => refuse "string"
  | .number _ => refuse "number"
  | .bool _ => refuse "bool"
  | .object _ =>
    match Dynamic.ofJson j with
    | (_, some e) => .error ("While parsing config: " ++ e)
    | (.dict es, none) => .ok (lowerEntries es)
    | _ => .ok []

/-- The default settings tree, for a home directory. -/
def defaultTree (home : String) : List (String × Dynamic) :=
  [("cache", .dict [("enabled", .bool false), ("ttl", .nat 300000000000)]),
   ("concurrency", .nat 0),
   ("dir", .text "."),
   ("format", .text "json"),
   ("ignore_unknown_fields", .bool false),
   ("journal", .dict [("enabled", .bool false), ("path", .text (journalPathIn home))]),
   ("log", .dict [("level", .text "info")]),
   ("mutable_check", .dict [("enabled", .bool false), ("interval", .nat 60000000000)]),
   ("timeout", .nat 0),
   ("tracing", .dict [("enabled", .bool false), ("exporter", .text "file"),
      ("otlp_endpoint", .text "localhost:4317"), ("sample_rate", .float (Binary64.ofInt 1))]),
   ("watch", .dict [("debounce", .nat 200000000), ("min_interval", .nat 1000000000)])]

/-! ## Reading the tree -/

/-- The member of a dictionary for a field: by its exact name, else by a name equal to it
ignoring case. -/
def member? (es : List (String × Dynamic)) (key : String) : Option Dynamic :=
  match entry? es key with
  | some v => some v
  | none => (es.find? (fun e => Text.CaseMap.equalFold e.1 key)).bind fun e =>
    match e.2 with
    | .null => none
    | v => some v

/-- Reads a field with a reader, keeping `cur` when the member is missing. -/
def field {α : Type} (es : List (String × Dynamic)) (key : String) (cur : α)
    (read : α → Dynamic → α × List String) : α × List String :=
  match member? es key with
  | none => (cur, [])
  | some v => read cur v

/-- The full name of a field under a parent. -/
def fieldName (parent key : String) : String :=
  if parent = "" then key else parent ++ "." ++ key

/-- Reads one table's settings. -/
def readTable (name : String) (es : List (String × Dynamic)) : TableSettings × List String :=
  let (path, f1) := field es "path" "" (readText (fieldName name "path"))
  let (ign, f2) := field es "ignore_unknown_fields" none fun _ v =>
    match readTruth (fieldName name "ignore_unknown_fields") false v with
    | (b, []) => (some b, [])
    | (_, fs) => (none, fs)
  let (pp, f3) := field es "patch_paths" [] (readTexts (fieldName name "patch_paths"))
  let (patch, f4) := field es "patch" "" (readText (fieldName name "patch"))
  (⟨path, ign, pp, patch⟩, f1 ++ f2 ++ f3 ++ f4)

/-- Adds table entries from a dictionary; an entry with a fault is left out. -/
def readTableEntries (name : String) (acc : List (String × TableSettings))
    (es : List (String × Dynamic)) : List (String × TableSettings) × List String :=
  es.foldl (fun (acc : List (String × TableSettings) × List String) (k, v) =>
    let entryName := name ++ "[" ++ k ++ "]"
    match v with
    | .null => (insertSorted k ⟨"", none, [], ""⟩ acc.1, acc.2)
    | .dict fs =>
      match readTable entryName fs with
      | (t, []) => (insertSorted k t acc.1, acc.2)
      | (_, faults) => (acc.1, acc.2 ++ faults)
    | v => (acc.1, acc.2 ++ [notDictionary entryName v])) (acc, [])

/-- Reads the table dictionary: a dictionary of entries, or a list of such dictionaries read
one after another until the first fault. -/
def readTables (name : String) (cur : List (String × TableSettings)) :
    Dynamic → List (String × TableSettings) × List String
  | .dict es => readTableEntries name cur es
  | .list xs =>
    ((List.range xs.length).zip xs).foldl (fun (acc : List (String × TableSettings) × List String) (i, x) =>
      if !acc.2.isEmpty then acc
      else
        let itemName := name ++ "[" ++ toString i ++ "]"
        match x with
        | .null => acc
        | .dict es => readTableEntries itemName acc.1 es
        | v => (acc.1, [notDictionary itemName v])) (cur, [])
  | .null => (cur, [])
  | v => (cur, [notDictionary name v])

/-- Reads a nested group of fields with `read`, or faults for a member that is no
dictionary. -/
def group {α : Type} (es : List (String × Dynamic)) (key : String) (cur : α)
    (read : α → List (String × Dynamic) → α × List String) : α × List String :=
  match member? es key with
  | none => (cur, [])
  | some (.dict fs) => read cur fs
  | some v => (cur, [notDictionary key v])

/-- Reads the settings from a settings tree, with every fault met. -/
def Settings.read (es : List (String × Dynamic)) : Settings × List String :=
  let z := Settings.zero
  let (dir, f1) := field es "dir" z.dir (readText "dir")
  let (format, f2) := field es "format" z.format (readText "format")
  let (concurrency, f3) := field es "concurrency" z.concurrency (readWhole "concurrency" "int")
  let (timeout, f4) := field es "timeout" z.timeout (readDuration "timeout")
  let (ign, f5) := field es "ignore_unknown_fields" z.ignoreUnknown (readTruth "ignore_unknown_fields")
  let (only, f6) := field es "only" z.only (readTexts "only")
  let (exclude, f7) := field es "exclude" z.exclude (readTexts "exclude")
  let (tables, f8) := field es "tables" z.tables (readTables "tables")
  let (patchDirs, f9) := field es "patch_dirs" z.patchDirs (readTexts "patch_dirs")
  let (mode, f10) := field es "mode" z.mode (readText "mode")
  let (log, f11) := group es "log" (z.logLevel, z.logFile) fun cur fs =>
    let (level, g1) := field fs "level" cur.1 (readText "log.level")
    let (file, g2) := field fs "file" cur.2 (readText "log.file")
    ((level, file), g1 ++ g2)
  let (cache, f12) := group es "cache" (z.cacheEnabled, z.cacheTtl) fun cur fs =>
    let (on, g1) := field fs "enabled" cur.1 (readTruth "cache.enabled")
    let (ttl, g2) := field fs "ttl" cur.2 (readDuration "cache.ttl")
    ((on, ttl), g1 ++ g2)
  let (watch, f13) := group es "watch" (z.watchDebounce, z.watchMinInterval) fun cur fs =>
    let (d, g1) := field fs "debounce" cur.1 (readDuration "watch.debounce")
    let (m, g2) := field fs "min_interval" cur.2 (readDuration "watch.min_interval")
    ((d, m), g1 ++ g2)
  let (mc, f14) := group es "mutable_check" (z.mutableCheck, z.mutableInterval) fun cur fs =>
    let (on, g1) := field fs "enabled" cur.1 (readTruth "mutable_check.enabled")
    let (i, g2) := field fs "interval" cur.2 (readDuration "mutable_check.interval")
    ((on, i), g1 ++ g2)
  let (journal, f15) := group es "journal" (z.journalEnabled, z.journalPath) fun cur fs =>
    let (on, g1) := field fs "enabled" cur.1 (readTruth "journal.enabled")
    let (p, g2) := field fs "path" cur.2 (readText "journal.path")
    ((on, p), g1 ++ g2)
  let (tracing, f16) := group es "tracing" z.tracing fun cur fs =>
    let (on, g1) := field fs "enabled" cur.enabled (readTruth "tracing.enabled")
    let (ex, g2) := field fs "exporter" cur.exporter (readText "tracing.exporter")
    let (fp, g3) := field fs "file_path" cur.filePath (readText "tracing.file_path")
    let (ep, g4) := field fs "otlp_endpoint" cur.otlpEndpoint (readText "tracing.otlp_endpoint")
    let (sr, g5) := field fs "sample_rate" cur.sampleRate (readReal "tracing.sample_rate")
    (⟨on, ex, fp, ep, sr⟩, g1 ++ g2 ++ g3 ++ g4 ++ g5)
  (⟨dir, format, concurrency, timeout, ign, only, exclude, tables, patchDirs, mode, log.1, log.2,
    cache.1, cache.2, watch.1, watch.2, mc.1, mc.2, journal.1, journal.2, tracing⟩,
    f1 ++ f2 ++ f3 ++ f4 ++ f5 ++ f6 ++ f7 ++ f8 ++ f9 ++ f10 ++ f11 ++ f12 ++ f13 ++ f14 ++
      f15 ++ f16)

/-- The message of the faults of reading settings, if there were any. -/
def readFault : List String → Option String
  | [] => none
  | fs => some ("decoding failed due to the following error(s):\n\n" ++ "\n".intercalate fs)

/-- The layers of a settings document over the defaults, with no flags or environment. -/
def Layers.ofDocument (home : String) (doc : List (String × Dynamic)) : Layers :=
  ⟨[], [], none, [], doc, defaultTree home⟩

/-- Reads the settings of layers. -/
def Layers.read (l : Layers) : Settings × List String := Settings.read l.settings

namespace Settings

/-! ## Checks -/

/-- The table format: JSON when none is named; a format that cannot be loaded is a fault. -/
def parsedFormat (c : Settings) : Except String Format :=
  if c.format = "" then .ok .json
  else
    match Format.parse c.format with
    | .error e => .error e
    | .ok f =>
      if f.loadable then .ok f
      else .error ("format " ++ Text.Quoted.quote c.format ++ " cannot be loaded")

/-- Whether a real number is below zero. -/
def belowZero (x : Binary64) : Bool := x.negative && !x.isZero && !x.isNaN

/-- Whether a real number is above one. -/
def aboveOne (x : Binary64) : Bool :=
  !x.negative && !x.isNaN && (x.isInf || (let (n, d) := x.ratio; n > d))

/-- The first fault of the tracing settings. -/
def tracingFault (t : TracingSettings) : Option String :=
  if belowZero t.sampleRate || aboveOne t.sampleRate then
    some ("tracing.sample_rate must be between 0.0 and 1.0, got " ++ t.sampleRate.formatG)
  else if t.exporter ≠ "" && !(["none", "file", "stdout", "otlp"].contains t.exporter) then
    some ("tracing.exporter must be \"none\", \"file\", \"stdout\", or \"otlp\", got " ++
      Text.Quoted.quote t.exporter)
  else if t.enabled && t.exporter = "otlp" && t.otlpEndpoint = "" then
    some "tracing.otlp_endpoint is required when exporter is \"otlp\""
  else none

/-- The first fault of one table's settings. -/
def tableFault (name : String) (t : TableSettings) : Option String :=
  if t.path ≠ "" && Format.ofPath t.path = .unknown then
    some ("tables." ++ name ++ ".path: unrecognized extension " ++ Text.Quoted.quote (Files.Path.ext t.path))
  else
    match t.patchPaths.find? (fun p => Format.ofPath p = .unknown) with
    | some p =>
      some ("tables." ++ name ++ ".patch_paths: unrecognized extension " ++ Text.Quoted.quote (Files.Path.ext p))
    | none =>
      match (Load.PatchRule.parse t.patch).2 with
      | some e => some ("tables." ++ name ++ ".patch: " ++ e)
      | none => none

/-- The first fault of the settings, checked in order: format, concurrency, timeout, log
level, cache lifetime (when caching), tables both only and excluded, mode, each table, the
load history's file (when kept), and tracing. -/
def validate (c : Settings) : Option String :=
  match c.parsedFormat with
  | .error e => some ("format: " ++ e)
  | .ok _ =>
  if c.concurrency < 0 then some ("concurrency must be >= 0, got " ++ toString c.concurrency)
  else if c.timeout < 0 then some ("timeout must be >= 0, got " ++ Time.durationText c.timeout)
  else match (Log.parseLevel c.logLevel).2 with
  | some e => some ("log.level: " ++ e)
  | none =>
  if c.cacheEnabled && c.cacheTtl < 0 then
    some ("cache.ttl must be >= 0, got " ++ Time.durationText c.cacheTtl)
  else match c.only.find? (fun n => c.exclude.contains n) with
  | some n => some ("table " ++ Text.Quoted.quote n ++ " is both in only and exclude")
  | none =>
  match (Load.Mode.parse c.mode).2 with
  | some e => some ("mode: " ++ e)
  | none =>
  match c.tables.findSome? (fun (n, t) => tableFault n t) with
  | some e => some e
  | none =>
  if c.journalEnabled && c.journalPath = "" then some "journal.path is required when journal is enabled"
  else tracingFault c.tracing

/-! ## Derived values -/

/-- The directories holding table and patch files: the table directory, the patch
directories, and the directory of every table's file and patch file, each cleaned, without
repeats. -/
def watchDirs (c : Settings) : List String :=
  let fromTables := c.tables.flatMap fun (_, t) =>
    (if t.path ≠ "" then [Files.Path.dir t.path] else []) ++ t.patchPaths.map Files.Path.dir
  let all := ([c.dir] ++ c.patchDirs ++ fromTables).map Files.Path.clean
  all.foldl (fun acc d => if acc.contains d then acc else acc ++ [d]) []

/-- Every table's own file and patch files, by table name. -/
def pinnedFiles (c : Settings) : List String :=
  c.tables.flatMap fun (_, t) => (if t.path ≠ "" then [t.path] else []) ++ t.patchPaths

/-- Whether the settings select tables at all. -/
def filters (c : Settings) : Bool := !c.only.isEmpty || !c.exclude.isEmpty

/-- Whether a table is loaded: named by `only` when that is set, and not excluded. -/
def accepts (c : Settings) (name : String) : Bool :=
  (c.only.isEmpty || c.only.contains name) && !c.exclude.contains name

/-- The load setters of the settings, for the given table names: unknown fields, mode, patch
directories when set, and one override per table entry, under the first name equal to its
key ignoring case (else the key itself). -/
def loadSetters (c : Settings) (names : List String) : List Load.Setter :=
  let base := [Load.Setter.ignoreUnknown c.ignoreUnknown, .mode (Load.Mode.parse c.mode).1]
  let dirs := if c.patchDirs.isEmpty then [] else [Load.Setter.patchDirs c.patchDirs]
  let tables := c.tables.map fun (key, t) =>
    let name := (names.find? (fun n => Text.CaseMap.equalFold n key)).getD key
    Load.Setter.table name (some ⟨⟨t.ignoreUnknown, none, none, [], none⟩, t.path, t.patchPaths,
      (Load.PatchRule.parse t.patch).1⟩)
  base ++ dirs ++ tables

/-- Tracing settings with the defaults filled in for what is left empty. -/
def tracingResolved (c : Settings) : TracingSettings :=
  let t := c.tracing
  { t with
    exporter := if t.exporter = "" then "file" else t.exporter
    otlpEndpoint := if t.otlpEndpoint = "" then "localhost:4317" else t.otlpEndpoint
    sampleRate := if !t.sampleRate.negative && !t.sampleRate.isZero && !t.sampleRate.isNaN
      then t.sampleRate else Binary64.ofInt 1 }

end Settings

end ConfigTables.Config

namespace ConfigTables.Config.Settings

/-- A description of the settings for the given table names. A table that the settings do
not accept shows `(filtered)` for its file; files are left out when the format is faulty. -/
def summary (c : Settings) (names : List String) : Json :=
  let opts := Load.Options.ofSetters (c.loadSetters names)
  let t := c.tracingResolved
  .object ([("validate", match c.validate with | some e => Fault.textJson e | none => .null),
    ("format", match c.parsedFormat with | .ok f => .string f.name | .error e => Fault.textJson e),
    ("dir", .string c.dir), ("concurrency", .int c.concurrency), ("timeout_ns", .int c.timeout),
    ("watch_dirs", Json.strings c.watchDirs), ("pinned_files", Json.strings c.pinnedFiles),
    ("filter_nil", .bool !c.filters), ("accepted", Json.strings (names.filter c.accepts)),
    ("options", .object (names.map fun nm => (nm, (opts.forTable nm).toJson))),
    ("override_keys", Json.strings opts.overrideNames)] ++
    (match c.parsedFormat with
     | .ok f => [("paths", .object (names.map fun nm => (nm, .string (if c.accepts nm then
       Load.tablePath nm c.dir f (some (opts.forTable nm)) else "(filtered)"))))]
     | .error _ => []) ++
    [("tracing", .object [("enabled", .bool t.enabled), ("exporter", .string t.exporter),
      ("otlp_endpoint", .string t.otlpEndpoint), ("sample_rate", .number t.sampleRate.formatData)]),
    ("log_level", .string c.logLevel),
    ("cache", .object [("enabled", .bool c.cacheEnabled), ("ttl_ns", .int c.cacheTtl)]),
    ("watch", .object [("debounce_ns", .int c.watchDebounce), ("min_interval_ns", .int c.watchMinInterval)])])

end ConfigTables.Config.Settings
