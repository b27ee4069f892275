import ConfigTables.Command.World
import ConfigTables.Command.Flag
import ConfigTables.Config.Settings
import ConfigTables.Config.File
import ConfigTables.Yaml.Document
import ConfigTables.Json.Scan
/-!
# Finding the settings and setting up a run

Before a command runs, its settings are found and read, then checked, and logging and
tracing are started.

* The settings file is the one `--config` names, of any supported type by its extension (a
  file that is missing, unreadable or of another type gives no settings, but stays the file
  in use); else `.confhub/config.yaml` when it exists; else `config.<ext>` in
  `~/.config/confhub`, read as YAML whatever its extension; else the default settings are
  written to `.confhub/config.yaml` and read from there.
* Settings come from the given flags `--dir`, `--format` and `--log-level`, then the
  variables `CONFHUB_<KEY>`, then the file, then the defaults.
* Setting up checks the settings (`invalid configuration: ...`), opens the log file if one
  is set (`opening log file: ...`) or logs to standard error, and starts tracing
  (`starting tracing: ...`). Tearing down shuts tracing down, which sends its spans, and
  closes the log.
-/

namespace ConfigTables.Command

/-- The settings file used when none is named and none is found. -/
def defaultConfigPath : String := ".confhub/config.yaml"

/-- The types a settings file may have, by extension. -/
def settingsTypes : List String :=
  ["json", "toml", "yaml", "yml", "properties", "props", "prop", "hcl", "tfvars", "dotenv", "env", "ini"]

/-- A settings document read from a file's text of a type; a text that does not read as a
dictionary gives the empty document. -/
def documentOfText (kind text : String) : List (String × Dynamic) :=
  match kind with
  | "yaml" | "yml" =>
    match Yaml.decodeMapping text with
    | .ok es => Config.lowerEntries es
    | .error _ => []
  | "json" =>
    match Json.parseDocument (Text.Utf8.encode text) with
    | .ok j => (Config.documentOf j).toOption.getD []
    | .error _ => []
  | _ => []

/-- The settings document of a file of a type; nothing when it cannot be read. -/
def readDocument (path kind : String) : Cli (List (String × Dynamic)) := do
  match (← files).read path with
  | .ok bs =>
    match Text.Utf8.valid? bs with
    | some text => return documentOfText kind text
    | none => return []
  | .error _ => return []

/-- A path made absolute against the working directory. -/
def absolute (fs : Files.Tree) (p : String) : String :=
  if Files.Path.isAbs p then Files.Path.clean p else Files.Path.join [fs.root, p]

/-- Finds the settings file and reads it: the document and the file in use, empty when there
is none. May write the default settings file. -/
def discover (named : String) : Cli (List (String × Dynamic) × String) := do
  let fs ← files
  if named ≠ "" then
    let kind := (Files.Path.ext named).drop 1 |>.toString
    if settingsTypes.contains kind then return (← readDocument named kind, named)
    else return ([], named)
  else if fs.exists? defaultConfigPath then
    return (← readDocument defaultConfigPath "yaml", defaultConfigPath)
  else
    let home ← envVar "HOME"
    let dir := absolute fs (Files.Path.join [home, ".config", "confhub"])
    let candidates := settingsTypes.map (fun e => dir ++ "/config." ++ e) ++ [dir ++ "/config"]
    match candidates.find? fs.isFile with
    | some p => return (← readDocument p "yaml", p)
    | none =>
      match Config.writeDefault fs defaultConfigPath with
      | .ok fs' =>
        setFiles fs'
        return (← readDocument defaultConfigPath "yaml", defaultConfigPath)
      | .error _ => return ([], "")

/-- The keys set by flags, with the flag of each. -/
def boundFlags : List (String × String) := [("dir", "dir"), ("format", "format"), ("log.level", "log-level")]

/-- Reads the settings of a run from its document, the given flags and the environment. -/
def settingsOf (doc : List (String × Dynamic)) (g : Given) : Cli Config.Settings := do
  let r ← get
  let home := (r.env.lookup "HOME").getD ""
  let flags := boundFlags.filterMap fun (k, f) => if g.has f then some (k, g.text f "") else none
  let layers : Config.Layers :=
    ⟨flags, boundFlags.map (·.1), some "CONFHUB", r.env, doc, Config.defaultTree home⟩
  return layers.read.1

/-- The file spans go to by default: under the home directory; none without a home. -/
def tracesPathIn (home : String) : String :=
  if home = "" then "" else Files.Path.join [home, ".config", "confhub", "traces", "traces.jsonl"]

/-- The tracing settings of the settings, defaults filled in. -/
def tracingOf (c : Config.Settings) (home : String) : Trace.Settings :=
  let t := c.tracing
  let d := Trace.Settings.default
  let positive := !t.sampleRate.negative && !t.sampleRate.isZero && !t.sampleRate.isNaN
  ⟨t.enabled, if t.exporter = "" then d.exporter else t.exporter,
    if t.filePath = "" then tracesPathIn home else t.filePath,
    if t.otlpEndpoint = "" then d.otlpEndpoint else t.otlpEndpoint,
    if positive then t.sampleRate else d.sampleRate, d.serviceName⟩

/-- Sets up a run: checks the settings, starts logging and tracing. -/
def setup (c : Config.Settings) (used : String) : Step Unit := do
  if let some e := c.validate then fail ("invalid configuration: " ++ e)
  let target ← if c.logFile ≠ "" then
      match (← lift files).append c.logFile [] with
      | .ok fs => do lift (setFiles fs); pure (Log.Target.file c.logFile)
      | .error e => fail ("opening log file: " ++ e.message)
    else pure Log.Target.stderr
  let logger := (Log.Logger.create target false).setLevel (Log.parseLevel c.logLevel).1
  modify fun r => { r with logger := some logger }
  lift (emit ⟨.debug, "config", "Configuration loaded",
    [.text "file", .text used, .text "dir", .text c.dir, .text "format", .text c.format]⟩)
  let home ← lift (envVar "HOME")
  match Trace.Provider.create (← lift files) (tracingOf c home) with
  | .error e => fail ("starting tracing: " ++ e)
  | .ok (p, fs, logs) =>
    lift (setFiles fs)
    modify fun r => { r with provider := p }
    lift (emitAll logs)

/-- Tears a run down: tracing is shut down, sending its spans, and the log is closed. -/
def teardown : Cli Unit := do
  let r ← get
  let (p, fs, out) := r.provider.shutdown r.world.fs
  setFiles fs
  sayOs out
  modify fun r => { r with provider := p, logger := none }

end ConfigTables.Command
