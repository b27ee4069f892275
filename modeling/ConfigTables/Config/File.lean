import ConfigTables.Yaml.Document
import ConfigTables.Yaml.Write
import ConfigTables.Files.Tree
import ConfigTables.Text.Utf8
/-!
# The settings file

The settings file is YAML. A fresh one is written from `template`, which shows every
setting with its default and a comment on it.

`saveTablePath` sets one table's file path in the file: it reads the file as a YAML tree,
sets `tables.<table>.path`, and writes the tree back, so that comments, styles and the
order of every other key stay as they were. An empty path removes the table's `path`, and
the table's entry with it when nothing else is left in it.
-/

namespace ConfigTables.Config

/-- The settings file written when none exists: every setting with its default value and a
line on what it does. -/
def template : String :=
  "# confhub configuration\n\n" ++
  "# Directory holding one file per table: <TableName>.json or <TableName>.binpb\ndir: .\n\n" ++
  "# Table file format: json (default) or binary\nformat: json\n\n" ++
  "# Tables loaded in parallel (0 = number of CPUs, 1 = one at a time)\nconcurrency: 0\n\n" ++
  "# Deadline for one load batch (0 = none)\n# timeout: 30s\n\n" ++
  "# Skip unrecognized JSON fields instead of failing the table\nignore_unknown_fields: false\n\n" ++
  "# Restrict which tables are loaded\n# only: [HeroConf, ItemConf]\n# exclude: [TaskConf]\n\n" ++
  "# Directories searched, in order, for <TableName><ext> patch files\n# patch_dirs: [./patches]\n\n" ++
  "# Which files to load when patches exist: all (default), only_main, only_patch\n# mode: all\n\n" ++
  "# Per-table overrides. A path's own extension decides its format.\n" ++
  "# tables:\n#   HeroConf:\n#     path: ./overrides/HeroConf.json\n" ++
  "#     ignore_unknown_fields: true\n" ++
  "#     patch_paths: [./hotfix/HeroConf.json]   # instead of patch_dirs\n" ++
  "#     patch: merge                            # merge (default) or replace\n\n" ++
  "log:\n  level: info   # debug, info, warn, error\n  # file: /tmp/confhub.log\n\n" ++
  "# Cache table bytes between reloads (keyed by path, size and mtime)\n" ++
  "cache:\n  enabled: false\n  ttl: 5m\n\n" ++
  "# Hot reload settings for 'confhub watch'\nwatch:\n  debounce: 200ms\n  min_interval: 1s\n\n" ++
  "# Report tables whose loaded data is modified in place\n" ++
  "mutable_check:\n  enabled: false\n  interval: 1m\n\n" ++
  "# Record every load batch in a SQLite journal ('confhub history')\n" ++
  "journal:\n  enabled: false\n  # path: ~/.config/confhub/journal.db\n\n" ++
  "# Distributed tracing\n# tracing:\n#   enabled: false\n" ++
  "#   exporter: file                 # none, file, stdout, otlp\n" ++
  "#   file_path: ~/.config/confhub/traces/traces.jsonl\n" ++
  "#   otlp_endpoint: localhost:4317\n#   sample_rate: 1.0\n"

/-- Sets or removes the path of one table in the root mapping of a settings tree. A
`tables` value or table entry that is not a mapping is replaced by an empty one. -/
def setTablePath (root : Yaml.Node) (table path : String) : Yaml.Node :=
  let (tables, root) := root.mappingChild "tables"
  let (entry, tables) := tables.mappingChild table
  let tables :=
    if path = "" then
      let entry := entry.removeKey "path"
      if entry.content.isEmpty then tables.removeKey table else tables.replaceValue table entry
    else tables.replaceValue table (entry.setScalar "path" path)
  root.replaceValue "tables" tables

/-- The new text of a settings file after setting one table's path; `text` is the file's
old text, empty when there is none. -/
def withTablePath (text table path : String) : Except String String := do
  let doc ← match Yaml.readDocument text with
    | .error e => .error ("parsing config: " ++ e)
    | .ok none => .ok (Yaml.Node.document Yaml.Node.emptyMapping)
    | .ok (some d) => .ok d
  match doc.content with
  | root :: _ =>
    if root.kind = .mapping then
      .ok (Yaml.writeDocument { doc with content := [setTablePath root table path] })
    else .error "parsing config: top level is not a mapping"
  | [] => .error "parsing config: top level is not a mapping"

/-- Writes a settings file, making its directory first. -/
def writeFile (fs : Files.Tree) (configPath : String) (text : String) :
    Except String Files.Tree := do
  let fs ← (fs.mkdirAll (Files.Path.dir configPath)).mapError
    (fun e => "creating config directory: " ++ e.message)
  (fs.write configPath (Text.Utf8.encode text)).mapError
    (fun e => "writing config file: " ++ e.message)

/-- Sets the path of one table in the settings file at `configPath`; a missing file counts
as empty. -/
def saveTablePath (fs : Files.Tree) (configPath table path : String) :
    Except String Files.Tree := do
  let data ← match fs.read configPath with
    | .ok d => .ok d
    | .error e => if e.cause = .noEntry then .ok [] else .error ("reading config: " ++ e.message)
  let text ← withTablePath (Text.Utf8.decodeLossy data) table path
  writeFile fs configPath text

/-- Writes the template as a fresh settings file. -/
def writeDefault (fs : Files.Tree) (configPath : String) : Except String Files.Tree :=
  writeFile fs configPath template

end ConfigTables.Config
