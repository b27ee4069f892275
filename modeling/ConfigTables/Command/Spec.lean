import ConfigTables.Command.Flag
import ConfigTables.Text.Utf8
import ConfigTables.Text.Chars
import ConfigTables.Text.CaseMap
/-!
# The command tree

The program's commands with their flags, argument rules and help texts, and how a command
line picks its command.

* Every command sits under the root, `confhub`; the `completion` command has one child per
  shell. A command is known by its path of names from the root.
* Picking a command walks down the tree: at each command the arguments are stripped of
  flags (a flag that takes a value also takes the argument after it), and the first
  argument left names the child to go to. Flags and their values are then read against the
  picked command's flags.
* The root takes no plain arguments: one it cannot place is an unknown command, with the
  commands whose names are near it suggested.
* A command's help text is its long description, then its usage: the command line, its
  subcommands, its own flags and the flags it inherits from the root.
-/

namespace ConfigTables.Command

/-- How many plain arguments a command accepts. -/
inductive Arity where
  | any
  | none
  | atMost (n : Nat)
  | between (lo hi : Nat)
  /-- Plain arguments must name commands: the root's rule. -/
  | commands
  deriving Repr, DecidableEq, Inhabited

/-- A command: its path of names below the root, its use line, its short and long
descriptions, its own flags (the help flag aside), its argument rule, and whether it runs
anything (a command that does not shows its help). -/
structure Spec where
  path : List String
  use : String
  short : String
  long : String
  flags : List Flag
  arity : Arity
  runnable : Bool
  deriving Repr, Inhabited

/-- The program's name. -/
def programName : String := "confhub"

/-- The program's version. -/
def version : String := "dev (commit: none, built: unknown)"

/-! ## Flags -/

/-- A flag with a text value. -/
def textFlag (name : String) (short : Option Char) (usage : String) : Flag :=
  ⟨name, short, .text, usage, ""⟩

/-- A truth flag. -/
def truthFlag (name : String) (short : Option Char) (usage : String) : Flag :=
  ⟨name, short, .truth, usage, ""⟩

/-- The flags every command inherits from the root. -/
def persistentFlags : List Flag :=
  [textFlag "config" (some 'c') "config file (default: .confhub/config.yaml, then ~/.config/confhub/config.yaml)",
   textFlag "dir" (some 'd') "directory holding the table files",
   textFlag "format" (some 'f') "table file format: json or binary",
   textFlag "log-level" none "log level: debug, info, warn, error",
   truthFlag "no-color" none "disable colored output"]

/-- The flag choosing how reports are printed. -/
def outputFlag : Flag := ⟨"output", some 'o', .text, "output format: table, json or markdown", "table"⟩

/-- The flag asking for the program's version, on the root only. -/
def versionFlag : Flag := truthFlag "version" (some 'v') ("version for " ++ programName)

/-! ## The commands -/

/-- The root. -/
def root : Spec :=
  ⟨[], programName, "Load, validate and inspect configuration tables",
    "confhub loads a directory of configuration tables (one file per table,\n" ++
    "JSON or binary) into a hub, builds their indices and reports per-table\n" ++
    "failures without stopping the rest of the batch.", [], .commands, false⟩

/-- The `load` command. -/
def loadSpec : Spec :=
  ⟨["load"], "load", "Load every registered table and report the outcome",
    "Load every registered table from the configured directory.\n\n" ++
    "Tables load in parallel. A table that fails keeps its default data and\n" ++
    "does not stop the others. Once every table has finished, cross-table\n" ++
    "indices are built and the per-table outcome is printed.\n\n" ++
    "The command exits non-zero when any table failed unless --allow-failures\n" ++
    "is given.\n\n" ++
    "Examples:\n" ++
    "  # Load ./conf as JSON\n" ++
    "  confhub load --dir ./conf\n\n" ++
    "  # Load binary tables, only two of them\n" ++
    "  confhub load -d ./conf -f binary --only HeroConf --only ItemConf\n\n" ++
    "  # Apply hotfix patches over the base tables\n" ++
    "  confhub load -d ./conf --patch-dir ./hotfix\n\n" ++
    "  # Machine-readable report\n" ++
    "  confhub load -o json | jq '.tables[] | select(.ok == false)'",
    [outputFlag, truthFlag "allow-failures" none "exit zero even when tables fail",
     ⟨"only", none, .texts, "load only this table (repeatable)", ""⟩,
     ⟨"exclude", none, .texts, "skip this table (repeatable)", ""⟩,
     ⟨"patch-dir", none, .texts,
      "apply <Table><ext> patch files from this directory (repeatable, replaces patch_dirs)", ""⟩,
     textFlag "mode" none "files to load when patches exist: all, only_main, only_patch"], .any, true⟩

/-- The `convert` command. -/
def convertSpec : Spec :=
  ⟨["convert"], "convert", "Load tables and write them back out in another format",
    "Load every registered table from the configured directory and format,\n" ++
    "then write each one to --out as <TableName>.json or <TableName>.binpb.\n\n" ++
    "Tables that failed to load are not written. Without --allow-failures a\n" ++
    "failed table aborts the conversion before anything is written.\n\n" ++
    "Examples:\n" ++
    "  # JSON to binary\n" ++
    "  confhub convert --dir ./conf --out ./build --to binary\n\n" ++
    "  # Normalize JSON formatting in place\n" ++
    "  confhub convert --dir ./conf --out ./conf --to json",
    [textFlag "out" none "output directory", ⟨"to", none, .text, "output format: json or binary", "binary"⟩,
     truthFlag "allow-failures" none "write the tables that loaded even if others failed"], .any, true⟩

/-- The `history` command. -/
def historySpec : Spec :=
  ⟨["history"], "history [session-id]", "Show recorded load sessions",
    "Show load sessions recorded in the journal (journal.enabled must be set\n" ++
    "for loads to be recorded).\n\n" ++
    "Without arguments, list the most recent sessions. With a session ID, show\n" ++
    "that session's per-table outcome.\n\n" ++
    "Examples:\n" ++
    "  # Last 20 sessions\n" ++
    "  confhub history\n\n" ++
    "  # One session as Markdown\n" ++
    "  confhub history 3f2a9c1e-... -o markdown\n\n" ++
    "  # Keep only the newest 100 sessions\n" ++
    "  confhub history --prune 100",
    [⟨"limit", some 'n', .whole, "number of sessions to list (0 = all)", "20"⟩,
     ⟨"prune", none, .whole, "delete all but the newest N sessions", ""⟩, outputFlag], .atMost 1, true⟩

/-- The `registry:list` command. -/
def registrySpec : Spec :=
  ⟨["registry:list"], "registry:list", "List all registered tables",
    "List every table registered in this binary with the Go type its file\n" ++
    "decodes into.\n\n" ++
    "With --paths, also show the file each table would be loaded from given\n" ++
    "the configured directory, format and per-table overrides. Tables removed\n" ++
    "by only/exclude are marked as filtered.\n\n" ++
    "Examples:\n" ++
    "  # List all tables\n" ++
    "  confhub registry:list\n\n" ++
    "  # Include resolved file paths\n" ++
    "  confhub registry:list --paths\n\n" ++
    "  # Parse specific fields with jq\n" ++
    "  confhub registry:list -o json | jq '.[].name'",
    [⟨"output", some 'o', .text, "output format: table or json", "table"⟩,
     truthFlag "paths" (some 'p') "show the resolved file path of each table"], .any, true⟩

/-- The `schema` command. -/
def schemaSpec : Spec :=
  ⟨["schema"], "schema [table...]", "Print the JSON Schema of table files",
    "Print a JSON Schema for the JSON file layout of each registered table,\n" ++
    "keyed by table name. Pass table names to limit the output.\n\n" ++
    "Examples:\n" ++
    "  # Every table\n" ++
    "  confhub schema\n\n" ++
    "  # One table, ready for an editor's schema setting\n" ++
    "  confhub schema HeroConf | jq '.HeroConf' > HeroConf.schema.json", [], .any, true⟩

/-- The `table:pin` command. -/
def pinSpec : Spec :=
  ⟨["table:pin"], "table:pin <table> [path]", "Load a table from a specific file instead of the table directory",
    "Record a per-table path override in the config file. The file's own\n" ++
    "extension (.json or .binpb) decides how it is decoded, independent of the\n" ++
    "configured format.\n\n" ++
    "Examples:\n" ++
    "  # Load HeroConf from a hotfix file\n" ++
    "  confhub table:pin HeroConf ./hotfix/HeroConf.json\n\n" ++
    "  # Remove the override\n" ++
    "  confhub table:pin HeroConf --unpin",
    [truthFlag "unpin" none "remove the table's path override"], .between 1 2, true⟩

/-- The `watch` command. -/
def watchSpec : Spec :=
  ⟨["watch"], "watch", "Load tables and reload them whenever their files change",
    "Load every registered table, then watch the table directory, patch\n" ++
    "directories and pinned table files, and reload the whole hub when one of\n" ++
    "them is written, created, renamed or removed.\n\n" ++
    "Bursts of file events are debounced (watch.debounce) and reloads are\n" ++
    "rate limited to one per watch.min_interval. Each reload replaces the\n" ++
    "loaded tables in one step and prints a fresh report.\n\n" ++
    "Press Ctrl+C to stop.", [outputFlag], .any, true⟩

/-- The `help` command. -/
def helpSpec : Spec :=
  ⟨["help"], "help [command]", "Help about any command",
    "Help provides help for any command in the application.\n" ++
    "Simply type " ++ programName ++ " help [path to command] for full details.", [], .any, true⟩

/-- The `completion` command and its children, one per shell. -/
def completionSpecs : List Spec :=
  ⟨["completion"], "completion", "Generate the autocompletion script for the specified shell",
    "Generate the autocompletion script for " ++ programName ++ " for the specified shell.\n" ++
    "See each sub-command's help for details on how to use the generated script.\n", [], .none, false⟩ ::
  (["bash", "fish", "powershell", "zsh"].map fun sh =>
    ⟨["completion", sh], sh, "Generate the autocompletion script for " ++ sh, "",
      [truthFlag "no-descriptions" none "disable completion descriptions"], .none, true⟩)

/-- Every command, the root first. -/
def specs : List Spec :=
  [root, convertSpec, historySpec, loadSpec, registrySpec, schemaSpec, pinSpec, watchSpec, helpSpec] ++
    completionSpecs

namespace Spec

/-- Whether a command is the root. -/
def isRoot (s : Spec) : Bool := s.path.isEmpty

/-- A command's own name. -/
def name (s : Spec) : String := s.path.getLast?.getD programName

/-- The names from the program down to a command, separated by blanks. -/
def commandPath (s : Spec) : String := " ".intercalate (programName :: s.path)

/-- A command's children, by name. -/
def children (s : Spec) : List Spec :=
  (specs.filter fun c => c.path.length = s.path.length + 1 && c.path.take s.path.length = s.path).mergeSort
    fun a b => decide (a.name ≤ b.name)

/-- The child with a name. -/
def child? (s : Spec) (name : String) : Option Spec := s.children.find? (·.name = name)

/-- Whether a command is offered: the help command is not, and neither is one that neither
runs nor has offered children. -/
def available (s : Spec) : Bool :=
  s.path ≠ ["help"] && (s.runnable || s.children.any fun c => c.runnable)

/-- The flag asking for a command's help. -/
def helpFlag (s : Spec) : Flag := truthFlag "help" (some 'h') ("help for " ++ s.name)

/-- The flags a command defines itself, its help flag included; the root's include the
inherited ones and the version flag. -/
def localFlags (s : Spec) : List Flag :=
  s.flags ++ [s.helpFlag] ++ (if s.isRoot then persistentFlags ++ [versionFlag] else [])

/-- The flags a command inherits. -/
def inheritedFlags (s : Spec) : List Flag := if s.isRoot then [] else persistentFlags

/-- Every flag a command reads. -/
def allFlags (s : Spec) : List Flag := s.localFlags ++ s.inheritedFlags

/-- The flags known while the command line is being placed, before help and version flags
are added. -/
def placingFlags (s : Spec) : List Flag := s.flags ++ persistentFlags

end Spec

/-! ## Placing a command line -/

/-- Whether a flag named in an argument takes no value (a truth flag). -/
def takesNoValue (flags : List Flag) (name : String) : Bool :=
  (flags.find? (·.name = name)).any (·.kind = .truth)

/-- Whether a flag of a shorthand takes no value. -/
def shortTakesNoValue (flags : List Flag) (c : String) : Bool :=
  (flags.find? (fun f => (f.short.map Char.toString) = some c)).any (·.kind = .truth)

/-- Whether an argument is a flag whose value is the next argument: `--name` or `-x`
without `=`, naming a flag that takes a value (or no known flag). -/
def valueFollows (flags : List Flag) (a : String) : Bool :=
  !a.contains '=' &&
    ((a.startsWith "--" && !takesNoValue flags (a.drop 2).toString) ||
     (a.startsWith "-" && a.length = 2 && !shortTakesNoValue flags (a.drop 1).toString))

/-- The plain arguments of a command line: flags go, and so do the values following them.
A value-taking flag among the last two arguments ends the scan. -/
def stripFlags (flags : List Flag) : List String → List String
  | [] => []
  | a :: rest =>
    if a = "--" then []
    else if valueFollows flags a then
      match rest with
      | _ :: more@(_ :: _) => stripFlags flags more
      | _ => []
    else if a ≠ "" && !a.startsWith "-" then a :: stripFlags flags rest
    else stripFlags flags rest
termination_by args => args.length

/-- The arguments without the first plain one equal to `x`, skipping flags and their values
on the way. -/
def withoutFirst (flags : List Flag) (x : String) : List String → List String
  | [] => []
  | a :: rest =>
    if a = "--" then a :: rest
    else if valueFollows flags a then
      match rest with
      | v :: more => a :: v :: withoutFirst flags x more
      | [] => [a]
    else if !a.startsWith "-" && a = x then rest
    else a :: withoutFirst flags x rest
termination_by args => args.length

/-- Walks down from a command to the command a line names; `fuel` bounds the depth. Gives
the command and the arguments left for it. -/
def descend : Nat → Spec → List String → Spec × List String
  | 0, s, args => (s, args)
  | fuel + 1, s, args =>
    match stripFlags s.placingFlags args with
    | [] => (s, args)
    | next :: _ =>
      match s.child? next with
      | some c => descend fuel c (withoutFirst s.placingFlags next args)
      | none => (s, args)

/-- The edit distance between two texts, ignoring case, counted in octets. -/
def distance (a b : String) : Nat :=
  let xs := Text.Utf8.encode (Text.CaseMap.lower a)
  let ys := Text.Utf8.encode (Text.CaseMap.lower b)
  let first := List.range (ys.length + 1)
  let last := xs.zipIdx.foldl (fun (row : List Nat) (x, i) =>
    let next := ys.zipIdx.foldl (fun (acc : List Nat) (y, j) =>
      let left := acc.getLastD (i + 1)
      let up := row.getD (j + 1) 0
      let diag := row.getD j 0
      acc ++ [if x = y then diag else min (min up left) diag + 1]) [i + 1]
    next) first
  last.getLastD 0

/-- The commands offered for a name that matched none: those within two edits of it, or
whose name starts with it, ignoring case. -/
def suggestions (s : Spec) (typed : String) : List String :=
  (s.children.filter fun c => c.available &&
    (distance typed c.name ≤ 2 ||
      (Text.CaseMap.lower c.name).startsWith (Text.CaseMap.lower typed))).map (·.name)

/-- The fault of plain arguments the root cannot place. -/
def unknownCommand (s : Spec) (arg : String) : String :=
  let near := suggestions s arg
  "unknown command " ++ Text.Quoted.quote arg ++ " for " ++ Text.Quoted.quote s.commandPath ++
    (if near.isEmpty then "" else "\n\nDid you mean this?\n" ++ String.join (near.map fun n => "\t" ++ n ++ "\n"))

/-- Places a command line: the command, the arguments left for it, and the fault of plain
arguments the root cannot place. -/
def place (args : List String) : Spec × List String × Option String :=
  let (s, rest) := descend (args.length + 1) root args
  match s.arity, stripFlags s.placingFlags rest with
  | .commands, a :: _ => (s, rest, some (unknownCommand s a))
  | _, _ => (s, rest, none)

/-- Checks the number of plain arguments against a command's rule. -/
def checkArity (s : Spec) (args : List String) : Option String :=
  match s.arity, args with
  | .none, a :: _ => some ("unknown command " ++ Text.Quoted.quote a ++ " for " ++ Text.Quoted.quote s.commandPath)
  | .atMost n, _ =>
    if args.length > n then some ("accepts at most " ++ toString n ++ " arg(s), received " ++ toString args.length)
    else none
  | .between lo hi, _ =>
    if args.length < lo || args.length > hi then
      some ("accepts between " ++ toString lo ++ " and " ++ toString hi ++ " arg(s), received " ++
        toString args.length)
    else none
  | _, _ => none

/-! ## Help -/

/-- Drops blanks at the end of a text. -/
def trimEnd (s : String) : String := String.ofList (s.toList.reverse.dropWhile Text.Blank.isBlank).reverse

/-- Pads a text with blanks on the right to a width. -/
def padRight (s : String) (width : Nat) : String :=
  s ++ String.ofList (List.replicate (width - s.length) ' ')

/-- The command line a command is used with. -/
def Spec.useLine (s : Spec) : String :=
  let line := if s.isRoot then s.use else " ".intercalate (programName :: s.path.dropLast) ++ " " ++ s.use
  if (line.splitOn "[flags]").length > 1 then line else line ++ " [flags]"

/-- A command's usage: its command line, its subcommands, its flags and the flags it
inherits. -/
def Spec.usage (s : Spec) : String :=
  let kids := s.children
  let offered := kids.any (·.available)
  let pad := max 11 (kids.foldl (fun w c => max w c.name.length) 0)
  "Usage:" ++
    (if s.runnable then "\n  " ++ s.useLine else "") ++
    (if offered then "\n  " ++ s.commandPath ++ " [command]" else "") ++
    (if offered then
      "\n\nAvailable Commands:" ++ String.join ((kids.filter fun c => c.available || c.name = "help").map
        fun c => "\n  " ++ padRight c.name pad ++ " " ++ c.short)
    else "") ++
    "\n\nFlags:\n" ++ trimEnd (usages s.localFlags) ++
    (if s.inheritedFlags.isEmpty then "" else "\n\nGlobal Flags:\n" ++ trimEnd (usages s.inheritedFlags)) ++
    (if offered then
      "\n\nUse \"" ++ s.commandPath ++ " [command] --help\" for more information about a command."
    else "") ++ "\n"

/-- A command's help: its description, then its usage when it runs or has subcommands. -/
def Spec.help (s : Spec) : String :=
  let text := if s.long ≠ "" then s.long else s.short
  (if text = "" then "" else trimEnd text ++ "\n\n") ++
    (if s.runnable || !s.children.isEmpty then s.usage else "")

/-- The line the version flag prints. -/
def versionLine : String := programName ++ " version " ++ version ++ "\n"

end ConfigTables.Command
