import ConfigTables.Command.Spec
import ConfigTables.Command.Loader
import ConfigTables.Watch
import ConfigTables.Schema
/-!
# Running a command line

A command line is placed on a command, its flags are read, and the command runs:

1. A line the root cannot place fails with `unknown command`, followed by a pointer to the
   help.
2. A flag that cannot be read fails. The help flag, or a command that runs nothing, prints
   the command's help; the version flag prints the version.
3. The settings are found and read, the number of arguments is checked, and the run is set
   up (see `setup`); then the command runs.
4. A failure prints `Error: <fault>` on the error stream. Last, the run is torn down.

The commands: `load` loads and prints a report; `convert` loads and writes the tables in
another format; `history` lists, shows or prunes recorded loads; `registry:list` lists the
tables; `schema` prints their JSON Schemas; `table:pin` sets or removes a table's own file in
the settings file; `watch` loads, then reloads whenever table files change; `help` prints
the help of a command.
-/

namespace ConfigTables.Command

/-- Runs a step, then a clean-up whatever the step's outcome. -/
def withCleanup {α : Type} (body : Step α) (cleanup : Cli Unit) : Step α := do
  let r ← lift body.run
  lift cleanup
  match r with
  | .ok x => pure x
  | .error e => fail e

/-- Checks that table names are registered. -/
def checkTables (names : List String) : Step Unit :=
  match names.find? (fun n => !registry.names.contains n) with
  | some n => fail ("unknown table " ++ Text.Quoted.quote n ++ " (see 'confhub registry:list')")
  | none => pure ()

/-- Prints the last report of a loader. -/
def printReport (output : String) (l : Loader) : Cli Unit :=
  match l.hub.report? with
  | some rep => writeReport output (Present.ReportView.ofReport rep)
  | none => pure ()

/-! ## The commands -/

/-- `load`: loads the tables and prints the report; fails when a table failed, unless
failures are allowed. -/
def runLoad (c : Config.Settings) (g : Given) : Step Unit := do
  let output := g.text "output" "table"
  checkOutput output
  let pick := fun (flag : String) (cur : List String) => if (g.texts flag).isEmpty then cur else g.texts flag
  let c := { c with
    only := pick "only" c.only
    exclude := pick "exclude" c.exclude
    patchDirs := pick "patch-dir" c.patchDirs
    mode := if g.text "mode" "" = "" then c.mode else g.text "mode" "" }
  if let some e := c.validate then fail e
  let l ← newLoader c false
  let (l, fault) ← lift (l.load c.dir c.timeout)
  withCleanup (do
    match l.hub.report? with
    | none => if let some f := fault then fail f.message
    | some rep =>
      lift (writeReport output (Present.ReportView.ofReport rep))
      if fault.isSome && !g.truth "allow-failures" then
        fail (toString rep.failed ++ " of " ++ toString rep.tables.length ++ " tables failed"))
    l.close

/-- `convert`: loads the tables and writes them to a directory in another format, printing
each path written. -/
def runConvert (c : Config.Settings) (g : Given) : Step Unit := do
  let out := g.text "out" ""
  if out = "" then fail "--out is required"
  let target ← match Format.parse (g.text "to" "binary") with
    | .ok f => pure f
    | .error e => fail e
  if !target.loadable then fail ("cannot convert to " ++ target.name)
  let l ← newLoader c false
  let (l, fault) ← lift (l.load c.dir c.timeout)
  withCleanup (do
    let accept ← match fault with
      | none => pure Hub.Filter.all
      | some f@(.aggregate _ fails) =>
        if g.truth "allow-failures" then pure (Hub.Filter.except (fails.map (·.1)))
        else fail ("load failed: " ++ f.message)
      | some f => fail ("load failed: " ++ f.message)
    match l.hub.store (← lift device) (← lift files) out target accept with
    | .error e => fail e.message
    | .ok (paths, f, fs) =>
      lift (setFiles fs)
      lift (say (String.join (paths.map (· ++ "\n"))))
      if let some e := f then fail e.message)
    l.close

/-- `history`: prunes, shows one session, or lists the recent sessions. -/
def runHistory (c : Config.Settings) (g : Given) : Step Unit := do
  let output := g.text "output" "table"
  checkOutput output
  if c.journalPath = "" then fail "journal.path is not set"
  let h ← match Journal.Handle.openAt (← lift files) c.journalPath with
    | .ok (h, fs, logs) => do
      lift (setFiles fs)
      lift (emitAll logs)
      pure h
    | .error e => fail e
  withCleanup (do
    if g.has "prune" then
      match h.prune (← lift files) (g.whole "prune" 0) with
      | .ok (_, fs, n, logs) =>
        lift (setFiles fs)
        lift (emitAll logs)
        lift (say ("removed " ++ toString n ++ " sessions\n"))
      | .error e => fail e
    else
      match g.args with
      | [id] =>
        let s ← match h.session id with
          | .ok s => pure s
          | .error e => fail e
        let rows ← match h.lines s.id with
          | .ok rows => pure rows
          | .error e => fail e
        lift (writeReport output (Present.ReportView.ofJournal s rows))
      | _ =>
        let ss ← match h.recent (g.whole "limit" 20) with
          | .ok ss => pure ss
          | .error e => fail e
        let ls := ss.map Present.SessionLine.ofSession
        lift (say (if output = "json" then Present.document (Present.sessionsJson ls) else Present.renderSessions ls)))
    (do
      let (_, fs) := h.close (← files)
      setFiles fs)

/-- `registry:list`: the registered tables, with their files when asked. -/
def runRegistry (c : Config.Settings) (g : Given) : Step Unit := do
  let output := g.text "output" "table"
  if output ≠ "table" && output ≠ "json" then
    fail ("unknown output format " ++ Text.Quoted.quote output ++ " (want table or json)")
  let pathOf ← if g.truth "paths" then do
      let f ← match c.parsedFormat with
        | .ok f => pure f
        | .error e => fail e
      let opts := Load.Options.ofSetters (c.loadSetters registry.names)
      pure (some fun (name : String) =>
        if c.filters && !c.accepts name then "(filtered)"
        else Load.tablePath name c.dir f (some (opts.forTable name)))
    else pure none
  let rs := Present.registrations registry pathOf
  lift (say (if output = "json" then Present.document (Present.registrationsJson rs)
    else Present.renderRegistrations rs))

/-- `schema`: the JSON Schemas of the named tables (all without names), by table name. -/
def runSchema (g : Given) : Step Unit := do
  checkTables g.args
  match registry.schemas g.args with
  | .error v => fail v
  | .ok (.error e) => fail e
  | .ok (.ok xs) =>
    let unique := xs.foldl (fun acc (k, v) => if acc.any (·.1 = k) then acc else acc ++ [(k, v)]) []
    lift (say (Present.document (.object (unique.mergeSort fun a b => decide (a.1 ≤ b.1)))))

/-- `table:pin`: sets or removes a table's own file in the settings file in use. -/
def runPin (g : Given) (used : String) : Step Unit := do
  let table := g.args.headD ""
  checkTables [table]
  let unpin := g.truth "unpin"
  let path ← match unpin, g.args with
    | true, [_, _] => fail "--unpin takes no path"
    | false, [_, p] =>
      if Format.ofPath p = .unknown then
        fail ("cannot tell the format of " ++ Text.Quoted.quote p ++ ": want .json or .binpb")
      else pure p
    | false, _ => fail "path is required (or use --unpin)"
    | true, _ => pure ""
  let target := if used = "" then defaultConfigPath else used
  match Config.saveTablePath (← lift files) target table path with
  | .error e => fail e
  | .ok fs =>
    lift (setFiles fs)
    lift (say (if path = "" then table ++ ": override removed (" ++ target ++ ")\n"
      else table ++ ": " ++ path ++ " (" ++ target ++ ")\n"))

/-- How an argument list is written in the help command's complaint. -/
def topicText (args : List String) : String :=
  let tick := Char.ofNat 96
  "[" ++ " ".intercalate (args.map fun a =>
    if a.contains tick || a.any (fun (c : Char) => c.toNat < 32 && c ≠ '\t') then Text.Quoted.quote a
    else String.singleton tick ++ a ++ String.singleton tick) ++ "]"

/-- `help`: the help of the command the arguments name. -/
def runHelp (g : Given) : Cli Unit :=
  match place g.args with
  | (_, _, some _) => do
    say ("Unknown help topic " ++ topicText g.args ++ "\n")
    say root.usage
  | (s, _, none) => say s.help

/-! ## Watching -/

/-- The directories to watch: the table directory, then the others that exist; a missing
one is logged and skipped. -/
def watchDirs (dirs : List String) : Cli (List String) := do
  let fs ← files
  let rest ← (dirs.drop 1).filterM fun d => do
    if fs.isDir d then return true
    emit ⟨.warn, "watcher", "Not watching missing directory", [.text "dir", .text d]⟩
    return false
  return dirs.take 1 ++ rest

/-- Logs the table failures a load published, each under its event's session. -/
def logFailures (events : List Hub.LoadEvent) : Cli Unit :=
  events.forM fun
    | .table session name path (some f) =>
      emit ⟨.warn, "watcher", "Table failed", [.text "session", .text session, .text "table", .text name,
        .text "path", .text path, .text "error", .failure f.message]⟩
    | _ => pure ()

/-- How long the watcher waits for each batch of changes to settle, in nanoseconds. -/
def batchNanos : Int := 300000000

/-- Reloads once per batch of file actions that touches a watched table file, printing each
new report; the count of reloads per batch. -/
def watchBatches (output : String) (wc : Watch.Config) (timeout : Int) (l : Loader) :
    List (List Files.Action) → Cli (Loader × List Nat)
  | [] => return (l, [])
  | batch :: more => do
    let (fs, events) := Files.Action.runAll (← files) batch
    setFiles fs
    advance batchNanos
    match Watch.change wc events with
    | none =>
      let (l, rest) ← watchBatches output wc timeout l more
      return (l, 0 :: rest)
    | some touched =>
      emit ⟨.info, "watcher", "Reloading tables", [.text "files", .texts touched]⟩
      let (l, _) ← l.load (l.hub.last.map (·.dir) |>.getD "") timeout
      let (drained, hub) := l.hub.drainEvents
      let l := { l with hub := hub }
      logFailures ((drained.map (·.1)).getD [])
      printReport output l
      let (l, rest) ← watchBatches output wc timeout l more
      return (l, 1 :: rest)

/-- `watch`: loads and prints, then reloads and prints whenever table files change. -/
def runWatch (c : Config.Settings) (g : Given) (batches : List (List Files.Action)) : Step (List Nat) := do
  let output := g.text "output" "table"
  checkOutput output
  let l ← newLoader c true
  let (l, _) ← lift (l.load c.dir c.timeout)
  lift (printReport output l)
  let l := { l with hub := l.hub.drainEvents.2 }
  let (l, counts) ← lift (do
    let r ← (do
      let dirs ← lift (watchDirs c.watchDirs)
      let wc : Watch.Config := ⟨dirs, registry.names, c.pinnedFiles,
        if c.watchDebounce > 0 then c.watchDebounce else (Watch.Config.default c.dir).debounce⟩
      match Watch.start (← lift files) wc with
      | .error e => fail e
      | .ok logs => lift (emitAll logs)
      lift (emit ⟨.info, "watcher", "Watching for table changes", [.text "dirs", .texts dirs]⟩)
      lift (watchBatches output wc c.timeout l batches) : Step (Loader × List Nat)).run
    match r with
    | .ok (l', counts) => return (l', Except.ok counts)
    | .error e => return (l, Except.error e))
  lift l.close
  match counts with
  | .ok cs => pure cs
  | .error e => fail e

/-! ## Placing and running -/

/-- Finds and reads the settings of a run: the settings and the settings file in use. -/
def initConfig (g : Given) : Cli (Config.Settings × String) := do
  let (doc, used) ← discover (g.text "config" "")
  return (← settingsOf doc g, used)

/-- Runs the command placed, with the arguments left for it; the reload counts of a watch. -/
def runCommand (s : Spec) (rest : List String) (batches : List (List Files.Action)) : Step (List Nat) := do
  let g ← match parse s.allFlags rest with
    | .ok g => pure g
    | .error e => fail e
  if g.truth "help" then
    lift (say s.help)
    return []
  if s.isRoot && g.truth "version" then
    lift (say versionLine)
    return []
  if !s.runnable then
    lift (say s.help)
    return []
  let (c, used) ← lift (initConfig g)
  if let some e := checkArity s g.args then fail e
  setup c used
  match s.path with
  | ["load"] => runLoad c g; return []
  | ["convert"] => runConvert c g; return []
  | ["history"] => runHistory c g; return []
  | ["registry:list"] => runRegistry c g; return []
  | ["schema"] => runSchema g; return []
  | ["table:pin"] => runPin g used; return []
  | ["watch"] => runWatch c g batches
  | ["help"] => lift (runHelp g); return []
  | _ => return []

/-- What a run of the program ended with: its fault, if any, and for a watch the reloads
seen after each batch of file actions. -/
structure Ending where
  fault : Option String
  reloads : List Nat
  deriving Inhabited

/-- Runs a command line; a watch sees the batches of file actions in turn. -/
def execute (args : List String) (batches : List (List Files.Action)) : Cli Ending := do
  let (s, rest, misplaced) := place args
  let ending ← match misplaced with
    | some e => do
      sayErr ("Error: " ++ e ++ "\n")
      sayErr ("Run '" ++ s.commandPath ++ " --help' for usage.\n")
      pure ⟨some e, []⟩
    | none => do
      match ← (runCommand s rest batches).run with
      | .ok counts => pure ⟨none, counts⟩
      | .error e =>
        sayErr ("Error: " ++ e ++ "\n")
        pure ⟨some e, []⟩
  teardown
  return ending

/-- Runs a command line in a world with an environment: the world after it, what it
printed, and how it ended. -/
def runIn (w : World) (env : List (String × String)) (args : List String)
    (batches : List (List Files.Action)) : World × Console × Ending :=
  let (ending, r) := (execute args batches).run (Run.start w env)
  (r.world, r.console, ending)

end ConfigTables.Command
