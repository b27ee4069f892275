import ConfigTables.Command.Setup
import ConfigTables.Hub.Query
import ConfigTables.Cache
import ConfigTables.Journal
import ConfigTables.Present.Report
import ConfigTables.Present.Markdown.Render
/-!
# Loading from the command line

A loader is a hub over the registered tables set up from the settings: the table filter,
the load setters, the read cache, the mutation check, events when watching, and the load
journal when it is kept. Each load is stamped with a fresh session id and the time it
starts, takes a fixed time per table, sends its spans to the tracing provider and is
recorded in the journal.
-/

namespace ConfigTables.Command

/-- The registry of the tables this program knows. -/
def registry : Hub.Registry := Hub.Registry.empty.registerBuiltins.1

/-- How long reading one table takes, in nanoseconds. -/
def tableNanos : Int := 1500000

/-- A hub set up from the settings, with the journal when one is kept. -/
structure Loader where
  hub : Hub
  format : Format
  setters : List Load.Setter
  cached : Bool
  journal : Option Journal.Handle

/-- The table filter of the settings. -/
def filterOf (c : Config.Settings) : Hub.Filter :=
  if !c.only.isEmpty then .only (c.only.filter fun n => !c.exclude.contains n)
  else if !c.exclude.isEmpty then .except c.exclude
  else .all

/-- A reader of files through a fresh cache. -/
def cachedReader (fs : Files.Tree) : Load.Reader :=
  fun p => ((Cache.empty.readThrough fs p).1).mapError Fault.text

/-- Sets up a loader; `events` turns load events on. -/
def newLoader (c : Config.Settings) (events : Bool) : Step Loader := do
  let f ← match c.parsedFormat with
    | .ok f => pure f
    | .error e => fail e
  let mutation := if c.mutableCheck then some ⟨0, .logging⟩ else none
  let hub := Hub.create registry ⟨filterOf c, [], mutation, events⟩
  let journal ← if c.journalEnabled then
      match Journal.Handle.openAt (← lift files) c.journalPath with
      | .ok (h, fs, logs) => do
        lift (setFiles fs)
        lift (emitAll logs)
        pure (some h)
      | .error e => fail ("opening journal: " ++ e)
    else pure none
  return ⟨hub, f, c.loadSetters registry.names, c.cacheEnabled, journal⟩

/-- Sets aside `count` identifier numbers; gives the number before the first. -/
def reserve (count : Nat) : Cli Nat := do
  let r ← get
  set { r with world := { r.world with serial := r.world.serial + count } }
  return r.world.serial

/-- Records the last load in the journal, when one is kept; a failure is only logged. -/
def Loader.record (l : Loader) : Cli Loader := do
  match l.journal, l.hub.report? with
  | some h, some rep =>
    match h.record (← files) (Journal.Entry.ofReport rep) with
    | .ok (h, fs, r) =>
      setFiles fs
      emit r
      return { l with journal := some h }
    | .error e =>
      emit (Log.errorRecord "journal" "Failed to record load session" (some e) [.text "session", .text rep.sessionId])
      return l
  | _, _ => return l

/-- Loads the tables from a directory under a deadline `timeout` nanoseconds away (none when
it is not positive): the loader after it and the aggregate fault of the tables that failed. -/
def Loader.load (l : Loader) (dir : String) (timeout : Int) : Cli (Loader × Option Fault) := do
  let session ← freshSession
  let start ← now
  let fs ← files
  let setters := l.setters ++ (if l.cached then [Load.Setter.reader (cachedReader fs)] else [])
  let stamp : Hub.Stamp := ⟨session, some start, tableNanos⟩
  let ctx := Hub.Context.withTimeout timeout tableNanos.toNat
  let (hub, result, trail) := l.hub.load fs ⟨dir, l.format, setters⟩ stamp ctx
  emitAll trail.logs
  let traceBase ← reserve (Trace.traceCount trail.spans)
  let spanBase ← reserve trail.spans.length
  modify fun r => { r with provider := r.provider.take traceBase spanBase start trail.spans }
  advance (stamp.loadNanos hub.names.length)
  let l ← ({ l with hub := hub } : Loader).record
  return (l, match result with
    | .ok f => f
    | .error v => some (.text v))

/-- Closes the loader's journal. -/
def Loader.close (l : Loader) : Cli Unit := do
  match l.journal with
  | some h =>
    let (_, fs) := h.close (← files)
    setFiles fs
  | none => pure ()

/-- The width reports are printed at. -/
def reportWidth : Nat := 100

/-- Prints a report as asked: a JSON document, a Markdown document styled for the terminal,
or a table. -/
def writeReport (output : String) (v : Present.ReportView) : Cli Unit :=
  match output with
  | "json" => say (Present.document v.toJson)
  | "markdown" => say (Present.styleMarkdown v.markdown reportWidth)
  | _ => say (v.render reportWidth)

/-- Checks a report output name. -/
def checkOutput (output : String) : Step Unit :=
  if ["table", "json", "markdown"].contains output then pure ()
  else fail ("unknown output format " ++ Text.Quoted.quote output ++ " (want table, json or markdown)")

end ConfigTables.Command
