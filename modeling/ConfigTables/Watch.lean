import ConfigTables.Files.Action
import ConfigTables.Format
import ConfigTables.Log.Record
/-!
# Watching table files

A watcher looks at directories (not below them) and reports changes to table files,
gathered over a quiet period so that a burst of writes is one change.

* A file counts when it was written, created, renamed or removed (a change of mode does
  not), its extension is that of a table format, and it is one of the listed files, or no
  tables are listed, or its name without the extension is a listed table.
* A change lists the files touched, each once, in path order, written as the watcher sees
  them: the watched directory, a slash, the file's name.
* Starting fails at the first directory that does not exist.

The watcher's loop (`Loop`) takes one thing at a time, whichever its select picks among what is
ready: an event, a watch error, the quiet-period timer firing, the channel accepting the change
the loop is blocked sending, the closed stop signal, or the file system's channels closing. A
touch arms the timer again; when it fires, the files gathered become the change to send, and the
loop takes nothing else until the change is accepted or it takes the stop signal.

Stopping the watcher only closes the stop signal. The loop returns, closing its channel, when
its select takes that signal; until then it may still take a ready event or timer and send a
change. A change it is blocked sending when it returns is dropped.
-/

namespace ConfigTables.Watch

/-- What a watcher looks at: its directories, the tables and files it reports, and its
quiet period in nanoseconds. -/
structure Config where
  dirs : List String
  tables : List String
  files : List String
  debounce : Int
  deriving Repr, Inhabited

/-- Watching one directory with a quiet period of 200 ms. -/
def Config.default (dir : String) : Config := ⟨[dir], [], [], 200000000⟩

/-- A file's name without its extension. -/
def stem (name : String) : String :=
  (name.dropEnd (Files.Path.ext name).length).toString

/-- Whether an event touches a table file the watcher reports. -/
def Config.counts (c : Config) (e : Files.Event) : Bool :=
  let name := Files.Path.base e.path
  e.op ≠ .chmod && Format.ofPath name ≠ .unknown &&
    ((c.files.map Files.Path.clean).contains (Files.Path.clean e.path) || c.tables.isEmpty ||
      c.tables.contains (stem name))

/-- The path of an event as the watcher reports it, when it is in a watched directory. -/
def Config.seen (c : Config) (e : Files.Event) : Option String :=
  let parent := Files.Path.dir (Files.Path.clean e.path)
  (c.dirs.find? fun d => Files.Path.clean d = parent).map fun d =>
    Files.Path.clean d ++ "/" ++ Files.Path.base e.path

/-- Starts watching: the records logged, or the fault of the first missing directory. -/
def start (fs : Files.Tree) (c : Config) : Except String (List Log.Record) :=
  c.dirs.foldlM (fun (logs : List Log.Record) d =>
    if fs.exists? (if d = "" then "." else d) then
      .ok (logs ++ [⟨.debug, "watcher", "watching", [.text "dir", .text d]⟩])
    else .error ("watching directory " ++ d ++ ": no such file or directory")) []

/-- The change the events of one quiet period make: the files touched, or none. -/
def change (c : Config) (events : List Files.Event) : Option (List String) :=
  let touched := events.filterMap fun e => if c.counts e then c.seen e else none
  let files := touched.foldl (fun acc p => if acc.contains p then acc else acc ++ [p]) []
  if files.isEmpty then none else some (files.mergeSort (fun a b => decide (a ≤ b)))

/-- The name an event touches, as the watcher reports it, when it counts. -/
def Config.relevant (c : Config) (e : Files.Event) : Option String :=
  if c.counts e then c.seen e else none

/-- What happens at one turn: the loop's select takes an event or an error from the file
system, the timer firing, the channel accepting the change being sent, or the closed stop signal
(`quit`), or sees the file system's channels closed (`hangUp`); or the watcher is stopped
(`stop`), which closes the stop signal and nothing else. -/
inductive Pick where
  | event (e : Files.Event)
  | error
  | fire
  | deliver
  | stop
  | quit
  | hangUp
  deriving Repr, Inhabited

/-- What the loop puts on its channel: a change, or the close as it returns. -/
inductive Note where
  | change (files : List String)
  | close
  deriving Repr, DecidableEq, Inhabited

/-- The files of a change put on the channel. -/
def Note.files? : Note → Option (List String)
  | .change files => some files
  | .close => none

/-- The loop's state: the files touched since the last change was built, each once in the order
first touched; whether the timer is armed; the change being sent, which stays there, dropped,
once the loop has returned; whether the watcher has been stopped; whether the loop has
returned. -/
structure Loop where
  pending : List String
  armed : Bool
  sending : Option (List String)
  done : Bool
  stopped : Bool
  deriving Repr, DecidableEq, Inhabited

namespace Loop

/-- A loop that has just started. -/
def idle : Loop := ⟨[], false, none, false, false⟩

/-- Whether a pick can happen. A loop that has returned takes nothing. The watcher is stopped
once. A loop sending a change waits only for the channel or the stop signal, which it can take
once the watcher is stopped; otherwise the timer is taken only when armed. -/
def takes (s : Loop) : Pick → Bool
  | .deliver => !s.stopped && s.sending.isSome
  | .stop => !s.stopped && !s.done
  | .quit => !s.stopped && s.done
  | .fire => !s.stopped && s.sending.isNone && s.armed
  | _ => !s.stopped && s.sending.isNone

/-- One turn of the loop, with what it puts on its channel; a pick that cannot happen changes
nothing. -/
def step (c : Config) (s : Loop) (p : Pick) : Loop × List Note :=
  if s.takes p then
    match p with
    | .event e =>
      match c.relevant e with
      | some name =>
        ({ s with
            pending := if s.pending.contains name then s.pending else s.pending ++ [name]
            armed := true }, [])
      | none => (s, [])
    | .error => (s, [])
    | .fire =>
      if s.pending.isEmpty then ({ s with armed := false }, [])
      else
        ({ s with
            pending := []
            armed := false
            sending := some (s.pending.mergeSort fun a b => decide (a ≤ b)) }, [])
    | .deliver => ({ s with sending := none }, (s.sending.map Note.change).toList)
    | .stop => ({ s with done := true }, [])
    | .quit | .hangUp => ({ s with stopped := true }, [.close])
  else (s, [])

/-- A run of the loop through the picks of a schedule, with all it puts on its channel. -/
def run (c : Config) : Loop → List Pick → Loop × List Note
  | s, [] => (s, [])
  | s, p :: ps =>
    let (s', notes) := s.step c p
    let (s'', rest) := s'.run c ps
    (s'', notes ++ rest)

end Loop

/-- Watches a tree through batches of actions, the receiver waiting out each quiet period, then
stops the watcher (stopping it again does nothing) and lets the loop take the stop signal: the
change each batch makes, in order, and what the loop puts on its channel once stopped; or the
fault of starting. -/
def observe (fs : Files.Tree) (c : Config) (batches : List (List Files.Action)) :
    Except String (List (Option (List String)) × List Note) := do
  let _ ← start fs c
  let step := fun (acc : Files.Tree × Loop × List (Option (List String)))
      (batch : List Files.Action) =>
    let (fs', events) := Files.Action.runAll acc.1 batch
    let (s, notes) := acc.2.1.run c (events.map .event ++ [.fire, .deliver])
    (fs', s, acc.2.2 ++ [notes.findSome? Note.files?])
  let (_, s, changes) := batches.foldl step (fs, Loop.idle, [])
  pure (changes, (s.run c [.stop, .quit]).2)

end ConfigTables.Watch
