import ConfigTables.Files.Tree
import ConfigTables.Log.Line
import ConfigTables.Time.Civil
import ConfigTables.Trace.Export
import ConfigTables.Text.Utf8
/-!
# The world a run sees

A run of the program reads and changes the files below its working directory, reads its
environment, and reads a clock; it prints command output, error lines, log lines and, from
one exporter, span records on the process's own output.

* What outlives a run is the `World`: the files and the device they live on, the clock and
  the count of identifiers handed out. Identifiers (session ids, trace and span ids) are drawn
  from that count, so two runs in one world never share one.
* What a run prints is kept apart by stream in a `Console`.
* A run is a computation in `Cli`, a state over `Run`; a command that fails gives the text
  of its fault through `Step`.
-/

namespace ConfigTables.Command

/-- What lasts from one run to the next: the files, the time (nanoseconds since the epoch),
the number of identifiers handed out so far, and the device the files live on. -/
structure World where
  fs : Files.Tree
  clock : Int
  serial : Nat
  device : Files.Device
  deriving Inhabited

/-- What a run printed, by stream: its command output, its error stream, the log lines
written to the process's standard error, and what it wrote to the process's standard output
itself. -/
structure Console where
  out : String
  err : String
  logs : List String
  osOut : String
  deriving Inhabited

/-- The state of a run: the world, the environment, the logger once set up, what was
printed, and the tracing provider once set up. -/
structure Run where
  world : World
  env : List (String × String)
  logger : Option Log.Logger
  console : Console
  provider : Trace.Provider
  deriving Inhabited

/-- A computation of a run. -/
abbrev Cli := StateM Run

/-- A computation of a run that may stop with the text of a fault. -/
abbrev Step := ExceptT String Cli

namespace Run

/-- A run starting in a world with an environment. -/
def start (w : World) (env : List (String × String)) : Run :=
  ⟨w, env, none, ⟨"", "", [], ""⟩, Trace.Provider.off⟩

end Run

/-- The files. -/
def files : Cli Files.Tree := return (← get).world.fs

/-- The device the files live on. -/
def device : Cli Files.Device := return (← get).world.device

/-- Replaces the files. -/
def setFiles (fs : Files.Tree) : Cli Unit :=
  modify fun r => { r with world := { r.world with fs := fs } }

/-- An environment variable; empty when unset. -/
def envVar (name : String) : Cli String := return ((← get).env.lookup name).getD ""

/-- The time now. -/
def now : Cli Int := return (← get).world.clock

/-- Lets time pass. -/
def advance (ns : Int) : Cli Unit :=
  modify fun r => { r with world := { r.world with clock := r.world.clock + ns } }

/-- Takes the next identifier number. -/
def nextSerial : Cli Nat := do
  let r ← get
  set { r with world := { r.world with serial := r.world.serial + 1 } }
  return r.world.serial + 1

/-- Scrambles a number below 2^32 so that consecutive numbers look unrelated; the map is a
bijection, as 2654435761 is odd. -/
def scramble (n : Nat) : Nat := n * 2654435761 % Nat.pow 2 32

/-- A fresh session id in the form of a random UUID. -/
def freshSession : Cli String := do
  let n ← nextSerial
  return Trace.hexId 8 (scramble n) ++ "-" ++ Trace.hexId 4 (n / Nat.pow 2 16 % Nat.pow 2 16) ++ "-4" ++
    Trace.hexId 3 (n % Nat.pow 2 12) ++ "-8" ++ Trace.hexId 3 (scramble (n + 1) % Nat.pow 2 12) ++ "-" ++ Trace.hexId 12 n

/-- Prints command output. -/
def say (text : String) : Cli Unit :=
  modify fun r => { r with console := { r.console with out := r.console.out ++ text } }

/-- Prints on the error stream. -/
def sayErr (text : String) : Cli Unit :=
  modify fun r => { r with console := { r.console with err := r.console.err ++ text } }

/-- Prints on the process's own standard output. -/
def sayOs (text : String) : Cli Unit :=
  modify fun r => { r with console := { r.console with osOut := r.console.osOut ++ text } }

/-- The lines of a text, without their ends. -/
def linesOf (text : String) : List String :=
  (text.splitOn "\n").filter (· ≠ "")

/-- Logs a record: nothing before the logger is set up or below its level; a line on the
process's standard error, or appended to the log file. The line carries the clock time. -/
def emit (rec : Log.Record) : Cli Unit := do
  let r ← get
  match r.logger with
  | none => pure ()
  | some l =>
    match l.line? (Time.clockText r.world.clock) rec with
    | none => pure ()
    | some line =>
      match l.target with
      | .file p =>
        let fs := r.world.fs
        setFiles ((fs.append p (Text.Utf8.encode line)).toOption.getD fs)
      | _ => modify fun r => { r with console := { r.console with logs := r.console.logs ++ linesOf line } }

/-- Logs records in order. -/
def emitAll (recs : List Log.Record) : Cli Unit := recs.forM emit

/-- Stops a step with a fault. -/
def fail {α : Type} (msg : String) : Step α := throw msg

/-- Runs a computation that cannot fail as a step. -/
def lift {α : Type} (c : Cli α) : Step α := ExceptT.lift c

end ConfigTables.Command
