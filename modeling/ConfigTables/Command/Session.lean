import ConfigTables.Command.Run
import ConfigTables.Text.Redact
/-!
# A terminal session

A session runs command lines one after another in one world: the files, the clock and the
identifiers carry over from each run to the next, while the settings, the logger and the
tracing start afresh, as in a new process. Every run sees the session's environment, with
its own variables on top.

A later command line can name a session id printed by an earlier run: `$SESSION<n>` in an
argument stands for the n-th distinct id that earlier runs printed on their output, in the
order they were printed, and for `no-such-session` when there are fewer.
-/

namespace ConfigTables.Command

/-- One run of a command line: how it ended and what it printed. -/
structure Outcome where
  ending : Ending
  console : Console

/-- A session: the world, the environment of every run, and the session ids printed so far
in order. -/
structure Session where
  world : World
  env : List (String × String)
  printed : List String

/-- The texts matching a rule in a text, in order. The fuel bounds the characters looked at. -/
def matchesFuel (r : Text.Redact.Rule) : Nat → List Char → List String
  | 0, _ => []
  | _ + 1, [] => []
  | n + 1, c :: rest =>
    match r (c :: rest) with
    | some (_, after) => String.ofList ((c :: rest).take ((c :: rest).length - after.length)) :: matchesFuel r n after
    | none => matchesFuel r n rest

/-- The session ids a text names, in order, each once. -/
def sessionIdsIn (text : String) : List String :=
  (matchesFuel Text.Redact.uuid (text.length + 1) text.toList).eraseDups

/-- A reference `$SESSION<n>` to the n-th id of a list, counting from one. -/
def sessionRef (ids : List String) : Text.Redact.Rule := fun cs => do
  let r ← Text.Redact.literal "$SESSION".toList cs
  let r' ← Text.Redact.some1 Char.isDigit r
  let n := ((String.ofList (r.take (r.length - r'.length))).toNat?).getD 0
  some (((ids[n - 1]?).filter (fun _ => n ≠ 0) |>.getD "no-such-session").toList, r')

/-- An argument with its references to printed session ids resolved. -/
def Session.expand (s : Session) (arg : String) : String :=
  Text.Redact.replaceAll (sessionRef s.printed) arg

/-- A session in a world, with an environment. -/
def Session.start (w : World) (env : List (String × String)) : Session := ⟨w, env, []⟩

/-- Runs a command line with variables of its own; a watch sees the batches of file actions
in turn. -/
def Session.run (s : Session) (env : List (String × String)) (args : List String)
    (batches : List (List Files.Action)) : Session × Outcome :=
  let (w, console, ending) := runIn s.world (env ++ s.env) (args.map s.expand) batches
  let ids := s.printed ++ (sessionIdsIn console.out).filter (fun i => !s.printed.contains i)
  (⟨w, s.env, ids⟩, ⟨ending, console⟩)

/-- Does file actions between runs. -/
def Session.act (s : Session) (as : List Files.Action) : Session :=
  { s with world := { s.world with fs := (Files.Action.runAll s.world.fs as).1 } }

end ConfigTables.Command
