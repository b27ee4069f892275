import ConfigTables.Number.Binary64
/-!
# Log records

What the library reports as it works: a level, a category naming the part that speaks, a
message, and fields given as alternating keys and values. Writing records as lines is the
business of the log writer; operations only produce records.
-/

namespace ConfigTables.Log

/-- How serious a record is, from debugging detail to errors; other codes are kept. -/
structure Level where
  code : Int
  deriving Repr, DecidableEq, Inhabited

namespace Level

/-- Detail for debugging. -/
def debug : Level := ⟨0⟩
/-- Ordinary progress. -/
def info : Level := ⟨1⟩
/-- Something went wrong but work goes on. -/
def warn : Level := ⟨2⟩
/-- Something failed. -/
def error : Level := ⟨3⟩

/-- The name of a level; other codes are `UNKNOWN`. -/
def name (l : Level) : String :=
  match l.code with
  | 0 => "DEBUG"
  | 1 => "INFO"
  | 2 => "WARN"
  | 3 => "ERROR"
  | _ => "UNKNOWN"

/-- The level records are filtered by: other codes act as `info`. -/
def effective (l : Level) : Level :=
  if l.code = 0 ∨ l.code = 2 ∨ l.code = 3 then l else info

end Level

/-- A field value. -/
inductive Value where
  | text (s : String)
  | int (n : Int)
  | float (x : Binary64)
  | bool (b : Bool)
  /-- A span of time in nanoseconds. -/
  | duration (ns : Int)
  /-- A point in time in nanoseconds since the epoch; `none` is the zero time. -/
  | time (ns : Option Int)
  /-- An error by its text. -/
  | failure (msg : String)
  | texts (xs : List String)
  | null
  deriving Repr, Inhabited, BEq

/-- A log record: fields alternate keys and values. -/
structure Record where
  level : Level
  category : String
  message : String
  fields : List Value
  deriving Repr, Inhabited

end ConfigTables.Log
