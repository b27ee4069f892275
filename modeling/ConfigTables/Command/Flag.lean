import ConfigTables.Number.Literal
import ConfigTables.Text.Chars
/-!
# Command-line flags

A flag has a long name, perhaps a one-letter shorthand, a kind of value and a line of usage.
Arguments are read left to right, flags and other arguments mixed:

* `--name=value` and `--name value` set a flag; a truth flag needs no value (`--name`), and
  takes one only after `=`;
* `-x value`, `-xvalue` and `-x=value` set a flag by its shorthand; truth flags can be run
  together (`-px`);
* `--` ends the flags, and `-` alone is an ordinary argument;
* a repeatable flag collects its values in order, every other flag keeps its last value.

The usage listing gives one line per flag in name order: the shorthand, the name, the kind
of value, then the usage text in a column, and the default when it is not the kind's zero.
-/

namespace ConfigTables.Command

/-- What a flag takes. -/
inductive FlagKind where
  | truth
  | text
  /-- Text values that build up a list, one per use. -/
  | texts
  | whole
  deriving Repr, DecidableEq, Inhabited

/-- A flag. -/
structure Flag where
  name : String
  short : Option Char
  kind : FlagKind
  usage : String
  /-- The default as the usage listing writes it; empty for the kind's zero. -/
  default : String
  deriving Repr, Inhabited

/-- A value set on the command line. -/
inductive FlagValue where
  | truth (b : Bool)
  | text (s : String)
  | texts (xs : List String)
  | whole (n : Int)
  deriving Repr, Inhabited, BEq

/-- What the arguments of a run set: the flags given, by name, and the other arguments. -/
structure Given where
  flags : List (String × FlagValue)
  args : List String
  deriving Repr, Inhabited

namespace Given

/-- Whether a flag was given. -/
def has (g : Given) (name : String) : Bool := (g.flags.lookup name).isSome

/-- A text flag's value, or a default. -/
def text (g : Given) (name d : String) : String :=
  match g.flags.lookup name with
  | some (.text s) => s
  | _ => d

/-- A truth flag's value; false when not given. -/
def truth (g : Given) (name : String) : Bool :=
  match g.flags.lookup name with
  | some (.truth b) => b
  | _ => false

/-- A repeatable flag's values; empty when not given. -/
def texts (g : Given) (name : String) : List String :=
  match g.flags.lookup name with
  | some (.texts xs) => xs
  | _ => []

/-- A whole-number flag's value, or a default. -/
def whole (g : Given) (name : String) (d : Int) : Int :=
  match g.flags.lookup name with
  | some (.whole n) => n
  | _ => d

end Given

/-- The name of a flag as a fault about its value writes it. -/
def Flag.shownName (f : Flag) : String :=
  match f.short with
  | some c => "-" ++ c.toString ++ ", --" ++ f.name
  | none => "--" ++ f.name

/-- Sets a flag from the text of its value, keeping what earlier uses collected. -/
def Flag.set (f : Flag) (prior : Option FlagValue) (v : String) : Except String FlagValue :=
  let bad (why : String) : Except String FlagValue :=
    .error ("invalid argument " ++ Text.Quoted.quote v ++ " for " ++ Text.Quoted.quote f.shownName ++
      " flag: " ++ why)
  match f.kind with
  | .truth =>
    match Literal.parseTruth v with
    | .ok b => .ok (.truth b)
    | .error e => bad ("strconv.ParseBool: parsing " ++ Text.Quoted.quote v ++ ": " ++ e)
  | .text => .ok (.text v)
  | .texts =>
    match prior with
    | some (.texts xs) => .ok (.texts (xs ++ [v]))
    | _ => .ok (.texts [v])
  | .whole =>
    match Literal.parseWhole v with
    | .ok n => .ok (.whole n)
    | .error e => bad ("strconv.ParseInt: parsing " ++ Text.Quoted.quote v ++ ": " ++ e)

/-- Records a flag's value. -/
def record (flags : List (String × FlagValue)) (f : Flag) (v : String) :
    Except String (List (String × FlagValue)) := do
  let x ← f.set (flags.lookup f.name) v
  pure ((flags.filter (·.1 ≠ f.name)) ++ [(f.name, x)])

/-- Reads a run of shorthands: `cs` are the letters not yet read; gives the flags and the
arguments left after the run. -/
def shorts (flags : List Flag) : List Char → List String → List (String × FlagValue) →
    Except String (List (String × FlagValue) × List String)
  | [], rest, fs => .ok (fs, rest)
  | c :: more, rest, fs =>
    let run := String.ofList (c :: more)
    match flags.find? (·.short = some c) with
    | none => .error ("unknown shorthand flag: '" ++ c.toString ++ "' in -" ++ run)
    | some f =>
      match more, f.kind, rest with
      | '=' :: v@(_ :: _), _, _ => (record fs f (String.ofList v)).map (·, rest)
      | _, .truth, _ => (record fs f "true").bind fun fs => shorts flags more rest fs
      | _ :: _, _, _ => (record fs f (String.ofList more)).map (·, rest)
      | [], _, v :: rest' => (record fs f v).map (·, rest')
      | [], _, [] => .error ("flag needs an argument: '" ++ c.toString ++ "' in -" ++ run)

/-- Reads the arguments of a run against a set of flags; `fuel` bounds the steps. -/
def readArgs (flags : List Flag) : Nat → List String → Given → Except String Given
  | 0, _, g => .ok g
  | _, [], g => .ok g
  | fuel + 1, a :: rest, g =>
    if a = "--" then .ok { g with args := g.args ++ rest }
    else if a.startsWith "--" then
      let body := (a.drop 2).toString
      let name := (body.takeWhile (· ≠ '=')).toString
      let inline := if body.contains '=' then some (body.dropWhile (· ≠ '=') |>.drop 1 |>.toString) else none
      if name = "" || name.startsWith "-" || body.startsWith "=" then .error ("bad flag syntax: " ++ a)
      else
        match flags.find? (·.name = name) with
        | none => .error ("unknown flag: --" ++ name)
        | some f =>
          let given : Except String (String × List String) :=
            match inline, f.kind, rest with
            | some v, _, _ => .ok (v, rest)
            | none, .truth, _ => .ok ("true", rest)
            | none, _, v :: rest' => .ok (v, rest')
            | none, _, [] => .error ("flag needs an argument: " ++ a)
          match given with
          | .error e => .error e
          | .ok (v, rest) =>
            match record g.flags f v with
            | .ok fs => readArgs flags fuel rest { g with flags := fs }
            | .error e => .error e
    else if a.startsWith "-" && a.length > 1 then
      match shorts flags (a.drop 1).toString.toList rest g.flags with
      | .ok (fs, rest) => readArgs flags fuel rest { g with flags := fs }
      | .error e => .error e
    else readArgs flags fuel rest { g with args := g.args ++ [a] }

/-- Reads arguments; flags and other arguments may come in any order. -/
def parse (flags : List Flag) (args : List String) : Except String Given :=
  readArgs flags (args.length + 1) args ⟨[], []⟩

/-! ## The usage listing -/

/-- The word naming a flag's kind of value in the listing. -/
def FlagKind.word : FlagKind → String
  | .truth => ""
  | .text => "string"
  | .texts => "stringArray"
  | .whole => "int"

/-- The left part of a flag's line: shorthand, name and kind. -/
def Flag.head (f : Flag) : String :=
  (match f.short with
    | some c => "  -" ++ c.toString ++ ", --" ++ f.name
    | none => "      --" ++ f.name) ++
  (if f.kind.word = "" then "" else " " ++ f.kind.word)

/-- The right part of a flag's line: usage and, when not the zero, the default. -/
def Flag.tail (f : Flag) : String :=
  f.usage ++
    (if f.default = "" then ""
     else if f.kind = .text then " (default " ++ Text.Quoted.quote f.default ++ ")"
     else " (default " ++ f.default ++ ")")

/-- The listing of flags in name order, usage texts in one column two blanks right of the
longest left part. -/
def usages (flags : List Flag) : String :=
  let fs := flags.mergeSort (fun a b => decide (a.name ≤ b.name))
  let width := fs.foldl (fun w f => max w f.head.length) 0
  String.join (fs.map fun f =>
    f.head ++ String.ofList (List.replicate (width - f.head.length + 3) ' ') ++ f.tail ++ "\n")

end ConfigTables.Command
