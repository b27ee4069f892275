import ConfigTables.Log.Record
import ConfigTables.Text.Chars
import ConfigTables.Text.CaseMap
import ConfigTables.Time.Duration
import ConfigTables.Time.Civil
/-!
# Log lines

A record is written as one line: the clock time, a three-letter level (`DBG`, `INF`, `WRN`,
`ERR`), the message, then `cat=<category>` and the fields as `key=value`, separated by
blanks. Fields carrying nothing are left out: an empty text, a zero duration, the zero time
and a null; an empty message is left out too. A key or value is quoted (with backslash
escapes) when it is empty or holds white space, a quote, an equals sign, a replacement
character or a character that does not print, escape characters and DEL apart; the message
never is. Without colour, escape sequences are taken out of keys and values first, and a
replacement character ends them.

Fields are read in pairs. A field list of odd length is first given `<missing>` as its last
value; a key that is not a text then stands alone as the value of `!BADKEY`, and so does a
last text with nothing after it.

With colour, the time and the keys are faint, and the levels above debug are bright green,
yellow and red.

A logger writes records at or above its level while it is enabled; levels other than the
four known ones count as `info`.
-/

namespace ConfigTables.Log

/-- Reads a level name as configuration files give it: blanks around it and case do not
matter, and the empty name is `info`. An unknown name is refused and reads as `info`. -/
def parseLevel (s : String) : Level × Option String :=
  match Text.CaseMap.lower (Text.Blank.trim s) with
  | "debug" => (.debug, none)
  | "info" | "" => (.info, none)
  | "warn" | "warning" => (.warn, none)
  | "error" => (.error, none)
  | _ => (.info, some ("unknown log level " ++ Text.Quoted.quote s))

/-- Whether an ASCII character may stand in an unquoted key or value: the printable ones
other than the quote and the backslash, DEL, and the escape character that starts a colour. -/
def safeAscii (c : Char) : Bool :=
  (0x20 ≤ c.toNat && c.toNat ≤ 0x7F && c ≠ '"' && c ≠ '\\') || c = '\x1b'

/-- Whether a value's text must be quoted: it is empty, or holds a blank, an equals sign, an
ASCII character that is not safe (a backslash apart), a replacement character, or a
character beyond ASCII that is white space or does not print. -/
def needsQuoting (s : String) : Bool :=
  s.isEmpty || s.toList.any fun c =>
    if c.toNat < 0x80 then c ≠ '\\' && (c = ' ' || c = '=' || !safeAscii c)
    else c.toNat = 0xFFFD || Text.Blank.isBlank c || !Text.Printable.printable c

/-- Whether a character ends an escape sequence: a letter (beyond ASCII, one with a case). -/
def endsEscape (c : Char) : Bool :=
  c.isAlpha || (c.toNat ≥ 0x80 && (Text.CaseMap.toLower c ≠ c || Text.CaseMap.toUpper c ≠ c))

/-- Characters without escape sequences, each taken to run from an escape character to the
next letter; `inside` says whether one is open. A replacement character ends the text. -/
def dropEscapes : List Char → Bool → List Char
  | [], _ => []
  | c :: rest, inside =>
    if c = '\uFFFD' then []
    else if c = '\x1b' then dropEscapes rest true
    else if inside then dropEscapes rest (!endsEscape c)
    else c :: dropEscapes rest false

/-- A text without escape sequences, cut at its first replacement character. -/
def stripEscapes (s : String) : String :=
  String.ofList (dropEscapes s.toList false)

/-- A key or a value as a line shows it: without its escape sequences when the line has no
colour, then quoted when it needs to be. With colour, escape characters stay as they are
inside the quotes. -/
def shownText (colour : Bool) (s : String) : String :=
  let s := if colour then s else stripEscapes s
  if !needsQuoting s then s
  else if colour then (Text.Quoted.quote s).replace "\\x1b" "\x1b"
  else Text.Quoted.quote s

/-- A value's text before quoting. -/
def Value.shown : Value → String
  | .text s => s
  | .int n => toString n
  | .float x => x.formatG
  | .bool b => if b then "true" else "false"
  | .duration ns => Time.durationText ns
  | .time (some ns) => Time.rfc3339Nano ns
  | .time none => "0001-01-01T00:00:00Z"
  | .failure m => m
  | .texts xs => "[" ++ " ".intercalate xs ++ "]"
  | .null => "<nil>"

/-- Whether a field with this value is left out. -/
def Value.carriesNothing : Value → Bool
  | .text "" => true
  | .duration 0 => true
  | .time none => true
  | .null => true
  | _ => false

/-- Pairs fields into keys and values. -/
def pairs : List Value → List (String × Value)
  | [] => []
  | [.text k] => [("!BADKEY", .text k)]
  | .text k :: v :: rest => (k, v) :: pairs rest
  | x :: rest => ("!BADKEY", x) :: pairs rest

/-- The three-letter name of a level. -/
def Level.short (l : Level) : String :=
  match l.effective.code with
  | 0 => "DBG"
  | 2 => "WRN"
  | 3 => "ERR"
  | _ => "INF"

/-- The colour code of a level, if it has one. -/
def Level.colour (l : Level) : Option String :=
  match l.effective.code with
  | 0 => none
  | 2 => some "\x1b[93m"
  | 3 => some "\x1b[91m"
  | _ => some "\x1b[92m"

/-- The escape codes for faint text and for going back to plain text. -/
def faint : String := "\x1b[2m"
def reset : String := "\x1b[0m"

/-- One record as a line (ending in a line feed), written at the given clock time. -/
def Record.line (r : Record) (colour : Bool) (clock : String) : String :=
  let fields := if r.fields.length % 2 = 1 then r.fields ++ [.text "<missing>"] else r.fields
  let attrs := (pairs (.text "cat" :: .text r.category :: fields)).filter (!·.2.carriesNothing)
  let time := if colour then faint ++ clock ++ reset else clock
  let level := match colour, r.level.colour with
    | true, some c => c ++ r.level.short ++ reset
    | _, _ => r.level.short
  let attrText := fun (a : String × Value) =>
    let k := shownText colour a.1
    let v := shownText colour a.2.shown
    (if colour then faint ++ k ++ "=" ++ reset else k ++ "=") ++ v
  let parts := [time, level] ++ (if r.message.isEmpty then [] else [r.message]) ++ attrs.map attrText
  " ".intercalate parts ++ "\n"

/-- Where a logger writes. -/
inductive Target where
  | buffer
  | stderr
  | file (path : String)
  deriving Repr, Inhabited, DecidableEq

/-- A logger: where it writes, whether in colour, its level, and whether it is enabled. -/
structure Logger where
  target : Target
  colour : Bool
  level : Level
  enabled : Bool
  deriving Repr, Inhabited

/-- A logger writing every level. -/
def Logger.create (target : Target) (colour : Bool) : Logger := ⟨target, colour, .debug, true⟩

/-- Sets the level; unknown levels count as `info`. -/
def Logger.setLevel (l : Logger) (lv : Level) : Logger := { l with level := lv.effective }

/-- The line a logger writes for a record, if any. -/
def Logger.line? (l : Logger) (clock : String) (r : Record) : Option String :=
  if l.enabled && decide (l.level.code ≤ r.level.effective.code) then some (r.line l.colour clock)
  else none

/-- The record of an error: its text as the last field `error` (`<nil>` for none), added
before an odd field list is completed. -/
def errorRecord (category message : String) (err : Option String) (fields : List Value) : Record :=
  ⟨.error, category, message, fields ++ [.text "error", .text (err.getD "<nil>")]⟩

end ConfigTables.Log
