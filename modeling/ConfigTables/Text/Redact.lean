/-!
# Redacting what varies from run to run

Output that names session ids, clock times and durations differs between two runs of the
same command. Redaction replaces each such piece with a fixed placeholder, so that two runs
can be compared as text. The rules run one after another over the whole text, each
replacing every match from left to right:

1. a UUID becomes `<uuid>`;
2. an RFC 3339 time becomes `<time>`;
3. a date and time `YYYY-MM-DD hh:mm:ss` becomes `0000-00-00 00:00:00`;
4. the number of a JSON `"duration_ms"` member becomes `0`;
5. a duration in milliseconds with two decimals (`12.34ms`), with the blanks after it,
   becomes `0.00ms` padded with blanks to the same length, so table columns keep their
   width;
6. the eight hex digits of a short session id after `Load ` or `│ ` become `########`;
7. a line's leading clock time `hh:mm:ss.mmm` (after a colour code, if any) becomes the
   text `hh:mm:ss.mmm`;
8. the value of a `duration=` field becomes `<d>`, and that of a `stack=` field `<stack>`.
-/

namespace ConfigTables.Text.Redact

/-- A rule at the head of a text: the replacement and the rest of the text when the rule
matches there. -/
abbrev Rule := List Char → Option (List Char × List Char)

/-- Replaces every match of a rule from left to right; after a match the search goes on
behind it. The fuel bounds the characters looked at. -/
def replaceAllFuel (r : Rule) : Nat → List Char → List Char
  | 0, s => s
  | _ + 1, [] => []
  | n + 1, c :: rest =>
    match r (c :: rest) with
    | some (repl, after) => repl ++ replaceAllFuel r n after
    | none => c :: replaceAllFuel r n rest

/-- Replaces every match of a rule in a text. -/
def replaceAll (r : Rule) (s : String) : String :=
  String.ofList (replaceAllFuel r (s.length + 1) s.toList)

/-! ## Pieces of patterns -/

/-- Skips exactly `n` characters that pass a test. -/
def exactly (ok : Char → Bool) : Nat → List Char → Option (List Char)
  | 0, cs => some cs
  | _ + 1, [] => none
  | n + 1, c :: cs => if ok c then exactly ok n cs else none

/-- Skips one or more characters that pass a test. -/
def some1 (ok : Char → Bool) : List Char → Option (List Char)
  | [] => none
  | c :: cs => if ok c then some (cs.dropWhile ok) else none

/-- Skips a fixed text. -/
def literal : List Char → List Char → Option (List Char)
  | [], cs => some cs
  | _ :: _, [] => none
  | p :: ps, c :: cs => if p = c then literal ps cs else none

/-- Lower-case hexadecimal digits. -/
def isHex (c : Char) : Bool := c.isDigit || ('a' ≤ c && c ≤ 'f')

/-- Skips `n` decimal digits. -/
def digits (n : Nat) : List Char → Option (List Char) := exactly Char.isDigit n

/-- Skips `YYYY-MM-DD`, then a separator, then `hh:mm:ss`. -/
def dateTime (sep : Char) (cs : List Char) : Option (List Char) := do
  let r ← digits 4 cs
  let r ← literal ['-'] r
  let r ← digits 2 r
  let r ← literal ['-'] r
  let r ← digits 2 r
  let r ← literal [sep] r
  let r ← digits 2 r
  let r ← literal [':'] r
  let r ← digits 2 r
  let r ← literal [':'] r
  digits 2 r

/-! ## The rules -/

/-- A UUID: groups of 8, 4, 4, 4 and 12 hex digits joined by dashes. -/
def uuid : Rule := fun cs => do
  let r ← exactly isHex 8 cs
  let r ← literal ['-'] r
  let r ← exactly isHex 4 r
  let r ← literal ['-'] r
  let r ← exactly isHex 4 r
  let r ← literal ['-'] r
  let r ← exactly isHex 4 r
  let r ← literal ['-'] r
  let r ← exactly isHex 12 r
  some ("<uuid>".toList, r)

/-- A zone: `Z` or an offset `+hh:mm` / `-hh:mm`. -/
def zone : List Char → Option (List Char)
  | 'Z' :: r => some r
  | c :: r =>
    if c = '+' || c = '-' then do
      let r ← digits 2 r
      let r ← literal [':'] r
      digits 2 r
    else none
  | [] => none

/-- An RFC 3339 time, with optional fractional seconds. -/
def rfc3339 : Rule := fun cs => do
  let r ← dateTime 'T' cs
  let r := match r with
    | '.' :: more => (some1 Char.isDigit more).getD r
    | _ => r
  let r ← zone r
  some ("<time>".toList, r)

/-- A date and a time of day separated by a blank. -/
def dateAndTime : Rule := fun cs => do
  let r ← dateTime ' ' cs
  some ("0000-00-00 00:00:00".toList, r)

/-- The number of a JSON `"duration_ms"` member. -/
def durationMember : Rule := fun cs => do
  let r ← literal "\"duration_ms\": ".toList cs
  let r ← some1 (fun c => c.isDigit || c = '.' || c = '-' || c = '+' || c = 'e' || c = 'E') r
  some ("\"duration_ms\": 0".toList, r)

/-- Milliseconds with two decimals and the blanks after them, replaced by `0.00ms` padded to
the same length. -/
def millis : Rule := fun cs => do
  let r ← some1 Char.isDigit cs
  let r ← literal ['.'] r
  let r ← digits 2 r
  let r ← literal ['m', 's'] r
  let r := r.dropWhile (· = ' ')
  let width := cs.length - r.length
  some ("0.00ms".toList ++ List.replicate (width - 6) ' ', r)

/-- A short session id after `Load ` or `│ `. -/
def shortSession : Rule := fun cs => do
  let (lead, r) ← match literal "Load ".toList cs with
    | some r => some ("Load ".toList, r)
    | none => (literal "│ ".toList cs).map ("│ ".toList, ·)
  let r ← exactly isHex 8 r
  some (lead ++ "########".toList, r)

/-- The value of a `duration=` field, up to the next blank. -/
def durationField : Rule := fun cs => do
  let r ← literal "duration=".toList cs
  let r ← some1 (fun c => c ≠ ' ' && c ≠ '\n') r
  some ("duration=<d>".toList, r)

/-- The rest of a quoted text after its opening quote, up to and after the closing one. -/
def afterQuote : List Char → Option (List Char)
  | [] => none
  | '"' :: r => some r
  | '\\' :: _ :: r => afterQuote r
  | _ :: r => afterQuote r

/-- The quoted value of a `stack=` field. -/
def stackField : Rule := fun cs => do
  let r ← literal "stack=\"".toList cs
  let r ← afterQuote r
  some ("stack=<stack>".toList, r)

/-- A colour code: escape, bracket, digits and semicolons, then `m`. -/
def colourCode (cs : List Char) : Option (List Char × List Char) := do
  let r ← literal ['\x1b', '['] cs
  let r := r.dropWhile (fun c => c.isDigit || c = ';')
  let r ← literal ['m'] r
  some (cs.take (cs.length - r.length), r)

/-- A line with its leading clock time replaced. -/
def lineClock (line : String) : String :=
  let cs := line.toList
  let (code, r) := (colourCode cs).getD ([], cs)
  let clock : Option (List Char) := do
    let r ← digits 2 r
    let r ← literal [':'] r
    let r ← digits 2 r
    let r ← literal [':'] r
    let r ← digits 2 r
    let r ← literal ['.'] r
    digits 3 r
  match clock with
  | some rest => String.ofList (code ++ "hh:mm:ss.mmm".toList ++ rest)
  | none => line

/-- Redacts a text by all the rules, in order. -/
def redact (s : String) : String :=
  let s := [uuid, rfc3339, dateAndTime, durationMember, millis, shortSession].foldl
    (fun s r => replaceAll r s) s
  let s := "\n".intercalate ((s.splitOn "\n").map lineClock)
  replaceAll stackField (replaceAll durationField s)

/-- The lines of a log, each redacted, sorted: lines written at once may come in any order. -/
def redactLog (lines : List String) : List String :=
  (lines.map redact).mergeSort (fun a b => decide (a ≤ b))

end ConfigTables.Text.Redact
