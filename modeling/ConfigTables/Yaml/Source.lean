import ConfigTables.Yaml.Node
/-!
# Reading position in YAML text

A cursor walks the characters of a YAML text (line breaks normalised to `\n`), keeping the
line and column it is at and the comment lines it stepped over. Faults are reported the way
YAML readers word them: `yaml: line <n>: <problem>`, where the line is that of the
construct being read when the fault was found, if known, else that of the fault itself, and
no line at all when that comes out as the first line.
-/

namespace ConfigTables.Yaml

/-- A fault met while reading. `scanner` faults count lines from one, the others from zero;
`context` is the line of the construct being read (0 when none). -/
structure Problem where
  scanner : Bool
  context : Nat
  mark : Nat
  message : String
  deriving Repr, Inhabited

/-- The text of a fault. -/
def Problem.text (p : Problem) : String :=
  let shift := if p.scanner then 1 else 0
  let line := if p.context ≠ 0 then p.context + shift else if p.mark ≠ 0 then p.mark + shift else 0
  "yaml: " ++ (if line ≠ 0 then "line " ++ toString line ++ ": " else "") ++ p.message

/-- A comment line stepped over: its line (from 0), column and text after the `#`. -/
structure Note where
  row : Nat
  col : Nat
  text : String
  /-- Whether something stood before it on its line. -/
  trailing : Bool
  deriving Repr, Inhabited

/-- A position in the text, with the comments stepped over so far, newest first. -/
structure Cur where
  i : Nat
  row : Nat
  col : Nat
  notes : List Note
  deriving Inhabited

/-- The text as characters, a byte order mark at its start dropped and every `\r\n` and lone
`\r` turned into `\n`. -/
def charsOf (t : String) : Array Char :=
  let rec go : List Char → List Char
    | '\r' :: '\n' :: rest => '\n' :: go rest
    | '\r' :: rest => '\n' :: go rest
    | c :: rest => c :: go rest
    | [] => []
  let cs := match t.toList with
    | '\uFEFF' :: rest => rest
    | cs => cs
  (go cs).toArray

/-- The start of the text. -/
def Cur.start : Cur := ⟨0, 0, 0, []⟩

/-- The character at the cursor. -/
def at? (s : Array Char) (c : Cur) : Option Char := s[c.i]?

/-- The character `k` places after the cursor. -/
def ahead? (s : Array Char) (c : Cur) (k : Nat) : Option Char := s[c.i + k]?

/-- Whether a character is a blank. -/
def isBlank (ch : Char) : Bool := ch = ' ' || ch = '\t'

/-- Whether a place holds a blank, a line break or the end. -/
def blankz : Option Char → Bool
  | none => true
  | some ch => ch = ' ' || ch = '\t' || ch = '\n'

/-- Whether a place holds a line break or the end. -/
def breakz : Option Char → Bool
  | none => true
  | some ch => ch = '\n'

/-- Whether a character opens, closes or separates flow collections. -/
def isFlowIndicator (ch : Char) : Bool :=
  ch = ',' || ch = '[' || ch = ']' || ch = '{' || ch = '}'

/-- Steps over one character. -/
def step (s : Array Char) (c : Cur) : Cur :=
  match s[c.i]? with
  | some '\n' => { c with i := c.i + 1, row := c.row + 1, col := 0 }
  | some _ => { c with i := c.i + 1, col := c.col + 1 }
  | none => c

/-- Steps over `n` characters. -/
def stepN (s : Array Char) (c : Cur) : Nat → Cur
  | 0 => c
  | n + 1 => stepN s (step s c) n

/-- Steps over blanks on the current line. -/
def skipBlanks (s : Array Char) (c : Cur) : Cur :=
  let rec go : Nat → Cur → Cur
    | 0, c => c
    | f + 1, c => if (at? s c).any isBlank then go f (step s c) else c
  go (s.size - c.i + 1) c

/-- Reads up to the end of the line (the break is not read). -/
def readToBreak (s : Array Char) (c : Cur) : String × Cur :=
  let rec go : Nat → List Char → Cur → List Char × Cur
    | 0, acc, c => (acc, c)
    | f + 1, acc, c =>
      match at? s c with
      | none | some '\n' => (acc, c)
      | some ch => go f (ch :: acc) (step s c)
  let (acc, c') := go (s.size - c.i + 1) [] c
  (String.ofList acc.reverse, c')

/-- Whether only blanks stand before the cursor on its line. -/
def firstOnLine (s : Array Char) (c : Cur) : Bool :=
  (List.range c.col).all fun k => (s[c.i - 1 - k]?).any isBlank

/-- Whether a document marker (`---` or `...` followed by a blank or the end) starts at the
cursor, at the start of a line. -/
def atDocMarker (s : Array Char) (c : Cur) : Bool :=
  c.col = 0 &&
    ((at? s c = some '-' && ahead? s c 1 = some '-' && ahead? s c 2 = some '-') ||
     (at? s c = some '.' && ahead? s c 1 = some '.' && ahead? s c 2 = some '.')) &&
    blankz (ahead? s c 3)

/-- Steps over blanks, comments and line breaks up to the next content, noting every
comment. -/
def skipGap (s : Array Char) (c : Cur) : Cur :=
  let rec go : Nat → Cur → Cur
    | 0, c => c
    | f + 1, c =>
      match at? s c with
      | some ' ' | some '\t' | some '\n' => go f (step s c)
      | some '#' =>
        let trailing := !firstOnLine s c
        let (txt, c') := readToBreak s c
        go f { c' with notes := ⟨c.row, c.col, txt, trailing⟩ :: c'.notes }
      | _ => c
  go (s.size - c.i + 1) c

/-- The number of spaces that indent the line the cursor is on. -/
def lineIndent (s : Array Char) (c : Cur) : Nat :=
  let start := c.i - c.col
  let rec go : Nat → Nat → Nat
    | 0, n => n
    | f + 1, n => if s[start + n]? = some ' ' then go f (n + 1) else n
  go (c.col + 1) 0

/-- Whether a tab stands in the indentation of the cursor's line before the cursor. -/
def tabIndented (s : Array Char) (c : Cur) : Bool :=
  firstOnLine s c && (List.range c.col).any fun k => s[c.i - 1 - k]? = some '\t'

/-- A scanner fault at the cursor. -/
def scanFault (c : Cur) (message : String) : Problem := ⟨true, c.row, c.row, message⟩

/-- A parser fault in a construct started at `start`, found at `c`. -/
def parseFault (start c : Cur) (message : String) : Problem := ⟨false, start.row, c.row, message⟩

end ConfigTables.Yaml
