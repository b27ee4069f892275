import ConfigTables.Present.Markdown.Emphasis
/-!
# Reading inline text

The lines of a block, joined by line feeds, are read from left to right into inline nodes.
Reading goes in stretches: a stretch starts at the start of a line or right after a node,
and runs to the end of its line or to the next node.

**Text.** Text is cut before every character that may start a construct: a blank, `*`,
`_`, `~`, `(`, a backtick, `[`, `!`, `]` and `<`, unless a backslash escapes it, and, at the
start of a stretch, any character but other punctuation. Text cut off this way joins the
text just before it when nothing came between, but the rest of a line after the last cut
is always a node of its own, carrying the line break that follows it. A backslash at the
end of a line, or two blanks there, make the break hard and are left out of the text;
blanks that close a line are left out too, except before a backslash. Backslash escapes
stay in the text as written: they are resolved when the text is drawn.

**Constructs.** At a cut:

* a blank, `(` or a stretch start may begin a bare address (unless a bracket is open);
* a run of `*` or `_`, or of one or two `~` (not after another `~`), is an emphasis run;
* a run of backticks opens a code span that closes at the next run of as many, over line
  feeds if need be; one blank or line feed at each end is dropped when both ends have one
  and it is not all blanks. A run that closes nothing is text of its own;
* `[` and `![` are brackets that may open a link or an image;
* `]` closes the newest bracket still open. Right after it may come the target in
  parentheses (with a title in quotes or parentheses after it), or a reference to a
  defined label in brackets (`[label]`, or `[]` for the text itself); else the text itself
  must name a defined label. A link whose text holds a link does not close, and a bracket
  that closes nothing becomes text. The runs after the bracket are paired first, and what
  stands after the bracket becomes the link's content;
* `<` may begin an automatic link or inline HTML.

Once the text is read, the runs are paired into emphasis, and the brackets still open are
text of their own.
-/

namespace ConfigTables.Present.Markdown

/-- The text of a block being read: its characters, its lines joined by line feeds, and
the link definitions of the document. -/
structure Source where
  chars : Array Char
  defs : List (String × String)

/-- The character at a position, if any. -/
def Source.at (s : Source) (i : Nat) : Option Char := s.chars[i]?

/-- The characters from a position on. -/
def Source.from (s : Source) (i : Nat) : List Char := (s.chars.extract i s.chars.size).toList

/-- The text between two positions. -/
def Source.slice (s : Source) (a b : Nat) : String := String.ofList (s.chars.extract a b).toList

/-- The rest of the line at a position, with its closing line feed if it has one. -/
def Source.line (s : Source) (i : Nat) : List Char :=
  let rest := s.from i
  let body := rest.takeWhile (· ≠ '\n')
  if body.length < rest.length then body ++ ['\n'] else body

/-- The character before a position; a line feed at the start. -/
def Source.before (s : Source) (i : Nat) : Char :=
  match i with
  | 0 => '\n'
  | j + 1 => (s.at j).getD '\n'

/-- The position after the blanks and line breaks at a position. -/
def Source.skipSpaces (s : Source) (i : Nat) : Nat := i + ((s.from i).takeWhile isAsciiSpace).length

/-! ## Lines -/

/-- How the line read from a position ends: where reading it stops, whether a line break
follows, whether the closing blanks of its text stay (before a backslash break), and where
the next line starts, if there is one. -/
structure LineEnd where
  stop : Nat
  lineBreak : Bool
  keepBlanks : Bool
  next : Option Nat
  deriving Repr, Inhabited

/-- How the line read from a position ends. A backslash (that no other backslash escapes)
before the line feed, or two blanks there, make a hard break left out of the text; a
carriage return before the line feed goes with them. -/
def Source.lineEnd (s : Source) (p : Nat) : LineEnd :=
  let ln := s.line p
  let n := ln.length
  let ch := fun (k : Nat) => ln[k]?.getD ' '
  let newline := ln.getLast? = some '\n'
  let next := if newline then some (p + n) else none
  if newline && ((n ≥ 3 && ch (n - 2) = '\\' && ch (n - 3) ≠ '\\') || (n = 2 && ch 0 = '\\')) then
    ⟨p + n - 2, true, true, next⟩
  else if newline && ((n ≥ 4 && ch (n - 3) = '\\' && ch (n - 2) = '\r' && ch (n - 4) ≠ '\\') ||
      (n = 3 && ch 0 = '\\' && ch 1 = '\r')) then
    ⟨p + n - 3, true, true, next⟩
  else if newline && n ≥ 3 && ch (n - 3) = ' ' && ch (n - 2) = ' ' then ⟨p + n - 3, true, false, next⟩
  else if newline && n ≥ 4 && ch (n - 4) = ' ' && ch (n - 3) = ' ' && ch (n - 2) = '\r' then
    ⟨p + n - 4, true, false, next⟩
  else if newline then ⟨p + n - 1, true, false, next⟩
  else ⟨p + n, false, false, next⟩

/-! ## Code spans -/

/-- Where the run of `n` backticks closing a code span starts in the text after its opening
run: the first run of exactly `n`. -/
def closingTicks (n : Nat) (body : List Char) : Option Nat :=
  let fence := List.replicate n '`'
  (List.range body.length).find? fun i =>
    ((body.drop i).take n == fence) && (body.drop (i + n)).head? != some '`' &&
      (i == 0 || body[i - 1]? != some '`')

/-- The text of a code span: one blank or line feed is dropped at each end when both ends
have one and the text is not all blanks. -/
def codeText (inner : List Char) : String :=
  let edge := fun (c : Char) => c = ' ' || c = '\n'
  if !inner.all isAsciiSpace && inner.head?.any edge && inner.getLast?.any edge then
    String.ofList (inner.drop 1).dropLast
  else String.ofList inner

/-- A code span opened by the backticks at a position, and the position after it; a run of
backticks that closes nothing is text of its own. -/
def Source.codeSpan (s : Source) (pos : Nat) : Cell × Nat :=
  let rest := s.from pos
  let n := (rest.takeWhile (· = '`')).length
  let body := rest.drop n
  match closingTicks n body with
  | some i => (.node (.code (codeText (body.take i))), pos + n + i + n)
  | none => (.text (String.ofList (List.replicate n '`')) pos (pos + n) false, pos + n)

/-! ## Link targets -/

/-- Where the `>` closing a target in angle brackets stands in the line after its `<`;
a backslash escapes the punctuation after it. -/
def pointyEnd : List Char → Nat → Option Nat
  | [], _ => none
  | '\\' :: d :: rest, i => if isPunct d then pointyEnd rest (i + 2) else pointyEnd (d :: rest) (i + 1)
  | '>' :: _, i => some i
  | _ :: rest, i => pointyEnd rest (i + 1)

/-- The length of a target not in angle brackets: up to a blank, a line break or a `)`
that closes no `(` of its own; a backslash escapes the punctuation after it. -/
def plainTargetLength : List Char → Nat → Nat
  | [], _ => 0
  | '\\' :: d :: rest, opened =>
    if isPunct d then 2 + plainTargetLength rest opened else 1 + plainTargetLength (d :: rest) opened
  | '(' :: rest, opened => 1 + plainTargetLength rest (opened + 1)
  | ')' :: rest, opened => if opened = 0 then 0 else 1 + plainTargetLength rest (opened - 1)
  | c :: rest, opened => if isAsciiSpace c then 0 else 1 + plainTargetLength rest opened

/-- The target of a link at a position, as written, and the position after it: in angle
brackets on one line, or a non-empty run of characters. -/
def Source.target (s : Source) (p : Nat) : Option (String × Nat) :=
  let p := s.skipSpaces p
  match s.line p with
  | '<' :: rest => (pointyEnd rest 0).map fun i => (String.ofList (rest.take i), p + i + 2)
  | ln =>
    let n := plainTargetLength ln 0
    if n = 0 then none else some (String.ofList (ln.take n), p + n)

/-- Where the character closing a title or a label stands in the text after its opening
one: a backslash escapes the punctuation after it, and another opening character ends the
search. -/
def closingAt (opener closer : Char) : List Char → Nat → Option Nat
  | [], _ => none
  | '\\' :: d :: rest, i =>
    if isPunct d then closingAt opener closer rest (i + 2)
    else closingAt opener closer (d :: rest) (i + 1)
  | c :: rest, i =>
    if c = closer then some i
    else if c = opener then none
    else closingAt opener closer rest (i + 1)

/-- The position after the title of a link at a position: in double or single quotes or in
parentheses. -/
def Source.title (s : Source) (p : Nat) : Option Nat :=
  let p := s.skipSpaces p
  match s.at p with
  | some o =>
    if o = '"' || o = '\'' || o = '(' then
      let closer := if o = '(' then ')' else o
      (closingAt o closer (s.from (p + 1)) 0).map fun i => p + i + 2
    else none
  | none => none

/-- The target of an inline link whose `(` stands at a position, and the position after its
`)`: the target may be missing, and a title may follow it. -/
def Source.inlineLink (s : Source) (p : Nat) : Option (String × Nat) :=
  let q := s.skipSpaces (p + 1)
  if s.at q = some ')' then some ("", q + 1)
  else
    match s.target q with
    | none => none
    | some (url, q) =>
      let q := s.skipSpaces q
      if s.at q = some ')' then some (url, q + 1)
      else
        match s.title q with
        | none => none
        | some q =>
          let q := s.skipSpaces q
          if s.at q = some ')' then some (url, q + 1) else none

/-- What a reference after a link's text reads: a defined label (its target and the
position after it), a label that is not defined, or no reference at all. -/
inductive Reference where
  | found (url : String) (next : Nat)
  | missing
  | none
  deriving Inhabited

/-- The target a label names, unless the label is longer than 999 bytes. -/
def Source.lookup (s : Source) (label : String) : Option String :=
  if label.utf8ByteSize > 999 then none else s.defs.lookup (labelKey label.toList)

/-- Reads the reference whose `[` stands at position `p` after the text of a link that
runs from `start` to `close`; `[]` names the text itself. -/
def Source.reference (s : Source) (start close p : Nat) : Reference :=
  let rest := s.from (p + 1)
  match closingAt '[' ']' rest 0 with
  | none => .none
  | some j =>
    let inner := rest.take j
    let label := if inner.all isAsciiSpace then s.slice start close else String.ofList inner
    match s.lookup label with
    | some url => .found url (p + j + 2)
    | none => .missing

/-! ## Reading -/

/-- The cells held newest first split at the newest open bracket: the cells after it
(newest first), whether it opens an image, where it starts, and the cells before it. -/
def splitAtBracket : List Cell → Option (List Cell × Bool × Nat × List Cell)
  | [] => none
  | .bracket image start :: before => some ([], image, start, before)
  | c :: more => (splitAtBracket more).map fun (after, image, start, before) => (c :: after, image, start, before)

/-- The `]` at a position closes the newest open bracket, if it can: gives the cells, and
the position after the link when one is made. A bracket that closes nothing becomes text,
joining the text just before it. -/
def Source.closeBracket (s : Source) (cells : List Cell) (pos : Nat) : List Cell × Option Nat :=
  match splitAtBracket cells with
  | none => (cells, none)
  | some (after, image, start, before) =>
    let width := if image then 2 else 1
    let failed := (after ++ joinText before (if image then "![" else "[") start (start + width), none)
    let made := fun (url : String) (q : Nat) =>
      (Cell.link image (settle after.reverse) url :: before, some q)
    let shortcut := fun (_ : Unit) =>
      match s.lookup (s.slice (start + width) pos) with
      | some url => made url (pos + 1)
      | none => failed
    if !image && Cell.linkAmong after.reverse then failed
    else
      match s.at (pos + 1) with
      | some '(' =>
        match s.inlineLink (pos + 1) with
        | some (url, q) => made url q
        | none => shortcut ()
      | some '[' =>
        match s.reference (start + width) pos (pos + 1) with
        | .found url q => made url q
        | .missing => failed
        | .none => shortcut ()
      | _ => shortcut ()

/-- A bare address at a position, after the blank, `(`, `*`, `_` or `~` there if any, while
no bracket is open: the cells with the address (that character joining the text before it)
and the position after it. -/
def Source.bareLink (s : Source) (cells : List Cell) (pos : Nat) : Option (List Cell × Nat) :=
  if cells.any Cell.isBracket then none
  else
    match s.line pos with
    | [] => none
    | c :: rest =>
      let lead := c = ' ' || c = '*' || c = '_' || c = '~' || c = '('
      match bareAddress? (if lead then rest else c :: rest) with
      | none => none
      | some (node, n) =>
        if lead then some (.node node :: joinText cells (String.singleton c) pos (pos + 1), pos + 1 + n)
        else some (.node node :: cells, pos + n)

/-- A run of the emphasis character at a position, with the characters around it. A run of
`~` must have one or two characters and not follow another `~`. -/
def Source.runAt (s : Source) (pos : Nat) : Option Run :=
  match s.line pos with
  | [] => none
  | c :: rest =>
    let n := 1 + (rest.takeWhile (· = c)).length
    let before := s.before pos
    if c = '~' && (n > 2 || before = '~') then none
    else some (Run.scan c pos n before (((c :: rest).drop n).head?.getD ' '))

/-- An automatic link or inline HTML at the `<` at a position. -/
def Source.angle (s : Source) (cells : List Cell) (pos : Nat) : Option (List Cell × Nat) :=
  let ln := s.line pos
  match autolink? (ln.drop 1) with
  | some (node, after) => some (.node node :: cells, pos + (ln.length - after.length))
  | none =>
    let rest := s.from (pos + 1)
    match inlineHtml? rest with
    | some after =>
      let n := rest.length - after.length
      some (.node (.html (String.ofList ('<' :: rest.take n))) :: cells, pos + 1 + n)
    | none => none

/-- The characters at which reading tries a construct: `' '` stands for a blank and for
the start of a stretch. -/
def isTrigger (c : Char) : Bool := " *_~(`[!]<".toList.contains c

/-- Tries the constructs of a trigger at a position: the cells after the try, and the
position after the node when one was made. -/
def Source.attempt (s : Source) (key : Char) (cells : List Cell) (pos : Nat) : List Cell × Option Nat :=
  let orText := fun (r : Option (List Cell × Nat)) =>
    match r with
    | some (cells, q) => (cells, some q)
    | none => (cells, none)
  if key = ' ' || key = '(' then orText (s.bareLink cells pos)
  else if key = '*' || key = '_' || key = '~' then
    match s.runAt pos with
    | some r => (.run r :: cells, some (pos + r.length))
    | none => orText (s.bareLink cells pos)
  else if key = '`' then
    let (cell, q) := s.codeSpan pos
    (cell :: cells, some q)
  else if key = '[' then (.bracket false pos :: cells, some (pos + 1))
  else if key = '!' then
    if s.at (pos + 1) = some '[' then (.bracket true pos :: cells, some (pos + 2)) else (cells, none)
  else if key = ']' then s.closeBracket cells pos
  else if key = '<' then orText (s.angle cells pos)
  else (cells, none)

/-- Where reading stands: the cells so far (newest first), the position of the next
character, where the text not yet in a cell starts, whether the position starts a stretch,
whether a backslash escapes the next character, and how the current line ends. -/
structure Scan where
  cells : List Cell
  pos : Nat
  mark : Nat
  fresh : Bool
  escaped : Bool
  line : LineEnd
  deriving Inhabited

/-- A stretch starting at a position, unless the text ends there. -/
def Source.stretch (s : Source) (cells : List Cell) (q : Nat) (escaped : Bool) : Option Scan :=
  if q ≥ s.chars.size then none else some ⟨cells, q, q, true, escaped, s.lineEnd q⟩

/-- The text that closes the line of a stretch: from the last cut to where the line's
reading stops, without closing blanks unless a backslash break follows. -/
def Source.closingText (s : Source) (r : Scan) : Cell :=
  let raw := (s.chars.extract r.mark r.line.stop).toList
  let kept := if r.line.keepBlanks then raw else (raw.reverse.dropWhile isAsciiSpace).reverse
  .text (String.ofList kept) r.mark (r.mark + kept.length) r.line.lineBreak

/-- Reads on from where reading stands; the fuel bounds the steps, each of which moves past
a character, a node or a line end. Gives the cells, newest first. -/
def Source.readOn (s : Source) : Nat → Scan → List Cell
  | 0, r => r.cells
  | fuel + 1, r =>
    if r.pos ≥ r.line.stop then
      let cells := s.closingText r :: r.cells
      match r.line.next.bind fun q => s.stretch cells q r.escaped with
      | some r' => s.readOn fuel r'
      | none => cells
    else
      match s.at r.pos with
      | none => r.cells
      | some c =>
        let blank := isAsciiSpace c && c ≠ '\r' && c ≠ '\n'
        let key := if blank || (r.fresh && !isPunct c) then ' ' else c
        let tries := ((isPunct c && !r.escaped) || blank || r.fresh) && isTrigger key
        let cells := if tries && !r.fresh then joinText r.cells (s.slice r.mark r.pos) r.mark r.pos else r.cells
        let (cells, made) := if tries then s.attempt key cells r.pos else (cells, none)
        match made with
        | some q =>
          match s.stretch cells q r.escaped with
          | some r' => s.readOn fuel r'
          | none => cells
        | none =>
          let mark := if tries then r.pos else r.mark
          s.readOn fuel ⟨cells, r.pos + 1, mark, false, !r.escaped && c = '\\', r.line⟩

/-- The inline nodes of the lines of a block, with the link definitions of the
document. -/
def inlinesOf (defs : List (String × String)) (lines : List String) : List Inline :=
  let s : Source := ⟨("\n".intercalate lines).toList.toArray, defs⟩
  match s.stretch [] 0 false with
  | none => []
  | some r => Cell.toInlines (settle (s.readOn (3 * (s.chars.size + 1)) r).reverse)

end ConfigTables.Present.Markdown
