import ConfigTables.Text.Chars
import ConfigTables.Text.Cells
/-!
# Text grids

Terminal text is measured in cells (`Text.Cells`): blocks and grids measure by clusters, so
that a character with its marks or an emoji sequence counts once, and word wrapping counts
character by character. Escape sequences take no cell in either measure. A block of text is
as wide as its widest line.

* Truncating a text to a width keeps the longest start that leaves room for the tail mark
  and adds the mark, and every escape sequence after it; a text that fits is kept whole.
* Word wrapping breaks lines at blanks so that lines stay within a limit; a word longer than
  the limit stays whole on a line of its own, and line feeds in the text are kept. The
  blanks at a break are dropped; waiting blanks count by their UTF-8 octets.
* A grid draws a header row and data rows in a box of light lines, every column one blank
  wider on each side than its widest cell, cells aligned left. The header row is one line
  high; a data row is as high as its cells wrap to the width inside their padding, tabs
  counting one octet there, and its cells show their tabs as four blanks, wrapped the same
  way and cut to the row's height.
-/

namespace ConfigTables.Present

/-- Whether a character ends an escape sequence: `@` to `Z` or `a` to `z`. -/
def endsEscape (c : Char) : Bool := ('@' ≤ c && c ≤ 'Z') || ('a' ≤ c && c ≤ 'z')

/-- The cells of the characters of a text outside escape sequences, counted character by
character; an escape sequence runs from the escape character to the next letter. -/
def printedWidth (cs : List Char) : Nat :=
  (cs.foldl (fun (acc : Nat × Bool) c =>
    if c = '\x1b' then (acc.1, true)
    else if acc.2 then (acc.1, !endsEscape c)
    else (acc.1 + Text.Cells.charCells c, false)) (0, false)).1

/-- The cells a line takes. -/
def lineWidth (s : String) : Nat := Text.Cells.cells s

/-- The lines of a text, split at line feeds. -/
def linesOf (s : String) : List String := s.splitOn "\n"

/-- The cells a block of text takes: the width of its widest line. -/
def textWidth (s : String) : Nat := (linesOf s).foldl (fun w l => max w (lineWidth l)) 0

/-- Blanks to fill a line up to a width. -/
def fill (s : String) (w : Nat) : String :=
  s ++ String.ofList (List.replicate (w - lineWidth s) ' ')

/-- A text cut to at most `w` cells, ending in `tail` when it was cut. -/
def truncate (s : String) (w : Nat) (tail : String) : String :=
  Text.Cells.truncate s w tail

/-- State of word wrapping: the text so far, the blanks and the word waiting, the width
of the current line, and whether an escape sequence is open. -/
structure Wrap where
  out : List Char
  space : List Char
  word : List Char
  lineLen : Nat
  escape : Bool

/-- The UTF-8 octets of the waiting blanks. -/
def Wrap.spaceLen (w : Wrap) : Nat := (String.ofList w.space).utf8ByteSize

/-- Puts the waiting blanks on the line. -/
def Wrap.addSpace (w : Wrap) : Wrap :=
  { w with lineLen := w.lineLen + w.spaceLen, out := w.out ++ w.space, space := [] }

/-- Puts the waiting word (after the waiting blanks) on the line. -/
def Wrap.addWord (w : Wrap) : Wrap :=
  if w.word.isEmpty then w
  else
    let w := w.addSpace
    { w with lineLen := w.lineLen + printedWidth w.word, out := w.out ++ w.word, word := [] }

/-- Starts a new line, dropping the waiting blanks. -/
def Wrap.addNewLine (w : Wrap) : Wrap :=
  { w with out := w.out ++ ['\n'], lineLen := 0, space := [] }

/-- Takes one character. An escape sequence joins the word and takes no cell. -/
def Wrap.step (limit : Int) (w : Wrap) (c : Char) : Wrap :=
  if c = '\x1b' then { w with word := w.word ++ [c], escape := true }
  else if w.escape then { w with word := w.word ++ [c], escape := !endsEscape c }
  else if c = '\n' then
    let w :=
      if w.word.isEmpty then
        if ((w.lineLen + w.spaceLen : Nat) : Int) > limit then { w with lineLen := 0, space := [] }
        else { w with out := w.out ++ w.space, space := [] }
      else w
    w.addWord.addNewLine
  else if Text.Blank.isBlank c then
    let w := w.addWord
    { w with space := w.space ++ [c] }
  else if c = '-' then
    let w := w.addSpace.addWord
    { w with out := w.out ++ [c] }
  else
    let w := { w with word := w.word ++ [c] }
    let ww := printedWidth w.word
    if ((w.lineLen + w.spaceLen + ww : Nat) : Int) > limit && (ww : Int) < limit then w.addNewLine else w

/-- A text wrapped at blanks to lines of at most `limit` cells where the words allow; a
limit of zero leaves the text as it is, and a negative one only drops trailing blanks. -/
def wordWrap (s : String) (limit : Int) : String :=
  if limit = 0 then s
  else String.ofList (s.toList.foldl (Wrap.step limit) ⟨[], [], [], 0, false⟩).addWord.out

/-- A text with every line indented by a prefix. -/
def indentLines (s prefix_ : String) : String :=
  "\n".intercalate ((linesOf s).map (prefix_ ++ ·))

/-- A text with tabs as four blanks, carriage returns before line feeds dropped and, when it
has several lines, every line filled to the width of the widest, as a styled block shows
it. -/
def block (s : String) : String :=
  let s := (s.replace "\t" "    ").replace "\r\n" "\n"
  let ls := linesOf s
  if ls.length ≤ 1 then s
  else
    let w := textWidth s
    "\n".intercalate (ls.map (fill · w))

/-- A horizontal line of a grid: the corner and joint characters around runs of the rule. -/
def rule (left mid right : String) (widths : List Nat) : String :=
  left ++ mid.intercalate (widths.map (fun w => String.ofList (List.replicate w '─'))) ++ right

/-! ## Cells of a grid

A cell is wrapped to the width inside its padding by a second kind of word wrapping, which
also breaks a word that is longer than the limit. Tabs and blanks wait between words and
count by their octets; `-` ends a word without counting; escape sequences and other
characters that take no cell join the word. A line feed is kept, and so are the blanks
before it when they fit. -/

/-- State of wrapping a cell: the text so far, the word and the blanks waiting, the width of
the current line and the cells of the waiting word. -/
structure CellWrap where
  out : List Char
  word : List Char
  space : List Char
  width : Nat
  wordLen : Nat

/-- The UTF-8 octets of the waiting blanks. -/
def CellWrap.spaceLen (w : CellWrap) : Nat := (String.ofList w.space).utf8ByteSize

/-- Puts the waiting blanks on the line. -/
def CellWrap.addSpace (w : CellWrap) : CellWrap :=
  { w with width := w.width + w.spaceLen, out := w.out ++ w.space, space := [] }

/-- Puts the waiting word (after the waiting blanks) on the line. -/
def CellWrap.addWord (w : CellWrap) : CellWrap :=
  if w.word.isEmpty then w
  else
    let w := w.addSpace
    { w with width := w.width + w.wordLen, out := w.out ++ w.word, word := [], wordLen := 0 }

/-- Starts a new line, dropping the waiting blanks. -/
def CellWrap.addNewline (w : CellWrap) : CellWrap :=
  { w with out := w.out ++ ['\n'], width := 0, space := [] }

/-- With no word waiting, keeps the waiting blanks when they fit on the line and drops them
otherwise. -/
def CellWrap.settleSpace (limit : Nat) (w : CellWrap) : CellWrap :=
  if w.wordLen ≠ 0 then w
  else if w.width + w.spaceLen > limit then { w with width := 0, space := [] }
  else { w with out := w.out ++ w.space, space := [] }

/-- Takes one unit of the text (`Text.Cells.units`). -/
def CellWrap.step (limit : Nat) (w : CellWrap) (u : List Char) : CellWrap :=
  let cw := Text.Cells.unitCells u
  let grow := fun (w : CellWrap) =>
    let w := if w.wordLen + cw > limit then w.addWord else w
    let w := { w with word := w.word ++ u, wordLen := w.wordLen + cw }
    if w.width + w.wordLen + w.spaceLen > limit then w.addNewline else w
  if cw = 0 then
    if u = ['\t'] then
      let w := w.addWord
      { w with space := w.space ++ u }
    else if u = ['\n'] then (w.settleSpace limit).addWord.addNewline
    else { w with word := w.word ++ u }
  else
    match u with
    | [' '] =>
      let w := w.addWord
      { w with space := w.space ++ u }
    | ['-'] =>
      let w := w.addSpace
      if w.width + w.wordLen + cw > limit then { w with word := w.word ++ u }.addNewline
      else { w with word := w.word ++ u }.addWord
    | _ => grow w

/-- A cell's text wrapped to `limit` cells; a limit of zero leaves it as it is. -/
def cellWrap (s : String) (limit : Nat) : String :=
  if limit = 0 then s
  else
    let w := (Text.Cells.units s.toList).foldl (CellWrap.step limit) ⟨[], [], [], 0, 0⟩
    String.ofList ((w.settleSpace limit).addWord).out

/-- The lines a cell shows in a column of width `w`: its tabs as four blanks, wrapped to the
width inside the padding. -/
def cellLines (s : String) (w : Nat) : List String :=
  linesOf (cellWrap ((s.replace "\t" "    ").replace "\r\n" "\n") (w - 2))

/-- The lines a data row needs: the most lines any of its cells wraps to, tabs still
counting as one octet each. -/
def rowHeight (widths : List Nat) (cells : List String) : Nat :=
  (widths.zip cells).foldl (fun h (w, c) => max h (linesOf (cellWrap c (w - 2))).length) 1

/-- One row of a grid, `height` lines high; cells with more lines are cut. -/
def gridRow (widths : List Nat) (cells : List String) (height : Nat) : List String :=
  let shown := (widths.zip cells).map fun (w, c) => cellLines c w
  (List.range height).map fun i =>
    "│" ++ "│".intercalate ((widths.zip shown).map fun (w, ls) =>
      fill (" " ++ ls.getD i "") w) ++ "│"

/-- A grid of a header row and data rows. Every column is one blank wider on each side than
its widest cell; the header row is one line high, a data row as high as its cells wrap. -/
def grid (headers : List String) (rows : List (List String)) : String :=
  let all := headers :: rows
  let widths := headers.length |> List.range |>.map fun j =>
    all.foldl (fun w r => max w (textWidth (r.getD j ""))) 0 + 2
  let body := (gridRow widths headers 1) ++ [rule "├" "┼" "┤" widths] ++
    rows.flatMap (fun r =>
      let cells := (List.range headers.length).map (r.getD · "")
      gridRow widths cells (rowHeight widths cells))
  "\n".intercalate ([rule "┌" "┬" "┐" widths] ++ body ++ [rule "└" "┴" "┘" widths])

end ConfigTables.Present
