import ConfigTables.Present.Grid
/-!
# Flowing text that carries escape codes

Styled terminal text carries escape sequences (`ESC [ … m`) that take no cells. Four text
filters lay such text out; each reads its input once, from left to right, and keeps state
across lines:

* An escape tracker remembers the colour sequences seen since the last reset, so that a
  line can be closed (`ESC [0m`) and its colours reopened.
* A margin writer indents each line (closing the colours around the indent and reopening
  them after it) and fills each line with pad cells up to a width when it ends. The indent
  and the pads go straight to the output; only the text passes the filling count.
* Word wrapping (`flowWrap`) breaks lines at blanks and after `-` so that lines stay within
  a limit; a word longer than the limit stays whole. With `keepNewlines` false the text is
  first trimmed and its line feeds become blanks.
* Breakpoint wrapping (`breakWrap`) breaks at blanks and after any of a set of breakpoint
  characters, counting each breakpoint as a cell.
-/

namespace ConfigTables.Present.Markdown


/-- The escape that resets all colours and attributes. -/
def resetCode : String := "\x1b[0m"

/-- The text of a string without its escape sequences. -/
def stripEscapes (s : String) : String :=
  String.ofList ((s.toList.foldl (fun (acc : List Char × Bool) c =>
    if c = '\x1b' then (acc.1, true)
    else if acc.2 then (acc.1, !endsEscape c)
    else (c :: acc.1, false)) ([], false)).1.reverse)

/-! ## Tracking escapes -/

/-- What an escape tracker knows: whether it is inside a sequence and the sequence so far,
the colour sequences since the last reset, and whether any sequence started since then. -/
structure Tracker where
  inside : Bool
  seq : String
  last : String
  changed : Bool

/-- A tracker that has seen nothing. -/
def Tracker.fresh : Tracker := ⟨false, "", "", false⟩

/-- Passes one character: the tracker after it and what it lets through. A sequence is let
through whole when it ends. -/
def Tracker.pass (t : Tracker) (c : Char) : Tracker × String :=
  if c = '\x1b' then ({ t with inside := true, changed := true, seq := "\x1b" }, "")
  else if t.inside then
    let seq := t.seq.push c
    if endsEscape c then
      if seq.endsWith "[0m" then (⟨false, "", "", false⟩, seq)
      else if c = 'm' then ({ t with inside := false, seq := "", last := t.last ++ seq }, seq)
      else ({ t with inside := false, seq := "" }, seq)
    else ({ t with seq := seq }, "")
  else (t, String.singleton c)

/-- The reset a tracker sends to close a line: one when a sequence started since the last
reset. -/
def Tracker.close (t : Tracker) : String := if t.changed then resetCode else ""

/-! ## Margins -/

/-- The state of a margin writer: the indent's escape tracking and whether the line's
indent is done, and the filling's escape tracking and the cells of the line so far. -/
structure Margin where
  indentEscape : Bool
  indented : Bool
  indentTracker : Tracker
  padEscape : Bool
  lineLen : Nat
  padTracker : Tracker
  out : String

/-- A margin writer that has written nothing. -/
def Margin.fresh : Margin := ⟨false, false, Tracker.fresh, false, 0, Tracker.fresh, ""⟩

/-- The filling stage takes one character: at a line feed the line is filled with `pad` up
to `width` cells and its colours closed. Without a filling stage (`pad` empty) characters
go straight to the output. -/
def Margin.fillChar (width : Nat) (pad : String) (m : Margin) (c : Char) : Margin :=
  if pad.isEmpty then { m with out := m.out.push c } else
  let m :=
    if c = '\x1b' then { m with padEscape := true }
    else if m.padEscape then { m with padEscape := !endsEscape c }
    else if c = '\n' then
      let pads := if width > 0 && m.lineLen < width then
        String.join (List.replicate (width - m.lineLen) pad) else ""
      { m with out := m.out ++ pads ++ m.padTracker.close, lineLen := 0 }
    else { m with lineLen := m.lineLen + Text.Cells.charCells c }
  let (t, through) := m.padTracker.pass c
  { m with padTracker := t, out := m.out ++ through }

/-- The filling stage takes a text. -/
def Margin.fillText (width : Nat) (pad : String) (m : Margin) (s : String) : Margin :=
  s.toList.foldl (Margin.fillChar width pad) m

/-- The indent stage takes one character: before the first character of a line it closes
the colours, writes the indent to the output and reopens the colours. -/
def Margin.step (width indent : Nat) (token pad : String) (m : Margin) (c : Char) : Margin :=
  let m :=
    if c = '\x1b' then { m with indentEscape := true }
    else if m.indentEscape then { m with indentEscape := !endsEscape c }
    else
      let m := if m.indented then m else
        let m := m.fillText width pad m.indentTracker.close
        let m := { m with out := m.out ++ String.join (List.replicate indent token), indented := true }
        m.fillText width pad m.indentTracker.last
      if c = '\n' then { m with indented := false } else m
  let (t, through) := m.indentTracker.pass c
  ({ m with indentTracker := t }).fillText width pad through

/-- Writes a text through a margin writer of a width, an indent of `indent` tokens, and a
pad cell. -/
def marginWrite (width indent : Nat) (token pad : String) (s : String) : String :=
  (s.toList.foldl (Margin.step width indent token pad) Margin.fresh).out

/-- Writes a text through an indent alone, with no filling stage. -/
def indentWrite (indent : Nat) (token : String) (s : String) : String :=
  marginWrite 0 indent token "" s

/-! ## Word wrapping -/

/-- The state of wrapping: the text so far, the blanks and the word waiting, the cells of
the current line, and whether an escape sequence is being read. -/
structure Wrapping where
  out : String
  space : List Char
  word : List Char
  lineLen : Nat
  escape : Bool

/-- The UTF-8 octets of the waiting blanks, which is what they count on a line. -/
def Wrapping.spaceLen (w : Wrapping) : Nat := (String.ofList w.space).utf8ByteSize

/-- Puts the waiting blanks on the line. -/
def Wrapping.addSpace (w : Wrapping) : Wrapping :=
  { w with lineLen := w.lineLen + w.spaceLen, out := w.out ++ String.ofList w.space, space := [] }

/-- Puts the waiting word on the line after the waiting blanks. -/
def Wrapping.addWord (w : Wrapping) : Wrapping :=
  if w.word.isEmpty then w
  else
    let w := w.addSpace
    { w with lineLen := w.lineLen + printedWidth w.word, out := w.out ++ String.ofList w.word, word := [] }

/-- Starts a new line, dropping the waiting blanks. -/
def Wrapping.addNewline (w : Wrapping) : Wrapping :=
  { w with out := w.out.push '\n', lineLen := 0, space := [] }

/-- Word wrapping takes one character. -/
def Wrapping.flowStep (limit : Nat) (w : Wrapping) (c : Char) : Wrapping :=
  if c = '\x1b' then { w with word := w.word ++ [c], escape := true }
  else if w.escape then { w with word := w.word ++ [c], escape := !endsEscape c }
  else if c = '\n' then
    let w := if w.word.isEmpty then
        if w.lineLen + w.spaceLen > limit then { w with lineLen := 0, space := [] }
        else { w with out := w.out ++ String.ofList w.space, space := [] }
      else w
    w.addWord.addNewline
  else if Text.Blank.isBlank c then
    let w := w.addWord
    { w with space := w.space ++ [c] }
  else if c = '-' then
    let w := w.addSpace.addWord
    { w with out := w.out.push c }
  else
    let w := { w with word := w.word ++ [c] }
    let ww := printedWidth w.word
    if w.lineLen + w.spaceLen + ww > limit && ww < limit then w.addNewline else w

/-- A text wrapped at blanks and after `-` to lines of at most `limit` cells where the words
allow; a limit of zero leaves the text as it is. Without `keepNewlines` the text is trimmed
and its line feeds become blanks first. -/
def flowWrap (limit : Nat) (keepNewlines : Bool) (s : String) : String :=
  if limit = 0 then s
  else
    let s := if keepNewlines then s else (Text.Blank.trim s).replace "\n" " "
    (s.toList.foldl (Wrapping.flowStep limit) ⟨"", [], [], 0, false⟩).addWord.out

/-- The state of breakpoint wrapping: like word wrapping, with the printed cells of the
waiting word counted apart. -/
structure Breaking where
  base : Wrapping
  wordLen : Nat

/-- Puts the waiting word on the line after the waiting blanks. -/
def Breaking.addWord (b : Breaking) : Breaking :=
  if b.base.word.isEmpty then b
  else
    let w := b.base.addSpace
    ⟨{ w with lineLen := w.lineLen + b.wordLen, out := w.out ++ String.ofList w.word, word := [] }, 0⟩

/-- Breakpoint wrapping takes one ASCII character; every character that is no blank, line
feed or breakpoint counts one cell. -/
def Breaking.ascii (limit : Nat) (breakpoints : List Char) (b : Breaking) (c : Char) : Breaking :=
  let w := b.base
  if c = '\x1b' then ⟨{ w with word := w.word ++ [c], escape := true }, b.wordLen⟩
  else if w.escape then ⟨{ w with word := w.word ++ [c], escape := !endsEscape c }, b.wordLen⟩
  else if c = '\n' then
    let w := if b.wordLen = 0 then
        if w.lineLen + w.spaceLen > limit then { w with lineLen := 0, space := [] }
        else { w with out := w.out ++ String.ofList w.space, space := [] }
      else w
    let b := (Breaking.addWord ⟨w, b.wordLen⟩)
    ⟨b.base.addNewline, b.wordLen⟩
  else if Text.Blank.isBlank c then
    let b := b.addWord
    ⟨{ b.base with space := b.base.space ++ [c] }, b.wordLen⟩
  else if c = '-' || breakpoints.contains c then
    let b := Breaking.addWord ⟨w.addSpace, b.wordLen⟩
    ⟨{ b.base with out := b.base.out.push c, lineLen := b.base.lineLen + 1 }, b.wordLen⟩
  else
    let w := { w with word := w.word ++ [c] }
    let len := b.wordLen + 1
    if w.lineLen + w.spaceLen + len > limit && len < limit then ⟨w.addNewline, len⟩
    else ⟨w, len⟩

/-- Breakpoint wrapping takes a cluster: an escape sequence joins the word and never breaks
the line; one that starts with a blank other than the no-break space puts that blank alone
among the waiting blanks; any other joins the word with its cells. -/
def Breaking.cluster (limit : Nat) (b : Breaking) (u : List Char) : Breaking :=
  let w := b.base
  match u with
  | [] => b
  | c :: _ =>
    if w.escape || c = '\x1b' then ⟨{ w with word := w.word ++ u }, b.wordLen⟩
    else if Text.Blank.isBlank c && c ≠ '\xa0' then
      let b := b.addWord
      ⟨{ b.base with space := b.base.space ++ [c] }, b.wordLen⟩
    else
      let w := { w with word := w.word ++ u }
      let len := b.wordLen + Text.Cells.unitCells u
      if w.lineLen + w.spaceLen + len > limit && len < limit then ⟨w.addNewline, len⟩
      else ⟨w, len⟩

/-- Breakpoint wrapping takes one unit of the text: an ASCII character or a cluster. -/
def Breaking.step (limit : Nat) (breakpoints : List Char) (b : Breaking) (u : List Char) :
    Breaking :=
  match u with
  | [c] => if c.toNat < 0x80 then b.ascii limit breakpoints c else b.cluster limit u
  | _ => b.cluster limit u

/-- A text wrapped at blanks and after breakpoint characters to lines of at most `limit`
cells where the words allow; a limit of zero leaves the text as it is. -/
def breakWrap (limit : Nat) (breakpoints : String) (s : String) : String :=
  if limit = 0 then s
  else
    let units := Text.Cells.units s.toList
    (units.foldl (Breaking.step limit breakpoints.toList) ⟨⟨"", [], [], 0, false⟩, 0⟩).addWord.base.out

end ConfigTables.Present.Markdown
