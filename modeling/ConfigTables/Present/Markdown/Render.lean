import ConfigTables.Present.Grid
import ConfigTables.Present.Markdown.Document
import ConfigTables.Present.Markdown.Style
import ConfigTables.Present.Markdown.Flow
import ConfigTables.Present.Markdown.Highlight
import ConfigTables.Present.Markdown.Target
import ConfigTables.Present.Html.Sanitize
/-!
# Drawing a Markdown document on a terminal

A document is drawn by walking its blocks with a stack of open blocks, innermost first.
Each block writes into the text of the block around it:

* The document, block quotes and lists are margin blocks: their content is wrapped at
  breakpoints to the width left inside them, then written through a margin writer that
  indents every line and fills it with pad cells. A block quote and a list start on a new
  line and end theirs.
* A heading starts on a new line (unless it comes first), wraps its text keeping its line
  feeds, and ends with its style's trailing text; a paragraph starts on a new line (unless
  it comes first) and wraps its text as one flowing line.
* The blocks inside a block quote are drawn as blocks inside it, the first of them as the
  first block. A paragraph right inside a list item is drawn as its bare inline text, and
  an empty block left by link reference definitions draws nothing.
* A list item starts with its marker (a bullet, its number, or a task box) and is followed
  by a line feed unless it is the last or ends in a list.
* A code block starts on a new line and is indented by its margin; in a sheet that
  highlights code, its tokens take the colours of the highlighting palette. A rule is its
  template. An HTML block shows its text with the markup taken out.
* A table starts on a new line and ends its last line. Its columns start at their widest
  cell and are fitted to the width: grown one cell at a time at the narrowest column, or
  shrunk one cell at a time, first at the widest of those taking half the width or more,
  then at the one furthest over the median of its cells, then at the widest. A cell wraps to
  its column, and a row is as high as its highest cell.

Inline text takes the colours of the block it is in unless its style sets its own; the text
inside emphasis, struck text and link text is drawn piece by piece in that style, with its
backslash escapes resolved. A link is followed by a blank and its target resolved as an
address; an automatic link shows its address only (a mail address its text, then its
mailto: target). Inline HTML is not drawn.

Shown beside a report, a document is drawn as terminal text at a width (100 when it is not
positive), in a named style sheet (see `Markdown.sheetNamed?`), with no margin and no blank
lines around it, so that its lines line up with the tables of the report. Without colour every
style is shown as `notty`, which marks emphasis with `*`, strong text with `**` and struck text
with `~~`, and draws tables with `|` and `-`.
-/

namespace ConfigTables.Present.Markdown

/-- Where a block stands: in a block that draws it as a block, or right inside a list
item. -/
inductive Place where
  | top
  | item
  deriving DecidableEq, Repr

/-- What drawing knows: the sheet, the width text wraps to, the open blocks from the
innermost out, and whether a list is open. -/
structure Scope where
  sheet : Sheet
  wrap : Nat
  stack : List Frame
  inList : Bool

/-- The innermost open block. -/
def Scope.current (sc : Scope) : Frame := sc.stack.headD Frame.plain

/-- The block around the innermost one. -/
def Scope.parent (sc : Scope) : Frame := sc.stack.tail.headD Frame.plain

/-- The width left inside the open blocks: the wrap width less their indents and twice their
margins, and nothing when they take more. -/
def Scope.width (sc : Scope) : Nat :=
  sc.wrap - sc.stack.foldl (fun n f => n + f.indent.getD 0 + 2 * f.margin.getD 0) 0

/-- The scope with a block opened. -/
def Scope.push (sc : Scope) (f : Frame) : Scope := { sc with stack := f :: sc.stack }

/-- The frame of a block style inside the innermost block. -/
def Scope.inner (sc : Scope) (f : Frame) : Frame := sc.current.under f false

/-- Text written through the innermost block's margin: each line indented by its indent and
margin in tokens drawn in the colours of the block around it, and filled to the width with
blanks drawn in its own colours. -/
def Scope.margin (sc : Scope) (s : String) : String :=
  let f := sc.current
  marginWrite sc.width (f.indent.getD 0 + f.margin.getD 0)
    (sc.parent.look.paint (f.indentToken.getD " ")) (f.look.paint " ") s

/-- A template applied to a text: `\x7b\x7b.text\x7d\x7d` in it stands for the text; no
template leaves the text as it is. -/
def applyFormat (format token : String) : String :=
  if format.isEmpty then token else format.replace "\x7b\x7b.text\x7d\x7d" token

/-- Text with the backslash escapes of Markdown's special characters resolved: a backslash
before a backslash, a backquote, `*`, `_`, a brace, a bracket, an angle bracket, a
parenthesis, `#`, `+`, `-`, `.`, `!` or `|` is dropped. Every element's text is drawn this
way, whatever it holds. -/
def unescapeMarks : List Char → List Char
  | '\\' :: c :: rest =>
    if "\\`*_\x7b\x7d[]<>()#+-.!|".toList.contains c then c :: unescapeMarks rest
    else '\\' :: unescapeMarks (c :: rest)
  | c :: rest => c :: unescapeMarks rest
  | [] => []

/-- An element's text drawn with an outer look (for its outer texts and its prefix and
suffix) and an inner look (for its inner texts and the text itself). -/
def paintParts (outer inner : Look) (pre suf token : String) : String :=
  outer.paint pre ++ outer.paint inner.blockLead ++ inner.paint inner.lead ++
    inner.paint (String.ofList (unescapeMarks (applyFormat inner.format token).toList)) ++
    inner.paint inner.trail ++ outer.paint inner.blockTrail ++ outer.paint suf

/-- A piece of text drawn in a style inside the innermost block, with a prefix and a
suffix. -/
def Scope.element (sc : Scope) (style : Look) (pre suf token : String) : String :=
  paintParts (sc.current.look.under style true) (sc.current.look.under style false) pre suf token

/-- A piece of text of an element with its own look drawn in a style that overrides that
look, as the text inside emphasis is. -/
def Scope.restyledAs (sc : Scope) (own style : Look) (token : String) : String :=
  paintParts (sc.current.look.under style true)
    ((sc.current.look.under own false).under style true) "" "" token

/-- A piece of plain text drawn in a style that overrides the text style. -/
def Scope.restyled (sc : Scope) (style : Look) (token : String) : String :=
  sc.restyledAs sc.sheet.text style token

/-- The text of a text node: its references decoded, and a line feed when a line break
follows it. -/
def textToken (s : String) (lineBreak : Bool) : String :=
  Html.unescape (s ++ if lineBreak then "\n" else "")

/-- A link's target drawn after a separator in the colours of the block: nothing when the
target is not a valid address or only an anchor. -/
def Scope.target (sc : Scope) (sep url : String) : String :=
  if (Target.parse? url).isNone || onlyAnchor url then ""
  else sc.current.look.paint sep ++ sc.element sc.sheet.link "" "" (resolveTarget url)

mutual

/-- An inline node drawn inside the innermost block. Struck text is drawn as one piece of
text, its parts' markup left out. -/
def Scope.inline (sc : Scope) : Inline → String
  | .text s lineBreak => sc.element sc.sheet.text "" "" (textToken s lineBreak)
  | .emph strong children => sc.styled (if strong then sc.sheet.strong else sc.sheet.emph) children
  | .strike children => sc.element sc.sheet.strike "" "" (Html.unescape (Inline.plainAll children))
  | .code s =>
    let l := sc.current.look.under sc.sheet.code.look false
    l.paint (l.lead ++ Html.unescape s ++ l.trail)
  | .link children url => sc.styled sc.sheet.linkText children ++ sc.target " " url
  | .autolink label url email =>
    if email then
      sc.restyled sc.sheet.linkText label ++
        sc.target " " (if url.toLower.startsWith "mailto:" then url else "mailto:" ++ url)
    else sc.target "" url
  | .html _ => ""
  | .image alt url =>
    (if alt.isEmpty then "" else sc.element sc.sheet.imageText "" "" alt) ++
      (if url.isEmpty then "" else sc.element sc.sheet.image " " "" (resolveTarget url))

/-- Inline nodes drawn in a style that overrides their own: text, struck text and inline
HTML (which shows nothing but the style's surrounding texts) in the style; emphasis in the
style over its own look, its parts the same way; other nodes drawn as they are. -/
def Scope.styled (sc : Scope) (style : Look) : List Inline → String
  | [] => ""
  | .text s lineBreak :: rest => sc.restyled style (textToken s lineBreak) ++ sc.styled style rest
  | .emph strong children :: rest =>
    sc.styled ((if strong then sc.sheet.strong else sc.sheet.emph).under style false) children ++
      sc.styled style rest
  | .strike children :: rest =>
    sc.restyledAs sc.sheet.strike style (Html.unescape (Inline.plainAll children)) ++ sc.styled style rest
  | .html _ :: rest => sc.restyledAs Look.plain style "" ++ sc.styled style rest
  | n :: rest => sc.inline n ++ sc.styled style rest

/-- Inline nodes drawn in turn. -/
def Scope.inlines (sc : Scope) : List Inline → String
  | [] => ""
  | n :: rest => sc.inline n ++ sc.inlines rest

end

/-- The text of a table cell: plain text in the table style, other nodes drawn as they
are. -/
def Scope.cell (sc : Scope) : List Inline → String
  | [] => ""
  | .text s lineBreak :: rest => sc.restyled sc.sheet.table.look (textToken s lineBreak) ++ sc.cell rest
  | n :: rest => sc.inline n ++ sc.cell rest

/-- A margin block closed: its content wrapped at breakpoints to the width inside it and
written through its margin (a line feed after it when `newline`), then its trailing texts.
The scope is the one with the block open. -/
def Scope.closeBlock (inner : Scope) (newline : Bool) (content : String) : String :=
  let f := inner.current
  inner.margin (breakWrap inner.width " ,.;-+|" content ++ (if newline then "\n" else "")) ++
    f.look.paint f.look.trail ++ inner.parent.look.paint f.look.blockTrail

/-- The style of a heading of a level: the general heading style with the level's on top. -/
def Sheet.headingStyle (s : Sheet) (level : Nat) : Frame :=
  let h := match level with
    | 1 => s.h1
    | 2 => s.h2
    | 3 => s.h3
    | 4 => s.h4
    | 5 => s.h5
    | _ => s.h6
  (Frame.plain.under s.heading true).under h true

/-- A heading drawn: a line feed before it unless it comes first, its text wrapped keeping
its line feeds, and its trailing texts. -/
def Scope.heading (sc : Scope) (first : Bool) (level : Nat) (content : List Inline) : String :=
  let rules := sc.sheet.headingStyle level
  let f := sc.inner rules
  let inner := sc.push f
  let body := f.look.paint rules.look.lead ++ inner.inlines content
  (if first then "" else sc.current.look.paint "\n") ++ sc.current.look.paint rules.look.blockLead ++
    inner.margin (flowWrap inner.width true body) ++ f.look.paint f.look.trail ++
    sc.current.look.paint f.look.blockTrail

/-- A paragraph drawn: a line feed before it unless it comes first, and its text flowed to
the width as one line of words, when it has any. -/
def Scope.paragraph (sc : Scope) (first : Bool) (content : List Inline) : String :=
  let rules := sc.sheet.paragraph
  let f := sc.inner rules
  let inner := sc.push f
  let body := f.look.paint rules.look.lead ++ inner.inlines content
  (if first then "" else "\n") ++ sc.current.look.paint rules.look.blockLead ++
    (if (Text.Blank.trim body).isEmpty then "" else inner.margin (flowWrap inner.width false body ++ "\n")) ++
    f.look.paint f.look.trail ++ sc.current.look.paint f.look.blockTrail

/-- A code block drawn: its text in the code block style, every line indented by the style's
indent and margin. -/
def Scope.codeBlock (sc : Scope) (language text : String) : String :=
  let rules := sc.sheet.codeBlock
  indentWrite (rules.indent.getD 0 + rules.margin.getD 0) (sc.current.look.paint " ")
    (if sc.sheet.highlight then highlight language text else sc.element rules.look "" "" text)

/-- A list item's marker: its task box, its number, or a bullet. -/
def Scope.marker (sc : Scope) (ordered : Bool) (number : Nat) (task : Option Bool) : String :=
  match task with
  | some ticked =>
    sc.element (sc.current.look.under Look.plain false) (if ticked then sc.sheet.ticked else sc.sheet.unticked) "" ""
  | none =>
    if ordered then sc.element (sc.current.look.under sc.sheet.enumeration false) (toString number) "" ""
    else sc.element (sc.current.look.under sc.sheet.item false) "" "" ""

/-- The median of numbers: the middle one in order, or the mean of the two middle ones
rounded down; zero for none. -/
def median (ns : List Nat) : Nat :=
  let s := ns.mergeSort (· ≤ ·)
  let n := s.length
  if n = 0 then 0
  else if n % 2 = 0 then (s.getD (n / 2 - 1) 0 + s.getD (n / 2) 0) / 2
  else s.getD (n / 2) 0

/-- The sum of column widths. -/
def widthSum (ws : List Nat) : Nat := ws.foldl (· + ·) 0

/-- The position of the first greatest score, among the columns that have one. -/
def firstBest (scores : List (Option Int)) : Option Nat :=
  (scores.zipIdx.foldl (fun (best : Option (Int × Nat)) (s, i) =>
    match s, best with
    | none, _ => best
    | some v, none => some (v, i)
    | some v, some (b, j) => if v > b then some (v, i) else some (b, j)) none).map (·.2)

/-- Widens the narrowest column (the first of equals; empty columns aside) by one until the
widths reach `room`. The fuel bounds the steps. -/
def growWidths : Nat → Int → List Nat → List Nat
  | 0, _, ws => ws
  | fuel + 1, room, ws =>
    if (widthSum ws : Int) ≥ room then ws
    else
      let i := (firstBest (ws.map fun (w : Nat) => if w = 0 then none else some (-(w : Int)))).getD 0
      growWidths fuel room (ws.set i (ws.getD i 0 + 1))

/-- Narrows the column `pick` chooses by one until the widths are within `room`, or no
column is chosen. The fuel bounds the steps. -/
def shrinkWidths (pick : List Nat → Option Nat) : Nat → Int → List Nat → List Nat
  | 0, _, ws => ws
  | fuel + 1, room, ws =>
    if (widthSum ws : Int) ≤ room then ws
    else
      match pick ws with
      | some i =>
        if ws.getD i 0 = 0 then ws else shrinkWidths pick fuel room (ws.set i (ws.getD i 0 - 1))
      | none => ws

/-- Column widths fitted to a table width `width`, from each column's widest cell with its
padding (`natural`) and the median width of its data cells. The widths aim at the table
width less one for each column and one more. When the natural widths add up to at most the
table width, the narrowest column grows in turn; otherwise columns shrink: first the widest
of those at least half the table width, then the one furthest over its median (never the
first column), then the widest; the first of equals each time. -/
def fitWidths (width : Nat) (natural medians : List Nat) : List Nat :=
  let room : Int := (width : Int) - natural.length - 1
  if widthSum natural ≤ width then growWidths (width + 1) room natural
  else
    let fuel := widthSum natural + 1
    let veryBig := fun (ws : List Nat) =>
      firstBest (ws.map fun (w : Nat) => if w ≠ 0 && w ≥ width / 2 then some (w : Int) else none)
    let overMedian := fun (ws : List Nat) =>
      match firstBest ((ws.zip medians).map fun (w, m) =>
          if w ≠ 0 && w > m then some ((w : Int) - m) else none) with
      | some 0 => none
      | r => r
    let widest := fun (ws : List Nat) =>
      firstBest (ws.map fun (w : Nat) => if w = 0 then none else some (w : Int))
    shrinkWidths widest fuel room (shrinkWidths overMedian fuel room (shrinkWidths veryBig fuel room natural))

/-- A cell drawn in a column of width `w`, `h` lines high: cut to the cells the column can
hold, wrapped inside a blank on either side, aligned, filled to the height and cut to the
width. -/
def cellBlock (align : Align) (w h : Nat) (text : String) : List String :=
  let ls := (linesOf (cellWrap (truncate text (w * h) "…") (w - 2))).map (" " ++ · ++ " ")
  let ls := ls ++ List.replicate (h - ls.length) ""
  let widest := ls.foldl (fun m l => max m (lineWidth l)) 0
  let blanks := fun n => String.ofList (List.replicate n ' ')
  let ls := ls.map fun l =>
    let short := widest - lineWidth l + (w - widest)
    match align with
    | .right => blanks short ++ l
    | .center => blanks (short / 2) ++ l ++ blanks (short - short / 2)
    | _ => l ++ blanks short
  (ls.map (truncate · w "")).take h

/-- One table row, `h` lines high: each cell in its column, columns joined by the
separator. -/
def tableRowLines (sep : String) (aligns : List Align) (widths : List Nat) (h : Nat)
    (cells : List String) : List String :=
  let blocks := ((widths.zip cells).zip (aligns ++ List.replicate widths.length .none)).map
    fun ((w, c), a) => cellBlock a w h c
  (List.range h).map fun i => sep.intercalate (blocks.map (·.getD i ""))

/-- A table drawn: a line feed, the header, a rule under it, the rows, and a line feed. The
columns are fitted to the width inside the open blocks; the header is one line high and a
row as high as its cells wrap. -/
def Scope.table (sc : Scope) (aligns : List Align) (header : List (List Inline))
    (rows : List (List (List Inline))) : String :=
  let header := header.map sc.cell
  let rows := rows.map (·.map sc.cell)
  let n := header.length
  let natural := (List.range n).map fun j =>
    (header :: rows).foldl (fun w r => max w (textWidth (r.getD j ""))) 0 + 2
  let medians := (List.range n).map fun j => median (rows.map fun r => textWidth (r.getD j ""))
  let widths := fitWidths sc.width natural medians
  let column := sc.sheet.columnSeparator.getD "│"
  let rowSep := sc.sheet.rowSeparator.getD "─"
  let cross := sc.sheet.centerSeparator.getD "┼"
  let lines := tableRowLines column aligns widths 1 header ++
    [cross.intercalate (widths.map fun w => String.join (List.replicate w rowSep))] ++
    rows.flatMap (fun r => tableRowLines column aligns widths (rowHeight widths r) r)
  let lines := lines.map (truncate · sc.width "")
  let t := sc.sheet.table.look
  "\n" ++ "\n".intercalate lines ++ (sc.current.look.under t false).paint t.trail ++
    sc.current.look.paint t.blockTrail ++ "\n"

/-- Whether a list item's blocks end in a list. -/
def endsInList (children : List Node) : Bool :=
  match children.getLast? with
  | some (.list _ _ _) => true
  | _ => false

mutual

/-- A block drawn inside the innermost open block, standing at a place, first among its
siblings or not. -/
def Scope.node (sc : Scope) (place : Place) (first : Bool) : Node → String
  | .heading level content => sc.heading first level content
  | .paragraph content => if place = .top then sc.paragraph first content else sc.inlines content
  | .list ordered start items =>
    let s := sc.sheet.list
    let f := sc.inner { s with indent := some (if sc.inList then sc.sheet.levelIndent else s.indent.getD 0) }
    let inner := { sc.push f with inList := true }
    "\n" ++ sc.current.look.paint f.look.blockLead ++
      inner.closeBlock true (f.look.paint f.look.lead ++ inner.items ordered start items)
  | .item _ _ => ""
  | .code language text => "\n" ++ sc.codeBlock language text
  | .quote children =>
    let f := sc.inner sc.sheet.quote
    let inner := sc.push f
    "\n" ++ sc.current.look.paint f.look.blockLead ++
      inner.closeBlock false (f.look.paint f.look.lead ++ inner.nodes .top true children)
  | .rule => sc.element sc.sheet.rule "" "" ""
  | .table aligns header rows => sc.table aligns header rows
  | .html text => sc.element Look.plain "" "" (Html.sanitize text)
  | .definitions _ _ => ""

/-- Sibling blocks drawn in turn. -/
def Scope.nodes (sc : Scope) (place : Place) (first : Bool) : List Node → String
  | [] => ""
  | n :: rest => sc.node place first n ++ sc.nodes place false rest

/-- The items of a list drawn in turn, numbered from a number. -/
def Scope.items (sc : Scope) (ordered : Bool) (number : Nat) : List Node → String
  | [] => ""
  | .item task children :: rest =>
    sc.marker ordered number task ++ sc.nodes .item true children ++
      (if rest.isEmpty || endsInList children then "" else "\n") ++ sc.items ordered (number + 1) rest
  | _ :: rest => sc.items ordered number rest

end

/-- A document drawn in a sheet with text wrapped to a width: its blocks inside the
document block, wrapped at breakpoints and written through the document's margin. -/
def drawDocument (sheet : Sheet) (wrap : Nat) (blocks : List Node) : String :=
  let f := Frame.plain.under sheet.document false
  let inner : Scope := ⟨sheet, wrap, [f], false⟩
  inner.closeBlock false (f.look.paint f.look.lead ++ inner.nodes .top true blocks)

end ConfigTables.Present.Markdown

namespace ConfigTables.Present

open Markdown in
/-- A sheet whose document has no margin and no text around it. -/
def withoutMargin (s : Sheet) : Sheet :=
  { s with document := { s.document with margin := some 0, look := { s.document.look with blockLead := "", blockTrail := "" } } }

/-- A Markdown document as text without colour at a width (100 when not positive). -/
def styleMarkdown (md : String) (width : Nat) : String :=
  Markdown.drawDocument (withoutMargin Markdown.notty) (if width = 0 then 100 else width) (Markdown.Node.parse md)

/-- Shows a document at a width in a named style (the empty name is `dark`), or without
colour whatever the style; a style that is not known is looked for as a file, which is not
there (or is a directory). -/
def renderMarkdown (md : String) (width : Nat) (style : String) (colour : Bool) : Except String String :=
  let style := if !colour then "notty" else if style = "" then "dark" else style
  match Markdown.sheetNamed? style with
  | some sheet =>
    .ok (Markdown.drawDocument (withoutMargin sheet) (if width = 0 then 100 else width) (Markdown.Node.parse md))
  | none =>
    if [".", "./", "..", "../", "/"].contains style then
      .error ("glamour: error reading file: read " ++ style ++ ": is a directory")
    else .error ("glamour: error reading file: open " ++ style ++ ": no such file or directory")

end ConfigTables.Present
