import ConfigTables.Present.Markdown.Spans
/-!
# Markdown documents

A document is read line by line into blocks, as CommonMark with its table extension reads
it:

* A line indented by four blanks starts an indented code block; a line of three or more
  backticks or tildes starts a fenced code block that runs to a closing fence of the same
  character at least as long, or to the end. The first word after the opening fence names
  the language of its code.
* A line that starts like HTML starts an HTML block: a script, pre, style or textarea
  element, a comment, a processing instruction, a declaration or a CDATA section runs to
  the line that closes it; an HTML block element or a lone complete tag runs to a blank
  line (a lone tag may not interrupt a paragraph).
* `#` to `######` and a blank start a heading; a paragraph underlined by `=` or `-` is a
  heading of level one or two.
* Three or more `-`, `*` or `_` alone on a line (blanks aside) are a thematic break.
* `>` starts a block quote; its lines lose the `>` and one blank, and a paragraph in it may
  go on in lines without `>`.
* `-`, `+` or `*`, or a number of up to nine digits and `.` or `)`, followed by a blank,
  start a list item; the item's content is indented to where its first text starts, and
  lines indented that far belong to it, as do lines that go on its paragraph without the
  indentation. An item may be empty. Items of the same marker make one list, blank lines
  between them or not. An item starting with `[ ]` or `[x]` is a task.
* A line with `|` followed by a delimiter row of as many cells starts a table; its rows run
  to a blank line or another block.
* Other lines make paragraphs, ended by a blank line or by a heading, fence, break, quote or
  list item (a numbered one only when it starts at one).
* A paragraph may start with link reference definitions (`[label]: target "title"`); they
  are taken out of it, and a paragraph with nothing else leaves an empty block that draws
  nothing but still stands before the next block. The first
  definition of a label counts, and every link of the document may refer to it, so a
  document is read twice: once to gather its definitions, once to read its links.
-/

namespace ConfigTables.Present.Markdown

/-- How a table column is aligned. -/
inductive Align where
  | none
  | left
  | center
  | right
  deriving Repr, DecidableEq, Inhabited

/-- A block of a document. -/
inductive Node where
  | heading (level : Nat) (content : List Inline)
  | paragraph (content : List Inline)
  /-- A list: numbered or not, its first number, and its items. -/
  | list (ordered : Bool) (start : Nat) (items : List Node)
  /-- A list item: whether it is a task (and ticked), and its blocks. -/
  | item (task : Option Bool) (children : List Node)
  /-- A code block: the language named after its fence (none for an indented block) and
  its text. -/
  | code (language : String) (text : String)
  | quote (children : List Node)
  | rule
  | table (aligns : List Align) (header : List (List Inline)) (rows : List (List (List Inline)))
  /-- An HTML block: its lines. -/
  | html (text : String)
  /-- Link definitions (label and target) that stood at the start of a paragraph, and
  whether nothing else stood in it: such a paragraph is an empty block, which draws nothing
  but still comes before the blocks after it. -/
  | definitions (entries : List (String × String)) (alone : Bool)
  deriving Repr, Inhabited

/-! ## Lines -/

/-- A line with its tabs expanded to stops of four columns. -/
def expandTabs (line : String) : String :=
  String.ofList (line.toList.foldl (fun (acc : List Char) c =>
    if c = '\t' then acc ++ List.replicate (4 - acc.length % 4) ' ' else acc ++ [c]) [])

/-- The number of leading blanks of a line. -/
def indentOf (line : String) : Nat := (line.toList.takeWhile (· = ' ')).length

/-- A line without up to `n` leading blanks. -/
def dropIndent (n : Nat) (line : String) : String := (line.drop (min n (indentOf line))).toString

/-- Whether a line is blank. -/
def isBlank (line : String) : Bool := line.all (fun c => c = ' ' || c = '\t')

/-- A line without its leading blanks when there are at most three. -/
def content? (line : String) : Option String :=
  if indentOf line ≤ 3 then some (dropIndent 3 line) else none

/-- A heading line: its level and text. -/
def atxHeading? (line : String) : Option (Nat × String) := do
  let l ← content? line
  let marks := (l.toList.takeWhile (· = '#')).length
  let rest := (l.drop marks).toString
  if marks ≥ 1 && marks ≤ 6 && (rest.isEmpty || rest.startsWith " " || rest.startsWith "\t") then
    let text := rest.trimAscii.toString
    let closing := text.toList.reverse.takeWhile (· = '#')
    let before := text.toList.reverse.drop closing.length
    let text := if closing.isEmpty then text
      else if before.isEmpty then ""
      else if before.head? = some ' ' || before.head? = some '\t' then (String.ofList before.reverse).trimAscii.toString
      else text
    some (marks, text)
  else none

/-- Whether a line is a thematic break: three or more of one of `-`, `*`, `_`, blanks aside. -/
def isBreak (line : String) : Bool :=
  match content? line with
  | some l =>
    let cs := l.toList.filter (fun c => c ≠ ' ' && c ≠ '\t')
    cs.length ≥ 3 && (cs.all (· = '-') || cs.all (· = '*') || cs.all (· = '_'))
  | none => false

/-- A fence line: its character, its length, its indent, and the first word of the text
after the fence (the language of the code). -/
def fence? (line : String) : Option (Char × Nat × Nat × String) := do
  let l ← content? line
  let c ← l.toList.head?
  if c ≠ '`' && c ≠ '~' then none
  let n := (l.toList.takeWhile (· = c)).length
  if n < 3 then none
  if c = '`' && ((l.drop n).toString.contains '`') then none
  let info := (l.drop n).toString.trimAsciiStart.toString.toList
  some (c, n, indentOf line, String.ofList (info.takeWhile (· ≠ ' ')))

/-- Whether a line closes a fence of a character and length. -/
def closesFence (c : Char) (n : Nat) (line : String) : Bool :=
  match content? line with
  | some l =>
    let run := (l.toList.takeWhile (· = c)).length
    run ≥ n && isBlank (l.drop run).toString
  | none => false

/-- Whether a line starts a block quote. -/
def isQuote (line : String) : Bool := (content? line).any (·.startsWith ">")

/-- A line of a block quote without its `>` and one blank after it. -/
def unquote (line : String) : String :=
  let l := (dropIndent 3 line).drop 1 |>.toString
  if l.startsWith " " then (l.drop 1).toString else l

/-- A list item's first line: whether it is numbered, its number, its marker character, the
column its content starts at, and its first content. -/
structure ItemStart where
  ordered : Bool
  number : Nat
  marker : Char
  offset : Nat
  first : String
  deriving Repr, Inhabited

/-- A list item's first line, if the line is one. -/
def itemStart? (line : String) : Option ItemStart := do
  let i := indentOf line
  if i > 3 then none
  let l := (line.drop i).toString
  let cs := l.toList
  let (ordered, number, marker, width) ← match cs with
    | c :: _ =>
      if c = '-' || c = '+' || c = '*' then some (false, 0, c, 1)
      else
        let ds := cs.takeWhile Char.isDigit
        match cs.drop ds.length with
        | d :: _ =>
          if !ds.isEmpty && ds.length ≤ 9 && (d = '.' || d = ')') then
            some (true, (String.ofList ds).toNat?.getD 0, d, ds.length + 1)
          else none
        | [] => none
    | [] => none
  let after := (l.drop width).toString
  if after.isEmpty then return ⟨ordered, number, marker, i + width + 1, ""⟩
  if !after.startsWith " " then none
  let blanks := indentOf after
  if isBlank after then return ⟨ordered, number, marker, i + width + 1, ""⟩
  if blanks ≥ 5 then return ⟨ordered, number, marker, i + width + 1, (after.drop 1).toString⟩
  return ⟨ordered, number, marker, i + width + blanks, (after.drop blanks).toString⟩

/-! ## HTML blocks -/

/-- The tag names that start an HTML block wherever they stand. -/
def blockTagNames : List String :=
  ["address", "article", "aside", "base", "basefont", "blockquote", "body", "caption", "center",
    "col", "colgroup", "dd", "details", "dialog", "dir", "div", "dl", "dt", "fieldset",
    "figcaption", "figure", "footer", "form", "frame", "frameset", "h1", "h2", "h3", "h4", "h5",
    "h6", "head", "header", "hr", "html", "iframe", "legend", "li", "link", "main", "menu",
    "menuitem", "meta", "nav", "noframes", "ol", "optgroup", "option", "p", "param", "search",
    "section", "summary", "table", "tbody", "td", "tfoot", "th", "thead", "title", "tr", "track",
    "ul"]

/-- How an HTML block ends: with the first line (from its own) that holds one of some texts,
or before a blank line. -/
inductive HtmlEnd where
  | closing (marks : List String)
  | blank
  deriving Inhabited

/-- Whether a line holds a text. -/
def holds (line mark : String) : Bool := (line.splitOn mark).length > 1

/-- The HTML block a line starts, if any, by how it ends: `script`, `pre`, `style` and
`textarea` elements, comments, processing instructions, declarations and character data
end with their closing text; a tag of a block element, or (when the line would not go on a
paragraph) any other complete tag alone on its line, ends before a blank line. -/
def htmlStart? (line : String) (inParagraph : Bool) : Option HtmlEnd := do
  let l ← content? line
  let cs := l.toList
  match cs with
  | '<' :: rest =>
    let name := rest.takeWhile Char.isAlphanum
    let afterName := rest.drop name.length
    let endsName := match afterName with
      | [] | ' ' :: _ | '\t' :: _ | '>' :: _ | '/' :: '>' :: _ => true
      | _ => false
    if ["script", "pre", "style", "textarea"].contains (String.ofList name) && endsName then
      some (.closing ["</script>", "</pre>", "</style>", "</textarea>"])
    else if l.startsWith "<!--" then some (.closing ["-->"])
    else if l.startsWith "<?" then some (.closing ["?>"])
    else if (match rest with | '!' :: c :: _ => 'A' ≤ c && c ≤ 'Z' | _ => false) then some (.closing [">"])
    else if l.startsWith "<![CDATA[" then some (.closing ["]]>"])
    else
      let closing := rest.head? = some '/'
      let body := if closing then (rest.drop 1).dropWhile (· = ' ') else rest
      match tagNameLength body with
      | none => none
      | some n =>
        let tag := Text.CaseMap.lower (String.ofList (body.take n))
        let after := body.drop n
        let attrs := attributesLength after.length after
        let tail := (after.drop attrs).dropWhile (· = ' ')
        let tail := match tail with
          | '>' :: t => some t
          | '/' :: '>' :: t => some t
          | _ => none
        let complete := tail.any (·.all fun c => c = ' ' || c = '\t')
        let loose := match after with
          | [] | ' ' :: _ | '>' :: _ | '/' :: '>' :: _ => true
          | _ => false
        if blockTagNames.contains tag && (complete || loose) then some .blank
        else if complete && !(["script", "style", "pre"].contains tag) && !inParagraph &&
            !(closing && attrs > 0) then some .blank
        else none
  | _ => none

/-- The lines of an HTML block from its first, and the lines after it. -/
def htmlLines (ending : HtmlEnd) (first : String) (rest : List String) : List String × List String :=
  match ending with
  | .blank =>
    let body := rest.takeWhile (!isBlank ·)
    (first :: body, rest.drop body.length)
  | .closing marks =>
    if marks.any (holds first) then ([first], rest)
    else
      let body := rest.takeWhile fun l => !marks.any (holds l)
      (first :: rest.take (body.length + 1), rest.drop (body.length + 1))

/-- Whether a line starts a block that ends a paragraph. -/
def interrupts (line : String) : Bool :=
  (atxHeading? line).isSome || (fence? line).isSome || isBreak line || isQuote line ||
    (htmlStart? line true).isSome ||
    match itemStart? line with
    | some s => s.first ≠ "" && (!s.ordered || s.number = 1)
    | none => false

/-- A setext underline: the heading level it makes. -/
def underline? (line : String) : Option Nat := do
  let l ← content? line
  let t := l.trimAsciiEnd.toString
  if !t.isEmpty && t.all (· = '=') then some 1
  else if !t.isEmpty && t.all (· = '-') then some 2
  else none

/-! ## Tables -/

/-- The cells of a table row: split at `|` not escaped by a backslash, the outer pipes
dropped, each cell trimmed; an escaped pipe stands for a pipe. -/
def cellsOf (line : String) : List String :=
  let l := line.trimAscii.toString
  let l := if l.startsWith "|" then (l.drop 1).toString else l
  let l := if l.endsWith "|" && !l.endsWith "\\|" then (l.dropEnd 1).toString else l
  let (cells, cur, _) := l.toList.foldl (fun (acc : List String × List Char × Bool) c =>
    let (cells, cur, escaped) := acc
    if escaped then (cells, cur ++ (if c = '|' then [c] else ['\\', c]), false)
    else if c = '\\' then (cells, cur, true)
    else if c = '|' then (cells ++ [String.ofList cur], [], false)
    else (cells, cur ++ [c], false)) ([], [], false)
  (cells ++ [String.ofList cur]).map (·.trimAscii.toString)

/-- The alignments of a delimiter row, if the line is one. -/
def delimiterRow? (line : String) : Option (List Align) :=
  if !line.contains '-' then none
  else
    (cellsOf line).mapM fun c =>
      let cs := c.toList
      let left := cs.head? = some ':'
      let right := cs.getLast? = some ':'
      let core := (if left then cs.drop 1 else cs)
      let core := if right && !core.isEmpty then core.dropLast else core
      if core.isEmpty || !core.all (· = '-') then none
      else some (if left && right then .center else if left then .left else if right then .right else .none)

/-! ## Reading blocks -/

/-- The lines of a list item after its first: lines indented to its content, blank lines
followed by such lines, and lines that go on its paragraph. Gives the item's lines and the
rest. -/
def itemLines (offset : Nat) : Nat → List String → Bool → List String × List String
  | 0, rest, _ => ([], rest)
  | _, [], _ => ([], [])
  | fuel + 1, line :: rest, lastBlank =>
    if isBlank line then
      match rest.dropWhile isBlank with
      | next :: _ =>
        if indentOf next ≥ offset then
          let (more, after) := itemLines offset fuel rest true
          ("" :: more, after)
        else ([], line :: rest)
      | [] => ([], line :: rest)
    else if indentOf line ≥ offset then
      let (more, after) := itemLines offset fuel rest false
      (dropIndent offset line :: more, after)
    else if !lastBlank && !interrupts line && (itemStart? line).isNone then
      let (more, after) := itemLines offset fuel rest false
      (line.trimAsciiStart.toString :: more, after)
    else ([], line :: rest)

/-- The lines of a paragraph after its first: up to a blank line, a line that starts another
block, or a setext underline. Gives the lines, the underline's level if one ended it, and
the rest. -/
def paragraphLines : Nat → List String → List String × Option Nat × List String
  | 0, rest => ([], none, rest)
  | _, [] => ([], none, [])
  | fuel + 1, line :: rest =>
    if isBlank line then ([], none, line :: rest)
    else match underline? line with
      | some level => ([], some level, rest)
      | none =>
        if interrupts line then ([], none, line :: rest)
        else
          let (more, u, after) := paragraphLines fuel rest
          (line :: more, u, after)

/-- A task item's mark and the text after it. -/
def taskOf (first : String) : Option Bool × String :=
  if first.startsWith "[ ] " || first = "[ ]" then (some false, ((first.drop 3).toString).trimAsciiStart.toString)
  else if first.startsWith "[x] " || first.startsWith "[X] " || first = "[x]" || first = "[X]" then
    (some true, ((first.drop 3).toString).trimAsciiStart.toString)
  else (none, first)

/-- The inline content of paragraph lines: each line without its leading blanks, the last
without its trailing ones. -/
def paragraphContent (defs : List (String × String)) (lines : List String) : List Inline :=
  let ls := lines.map (·.trimAsciiStart.toString)
  let ls := match ls.reverse with
    | last :: more => (last.trimAsciiEnd.toString :: more).reverse
    | [] => []
  inlinesOf defs ls

/-! ## Link definitions -/

/-- A blank inside a line. -/
def isBlankChar (c : Char) : Bool := c = ' ' || c = '\t'

/-- Text without its leading blanks and at most one line break among them. -/
def skipGap (cs : List Char) : List Char :=
  let cs := cs.dropWhile isBlankChar
  match cs with
  | '\n' :: more => more.dropWhile isBlankChar
  | _ => cs

/-- Where the bracket closing a link label starts in the text after the opening bracket,
brackets nesting and backslashes escaping. -/
def labelEnd (cs : List Char) : Option Nat :=
  let step := fun (acc : Option Nat × Nat × Bool × Nat) (c : Char) =>
    match acc with
    | (some i, d, e, k) => (some i, d, e, k)
    | (none, depth, escaped, i) =>
      if escaped then (none, depth, false, i + 1)
      else if c = '\\' then (none, depth, true, i + 1)
      else if c = '[' then (none, depth + 1, false, i + 1)
      else if c = ']' then
        if depth = 0 then (some i, 0, false, i + 1) else (none, depth - 1, false, i + 1)
      else (none, depth, false, i + 1)
  (cs.foldl step (none, 0, false, 0)).1

/-- The target of a definition at the start: in angle brackets on one line, or a run that
`plainTargetLength` measures. The target and the text after it. -/
def definitionTarget (cs : List Char) : Option (String × List Char) :=
  match cs with
  | '<' :: rest =>
    let body := rest.takeWhile fun c => c ≠ '>' && c ≠ '\n' && c ≠ '<'
    match rest.drop body.length with
    | '>' :: more => some (String.ofList body, more)
    | _ => none
  | _ =>
    let n := plainTargetLength cs 0
    if n = 0 then none else some (String.ofList (cs.take n), cs.drop n)

/-- The text after the line a position is on, and whether the rest of that line is blank. -/
def restOfLine (cs : List Char) : Bool × List Char :=
  let line := cs.takeWhile (· ≠ '\n')
  (line.all isBlankChar, (cs.drop line.length).drop 1)

/-- A title after a definition's target: blanks (with at most one line break) and a text in
double quotes, single quotes or parentheses, then nothing but blanks on its line. The text
after that line. -/
def definitionTitle (cs : List Char) : Option (List Char) :=
  let gapped := skipGap cs
  if gapped.length = cs.length then none
  else
    match gapped with
    | q :: rest =>
      let close := if q = '(' then ')' else q
      if q ≠ '"' && q ≠ '\'' && q ≠ '(' then none
      else
        let step := fun (acc : Option Nat × Bool × Nat) (c : Char) =>
          match acc with
          | (some i, e, k) => (some i, e, k)
          | (none, escaped, k) =>
            if escaped then (none, false, k + 1)
            else if c = '\\' then (none, true, k + 1)
            else if c = close then (some k, false, k + 1)
            else (none, false, k + 1)
        match (rest.foldl step (none, false, 0)).1 with
        | some i =>
          let body := String.ofList (rest.take i)
          if holds body "\n\n" then none
          else
            let (blank, after) := restOfLine (rest.drop (i + 1))
            if blank then some after else none
        | none => none
    | [] => none

/-- A link definition at the start of paragraph text, `[label]: target "title"`: the label
made comparable, the target, and the text after the line it ends on. -/
def definition? (cs : List Char) : Option ((String × String) × List Char) := do
  let rest ← match cs with
    | '[' :: r => some r
    | _ => none
  let i ← labelEnd rest
  let label := rest.take i
  if label.contains '[' || label.all (fun c => isBlankChar c || c = '\n') then none
  let after ← match rest.drop (i + 1) with
    | ':' :: r => some r
    | _ => none
  let (target, afterTarget) ← definitionTarget (skipGap after)
  let (endsLine, nextLine) := restOfLine afterTarget
  match definitionTitle afterTarget with
  | some more => some ((labelKey label, target), more)
  | none => if endsLine then some ((labelKey label, target), nextLine) else none

/-- The link definitions at the start of paragraph text and the text after them. The fuel
bounds the definitions read. -/
def takeDefinitions : Nat → List Char → List (String × String) × List Char
  | 0, cs => ([], cs)
  | fuel + 1, cs =>
    match definition? cs with
    | some (d, rest) =>
      let (ds, more) := takeDefinitions fuel rest
      (d :: ds, more)
    | none => ([], cs)

/-- The blocks of a paragraph's lines: its link definitions, then a paragraph of what is
left, if anything. -/
def paragraphBlocks (defs : List (String × String)) (lines : List String) : List Node :=
  let text := "\n".intercalate (lines.map (·.trimAsciiStart.toString))
  let (found, rest) := takeDefinitions lines.length text.toList
  let left := if rest.isEmpty then [] else (String.ofList rest).splitOn "\n"
  let left := left.filter (!isBlank ·)
  (if found.isEmpty then [] else [.definitions found left.isEmpty]) ++
    (if left.isEmpty then [] else [.paragraph (paragraphContent defs left)])

/-- A line that goes on a paragraph lazily, outside the block around the paragraph. It is
set four blanks in, so that inside that block it can only go on the paragraph: it can
neither start a block nor underline the paragraph as a heading. -/
def lazyLine (line : String) : String := "    " ++ line

/-- The blocks read from lines, and whether the lines end inside a paragraph that is still
open, which a line of text without the marks of the blocks around it would go on. -/
abbrev Reading := List Node × Bool

/-- Blocks read up to the lines `after`, then the blocks after them; the lines end inside
an open paragraph when the blocks read first reach the end and end in one, or the blocks
after them do. -/
def Reading.followedBy (blocks : List Node) (opened : Bool) (after : List String) (next : Reading) :
    Reading :=
  (blocks ++ next.1, if after.isEmpty then opened else next.2)

mutual

/-- Reads the blocks of lines, with the link definitions of the document. The fuel bounds
the steps. -/
def readBlocks (defs : List (String × String)) : Nat → List String → Reading
  | 0, _ => ([], false)
  | _, [] => ([], false)
  | fuel + 1, line :: rest =>
    if isBlank line then readBlocks defs fuel rest
    else if indentOf line ≥ 4 then
      let body := (line :: rest).takeWhile (fun l => indentOf l ≥ 4 || isBlank l)
      let body := (body.reverse.dropWhile isBlank).reverse
      let after := (line :: rest).drop body.length
      Reading.followedBy [.code "" (String.join (body.map (fun l => dropIndent 4 l ++ "\n")))] false after
        (readBlocks defs fuel after)
    else if let some (c, n, ind, language) := fence? line then
      let body := rest.takeWhile (fun l => !closesFence c n l)
      let after := (rest.drop body.length).drop 1
      Reading.followedBy [.code language (String.join (body.map (fun l => dropIndent ind l ++ "\n")))] false after
        (readBlocks defs fuel after)
    else if let some (level, text) := atxHeading? line then
      Reading.followedBy [.heading level (inlinesOf defs [text])] false rest (readBlocks defs fuel rest)
    else if isBreak line then Reading.followedBy [.rule] false rest (readBlocks defs fuel rest)
    else if isQuote line then
      let (inner, after) := quoteLines defs fuel [] (line :: rest)
      let (children, opened) := readBlocks defs fuel inner
      Reading.followedBy [.quote children] opened after (readBlocks defs fuel after)
    else if let some s := itemStart? line then
      let (items, after, opened) := readItems defs fuel s (line :: rest)
      Reading.followedBy [.list s.ordered s.number items] opened after (readBlocks defs fuel after)
    else if let some ending := htmlStart? line false then
      let (body, after) := htmlLines ending line rest
      Reading.followedBy [.html (String.join (body.map (· ++ "\n")))] false after (readBlocks defs fuel after)
    else
      match rest with
      | next :: more =>
        match delimiterRow? next with
        | some aligns =>
          if line.contains '|' && (cellsOf line).length = aligns.length then
            let body := more.takeWhile fun l => !isBlank l && !interrupts l
            let width := aligns.length
            let fit := fun (cs : List String) => (cs ++ List.replicate width "").take width
            let after := more.drop body.length
            Reading.followedBy
              [.table aligns ((cellsOf line).map (inlinesOf defs [·])) (body.map fun l => (fit (cellsOf l)).map (inlinesOf defs [·]))]
              false after (readBlocks defs fuel after)
          else readParagraph defs fuel line rest
        | none => readParagraph defs fuel line rest
      | [] => readParagraph defs fuel line rest

/-- Reads a paragraph (or a setext heading) starting at a line, then the blocks after it. -/
def readParagraph (defs : List (String × String)) : Nat → String → List String → Reading
  | 0, _, _ => ([], false)
  | fuel + 1, line, rest =>
    let (more, underline, after) := paragraphLines (rest.length + 1) rest
    match underline with
    | some level =>
      Reading.followedBy [.heading level (paragraphContent defs (line :: more))] false after
        (readBlocks defs fuel after)
    | none => Reading.followedBy (paragraphBlocks defs (line :: more)) true after (readBlocks defs fuel after)

/-- The lines of a block quote: lines starting with `>`, and lines of text that go on a
paragraph still open in it. `acc` holds the quote's lines so far (without `>`). Gives the
quote's lines and the rest. -/
def quoteLines (defs : List (String × String)) : Nat → List String → List String → List String × List String
  | 0, acc, rest => (acc, rest)
  | _, acc, [] => (acc, [])
  | fuel + 1, acc, line :: rest =>
    if isQuote line then quoteLines defs fuel (acc ++ [unquote line]) rest
    else if !isBlank line && !interrupts line && (readBlocks defs fuel acc).2 then
      quoteLines defs fuel (acc ++ [lazyLine line]) rest
    else (acc, line :: rest)

/-- Reads the items of a list whose first item starts a line: items with the same kind of
marker, blank lines between them or not. Gives the items, the lines after the list, and
whether the last item ends inside an open paragraph. An item whose marker line is empty
and followed by a blank line is empty. -/
def readItems (defs : List (String × String)) : Nat → ItemStart → List String → List Node × List String × Bool
  | 0, _, rest => ([], rest, false)
  | _, _, [] => ([], [], false)
  | fuel + 1, s, line :: rest =>
    match itemStart? line with
    | some t =>
      if t.ordered = s.ordered && t.marker = s.marker && !isBreak line then
        let (more, after) :=
          if t.first = "" && (rest.head?.any isBlank) then ([], rest)
          else itemLines t.offset (rest.length + 1) rest (t.first = "")
        let (task, first) := taskOf t.first
        let (children, opened) := readBlocks defs fuel (first :: more)
        let item := Node.item task children
        let next := after.dropWhile isBlank
        if next.head?.any (fun l => (itemStart? l).any (fun u => u.ordered = s.ordered && u.marker = s.marker)) then
          let (items, after', opened') := readItems defs fuel s next
          (item :: items, after', opened')
        else ([item], after, opened)
      else ([], line :: rest, false)
    | none => ([], line :: rest, false)

end

mutual
/-- The link definitions of a block and the blocks in it, in reading order. -/
def Node.definitionsIn : Node → List (String × String)
  | .definitions es _ => es
  | .quote children => definitionsInAll children
  | .list _ _ items => definitionsInAll items
  | .item _ children => definitionsInAll children
  | _ => []
/-- The link definitions of blocks, in reading order. -/
def definitionsInAll : List Node → List (String × String)
  | [] => []
  | n :: ns => n.definitionsIn ++ definitionsInAll ns
end

mutual
/-- A block with the link definitions in it left out. -/
def Node.withoutDefinitions : Node → Node
  | .quote children => .quote (withoutDefinitionsAll children)
  | .list ordered start items => .list ordered start (withoutDefinitionsAll items)
  | .item task children => .item task (withoutDefinitionsAll children)
  | n => n
/-- Blocks with the link definitions left out; a paragraph of nothing but definitions stays
as an empty block. -/
def withoutDefinitionsAll : List Node → List Node
  | [] => []
  | .definitions _ false :: ns => withoutDefinitionsAll ns
  | .definitions _ true :: ns => .definitions [] true :: withoutDefinitionsAll ns
  | n :: ns => n.withoutDefinitions :: withoutDefinitionsAll ns
end

/-- The blocks of a Markdown text. The text is read twice: first for its link definitions
(anywhere in it; the first of a label counts), then with them, so that a link may come
before its definition. -/
def Node.parse (md : String) : List Node :=
  let lines := ((md.replace "\r\n" "\n").splitOn "\n").map expandTabs
  let fuel := (lines.length + 1) * (lines.foldl (fun n l => n + l.length) 0 + 2)
  let defs := definitionsInAll (readBlocks [] fuel lines).1
  withoutDefinitionsAll (readBlocks defs fuel lines).1

end ConfigTables.Present.Markdown
