import ConfigTables.Yaml.Node
/-!
# Writing YAML node trees

A tree is written back two spaces per level. A block mapping writes `key: value` lines, a
nested block collection starting on the line after its key; a block sequence writes `- item`
lines, and under a mapping key its dashes stay at the key's column. The first entry of a
collection inside a sequence item shares the dash's line. Flow collections are written on
one line as `{a: b, c: d}` and `[a, b]`; empty collections as `{}` and `[]`.

A scalar keeps its style where it can. Plain text is written as it is unless it could be
read back differently (an indicator at its start, `: ` or ` #` inside, blanks at either end,
line breaks, special characters); then it is single-quoted, and double-quoted, with
escapes, when single quotes cannot hold it either. Text with line breaks is written as a
literal block (`|`) with its chomping sign. Keys stay on one line.

Comments come back where they were: head comments on the lines before their node, line
comments after its value, foot comments after it — a blank line then separating it from the
next entry at the same level. A document's head comment is followed by a blank line and its
foot comment preceded by one.
-/

namespace ConfigTables.Yaml

/-- Whether a character is a line break of YAML. -/
def isBreakChar (c : Char) : Bool :=
  c = '\n' || c = '\r' || c.toNat = 0x85 || c.toNat = 0x2028 || c.toNat = 0x2029

/-- Whether a character may be written as it is. -/
def printable (c : Char) : Bool :=
  let n := c.toNat
  n = 0x0A || (0x20 ≤ n && n ≤ 0x7E) || (0xA0 ≤ n && n ≤ 0xD7FF) ||
    (0xE000 ≤ n && n ≤ 0xFFFD && n ≠ 0xFEFF)

/-- What a scalar's text allows. -/
structure Allowed where
  multiline : Bool
  flowPlain : Bool
  blockPlain : Bool
  single : Bool
  block : Bool

/-- Looks through a scalar's text for what may be written plain, quoted or as a block. -/
def analyze (v : String) : Allowed :=
  let cs := v.toList.toArray
  let len := cs.size
  if len = 0 then ⟨false, false, true, true, false⟩
  else
    let charAt (i : Nat) : Option Char := cs[i]?
    let blankzAt (i : Nat) : Bool := match charAt i with
      | none => true
      | some c => c = ' ' || c = '\t' || isBreakChar c
    let marker := len ≥ 3 &&
      ((charAt 0 = some '-' && charAt 1 = some '-' && charAt 2 = some '-') ||
       (charAt 0 = some '.' && charAt 1 = some '.' && charAt 2 = some '.'))
    -- flags: blockInd, flowInd, breaks, special, tabs, leadSpace, leadBreak, trailSpace,
    -- trailBreak, breakSpace, spaceBreak
    let step (st : Bool × Bool × Bool × Bool × Bool × Bool × Bool × Bool × Bool × Bool × Bool ×
        Bool × Bool × Bool) (i : Nat) :=
      let (bi, fi, lb, sp, tb, ls, lbr, ts, tbr, bs, sb, precWs, prevSpace, prevBreak) := st
      let c := (charAt i).getD ' '
      let follWs := blankzAt (i + 1)
      let (bi, fi) :=
        if i = 0 then
          if "#,[]\x7b\x7d&*!|>'\"%@`".toList.contains c then (true, true)
          else if c = '?' || c = ':' then (bi || follWs, true)
          else if c = '-' && follWs then (true, true)
          else (bi, fi)
        else
          if ",?[]\x7b\x7d".toList.contains c then (bi, true)
          else if c = ':' then (bi || follWs, true)
          else if c = '#' && precWs then (true, true)
          else (bi, fi)
      let (tb, sp) := if c = '\t' then (true, sp) else if !printable c then (tb, true) else (tb, sp)
      let (ls, ts, bs, lbr, tbr, sb, lb, prevSpace, prevBreak) :=
        if c = ' ' then
          (ls || i = 0, ts || i + 1 = len, bs || prevBreak, lbr, tbr, sb, lb, true, false)
        else if isBreakChar c then
          (ls, ts, bs, lbr || i = 0, tbr || i + 1 = len, sb || prevSpace, true, false, true)
        else (ls, ts, bs, lbr, tbr, sb, lb, false, false)
      let precWs := blankzAt i
      (bi, fi, lb, sp, tb, ls, lbr, ts, tbr, bs, sb, precWs, prevSpace, prevBreak)
    let (bi, fi, lb, sp, tb, ls, lbr, ts, tbr, bs, sb, _, _, _) :=
      (List.range len).foldl step (marker, marker, false, false, false, false, false, false, false,
        false, false, true, false, false)
    let ends := ls || lbr || ts || tbr
    let flowPlain := !(ends || bs || sb || tb || sp || lb || fi)
    let blockPlain := !(ends || bs || sb || tb || sp || lb || bi)
    let single := !(bs || sb || tb || sp)
    let block := !(ts || sb || sp)
    ⟨lb, flowPlain, blockPlain, single, block⟩

/-- The style a scalar is written in, in flow context or as a key or not. -/
def chooseStyle (n : Node) (inFlow key : Bool) : ScalarStyle :=
  let a := analyze n.value
  let wanted :=
    if n.style = .plain && n.value.toList.contains '\n' then ScalarStyle.literal else n.style
  let wanted := if key && a.multiline then ScalarStyle.doubleQuoted else wanted
  let wanted :=
    if wanted = .plain then
      if (inFlow && !a.flowPlain) || (!inFlow && !a.blockPlain) then ScalarStyle.singleQuoted
      else if n.value = "" && (inFlow || key) then .singleQuoted
      else .plain
    else wanted
  let wanted := if wanted = .singleQuoted && !a.single then ScalarStyle.doubleQuoted else wanted
  if (wanted = .literal || wanted = .folded) && (!a.block || inFlow || key) then .doubleQuoted
  else wanted

/-- A number in `width` upper-case hexadecimal digits. -/
def upperHex (width n : Nat) : String :=
  String.ofList ((List.range width).reverse.map fun k =>
    let d := n / Nat.pow 16 k % 16
    if d < 10 then Char.ofNat (48 + d) else Char.ofNat (55 + d))

/-- The escape of a character in double quotes. -/
def escapeFor (c : Char) : String :=
  match c.toNat with
  | 0x00 => "\\0"
  | 0x07 => "\\a"
  | 0x08 => "\\b"
  | 0x09 => "\\t"
  | 0x0A => "\\n"
  | 0x0B => "\\v"
  | 0x0C => "\\f"
  | 0x0D => "\\r"
  | 0x1B => "\\e"
  | 0x22 => "\\\""
  | 0x5C => "\\\\"
  | 0x85 => "\\N"
  | 0xA0 => "\\_"
  | 0x2028 => "\\L"
  | 0x2029 => "\\P"
  | n =>
    if n ≤ 0xFF then "\\x" ++ upperHex 2 n
    else if n ≤ 0xFFFF then "\\u" ++ upperHex 4 n
    else "\\U" ++ upperHex 8 n

/-- Text in double quotes. Text that starts with a byte order mark has every character
escaped: the test for the mark looks at the start of the text, not at the character. -/
def doubleQuoted (v : String) : String :=
  let marked := v.startsWith "\uFEFF"
  "\"" ++ String.join (v.toList.map fun c =>
    if marked || !printable c || isBreakChar c || c = '"' || c = '\\' then escapeFor c
    else c.toString) ++ "\""

/-- Text in single quotes. A first `\n` in a row of breaks is written as an empty line, any
other break as itself; the text after breaks is indented by `pad`, on a new line when the
blanks after the breaks already reach past it. `col` counts the blanks since the last break. -/
def singleQuotedBody (pad : String) : List Char → Bool → Nat → String
  | [], _, _ => ""
  | c :: rest, breaks, col =>
    if c = ' ' then " " ++ singleQuotedBody pad rest breaks (col + 1)
    else if isBreakChar c then
      (if c = '\n' then (if breaks then "\n" else "\n\n") else c.toString) ++
        singleQuotedBody pad rest true 0
    else
      let lead :=
        if !breaks then ""
        else if col > pad.length then "\n" ++ pad
        else String.ofList (List.replicate (pad.length - col) ' ')
      lead ++ (if c = '\'' then "''" else c.toString) ++ singleQuotedBody pad rest false (col + 1)

/-- Text in single quotes, a quote doubled. -/
def singleQuoted (v : String) (pad : String) : String :=
  "'" ++ singleQuotedBody pad v.toList false 0 ++ "'"

/-- The indentation and chomping signs of a block scalar. -/
def blockHints (v : String) : String :=
  let cs := v.toList
  let indentHint := match cs with
    | c :: _ => if c = ' ' || isBreakChar c then "2" else ""
    | [] => ""
  let chomp :=
    match cs.reverse with
    | [] => "-"
    | c :: rest =>
      if !isBreakChar c then "-"
      else match rest with
        | [] => "+"
        | d :: _ => if isBreakChar d then "+" else ""
  indentHint ++ chomp

/-- The text of a folded block scalar after its header line, each line indented by `pad`.
A line feed that ends a line of text (not one starting with a blank) is written doubled, so
that it reads back as a line feed and not as a space, when the first character of the whole
text after its leading breaks is not a blank: the check looks at the start of the text, not
at what follows the break. -/
def foldedText (pad : String) (v : List Char) : String :=
  let doubles := match v.dropWhile isBreakChar with
    | [] => false
    | c :: _ => !(c = ' ' || c = '\t' || c = '\x00')
  let rec go : List Char → Bool → Bool → String
    | [], _, _ => ""
    | c :: rest, breaks, leading =>
      if isBreakChar c then
        (if !breaks && !leading && c = '\n' && doubles then "\n" else "") ++ c.toString ++
          go rest true leading
      else
        (if breaks then pad else "") ++ c.toString ++
          go rest false (if breaks then c = ' ' || c = '\t' else leading)
  match v with
  | '\n' :: rest => go rest true true
  | _ => go v true true

/-- The lines of a block scalar's text at an indentation, empty lines left empty. A break
at the start of the text only ends the header line, so that line is not written. -/
def blockBody (v : String) (pad : String) (folded : Bool) : List String :=
  if folded then
    let t := foldedText pad v.toList
    let lines := t.splitOn "\n"
    -- a text ending in a break ends its last line; nothing follows it
    if t.endsWith "\n" then lines.dropLast else lines
  else
    let lines := v.splitOn "\n"
    let lines := if v.endsWith "\n" then lines.dropLast else lines
    let lines := if v.startsWith "\n" then lines.drop 1 else lines
    lines.map (fun l => if l = "" then "" else pad ++ l)

/-- The anchor and tag of a node as written before it. -/
def propsText (n : Node) : String :=
  let parts := (if n.anchor = "" then [] else ["&" ++ n.anchor]) ++ (if n.tag = "" then [] else [n.tag])
  " ".intercalate parts

/-- Prefixes text with the node's properties. -/
def withPropsText (n : Node) (t : String) : String :=
  let p := propsText n
  if p = "" then t else if t = "" then p else p ++ " " ++ t

/-- A scalar written on its line: its text, and the lines of a block scalar's body indented
by `pad`. -/
def scalarLines (n : Node) (inFlow key : Bool) (pad : String) : String × List String :=
  match chooseStyle n inFlow key with
  | .plain => (n.value, [])
  | .singleQuoted => (singleQuoted n.value pad, [])
  | .doubleQuoted => (doubleQuoted n.value, [])
  | .literal => ("|" ++ blockHints n.value, blockBody n.value pad false)
  | .folded => (">" ++ blockHints n.value, blockBody n.value pad true)

mutual
/-- A node written in flow layout. -/
def flowText : Node → String
  | n@⟨kind, _, _, _, value, _, content, _, _, _, _, _⟩ =>
    match kind with
    | .alias => "*" ++ value
    | .sequence => withPropsText n ("[" ++ ", ".intercalate (flowAll content) ++ "]")
    | .mapping => withPropsText n ("\x7b" ++ ", ".intercalate (flowPairs content) ++ "\x7d")
    | _ => withPropsText n (scalarLines n true false "").1
/-- Nodes written in flow layout. -/
def flowAll : List Node → List String
  | [] => []
  | x :: xs => flowText x :: flowAll xs
/-- Keys and values written in flow layout as `key: value`. -/
def flowPairs : List Node → List String
  | k :: v :: rest =>
    let vt := flowText v
    (flowText k ++ ":" ++ (if vt = "" then "" else " " ++ vt)) :: flowPairs rest
  | _ => []
end

/-- The lines of a comment at an indentation; empty lines stay empty. -/
def commentLines (t : String) (pad : String) : List String :=
  if t = "" then [] else (t.splitOn "\n").map fun l => if l = "" then "" else pad ++ l

/-- Spaces for an indentation. -/
def spaces (n : Nat) : String := String.ofList (List.replicate n ' ')

/-- Appends a line comment to a line. -/
def withLineComment (l c : String) : String := if c = "" then l else l ++ " " ++ c

/-- Whether a node is written as an indented block of its own lines. -/
def isBlockCollection (n : Node) : Bool :=
  (n.kind = .mapping || n.kind = .sequence) && !n.flow && !n.content.isEmpty

/-- A node written after `key:` or `-` on the same line, when it is no block collection:
the text for that line and any lines that follow. -/
def inlineText (n : Node) (pad : String) : String × List String :=
  match n.kind with
  | .alias => ("*" ++ n.value, [])
  | .mapping | .sequence => (flowText n, [])
  | _ =>
    let (t, more) := scalarLines n false false pad
    (withPropsText n t, more)

/-- The length in bytes of a node's tag as the emitter counts it: handle and suffix, without
the brackets of a verbatim tag. -/
def tagLength (t : String) : Nat :=
  if t.startsWith "!<" then t.utf8ByteSize - 3 else t.utf8ByteSize

/-- Whether a key is written on its `key:` line: an alias, a scalar on one line or an empty
collection, with at most 128 bytes of anchor, tag and text. Other keys are written after
`? `, their value after `: ` on the next line. -/
def inlineKey (k : Node) : Bool :=
  let props := k.anchor.utf8ByteSize + tagLength k.tag
  match k.kind with
  | .alias => k.value.utf8ByteSize ≤ 128
  | .scalar => !(analyze k.value).multiline && props + k.value.utf8ByteSize ≤ 128
  | .mapping | .sequence => k.content.isEmpty && props ≤ 128
  | .document => false

mutual
/-- The lines of a block collection whose entries stand at column `ind`. -/
def blockLines (ind : Nat) : Node → List String
  | ⟨kind, _, _, _, _, _, content, _, _, _, _, _⟩ =>
    if kind = .mapping then entryLines ind false content else itemLines ind false content
/-- The lines of a block mapping's entries at column `ind`; `gap` asks for a blank line
first (after a foot comment). -/
def entryLines (ind : Nat) (gap : Bool) : List Node → List String
  | k :: v :: rest =>
    let pad := spaces ind
    let keyText := pad ++ withPropsText k (scalarLines k false true "").1 ++ ":"
    let body : List String :=
      if !inlineKey k then
        nodeAfter ind (pad ++ "?") k ++ nodeAfter ind (pad ++ ":") v
      else if isBlockCollection v then
        let first := withLineComment (if propsText v = "" then keyText else keyText ++ " " ++ propsText v)
          (if k.line ≠ "" then k.line else v.line)
        first :: blockLines (ind + 2) v
      else
        let (t, more) := inlineText v (spaces (ind + 2))
        let line := if t = "" then keyText else keyText ++ " " ++ t
        withLineComment line (if v.line ≠ "" then v.line else k.line) :: more
    let foot := if k.foot ≠ "" then k.foot else v.foot
    (if gap then [""] else []) ++ commentLines k.head pad ++ body ++ commentLines foot pad ++
      entryLines ind (foot ≠ "") rest
  | _ => []
/-- The lines of a block sequence's items at column `ind`. -/
def itemLines (ind : Nat) (gap : Bool) : List Node → List String
  | [] => []
  | x :: rest =>
    let pad := spaces ind
    (if gap then [""] else []) ++ commentLines x.head pad ++ nodeAfter ind (pad ++ "-") x ++
      commentLines x.foot pad ++ itemLines ind (x.foot ≠ "") rest
/-- A node written after an indicator (`-`, `?`, `:`) that ends `lead`, its own lines at
column `ind + 2`: a block collection's first entry shares the indicator's line. -/
def nodeAfter (ind : Nat) (lead : String) : Node → List String
  | x@⟨kind, _, _, _, _, _, content, _, line, _, _, _⟩ =>
    if isBlockCollection x then
      let inner :=
        if kind = .mapping then entryLines (ind + 2) false content else itemLines (ind + 2) false content
      if propsText x = "" && line = "" then
        match inner with
        | first :: more => (lead ++ " " ++ first.drop (ind + 2)) :: more
        | [] => [lead]
      else
        withLineComment (withPropsText x "" |> fun p => if p = "" then lead else lead ++ " " ++ p) line ::
          inner
    else
      let (t, more) := inlineText x (spaces (ind + 2))
      withLineComment (if t = "" then lead else lead ++ " " ++ t) line :: more
end

/-- The text of a document: its head comment and a blank line, its content, and a blank line
and its foot comment. -/
def writeDocument (doc : Node) : String :=
  let content := doc.content.headD (Node.scalar "")
  let body :=
    if isBlockCollection content then
      if propsText content = "" then blockLines 0 content
      else propsText content :: blockLines 0 content
    else
      let (t, more) := inlineText content "  "
      withLineComment t content.line :: more
  let lines := (if doc.head = "" then [] else commentLines doc.head "" ++ [""]) ++
    commentLines content.head "" ++ body ++
    (if doc.foot = "" then [] else [""] ++ commentLines doc.foot "")
  "\n".intercalate lines ++ "\n"

end ConfigTables.Yaml
