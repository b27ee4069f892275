import ConfigTables.Number.Binary64
/-!
# Styles of Markdown on a terminal

A style sheet says how each kind of Markdown element looks. A `Look` is the look of a piece
of text: texts drawn around it outside its colours (`blockLead`, `blockTrail`) and inside
them (`lead`, `trail`), its colours and attributes, and a template for its text. A `Frame`
is the look of a block, with how far its lines are indented, by what, and its margin.

Looks nest: an inner look takes the colours and attributes of the outer one unless it sets
its own (`Look.under`). Its surrounding texts are its own, or, when a whole block style is
being built from a more general one, those of the outer look where it has none.

Colours are written as terminal escape codes: a number below 16 is one of the sixteen basic
colours, a number below 256 one of the 256-colour palette, and `#rrggbb` a true colour. A
true-colour channel goes through a floating-point round trip (times 1/255, then times 255,
cut to a whole number), which lowers some channels by one; that is what the terminal sees.

The named sheets are `dark`, `light`, `dracula`, `pink`, `tokyo-night`, and `notty` (also
`ascii`, and `auto` when the output is not a terminal) for terminals without colour.
-/

namespace ConfigTables.Present.Markdown

/-- The look of a piece of text. -/
structure Look where
  blockLead : String
  blockTrail : String
  lead : String
  trail : String
  color : Option String
  background : Option String
  underline : Option Bool
  bold : Option Bool
  italic : Option Bool
  crossedOut : Option Bool
  /-- A template for the text; `\x7b\x7b.text\x7d\x7d` in it stands for the text. -/
  format : String
  deriving Repr, Inhabited

/-- Text as it is. -/
def Look.plain : Look := ⟨"", "", "", "", none, none, none, none, none, none, ""⟩

/-- An inner look inside an outer one: colours and attributes from the outer look unless the
inner sets them; with `whole`, the surrounding texts of the outer look where the inner has
none. The template is the inner look's. -/
def Look.under (outer inner : Look) (whole : Bool) : Look :=
  let pick := fun (i o : String) => if i ≠ "" then i else if whole then o else ""
  { blockLead := pick inner.blockLead outer.blockLead
    blockTrail := pick inner.blockTrail outer.blockTrail
    lead := pick inner.lead outer.lead
    trail := pick inner.trail outer.trail
    color := inner.color <|> outer.color
    background := inner.background <|> outer.background
    underline := inner.underline <|> outer.underline
    bold := inner.bold <|> outer.bold
    italic := inner.italic <|> outer.italic
    crossedOut := inner.crossedOut <|> outer.crossedOut
    format := inner.format }

/-- The look of a block: its text's look, its indent and the token repeated for it, and its
margin. -/
structure Frame where
  look : Look
  indent : Option Nat
  indentToken : Option String
  margin : Option Nat
  deriving Repr, Inhabited

/-- A block drawn as it is. -/
def Frame.plain : Frame := ⟨Look.plain, none, none, none⟩

/-- A frame of a given look. -/
def Frame.of (l : Look) : Frame := ⟨l, none, none, none⟩

/-- An inner block style inside an outer one (see `Look.under`). With `whole` the margin is
the outer one's, and the indent too unless the inner sets it; otherwise both are the
inner's. -/
def Frame.under (outer inner : Frame) (whole : Bool) : Frame :=
  { look := outer.look.under inner.look whole
    indent := inner.indent <|> (if whole then outer.indent else none)
    indentToken := inner.indentToken
    margin := if whole then outer.margin else inner.margin }

/-- A style sheet: the look of every kind of element. -/
structure Sheet where
  document : Frame
  quote : Frame
  paragraph : Frame
  list : Frame
  /-- The indent of a list inside another. -/
  levelIndent : Nat
  heading : Frame
  h1 : Frame
  h2 : Frame
  h3 : Frame
  h4 : Frame
  h5 : Frame
  h6 : Frame
  text : Look
  strike : Look
  emph : Look
  strong : Look
  rule : Look
  item : Look
  enumeration : Look
  ticked : String
  unticked : String
  link : Look
  linkText : Look
  image : Look
  imageText : Look
  code : Frame
  codeBlock : Frame
  table : Frame
  centerSeparator : Option String
  columnSeparator : Option String
  rowSeparator : Option String
  /-- Whether code blocks are highlighted (`Highlight`). -/
  highlight : Bool
  deriving Inhabited

/-! ## Escape codes -/

/-- The value of a hexadecimal digit. -/
def hexDigit (c : Char) : Option Nat :=
  if c.isDigit then some (c.toNat - '0'.toNat)
  else if 'a' ≤ c && c ≤ 'f' then some (c.toNat - 'a'.toNat + 10)
  else if 'A' ≤ c && c ≤ 'F' then some (c.toNat - 'A'.toNat + 10)
  else none

/-- A colour channel after the floating-point round trip of true colours: times 1/255, then
times 255, each product rounded to the nearest double, then cut to a whole number. -/
def channel (v : Nat) : Nat :=
  let (fn, fd) := (Binary64.ofRatio false 1 255).ratio
  let (xn, xd) := (Binary64.ofRatio false (v * fn) fd).ratio
  let (yn, yd) := (Binary64.ofRatio false (xn * 255) xd).ratio
  (if yd = 0 then 0 else yn / yd) % 256

/-- The channels of a `#rrggbb` or `#rgb` colour. -/
def hexChannels (s : String) : Option (Nat × Nat × Nat) :=
  match s.toList with
  | ['#', r1, r2, g1, g2, b1, b2] => do
    let v := fun (a b : Char) => do return (← hexDigit a) * 16 + (← hexDigit b)
    return (← v r1 r2, ← v g1 g2, ← v b1 b2)
  | ['#', r, g, b] => do
    return ((← hexDigit r) * 17, (← hexDigit g) * 17, (← hexDigit b) * 17)
  | _ => none

/-- The escape parameters of a colour, in front (`background` false) or behind. -/
def colorCode (background : Bool) (c : String) : Option String :=
  if c.startsWith "#" then
    let (r, g, b) := ((hexChannels c).map fun (r, g, b) =>
      if c.length = 4 then (r, g, b) else (channel r, channel g, channel b)).getD (0, 0, 0)
    some ((if background then "48" else "38") ++ ";2;" ++ toString r ++ ";" ++ toString g ++ ";" ++ toString b)
  else
    match c.toNat? with
    | some n =>
      if n < 8 then some (toString ((if background then 40 else 30) + n))
      else if n < 16 then some (toString ((if background then 100 else 90) + n - 8))
      else some ((if background then "48;5;" else "38;5;") ++ toString n)
    | none => none

/-- The escape parameters of a look, in the order a terminal style adds them. -/
def Look.codes (l : Look) : List String :=
  let flag := fun (b : Option Bool) (code : String) => if b = some true then [code] else []
  (l.color.bind (colorCode false)).toList ++ (l.background.bind (colorCode true)).toList ++
    flag l.underline "4" ++ flag l.bold "1" ++ flag l.italic "3" ++ flag l.crossedOut "9"

/-- A text drawn in a look's colours and attributes; nothing for no text, the text itself
for a plain look. -/
def Look.paint (l : Look) (s : String) : String :=
  if s.isEmpty then ""
  else match l.codes with
    | [] => s
    | cs => "\x1b[" ++ ";".intercalate cs ++ "m" ++ s ++ "\x1b[0m"

/-! ## The named sheets -/

/-- A look with a colour. -/
def tinted (c : String) : Look := { Look.plain with color := some c }

/-- The sheet of terminals without colour: marks stand for the attributes. -/
def notty : Sheet :=
  { document := ⟨{ Look.plain with blockLead := "\n", blockTrail := "\n" }, none, none, some 2⟩
    quote := ⟨Look.plain, some 1, some "| ", none⟩
    paragraph := Frame.plain
    list := Frame.plain
    levelIndent := 4
    heading := Frame.of { Look.plain with blockTrail := "\n" }
    h1 := Frame.of { Look.plain with lead := "# " }
    h2 := Frame.of { Look.plain with lead := "## " }
    h3 := Frame.of { Look.plain with lead := "### " }
    h4 := Frame.of { Look.plain with lead := "#### " }
    h5 := Frame.of { Look.plain with lead := "##### " }
    h6 := Frame.of { Look.plain with lead := "###### " }
    text := Look.plain
    strike := { Look.plain with blockLead := "~~", blockTrail := "~~" }
    emph := { Look.plain with blockLead := "*", blockTrail := "*" }
    strong := { Look.plain with blockLead := "**", blockTrail := "**" }
    rule := { Look.plain with format := "\n--------\n" }
    item := { Look.plain with blockLead := "• " }
    enumeration := { Look.plain with blockLead := ". " }
    ticked := "[x] "
    unticked := "[ ] "
    link := Look.plain
    linkText := Look.plain
    image := Look.plain
    imageText := { Look.plain with format := "Image: \x7b\x7b.text\x7d\x7d →" }
    code := Frame.of { Look.plain with blockLead := "`", blockTrail := "`" }
    codeBlock := ⟨Look.plain, none, none, some 2⟩
    table := Frame.plain
    centerSeparator := some "|"
    columnSeparator := some "|"
    rowSeparator := some "-"
    highlight := false }

/-- The sheet for dark backgrounds. -/
def dark : Sheet :=
  { notty with
    document := ⟨{ tinted "252" with blockLead := "\n", blockTrail := "\n" }, none, none, some 2⟩
    quote := ⟨Look.plain, some 1, some "│ ", none⟩
    levelIndent := 2
    heading := Frame.of { tinted "39" with blockTrail := "\n", bold := some true }
    h1 := Frame.of { tinted "228" with lead := " ", trail := " ", background := some "63", bold := some true }
    h6 := Frame.of { tinted "35" with lead := "###### ", bold := some false }
    strike := { Look.plain with crossedOut := some true }
    emph := { Look.plain with italic := some true }
    strong := { Look.plain with bold := some true }
    rule := { tinted "240" with format := "\n--------\n" }
    ticked := "[✓] "
    link := { tinted "30" with underline := some true }
    linkText := { tinted "35" with bold := some true }
    image := { tinted "212" with underline := some true }
    imageText := { tinted "243" with format := "Image: \x7b\x7b.text\x7d\x7d →" }
    code := Frame.of { tinted "203" with lead := " ", trail := " ", background := some "236" }
    codeBlock := ⟨tinted "244", none, none, some 2⟩
    centerSeparator := none
    columnSeparator := none
    rowSeparator := none
    highlight := true }

/-- The sheet for light backgrounds. -/
def light : Sheet :=
  { dark with
    document := ⟨{ tinted "234" with blockLead := "\n", blockTrail := "\n" }, none, none, some 2⟩
    heading := Frame.of { tinted "27" with blockTrail := "\n", bold := some true }
    h6 := Frame.of { Look.plain with lead := "###### ", bold := some false }
    rule := { tinted "249" with format := "\n--------\n" }
    link := { tinted "36" with underline := some true }
    linkText := { tinted "29" with bold := some true }
    image := { tinted "205" with underline := some true }
    code := Frame.of { tinted "203" with lead := " ", trail := " ", background := some "254" }
    codeBlock := ⟨tinted "242", none, none, some 2⟩ }

/-- The Dracula sheet. -/
def dracula : Sheet :=
  { dark with
    document := ⟨{ tinted "#f8f8f2" with blockLead := "\n", blockTrail := "\n" }, none, none, some 2⟩
    quote := ⟨{ tinted "#f1fa8c" with italic := some true }, some 2, none, none⟩
    list := Frame.of (tinted "#f8f8f2")
    heading := Frame.of { tinted "#bd93f9" with blockTrail := "\n", bold := some true }
    h1 := Frame.of { Look.plain with lead := "# " }
    h6 := Frame.of { Look.plain with lead := "###### " }
    emph := { tinted "#f1fa8c" with italic := some true }
    strong := { tinted "#ffb86c" with bold := some true }
    rule := { tinted "#6272A4" with format := "\n--------\n" }
    enumeration := { tinted "#8be9fd" with blockLead := ". " }
    link := { tinted "#8be9fd" with underline := some true }
    linkText := tinted "#ff79c6"
    image := { tinted "#8be9fd" with underline := some true }
    imageText := { tinted "#ff79c6" with format := "Image: \x7b\x7b.text\x7d\x7d →" }
    code := Frame.of (tinted "#50fa7b")
    codeBlock := ⟨tinted "#ffb86c", none, none, some 2⟩ }

/-- The Tokyo Night sheet. -/
def tokyoNight : Sheet :=
  { dark with
    document := ⟨{ tinted "#a9b1d6" with blockLead := "\n", blockTrail := "\n" }, none, none, some 2⟩
    list := Frame.of (tinted "#a9b1d6")
    heading := Frame.of { tinted "#bb9af7" with blockTrail := "\n", bold := some true }
    h1 := Frame.of { Look.plain with lead := "# ", bold := some true }
    h6 := Frame.of { Look.plain with lead := "###### " }
    rule := { tinted "#565f89" with format := "\n--------\n" }
    enumeration := { tinted "#7aa2f7" with blockLead := ". " }
    link := { tinted "#7aa2f7" with underline := some true }
    linkText := tinted "#2ac3de"
    image := { tinted "#7aa2f7" with underline := some true }
    imageText := { tinted "#2ac3de" with format := "Image: \x7b\x7b.text\x7d\x7d →" }
    code := Frame.of (tinted "#9ece6a")
    codeBlock := ⟨tinted "#ff9e64", none, none, some 2⟩ }

/-- The pink sheet. -/
def pink : Sheet :=
  { dark with
    document := ⟨Look.plain, none, none, some 2⟩
    heading := Frame.of { tinted "212" with blockTrail := "\n", bold := some true }
    h1 := Frame.of { Look.plain with blockLead := "\n", blockTrail := "\n" }
    h2 := Frame.of { Look.plain with lead := "▌ " }
    h3 := Frame.of { Look.plain with lead := "┃ " }
    h4 := Frame.of { Look.plain with lead := "│ " }
    h5 := Frame.of { Look.plain with lead := "┆ " }
    h6 := Frame.of { Look.plain with lead := "┊ ", bold := some false }
    rule := { tinted "212" with format := "\n──────\n" }
    link := { tinted "99" with underline := some true }
    linkText := { Look.plain with bold := some true }
    image := { Look.plain with underline := some true }
    imageText := { Look.plain with format := "Image: \x7b\x7b.text\x7d\x7d" }
    code := Frame.of { tinted "212" with lead := " ", trail := " ", background := some "236" }
    codeBlock := Frame.plain
    highlight := false }

/-- The sheet of a name. -/
def sheetNamed? (name : String) : Option Sheet :=
  match name with
  | "notty" | "ascii" | "auto" => some notty
  | "dark" => some dark
  | "light" => some light
  | "dracula" => some dracula
  | "tokyo-night" => some tokyoNight
  | "pink" => some pink
  | _ => none

end ConfigTables.Present.Markdown
