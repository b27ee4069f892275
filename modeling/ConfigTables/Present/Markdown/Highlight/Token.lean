/-!
# Tokens of highlighted code

Highlighted code is cut into tokens, each of a kind. The kinds form a tree (a keyword
declaration is a keyword, a double-quoted string is a string); a kind without a colour of its
own takes that of the nearest kind above it that has one, and plain text colours the rest.

Neighbouring tokens of the same kind join into one and empty tokens go. A token is drawn line
by line: each piece of it up to a line feed in its colour codes and a reset, the line feed
bare, and nothing after a final line feed.

The colours are the palette of the dark sheet in the 256-colour table: whichever sheet asks
first fixes the palette for all of them, and the dark one does.
-/

namespace ConfigTables.Present.Markdown

/-- The kind of a token of code. -/
inductive Kind where
  | text
  | error
  | comment
  | commentHashbang
  | commentSingle
  | commentMultiline
  | keyword
  | keywordConstant
  | keywordDeclaration
  | keywordNamespace
  | keywordType
  | name
  | nameBuiltin
  | nameFunction
  | nameOther
  | nameTag
  | nameVariable
  | literalString
  | literalStringBacktick
  | literalStringChar
  | literalStringDouble
  | literalStringEscape
  | literalStringInterpol
  | literalStringSingle
  | literalNumber
  | literalNumberBin
  | literalNumberFloat
  | literalNumberHex
  | literalNumberInteger
  | literalNumberOct
  | operator
  | punctuation
  deriving Repr, DecidableEq, Inhabited

/-- The escape codes a token of a kind is drawn with: the colour of the kind or of the
nearest kind above it that has one. -/
def Kind.codes : Kind → String
  | .text | .name | .nameOther | .nameVariable => "\x1b[38;5;251m"
  | .error => "\x1b[38;5;255m\x1b[48;5;203m"
  | .comment | .commentHashbang | .commentSingle | .commentMultiline => "\x1b[38;5;241m"
  | .keyword | .keywordConstant | .keywordDeclaration => "\x1b[38;5;39m"
  | .keywordNamespace => "\x1b[38;5;204m"
  | .keywordType => "\x1b[38;5;62m"
  | .nameBuiltin => "\x1b[38;5;212m"
  | .nameFunction => "\x1b[38;5;42m"
  | .nameTag => "\x1b[38;5;140m"
  | .literalString | .literalStringBacktick | .literalStringChar | .literalStringDouble
  | .literalStringInterpol | .literalStringSingle => "\x1b[38;5;173m"
  | .literalStringEscape => "\x1b[38;5;158m"
  | .literalNumber | .literalNumberBin | .literalNumberFloat | .literalNumberHex
  | .literalNumberInteger | .literalNumberOct => "\x1b[38;5;85m"
  | .operator => "\x1b[38;5;210m"
  | .punctuation => "\x1b[38;5;187m"

/-- A token: its kind and its text. -/
abbrev Token := Kind × List Char

/-- Tokens with the empty ones dropped and neighbours of the same kind joined. -/
def joinTokens (ts : List Token) : List Token :=
  (ts.filter fun t => !t.2.isEmpty).foldr (fun t acc =>
    match acc with
    | (k, b) :: rest => if t.1 = k then (k, t.2 ++ b) :: rest else t :: acc
    | [] => [t]) []

/-- A token drawn: each piece up to a line feed in its codes and a reset, the line feeds
bare, nothing after a final line feed. -/
def drawToken (t : Token) : String :=
  let pieces := (String.ofList t.2).splitOn "\n"
  let pieces := if pieces.length > 1 && pieces.getLast? = some "" then pieces.dropLast else pieces
  let drawn := pieces.map fun p => t.1.codes ++ p ++ "\x1b[0m"
  "\n".intercalate drawn ++ (if t.2.getLast? = some '\n' then "\n" else "")

end ConfigTables.Present.Markdown
