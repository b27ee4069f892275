import ConfigTables.Present.Markdown.Highlight.Lexer
/-!
# Highlighting shell scripts

Shell scripts are read in six states: the root, a string in double quotes, a command
substitution `$( ... )`, arithmetic `$(( ... ))`, a command in backquotes, and a parameter
`${ ... }`. The root tries, in order:

1. the basic rules: a keyword (`if`, `then`, `done`, ...) at the start of a word and ending
   one, with the blanks after it when a word follows them; a built-in command (`echo`, `cd`,
   ...) at the start of a word and before a blank, `)` or a backquote; a `#!` line at the
   very start; a comment from `#` to the end of the line; a backslash and the character after
   it; an assignment (a word, blanks, `=` or `+=`); one of `[ ] { } ( ) =`; `<<<`; a here
   document; `&&` and `||`;
2. a backquote, which enters a command in backquotes;
3. the data rules: a string in double quotes (perhaps after `$`) with no unescaped `$`; a
   lone double quote, which enters a string; a string in single quotes (perhaps after `$`,
   then with backslash escapes); `;`, `&` and `|`; white space; digits before a blank or
   the end of a line; a run of characters that are none of these; `<`;
4. the interpolation rules: `$((`, `$(` and `${`, which enter their states; a variable after
   `$` (a name, digits, or one of `# $ ? ! _ * @ -`); a lone `$`.

A string reads its closing quote (which leaves it), runs of text with backslash escapes, and
interpolations. A substitution, arithmetic and a command in backquotes read their closing
marks and then what the root reads; arithmetic reads operators and numbers (`16#ff`) first.
A parameter reads its closing brace, `:-`, names, runs of other characters and `:`, and then
what the root reads.
-/

namespace ConfigTables.Present.Markdown.Highlight.Shell

/-- Where the reading of a shell script stands. -/
inductive State where
  | root
  | string
  | paren
  | math
  | backticks
  | curly
  deriving Repr, DecidableEq, Inhabited

/-! ## Basic rules -/

/-- The keywords, in the order they are tried. -/
def keywords : List String :=
  ["if", "fi", "else", "while", "in", "do", "done", "for", "then", "return", "function", "case",
    "select", "continue", "until", "esac", "elif"]

/-- The built-in commands. -/
def builtins : List String :=
  ["alias", "bg", "bind", "break", "builtin", "caller", "cd", "command", "compgen", "complete",
    "declare", "dirs", "disown", "echo", "enable", "eval", "exec", "exit", "export", "false", "fc",
    "fg", "getopts", "hash", "help", "history", "jobs", "kill", "let", "local", "logout", "popd",
    "printf", "pushd", "pwd", "read", "readonly", "set", "shift", "shopt", "source", "suspend",
    "test", "time", "times", "trap", "true", "type", "typeset", "ulimit", "umask", "unalias",
    "unset", "wait"]

/-- A keyword at the start of a word that ends there, with the blanks after it when a word
follows them. -/
def keyword (before : Option Char) (cs : List Char) : Option (List Token) :=
  if before.any isWordChar then none
  else keywords.findSome? fun w =>
    if startsWithText cs w then
      let rest := cs.drop w.length
      let gap := rest.takeWhile isUnicodeSpace
      if !gap.isEmpty && (rest.drop gap.length).head?.any isWordChar then
        some [(.keyword, w.toList), (.text, gap)]
      else if !rest.head?.any isWordChar then some [(.keyword, w.toList)]
      else none
    else none

/-- A built-in command at the start of a word, before a blank, `)` or a backquote. -/
def builtin (before : Option Char) (cs : List Char) : Option (List Token) :=
  if before.any isWordChar then none
  else builtins.findSome? fun w =>
    if startsWithText cs w &&
        (cs.drop w.length).head?.any (fun c => isUnicodeSpace c || c = ')' || c = '`') then
      some [(.nameBuiltin, w.toList)]
    else none

/-- A `#!` line at the very start of the script, with its line feed. -/
def hashbang (before : Option Char) (cs : List Char) : Option (List Token) :=
  match before, cs with
  | none, '#' :: '!' :: rest =>
    let line := rest.takeWhile (· ≠ '\n')
    if !line.isEmpty && line.length < rest.length then
      some [(.commentHashbang, cs.take (line.length + 3))]
    else none
  | _, _ => none

/-- A comment from `#` to the end of the line. -/
def comment (cs : List Char) : Option (List Token) :=
  match cs with
  | '#' :: rest => some [(.commentSingle, '#' :: rest.takeWhile (· ≠ '\n'))]
  | _ => none

/-- An assignment: a word starting a word, blanks, and `+=` or `=`. -/
def assignment (before : Option Char) (cs : List Char) : Option (List Token) :=
  let w := leadingWord cs
  if before.any isWordChar || w.isEmpty then none
  else
    let rest := cs.drop w.length
    let gap := rest.takeWhile isUnicodeSpace
    let op := match rest.drop gap.length with
      | '+' :: '=' :: _ => some ['+', '=']
      | '=' :: _ => some ['=']
      | _ => none
    op.map fun op => [(.nameVariable, w), (.text, gap), (.operator, op)]

/-- The length of a here document: `<<`, an optional `-`, blanks, an optional quote and
backslash, a word, and what follows up to where the word stands again at least one character
later. The word is the longest start of the word there that stands again. -/
def heredocLength (cs : List Char) : Option Nat :=
  match cs with
  | '<' :: '<' :: rest =>
    let rest := match rest with
      | '-' :: r => r
      | r => r
    let rest := rest.drop (rest.takeWhile isUnicodeSpace).length
    let rest := match rest with
      | '\'' :: r => r
      | r => r
    let rest := match rest with
      | '\\' :: r => r
      | r => r
    let lead := cs.length - rest.length
    let word := leadingWord rest
    (List.range word.length).reverse.findSome? fun i =>
      let w := word.take (i + 1)
      let after := rest.drop (i + 1)
      ((List.range after.length).find? fun k => k ≥ 1 && w.isPrefixOf (after.drop k)).map
        fun k => lead + 2 * (i + 1) + k
  | _ => none

/-- The basic rules. -/
def basic (before : Option Char) (cs : List Char) : Option (List Token) :=
  let rules : List (Option Char → List Char → Option (List Token)) :=
    [keyword, builtin, hashbang, fun _ => comment,
      fun _ cs => match cs with
        | '\\' :: c :: _ => some [(.literalStringEscape, ['\\', c])]
        | _ => none,
      assignment,
      fun _ cs => match cs with
        | c :: _ => if "[]\x7b\x7d()=".toList.contains c then some [(.operator, [c])] else none
        | [] => none,
      fun _ cs => if startsWithText cs "<<<" then some [(.operator, "<<<".toList)] else none,
      fun _ cs => (heredocLength cs).map fun n => [(.literalString, cs.take n)],
      fun _ cs =>
        if startsWithText cs "&&" || startsWithText cs "||" then some [(.operator, cs.take 2)]
        else none]
  rules.findSome? (· before cs)

/-! ## Data and interpolation -/

/-- The length of a quoted body after its opening quote through the closing quote `q`: a
backslash takes the character after it, and a character of `stops` fails the match. -/
def escapedBody (q : Char) (stops : List Char) : List Char → Nat → Option Nat
  | [], _ => none
  | '\\' :: _ :: rest, n => escapedBody q stops rest (n + 2)
  | ['\\'], _ => none
  | c :: rest, n =>
    if c = q then some (n + 1) else if stops.contains c then none else escapedBody q stops rest (n + 1)

/-- A character that ends a run of plain text. -/
def isSpecial (c : Char) : Bool := "=[]\x7b\x7d()$\"'`\\<&|;".toList.contains c || isUnicodeSpace c

/-- The data rules. -/
def data (cs : List Char) : Option (Step State) :=
  let take := fun (k : Kind) (n : Nat) => some (Step.take [(k, cs.take n)])
  let dollarQuoted := match cs with
    | '$' :: '"' :: rest => (escapedBody '"' ['$'] rest 0).map (· + 2)
    | '"' :: rest => (escapedBody '"' ['$'] rest 0).map (· + 1)
    | _ => none
  match dollarQuoted with
  | some n => take .literalStringDouble n
  | none =>
    match cs with
    | '"' :: _ => some ⟨[(.literalStringDouble, ['"'])], .push .string⟩
    | '$' :: '\'' :: rest => (escapedBody '\'' [] rest 0).bind fun n => take .literalStringSingle (n + 2)
    | '\'' :: rest =>
      let body := rest.takeWhile (· ≠ '\'')
      if body.length < rest.length then take .literalStringSingle (body.length + 2) else none
    | c :: rest =>
      if c = ';' || c = '&' || c = '|' then take .punctuation 1
      else if isUnicodeSpace c then take .text (cs.takeWhile isUnicodeSpace).length
      else
        let ds := digitsOf cs
        let next := (cs.drop ds.length).head?
        if !ds.isEmpty && (next = none || next = some ' ' || next = some '\n') then
          take .literalNumber ds.length
        else if !isSpecial c then take .text (1 + (rest.takeWhile fun d => !isSpecial d).length)
        else if c = '<' then take .text 1
        else none
    | [] => none

/-- The interpolation rules. -/
def interp (cs : List Char) : Option (Step State) :=
  let take := fun (k : Kind) (n : Nat) => some (Step.take [(k, cs.take n)])
  match cs with
  | '$' :: '(' :: '(' :: _ => some ⟨[(.keyword, cs.take 3)], .push .math⟩
  | '$' :: '(' :: _ => some ⟨[(.keyword, cs.take 2)], .push .paren⟩
  | '$' :: '{' :: '#' :: _ => some ⟨[(.literalStringInterpol, cs.take 3)], .push .curly⟩
  | '$' :: '{' :: _ => some ⟨[(.literalStringInterpol, cs.take 2)], .push .curly⟩
  | '$' :: c :: rest =>
    if c.isAlpha || c = '_' then take .nameVariable (2 + (leadingWord rest).length)
    else if c.isDigit then take .nameVariable (2 + (digitsOf rest).length)
    else if "#$?!_*@-".toList.contains c then take .nameVariable 2
    else take .text 1
  | ['$'] => take .text 1
  | _ => none

/-- The rules of the root. -/
def root (before : Option Char) (cs : List Char) : Option (Step State) :=
  match basic before cs with
  | some ts => some (.take ts)
  | none =>
    match cs with
    | '`' :: _ => some ⟨[(.literalStringBacktick, ['`'])], .push .backticks⟩
    | _ => (data cs).orElse fun _ => interp cs

/-! ## The states -/

/-- The length of a run of string text: characters other than `"`, `$` and a backslash, and
a backslash with the character after it. -/
def stringRun : List Char → Nat
  | '\\' :: _ :: rest => 2 + stringRun rest
  | c :: rest => if c = '"' || c = '$' || c = '\\' then 0 else 1 + stringRun rest
  | [] => 0

/-- The length of a number in arithmetic: digits, `#` and digits; digits and `#` before
anything but a blank; or digits. -/
def mathNumber (cs : List Char) : Option Nat :=
  let ds := digitsOf cs
  if ds.isEmpty then none
  else
    match cs.drop ds.length with
    | '#' :: rest =>
      let es := digitsOf rest
      if !es.isEmpty then some (ds.length + 1 + es.length)
      else if rest.head? = some ' ' then some ds.length
      else some (ds.length + 1)
    | _ => some ds.length

/-- The rules of each state. -/
def rules : State → Option Char → List Char → Option (Step State)
  | .root, before, cs => root before cs
  | .string, _, cs =>
    match cs with
    | '"' :: _ => some ⟨[(.literalStringDouble, ['"'])], .pop 1⟩
    | _ =>
      let n := stringRun cs
      if n > 0 then some (.take [(.literalStringDouble, cs.take n)]) else interp cs
  | .paren, before, cs =>
    match cs with
    | ')' :: _ => some ⟨[(.keyword, [')'])], .pop 1⟩
    | _ => root before cs
  | .math, before, cs =>
    match cs with
    | ')' :: ')' :: _ => some ⟨[(.keyword, [')', ')'])], .pop 1⟩
    | c :: _ =>
      if "-+*/%^|&".toList.contains c then some (.take [(.operator, [c])])
      else
        match mathNumber cs with
        | some n => some (.take [(.literalNumber, cs.take n)])
        | none => root before cs
    | [] => none
  | .backticks, before, cs =>
    match cs with
    | '`' :: _ => some ⟨[(.literalStringBacktick, ['`'])], .pop 1⟩
    | _ => root before cs
  | .curly, before, cs =>
    match cs with
    | '}' :: _ => some ⟨[(.literalStringInterpol, ['}'])], .pop 1⟩
    | ':' :: '-' :: _ => some (.take [(.keyword, [':', '-'])])
    | c :: rest =>
      if isWordChar c then some (.take [(.nameVariable, leadingWord cs)])
      else if !"\x7d:\"'`$\\".toList.contains c then
        some (.take [(.punctuation, c :: rest.takeWhile fun d => !"\x7d:\"'`$\\".toList.contains d)])
      else if c = ':' then some (.take [(.punctuation, [':'])])
      else root before cs
    | [] => none

/-- The lexer of shell scripts. -/
def lexer : Lexer State := ⟨.root, rules, false⟩

/-- Whether a script names a shell in a `#!` line: a line starting `#!` that goes on to
`/bin/` and `bash`, `zsh`, `sh` or `ksh`, perhaps after `env `. -/
def namesShell (code : List Char) : Bool :=
  let shells := ["bash", "zsh", "sh", "ksh"]
  let tails := shells.map ("/bin/" ++ ·) ++ shells.map ("/bin/env " ++ ·)
  ((code.splitOn '\n').filter (startsWithText · "#!")).any fun line =>
    tails.any fun t => occursIn t.toList (line.drop 2)

end ConfigTables.Present.Markdown.Highlight.Shell
