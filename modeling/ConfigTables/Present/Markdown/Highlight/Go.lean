import ConfigTables.Present.Markdown.Highlight.Lexer
/-!
# Highlighting Go code

Go code is read in one state by ordered rules; at each point the first rule that matches
takes its text:

1. a line feed, a run of blanks, or a backslash before a line feed: text;
2. `// ...` to the end of the line, and `/* ... */`: comments;
3. a whole word that is `import` or `package`, a declaration word (`func`, `var`, ...),
   another keyword, or `true`, `false`, `iota`, `nil`;
4. a built-in function name right before `(`: the name and the parenthesis; a built-in
   type name;
5. numbers: imaginary (`3i`, `1.5i`, `.5e3i`, `2e5i`), real (`1.5`, `2e10`, `.5`), octal
   (`0755`), hexadecimal (`0x1F`), binary (`0b101`), whole (`0`, `1_000`);
6. a character in quotes, a raw string in backquotes, a string in double quotes (where a
   backslash escapes a backslash or a quote, and which may run over lines);
7. operators, longest first;
8. a name starting with an ASCII letter or `_`, followed by blanks and `(`: a function
   name, the blanks, the parenthesis;
9. one punctuation character; a name.

Code that does not end in a line feed is read with one after it, which shows only where a
token takes it along (blanks or a backslash before it).
-/

namespace ConfigTables.Present.Markdown.Highlight.Go

/-- The words of a kind, matched as a whole word. -/
def wordRule (kind : Kind) (words : List String) (cs : List Char) : Option (List Token) :=
  let w := leadingWord cs
  if words.contains (String.ofList w) then some [(kind, w)] else none

/-- The declaration words. -/
def declarationWords : List String :=
  ["var", "func", "struct", "map", "chan", "type", "interface", "const"]

/-- The other keywords. -/
def keywordWords : List String :=
  ["break", "default", "select", "case", "defer", "go", "else", "goto", "switch", "fallthrough",
    "if", "range", "continue", "for", "return"]

/-- The built-in type names. -/
def typeWords : List String :=
  ["uint", "uint8", "uint16", "uint32", "uint64", "int", "int8", "int16", "int32", "int64",
    "float", "float32", "float64", "complex64", "complex128", "byte", "rune", "string", "bool",
    "error", "uintptr", "any"]

/-- The built-in names that are highlighted before a parenthesis. -/
def builtinWords : List String :=
  ["uint", "uint8", "uint16", "uint32", "uint64", "int", "int8", "int16", "int32", "int64",
    "float", "float32", "float64", "complex64", "complex128", "byte", "rune", "string", "bool",
    "error", "uintptr", "print", "println", "panic", "recover", "close", "complex", "real",
    "imag", "len", "cap", "append", "copy", "delete", "new", "make", "clear", "min", "max"]

/-- A built-in name right before `(`. -/
def builtinRule (cs : List Char) : Option (List Token) :=
  let w := leadingWord cs
  if builtinWords.contains (String.ofList w) && (cs.drop w.length).head? = some '(' then
    some [(.nameBuiltin, w), (.punctuation, ['('])]
  else none

/-- An imaginary number: digits (with a fraction, an exponent, or both) and `i`. -/
def imaginaryLength (cs : List Char) : Option Nat :=
  let ds := digitsOf cs
  let rest := cs.drop ds.length
  let withI := fun (n : Nat) => if (cs.drop n).head? = some 'i' then some (n + 1) else none
  if !ds.isEmpty then
    match withI ds.length with
    | some n => some n
    | none =>
      match rest with
      | '.' :: more =>
        let fs := digitsOf more
        let n := ds.length + 1 + fs.length
        match exponentLength true (cs.drop n) with
        | some e => (withI (n + e)).orElse fun _ => withI n
        | none => withI n
      | _ =>
        match exponentLength true rest with
        | some e => withI (ds.length + e)
        | none => none
  else
    match cs with
    | '.' :: more =>
      let fs := digitsOf more
      if fs.isEmpty then none
      else
        let n := 1 + fs.length
        match exponentLength true (cs.drop n) with
        | some e => (withI (n + e)).orElse fun _ => withI n
        | none => withI n
    | _ => none

/-- A real number: digits with a fraction and exponent, a fraction, or an exponent; or a
fraction with an optional exponent. -/
def realLength (cs : List Char) : Option Nat :=
  let ds := digitsOf cs
  let rest := cs.drop ds.length
  if !ds.isEmpty then
    match rest with
    | '.' :: more =>
      let fs := digitsOf more
      let n := ds.length + 1 + fs.length
      match (if fs.isEmpty then none else exponentLength false (cs.drop n)) with
      | some e => some (n + e)
      | none => some n
    | _ => (exponentLength false rest).map (ds.length + ·)
  else
    match cs with
    | '.' :: more =>
      let fs := digitsOf more
      if fs.isEmpty then none
      else
        let n := 1 + fs.length
        some (n + (exponentLength false (cs.drop n)).getD 0)
    | _ => none

/-- The number at the start of the code, with its kind. -/
def numberRule (cs : List Char) : Option (List Token) :=
  let tok := fun (k : Kind) (n : Nat) => some [(k, cs.take n)]
  match imaginaryLength cs with
  | some n => tok .literalNumber n
  | none =>
    match realLength cs with
    | some n => tok .literalNumberFloat n
    | none =>
      match cs with
      | '0' :: x :: rest =>
        let octs := (x :: rest).takeWhile fun c => '0' ≤ c && c ≤ '7'
        if !octs.isEmpty then tok .literalNumberOct (1 + octs.length)
        else if x = 'x' || x = 'X' then
          let hs := rest.takeWhile fun c => isHexChar c || c = '_'
          if hs.isEmpty then tok .literalNumberInteger 1 else tok .literalNumberHex (2 + hs.length)
        else if x = 'b' then
          let bs := rest.takeWhile fun c => c = '0' || c = '1' || c = '_'
          if bs.isEmpty then tok .literalNumberInteger 1 else tok .literalNumberBin (2 + bs.length)
        else tok .literalNumberInteger 1
      | ['0'] => tok .literalNumberInteger 1
      | c :: rest =>
        if '1' ≤ c && c ≤ '9' then
          tok .literalNumberInteger (1 + (rest.takeWhile fun d => d.isDigit || d = '_').length)
        else none
      | [] => none

/-- The escape in a character literal after its backslash: its length. -/
def charEscapeLength (cs : List Char) : Option Nat :=
  let counted := fun (n : Nat) (p : Char → Bool) (rest : List Char) =>
    if (rest.take n).length = n && (rest.take n).all p then some (n + 1) else none
  match cs with
  | c :: rest =>
    if "'\"\\abfnrtv".toList.contains c then some 1
    else if c = 'x' then counted 2 isHexChar rest
    else if c = 'u' then counted 4 isHexChar rest
    else if c = 'U' then counted 8 isHexChar rest
    else if '0' ≤ c && c ≤ '7' then
      some (1 + ((rest.take 2).takeWhile fun d => '0' ≤ d && d ≤ '7').length)
    else none
  | [] => none

/-- A character literal. -/
def charRule (cs : List Char) : Option (List Token) :=
  match cs with
  | '\'' :: '\\' :: rest =>
    match charEscapeLength rest with
    | some n => if (rest.drop n).head? = some '\'' then some [(.literalStringChar, cs.take (n + 3))] else none
    | none => none
  | '\'' :: c :: '\'' :: _ => if c ≠ '\\' then some [(.literalStringChar, cs.take 3)] else none
  | _ => none

/-- A raw string in backquotes. -/
def rawStringRule (cs : List Char) : Option (List Token) :=
  match cs with
  | '`' :: rest =>
    let body := rest.takeWhile (· ≠ '`')
    if body.length < rest.length then some [(.literalString, cs.take (body.length + 2))] else none
  | _ => none

/-- A string in double quotes. -/
def stringRule (cs : List Char) : Option (List Token) :=
  match cs with
  | '"' :: _ => (quotedLength cs).map fun n => [(.literalString, cs.take n)]
  | _ => none

/-- The operators, in the order they are tried. -/
def operators : List String :=
  ["<<=", ">>=", "<<", ">>", "<=", ">=", "&^=", "&^", "+=", "-=", "*=", "/=", "%=", "&=", "|=",
    "&&", "||", "<-", "++", "--", "==", "!=", ":=", "...", "+", "-", "*", "/", "%", "&"]

/-- An operator. -/
def operatorRule (cs : List Char) : Option (List Token) :=
  (operators.find? (startsWithText cs)).map fun op => [(.operator, op.toList)]

/-- A name followed by blanks and `(`. -/
def functionRule (cs : List Char) : Option (List Token) :=
  match cs with
  | c :: _ =>
    if c.isAlpha || c = '_' then
      let w := leadingWord cs
      let gap := (cs.drop w.length).takeWhile isUnicodeSpace
      if (cs.drop (w.length + gap.length)).head? = some '(' then
        some ([(.nameFunction, w)] ++ (if gap.isEmpty then [] else [(.text, gap)]) ++
          [(.punctuation, ['('])])
      else none
    else none
  | [] => none

/-- The comment at the start: to the end of the line, or to the closing `*/`. -/
def commentRule (cs : List Char) : Option (List Token) :=
  match cs with
  | '/' :: '/' :: rest =>
    some [(.commentSingle, cs.take (2 + (rest.takeWhile fun c => c ≠ '\n' && c ≠ '\r').length))]
  | '/' :: '*' :: rest =>
    ((List.range rest.length).find? fun i => (rest.drop i).take 2 == ['*', '/']).map fun i =>
      [(.commentMultiline, cs.take (i + 4))]
  | _ => none

/-- The tokens the first matching rule takes at the start of Go code. -/
def rules (cs : List Char) : Option (List Token) :=
  match cs with
  | '\n' :: _ => some [(.text, ['\n'])]
  | c :: _ =>
    if isUnicodeSpace c then some [(.text, cs.takeWhile isUnicodeSpace)]
    else if startsWithText cs "\\\n" then some [(.text, ['\\', '\n'])]
    else
      let rules : List (List Char → Option (List Token)) :=
        [commentRule, wordRule .keywordNamespace ["import", "package"],
          wordRule .keywordDeclaration declarationWords, wordRule .keyword keywordWords,
          wordRule .keywordConstant ["true", "false", "iota", "nil"], builtinRule,
          wordRule .keywordType typeWords, numberRule, charRule, rawStringRule, stringRule,
          operatorRule, functionRule,
          fun cs => match cs with
            | c :: _ => if "|^<>=!()[]{}.,;:~".toList.contains c then some [(.punctuation, [c])] else none
            | [] => none,
          fun cs => match cs with
            | c :: _ => if isWordChar c && !c.isDigit then some [(.nameOther, leadingWord cs)] else none
            | [] => none]
      rules.findSome? (· cs)
  | [] => none

/-- The lexer of Go code. -/
def lexer : Lexer Unit := ⟨(), fun _ _ cs => (rules cs).map Step.take, true⟩

end ConfigTables.Present.Markdown.Highlight.Go
