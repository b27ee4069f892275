import ConfigTables.Present.Markdown.Highlight.Lexer
/-!
# Highlighting JSON

JSON is read in four states: the root, an object between its members (where keys stand), a
member after its key, and an array. A value is white space (text), a comment from `//`
through the next line feed, `true`, `false` or `null` as a whole word, a number (a number
with a fraction, an exponent or both before a whole one), a string in double quotes, or an
opening brace or bracket, which enters an object or an array.

* The root reads values.
* An object reads white space, comments, a key (a string, which enters a member) and the
  closing brace, which leaves the object.
* A member reads values, the colon, a comma (which leaves the member) and the closing brace
  (which leaves the member and the object).
* An array reads values, commas and the closing bracket, which leaves the array.

Anything else is an error, one character at a time; nothing checks that the JSON is well
formed.
-/

namespace ConfigTables.Present.Markdown.Highlight.Json

/-- Where the reading of JSON stands. -/
inductive State where
  | root
  | object
  | member
  | array
  deriving Repr, DecidableEq, Inhabited

/-- White space: text. -/
def blank (cs : List Char) : Option (List Token) :=
  let w := cs.takeWhile isUnicodeSpace
  if w.isEmpty then none else some [(.text, w)]

/-- A comment from `//` through the next line feed. -/
def comment (cs : List Char) : Option (List Token) :=
  match cs with
  | '/' :: '/' :: rest =>
    let body := rest.takeWhile (· ≠ '\n')
    if body.length < rest.length then some [(.commentSingle, cs.take (body.length + 3))] else none
  | _ => none

/-- `true`, `false` or `null` as a whole word. -/
def constant (cs : List Char) : Option (List Token) :=
  ["true", "false", "null"].findSome? fun w =>
    if startsWithText cs w && !(cs.drop w.length).head?.any isWordChar then
      some [(.keywordConstant, w.toList)]
    else none

/-- The length of a whole part: `0`, or a digit from 1 to 9 and more digits. -/
def wholeLength (cs : List Char) : Option Nat :=
  match cs with
  | '0' :: _ => some 1
  | c :: rest => if '1' ≤ c && c ≤ '9' then some (1 + (digitsOf rest).length) else none
  | [] => none

/-- The length of a whole number: an optional minus sign and a whole part. -/
def integerLength (cs : List Char) : Option Nat :=
  match cs with
  | '-' :: rest => (wholeLength rest).map (· + 1)
  | _ => wholeLength cs

/-- The length of a fraction: `.` and digits. -/
def fractionLength (cs : List Char) : Option Nat :=
  match cs with
  | '.' :: rest =>
    let ds := digitsOf rest
    if ds.isEmpty then none else some (1 + ds.length)
  | _ => none

/-- The length of a number with a fraction, an exponent, or a fraction and an exponent. -/
def floatLength (cs : List Char) : Option Nat := do
  let n ← integerLength cs
  let rest := cs.drop n
  let tail ← match fractionLength rest with
    | some f => some (f + (exponentLength false (rest.drop f)).getD 0)
    | none => exponentLength false rest
  pure (n + tail)

/-- A constant, a number or a string. -/
def simple (cs : List Char) : Option (List Token) :=
  (constant cs).orElse fun _ =>
    match floatLength cs with
    | some n => some [(.literalNumberFloat, cs.take n)]
    | none =>
      match integerLength cs with
      | some n => some [(.literalNumberInteger, cs.take n)]
      | none => (quotedLength cs).map fun n => [(.literalStringDouble, cs.take n)]

/-- A value: white space, a simple value, a comment, or an opening brace or bracket, which
enters an object or an array. -/
def value (cs : List Char) : Option (Step State) :=
  match ((blank cs).orElse fun _ => simple cs).orElse fun _ => comment cs with
  | some ts => some (.take ts)
  | none =>
    match cs with
    | '{' :: _ => some ⟨[(.punctuation, ['{'])], .push .object⟩
    | '[' :: _ => some ⟨[(.punctuation, ['['])], .push .array⟩
    | _ => none

/-- One punctuation character and a move. -/
def mark (c : Char) (move : Move State) : Option (Step State) := some ⟨[(.punctuation, [c])], move⟩

/-- The rules of each state. -/
def rules : State → Option Char → List Char → Option (Step State)
  | .root, _, cs => value cs
  | .object, _, cs =>
    match (blank cs).orElse fun _ => comment cs with
    | some ts => some (.take ts)
    | none =>
      match cs with
      | '"' :: _ => (quotedLength cs).map fun n => ⟨[(.nameTag, cs.take n)], .push .member⟩
      | '}' :: _ => mark '}' (.pop 1)
      | _ => none
  | .member, _, cs =>
    (value cs).orElse fun _ =>
      match cs with
      | ':' :: _ => mark ':' .stay
      | ',' :: _ => mark ',' (.pop 1)
      | '}' :: _ => mark '}' (.pop 2)
      | _ => none
  | .array, _, cs =>
    (value cs).orElse fun _ =>
      match cs with
      | ',' :: _ => mark ',' .stay
      | ']' :: _ => mark ']' (.pop 1)
      | _ => none

/-- The lexer of JSON. -/
def lexer : Lexer State := ⟨.root, rules, false⟩

end ConfigTables.Present.Markdown.Highlight.Json
