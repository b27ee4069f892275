import ConfigTables.Present.Markdown.Highlight.Token
import ConfigTables.Present.Markdown.Inline
/-!
# Reading code by rules

A lexer reads code from left to right in states kept on a stack, its root state at the
bottom. At each point the rules of the state on top are tried in order; the first that
matches takes its text as tokens and may push a state or pop some. The rules see the
character before the point as well, so that they can ask for the start of a word or of the
code. Where no rule matches, a line feed read outside the root state empties the stack back
to the root, and any other character is an error token of its own. A stack emptied by pops
ends the reading, and the rest of the code is one error token.

The character classes are those of the patterns the rules are written in: white space is
white space in the Unicode sense; a word character is a letter, a digit or `_`, where a
character beyond ASCII counts as a letter unless it is white space, punctuation or a symbol;
digits are ASCII digits.
-/

namespace ConfigTables.Present.Markdown

/-! ## Character classes and small scanners -/

/-- A character of a word. -/
def isWordChar (c : Char) : Bool :=
  c.isAlphanum || c = '_' || (c.toNat ≥ 0x80 && !isUnicodeSpace c && !isUnicodePunct c)

/-- A hexadecimal digit. -/
def isHexChar (c : Char) : Bool := c.isDigit || ('a' ≤ c && c ≤ 'f') || ('A' ≤ c && c ≤ 'F')

/-- Whether a list starts with a given text. -/
def startsWithText (cs : List Char) (t : String) : Bool := cs.take t.length == t.toList

/-- Whether a text occurs anywhere in a list. -/
def occursIn (t : List Char) (cs : List Char) : Bool :=
  (List.range (cs.length + 1)).any fun k => t.isPrefixOf (cs.drop k)

/-- The whole word at the start. -/
def leadingWord (cs : List Char) : List Char := cs.takeWhile isWordChar

/-- The digits at the start. -/
def digitsOf (cs : List Char) : List Char := cs.takeWhile Char.isDigit

/-- Whether a word ends right before a position: the character before is a word character
and the one after is none, or the other way round. -/
def boundaryAt (before after : Option Char) : Bool :=
  before.any isWordChar != after.any isWordChar

/-- An exponent `e` or `E`, a sign (required when `signed`, else optional) and digits: its
length. -/
def exponentLength (signed : Bool) (cs : List Char) : Option Nat :=
  match cs with
  | e :: rest =>
    if e = 'e' || e = 'E' then
      let (sign, rest) := match rest with
        | '+' :: r | '-' :: r => (1, r)
        | r => (0, r)
      if signed && sign = 0 then none
      else
        let ds := digitsOf rest
        if ds.isEmpty then none else some (1 + sign + ds.length)
    else none
  | [] => none

/-- The length of a string's body up to its closing quote, where a backslash escapes a
backslash or a quote and stands for itself before anything else. Without a closing quote the
last escaped quote closes it, read as a backslash and then a quote. `seen` counts what is
read, `fallback` is the length up to the last escaped quote. -/
def stringBody : List Char → Nat → Option Nat → Option Nat
  | [], _, fallback => fallback
  | '"' :: _, seen, _ => some (seen + 1)
  | '\\' :: '\\' :: rest, seen, fallback => stringBody rest (seen + 2) fallback
  | '\\' :: '"' :: rest, seen, _ => stringBody rest (seen + 2) (some (seen + 2))
  | _ :: rest, seen, fallback => stringBody rest (seen + 1) fallback

/-- The length of a string in double quotes at the start, read as `stringBody` reads it. -/
def quotedLength (cs : List Char) : Option Nat :=
  match cs with
  | '"' :: rest => (stringBody rest 0 none).map (· + 1)
  | _ => none

/-! ## Lexers -/

/-- What a rule does to the stack of states once it has matched. -/
inductive Move (σ : Type) where
  | stay
  | push (s : σ)
  | pop (n : Nat)
  deriving Repr, Inhabited

/-- The stack after a move, top first. -/
def Move.apply {σ : Type} : Move σ → List σ → List σ
  | .stay, stack => stack
  | .push s, stack => s :: stack
  | .pop n, stack => stack.drop n

/-- What a matching rule gives: its tokens, which together spell the text it takes, and its
move. -/
structure Step (σ : Type) where
  tokens : List Token
  move : Move σ

/-- A step that takes tokens and leaves the stack as it is. -/
def Step.take {σ : Type} (tokens : List Token) : Step σ := ⟨tokens, .stay⟩

/-- A lexer: its root state, the rules of each state, which see the character before the
point (none at the start of the code) and the code from the point on, and whether code that
does not end in a line feed is read with one put after it. -/
structure Lexer (σ : Type) where
  root : σ
  rules : σ → Option Char → List Char → Option (Step σ)
  closesLines : Bool

/-- Code read by a lexer from a stack of states, top first; `before` is the character before
the code. When `added` holds, the line feed that closes the code was put there by the
reading: reading stops when only it is left, though a rule may take it along with text
before it. The fuel bounds the steps. -/
def Lexer.readFrom {σ : Type} [DecidableEq σ] (l : Lexer σ) (added : Bool) :
    Nat → List σ → Option Char → List Char → List Token
  | 0, _, _, _ => []
  | _, _, _, [] => []
  | _, [], _, cs => [(.error, cs)]
  | fuel + 1, s :: stack, before, c :: rest =>
    if added ∧ c = '\n' ∧ rest = [] then []
    else
      match l.rules s before (c :: rest) with
      | some step =>
        let taken := (c :: rest).take (step.tokens.foldl (fun n t => n + t.2.length) 0)
        step.tokens ++ l.readFrom added fuel (step.move.apply (s :: stack))
          (taken.getLast?.orElse fun _ => before) ((c :: rest).drop taken.length)
      | none =>
        if c = '\n' ∧ s ≠ l.root then l.readFrom added fuel [l.root] before (c :: rest)
        else (.error, [c]) :: l.readFrom added fuel (s :: stack) (some c) rest

/-- Code read by a lexer from its root state, with a line feed put after it when the lexer
closes lines and the code lacks one. Every step takes a character but the one that empties
the stack at a line feed, so twice the length of the code bounds the steps. -/
def Lexer.tokens {σ : Type} [DecidableEq σ] (l : Lexer σ) (code : List Char) : List Token :=
  let added := l.closesLines && code.getLast? ≠ some '\n'
  let code := if added then code ++ ['\n'] else code
  l.readFrom added (2 * code.length + 2) [l.root] none code

/-- Line breaks made line feeds: a carriage return before a line feed goes, and a lone one
becomes a line feed. -/
def unifyLineBreaks : List Char → List Char
  | '\r' :: '\n' :: rest => '\n' :: unifyLineBreaks rest
  | '\r' :: rest => '\n' :: unifyLineBreaks rest
  | c :: rest => c :: unifyLineBreaks rest
  | [] => []

end ConfigTables.Present.Markdown
