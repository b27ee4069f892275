import ConfigTables.Number.Binary64
/-!
# Numbers and truth values written as text

Whole numbers are read in the notation of program literals: an optional sign, then digits in
base 10, or after `0x`, `0o` or `0b` in base 16, 8 or 2, or after a lone leading `0` in base
8; underscores may stand between digits (and after a base prefix). Values must fit in 64
bits: 63 bits and a sign for signed numbers. Faults are `invalid syntax` and `value out of
range`.

Real numbers are read in decimal notation with an optional exponent, in hexadecimal after
`0x` with a binary exponent `p` that must be there (`0x1.8p1`), and as `inf`, `infinity`
(signed or not) and `nan` in any case. A value too large for the binary format is out of
range.
-/

namespace ConfigTables.Literal


/-- The digit value of a character in bases up to 36; 36 for a character that is no digit. -/
def digitOf (c : Char) : Nat :=
  if '0' ≤ c ∧ c ≤ '9' then c.toNat - 48
  else
    let l := c.toLower
    if 'a' ≤ l ∧ l ≤ 'z' then l.toNat - 87 else 36

/-- Whether the underscores of a literal stand only between digits (a base prefix counting
as a digit). -/
def underscoresFit (cs : List Char) : Bool :=
  let cs := match cs with
    | '+' :: r | '-' :: r => r
    | r => r
  let (start, hex, cs) := match cs with
    | '0' :: b :: r =>
      let l := b.toLower
      if l = 'b' || l = 'o' || l = 'x' then ('0', l == 'x', r) else ('^', false, cs)
    | _ => ('^', false, cs)
  let isDigit (c : Char) : Bool :=
    ('0' ≤ c && c ≤ '9') || (hex && 'a' ≤ c.toLower && c.toLower ≤ 'f')
  let last := cs.foldl (fun (saw : Char) c =>
    if saw = '#' then '#'
    else if isDigit c then '0'
    else if c = '_' then (if saw = '0' then '_' else '#')
    else if saw = '_' then '#'
    else '!') start
  last ≠ '_' && last ≠ '#'

/-- The largest value of 64 bits. -/
def maxUnsigned : Nat := Nat.pow 2 64 - 1

/-- Reads the digits of an unsigned literal in a base, 64 bits at most. -/
def readDigits (base : Nat) : List Char → Nat → Bool → Except String (Nat × Bool)
  | [], n, u => .ok (n, u)
  | '_' :: rest, n, _ => readDigits base rest n true
  | c :: rest, n, u =>
    let d := digitOf c
    if d ≥ base then .error "invalid syntax"
    else if n ≥ maxUnsigned / base + 1 then .error "value out of range"
    else
      let n' := n * base + d
      if n' > maxUnsigned then .error "value out of range"
      else readDigits base rest n' u

/-- An unsigned literal: a base prefix (`0x`, `0o`, `0b`, or `0` for octal) and digits. -/
def parseUnsigned (cs : List Char) : Except String Nat :=
  if cs.isEmpty then .error "invalid syntax"
  else
    let (base, digits) := match cs with
      | '0' :: b :: r@(_ :: _) =>
        let l := b.toLower
        if l = 'b' then (2, r) else if l = 'o' then (8, r) else if l = 'x' then (16, r)
        else (8, cs.drop 1)
      | '0' :: r => (8, r)
      | _ => (10, cs)
    match readDigits base digits 0 false with
    | .error e => .error e
    | .ok (n, underscores) =>
      if underscores && !underscoresFit cs then .error "invalid syntax" else .ok n

/-- A whole number of 64 bits in the notation of program literals. -/
def parseWhole (s : String) : Except String Int :=
  let cs := s.toList
  if cs.isEmpty then .error "invalid syntax"
  else
    let (neg, rest) := match cs with
      | '+' :: r => (false, r)
      | '-' :: r => (true, r)
      | r => (false, r)
    match parseUnsigned rest with
    | .error "invalid syntax" => .error "invalid syntax"
    | .error _ => .error "value out of range"
    | .ok n =>
      if !neg && n ≥ Nat.pow 2 63 then .error "value out of range"
      else if neg && n > Nat.pow 2 63 then .error "value out of range"
      else .ok (if neg then -(n : Int) else n)

/-- A truth value in one of its written forms. -/
def parseTruth : String → Except String Bool
  | "1" | "t" | "T" | "TRUE" | "true" | "True" => .ok true
  | "0" | "f" | "F" | "FALSE" | "false" | "False" => .ok false
  | _ => .error "invalid syntax"

/-- The value of hexadecimal digits. -/
def hexValue (ds : List Char) : Nat :=
  ds.foldl (fun a c => a * 16 + digitOf c) 0

/-- The decimal exponent digits of a hexadecimal real, underscores skipped; past four digits
the value stops growing, which is already far beyond any binary exponent. -/
def exponentValue (ds : List Char) : Nat :=
  ds.foldl (fun e c => if c = '_' then e else if e < 10000 then e * 10 + (c.toNat - 48) else e) 0

/-- The nearest value to a hexadecimal real after its `0x` prefix: hexadecimal digits with
an optional point, then a binary exponent `p` with an optional sign and decimal digits, which
must be there. Underscores are skipped here; where they may stand is checked on the whole
literal. -/
def hexReal? (neg : Bool) (cs : List Char) : Option Binary64 :=
  let isHex (c : Char) : Bool := digitOf c < 16
  let intPart := cs.takeWhile (fun c => isHex c || c = '_')
  let rest := cs.drop intPart.length
  let (fracPart, rest) := match rest with
    | '.' :: r =>
      let f := r.takeWhile (fun c => isHex c || c = '_')
      (f, r.drop f.length)
    | r => ([], r)
  let ints := intPart.filter (· ≠ '_')
  let fracs := fracPart.filter (· ≠ '_')
  if ints.isEmpty && fracs.isEmpty then none
  else
    match rest with
    | p :: r =>
      if p ≠ 'p' && p ≠ 'P' then none
      else
        let (eneg, r) := match r with
          | '+' :: r => (false, r)
          | '-' :: r => (true, r)
          | r => (false, r)
        match r with
        | d :: _ =>
          if !d.isDigit || !r.all (fun c => c.isDigit || c = '_') then none
          else
            let e : Int := exponentValue r
            let shift : Int := (if eneg then -e else e) - 4 * fracs.length
            let m := hexValue (ints ++ fracs)
            some (if 0 ≤ shift then Binary64.ofRatio neg (m * Nat.pow 2 shift.toNat) 1
              else Binary64.ofRatio neg m (Nat.pow 2 (-shift).toNat))
        | [] => none
    | [] => none

/-- A real number in decimal notation, or in hexadecimal with a binary exponent, or an
infinity or NaN by name. -/
def parseReal (s : String) : Except String Binary64 :=
  let lower := String.map Char.toLower s
  let (neg, word) := match lower.toList with
    | '+' :: r => (false, String.ofList r)
    | '-' :: r => (true, String.ofList r)
    | r => (false, String.ofList r)
  if word = "inf" || word = "infinity" then .ok (Binary64.infinity neg)
  else if lower = "nan" then .ok Binary64.nan
  else
    let cs := s.toList
    let plain := cs.filter (· ≠ '_')
    if plain.length ≠ cs.length && !underscoresFit cs then .error "invalid syntax"
    else
      let body := match cs with
        | '+' :: r | '-' :: r => r
        | r => r
      let value := match body with
        | '0' :: x :: r@(_ :: _) =>
          if x = 'x' || x = 'X' then hexReal? neg r else Binary64.ofLiteral? (String.ofList plain)
        | _ => Binary64.ofLiteral? (String.ofList plain)
      match value with
      | none => .error "invalid syntax"
      | some x => if x.isInf then .error "value out of range" else .ok x

/-- The whole number a real number converts to in 64 bits: cut toward zero, and the least
value of 64 bits when it does not fit. -/
def wholeOf (x : Binary64) : Int :=
  if !x.isFinite then -(Nat.pow 2 63 : Int)
  else
    let (num, den) := x.ratio
    let t : Int := if x.negative then -((num / den : Nat) : Int) else (num / den : Nat)
    if -(Nat.pow 2 63 : Int) ≤ t ∧ t < Nat.pow 2 63 then t else -(Nat.pow 2 63 : Int)

end ConfigTables.Literal
