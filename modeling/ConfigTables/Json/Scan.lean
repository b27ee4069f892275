import ConfigTables.Json.Value
import ConfigTables.Text.Utf8
import ConfigTables.Text.Chars
/-!
# Reading JSON text

The strict reader of JSON text (RFC 8259), over octets. It reads one value from the front of
the input, blanks before it skipped, and returns the rest untouched. A fault names the first
octet that no JSON text could continue with and what the reader was looking for there
(`invalid character 'x' looking for beginning of value`), or says that the input ended inside
a value, or that it held no value at all.

A number ends at the first octet that cannot continue it, and that octet is then judged by
what may follow a value where the number stood: in `[1x]` the `x` is refused as coming
after an array element. Inside strings the escapes are resolved: a `\u` escape of a lone
surrogate stands for U+FFFD, and so does each octet that starts no UTF-8 sequence.
-/

namespace ConfigTables.Json

/-- Why no JSON value could be read. -/
inductive ScanError where
  /-- An octet that no JSON text continues with, and what was expected there. -/
  | invalid (octet : UInt8) (context : String)
  /-- The input ended inside a value. -/
  | truncated
  /-- The input held only blanks. -/
  | empty
  deriving Repr, DecidableEq

/-- An octet in single quotes as a diagnostic shows it, read as a Latin-1 character. -/
def quoteOctet (b : UInt8) : String :=
  if b = 39 then "'\\''"
  else if b = 34 then "'\"'"
  else "'" ++ String.ofList (Text.Quoted.escapeChar (Char.ofNat b.toNat)) ++ "'"

/-- The text of a scan fault; `truncated` reads as `unexpected EOF`, `empty` as `EOF`. -/
def ScanError.message : ScanError → String
  | .invalid b ctx => "invalid character " ++ quoteOctet b ++ " " ++ ctx
  | .truncated => "unexpected EOF"
  | .empty => "EOF"

/-- Whether an octet is one of the four blanks. -/
def isBlankOctet (b : UInt8) : Bool := b = 32 || b = 9 || b = 10 || b = 13

/-- The input after its leading blanks. -/
def skipBlank (bs : List UInt8) : List UInt8 := bs.dropWhile isBlankOctet

/-- Whether an octet is a decimal digit. -/
def isDigitOctet (b : UInt8) : Bool := 48 ≤ b && b ≤ 57

/-- Whether an octet is a hexadecimal digit. -/
def isHexOctet (b : UInt8) : Bool :=
  isDigitOctet b || (97 ≤ b && b ≤ 102) || (65 ≤ b && b ≤ 70)

/-- The value of four hexadecimal octets. -/
def hex4 (a b c d : UInt8) : Nat :=
  let v (x : UInt8) : Nat := (Text.Hex.value? (Char.ofNat x.toNat)).getD 0
  ((v a * 16 + v b) * 16 + v c) * 16 + v d

/-- Whether a code point is a UTF-16 surrogate. -/
def isSurrogate (n : Nat) : Bool := 0xD800 ≤ n && n < 0xE000

/-- The characters of a string body whose escapes have been checked. -/
def unescape (fuel : Nat) (bs : List UInt8) : List Char :=
  match fuel, bs with
  | 0, _ => []
  | _, [] => []
  | fuel + 1, 92 :: e :: rest =>
    match e with
    | 117 =>
      match rest with
      | a :: b :: c :: d :: more =>
        let n := hex4 a b c d
        if isSurrogate n then
          match more with
          | 92 :: 117 :: a2 :: b2 :: c2 :: d2 :: more2 =>
            let n2 := hex4 a2 b2 c2 d2
            if 0xD800 ≤ n && n < 0xDC00 && 0xDC00 ≤ n2 && n2 < 0xE000 &&
                isHexOctet a2 && isHexOctet b2 && isHexOctet c2 && isHexOctet d2 then
              Char.ofNat (0x10000 + (n - 0xD800) * 0x400 + (n2 - 0xDC00)) :: unescape fuel more2
            else Text.Utf8.replacement :: unescape fuel more
          | _ => Text.Utf8.replacement :: unescape fuel more
        else Char.ofNat n :: unescape fuel more
      | _ => []
    | 98 => '\x08' :: unescape fuel rest
    | 102 => '\x0c' :: unescape fuel rest
    | 110 => '\n' :: unescape fuel rest
    | 114 => '\r' :: unescape fuel rest
    | 116 => '\t' :: unescape fuel rest
    | _ => Char.ofNat e.toNat :: unescape fuel rest
  | fuel + 1, b :: rest =>
    match Text.Utf8.decodeFront (b :: rest) with
    | some (c, k) => c :: unescape fuel ((b :: rest).drop k)
    | none => Text.Utf8.replacement :: unescape fuel rest

/-- Reads a string body after its opening quote: the raw body and the rest after the closing
quote. -/
def stringBody (fuel : Nat) (acc : List UInt8) (bs : List UInt8) :
    Except ScanError (List UInt8 × List UInt8) :=
  match fuel, bs with
  | 0, _ => .error .truncated
  | _, [] => .error .truncated
  | _ + 1, 34 :: rest => .ok (acc.reverse, rest)
  | fuel + 1, 92 :: rest =>
    match rest with
    | [] => .error .truncated
    | e :: more =>
      if e = 117 then
        let rec hex (k : Nat) (acc : List UInt8) (xs : List UInt8) :
            Except ScanError (List UInt8 × List UInt8) :=
          match k, xs with
          | 0, _ => .ok (acc, xs)
          | _, [] => .error .truncated
          | k + 1, x :: xs =>
            if isHexOctet x then hex k (x :: acc) xs
            else .error (.invalid x "in \\u hexadecimal character escape")
        match hex 4 (117 :: 92 :: acc) more with
        | .ok (acc', rest') => stringBody fuel acc' rest'
        | .error err => .error err
      else if e = 98 || e = 102 || e = 110 || e = 114 || e = 116 || e = 92 || e = 47 || e = 34 then
        stringBody fuel (e :: 92 :: acc) more
      else .error (.invalid e "in string escape code")
  | fuel + 1, b :: rest =>
    if b < 32 then .error (.invalid b "in string literal")
    else stringBody fuel (b :: acc) rest

/-- Reads the digits of a number after its first octet. -/
def digitsAfter (bs : List UInt8) : List UInt8 × List UInt8 :=
  (bs.takeWhile isDigitOctet, bs.dropWhile isDigitOctet)

/-- Reads a number; `atTop` says an end of input may close it. The literal text and the rest. -/
def numberText (bs : List UInt8) : Except ScanError (List UInt8 × List UInt8) := do
  -- sign
  let (sign, bs) : List UInt8 × List UInt8 :=
    match bs with
    | 45 :: rest => ([45], rest)
    | _ => ([], bs)
  -- integer part
  let (intPart, bs) ←
    match bs with
    | 48 :: rest => pure ([48], rest)
    | b :: rest =>
      if isDigitOctet b then
        let (ds, r) := digitsAfter rest
        pure (b :: ds, r)
      else throw (.invalid b "in numeric literal")
    | [] => throw .truncated
  -- fraction
  let (frac, bs) ←
    match bs with
    | 46 :: rest =>
      match rest with
      | b :: _ =>
        if isDigitOctet b then
          let (ds, r) := digitsAfter rest
          pure (46 :: ds, r)
        else throw (.invalid b "after decimal point in numeric literal")
      | [] => throw .truncated
    | _ => pure ([], bs)
  -- exponent
  let (expo, bs) ←
    match bs with
    | e :: rest =>
      if e = 101 || e = 69 then
        let (sgn, rest) : List UInt8 × List UInt8 :=
          match rest with
          | 43 :: r => ([43], r)
          | 45 :: r => ([45], r)
          | _ => ([], rest)
        match rest with
        | b :: _ =>
          if isDigitOctet b then
            let (ds, r) := digitsAfter rest
            pure (e :: sgn ++ ds, r)
          else throw (.invalid b "in exponent of numeric literal")
        | [] => throw .truncated
      else pure ([], bs)
    | [] => pure ([], bs)
  pure (sign ++ intPart ++ frac ++ expo, bs)

/-- Reads the literal whose octets after the first are `tail`. -/
def literalTail (word : String) (tail : List UInt8) (bs : List UInt8) :
    Except ScanError (List UInt8) :=
  match tail, bs with
  | [], rest => .ok rest
  | _ :: _, [] => .error .truncated
  | t :: ts, b :: rest =>
    if b = t then literalTail word ts rest
    else .error (.invalid b ("in literal " ++ word ++ " (expecting " ++ quoteOctet t ++ ")"))

mutual
/-- Reads one value at the front of the input, after blanks. -/
def value (fuel : Nat) (bs : List UInt8) : Except ScanError (Json × List UInt8) :=
  match fuel with
  | 0 => .error .truncated
  | fuel + 1 =>
    match skipBlank bs with
    | [] => .error .truncated
    | b :: rest =>
      if b = 123 then objectRest fuel rest
      else if b = 91 then arrayRest fuel rest
      else if b = 34 then
        match stringBody (rest.length + 1) [] rest with
        | .ok (body, r) => .ok (.string (String.ofList (unescape (body.length + 1) body)), r)
        | .error e => .error e
      else if b = 45 || isDigitOctet b then
        match numberText (b :: rest) with
        | .ok (lit, r) => .ok (.number (String.ofList (lit.map (fun x => Char.ofNat x.toNat))), r)
        | .error e => .error e
      else if b = 116 then
        (literalTail "true" [114, 117, 101] rest).map (fun r => (.bool true, r))
      else if b = 102 then
        (literalTail "false" [97, 108, 115, 101] rest).map (fun r => (.bool false, r))
      else if b = 110 then
        (literalTail "null" [117, 108, 108] rest).map (fun r => (.null, r))
      else .error (.invalid b "looking for beginning of value")
/-- Reads the members of an object after its opening brace. -/
def objectRest (fuel : Nat) (bs : List UInt8) : Except ScanError (Json × List UInt8) :=
  match skipBlank bs with
  | 125 :: rest => .ok (.object [], rest)
  | _ => members fuel [] bs
/-- Reads members from a key on; `acc` holds those read, last first. -/
def members (fuel : Nat) (acc : List (String × Json)) (bs : List UInt8) :
    Except ScanError (Json × List UInt8) :=
  match fuel with
  | 0 => .error .truncated
  | fuel + 1 =>
    match skipBlank bs with
    | [] => .error .truncated
    | 34 :: rest =>
      match stringBody (rest.length + 1) [] rest with
      | .error e => .error e
      | .ok (body, r) =>
        let key := String.ofList (unescape (body.length + 1) body)
        match skipBlank r with
        | [] => .error .truncated
        | 58 :: r =>
          match value fuel r with
          | .error e => .error e
          | .ok (v, r) =>
            match skipBlank r with
            | [] => .error .truncated
            | 44 :: r => members fuel ((key, v) :: acc) r
            | 125 :: r => .ok (.object ((key, v) :: acc).reverse, r)
            | c :: _ => .error (.invalid c "after object key:value pair")
        | c :: _ => .error (.invalid c "after object key")
    | c :: _ => .error (.invalid c "looking for beginning of object key string")
/-- Reads the items of an array after its opening bracket. -/
def arrayRest (fuel : Nat) (bs : List UInt8) : Except ScanError (Json × List UInt8) :=
  match skipBlank bs with
  | 93 :: rest => .ok (.array [], rest)
  | _ => items fuel [] bs
/-- Reads items from a value on; `acc` holds those read, last first. -/
def items (fuel : Nat) (acc : List Json) (bs : List UInt8) :
    Except ScanError (Json × List UInt8) :=
  match fuel with
  | 0 => .error .truncated
  | fuel + 1 =>
    match value fuel bs with
    | .error e => .error e
    | .ok (v, r) =>
      match skipBlank r with
      | [] => .error .truncated
      | 44 :: r => items fuel (v :: acc) r
      | 93 :: r => .ok (.array (v :: acc).reverse, r)
      | c :: _ => .error (.invalid c "after array element")
end

/-- Reads the first value of a text: `empty` when it holds only blanks. -/
def scanFirst (bs : List UInt8) : Except ScanError (Json × List UInt8) :=
  if (skipBlank bs).isEmpty then .error .empty
  else value (2 * bs.length + 2) bs

/-- Whether only blanks follow. -/
def onlyBlank (bs : List UInt8) : Bool := (skipBlank bs).isEmpty

/-- Reads a whole text that must hold exactly one value, for documents read in one piece:
after the value only blanks may follow, else the first octet after it is refused. -/
def parseDocument (bs : List UInt8) : Except ScanError Json := do
  let (v, rest) ← scanFirst bs
  match skipBlank rest with
  | [] => pure v
  | c :: _ => throw (.invalid c "after top-level value")

end ConfigTables.Json
