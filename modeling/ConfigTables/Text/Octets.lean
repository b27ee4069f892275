/-!
# Octet strings as text

Two ways of writing octet strings as text.

* **Hexadecimal.** Lower-case digits, two a byte, high half first; reading accepts either case
  and refuses an odd count or a character outside the sixteen digits.
* **Base64.** The standard alphabet of RFC 4648 with `=` padding: three octets become four
  characters, and a last group of one or two octets is padded to four characters.
-/

namespace ConfigTables.Text.Hex

/-- The digit of a half byte, lower case. -/
def digit (n : Nat) : Char :=
  if n < 10 then Char.ofNat (48 + n) else Char.ofNat (87 + n)

/-- The two digits of one byte. -/
def pair (b : UInt8) : List Char :=
  [digit (b.toNat / 16), digit (b.toNat % 16)]

/-- Hexadecimal text of a byte string. -/
def encode (bs : List UInt8) : String :=
  String.ofList (bs.flatMap pair)

/-- The value of one hexadecimal digit of either case. -/
def value? (c : Char) : Option Nat :=
  if '0' ≤ c ∧ c ≤ '9' then some (c.toNat - 48)
  else if 'a' ≤ c ∧ c ≤ 'f' then some (c.toNat - 87)
  else if 'A' ≤ c ∧ c ≤ 'F' then some (c.toNat - 55)
  else none

/-- Bytes of a digit list, two digits a byte. -/
def decodeChars : List Char → Option (List UInt8)
  | [] => some []
  | [_] => none
  | h :: l :: rest => do
    let a ← value? h
    let b ← value? l
    let tail ← decodeChars rest
    pure ((a * 16 + b).toUInt8 :: tail)

/-- Bytes of hexadecimal text, or none when the text is not an even run of digits. -/
def decode (s : String) : Option (List UInt8) :=
  decodeChars s.toList

end ConfigTables.Text.Hex

namespace ConfigTables.Text.Base64

/-- The character of a six-bit value. -/
def symbol (n : Nat) : Char :=
  if n < 26 then Char.ofNat (65 + n)
  else if n < 52 then Char.ofNat (71 + n)
  else if n < 62 then Char.ofNat (n - 4)
  else if n = 62 then '+' else '/'

/-- The six-bit value of a character of the alphabet. -/
def value? (c : Char) : Option Nat :=
  let n := c.toNat
  if 65 ≤ n ∧ n ≤ 90 then some (n - 65)
  else if 97 ≤ n ∧ n ≤ 122 then some (n - 71)
  else if 48 ≤ n ∧ n ≤ 57 then some (n + 4)
  else if c = '+' then some 62
  else if c = '/' then some 63
  else none

/-- The characters of an octet string. -/
def encodeChars : List UInt8 → List Char
  | a :: b :: c :: rest =>
    let n := a.toNat * 65536 + b.toNat * 256 + c.toNat
    [symbol (n / 262144), symbol (n / 4096 % 64), symbol (n / 64 % 64), symbol (n % 64)] ++
      encodeChars rest
  | [a, b] =>
    let n := a.toNat * 65536 + b.toNat * 256
    [symbol (n / 262144), symbol (n / 4096 % 64), symbol (n / 64 % 64), '=']
  | [a] =>
    let n := a.toNat * 65536
    [symbol (n / 262144), symbol (n / 4096 % 64), '=', '=']
  | [] => []

/-- The Base64 text of an octet string. -/
def encode (bs : List UInt8) : String := String.ofList (encodeChars bs)

/-- The octets of groups of four characters. -/
def decodeChars : List Char → Option (List UInt8)
  | [] => some []
  | [a, b, '=', '='] => do
    let n := (← value? a) * 262144 + (← value? b) * 4096
    pure [(n / 65536).toUInt8]
  | [a, b, c, '='] => do
    let n := (← value? a) * 262144 + (← value? b) * 4096 + (← value? c) * 64
    pure [(n / 65536).toUInt8, (n / 256 % 256).toUInt8]
  | a :: b :: c :: d :: rest => do
    let n := (← value? a) * 262144 + (← value? b) * 4096 + (← value? c) * 64 + (← value? d)
    let tail ← decodeChars rest
    pure ([(n / 65536).toUInt8, (n / 256 % 256).toUInt8, (n % 256).toUInt8] ++ tail)
  | _ => none

/-- The octets of a Base64 text, or none when it is not one. -/
def decode (s : String) : Option (List UInt8) := decodeChars s.toList

end ConfigTables.Text.Base64
