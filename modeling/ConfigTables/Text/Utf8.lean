/-!
# UTF-8

Characters as UTF-8 octets, and octets read back as characters. Reading is lossy in the
usual way: an octet that does not start a well-formed sequence (RFC 3629: no overlong form,
no surrogate, nothing above U+10FFFF) stands for one U+FFFD and reading goes on at the next
octet. `valid?` gives the text only when no octet was replaced.
-/

namespace ConfigTables.Text.Utf8

/-- The octets of one character. -/
def encodeChar (c : Char) : List UInt8 :=
  let n := c.toNat
  if n < 0x80 then [n.toUInt8]
  else if n < 0x800 then [(0xC0 + n / 64).toUInt8, (0x80 + n % 64).toUInt8]
  else if n < 0x10000 then
    [(0xE0 + n / 4096).toUInt8, (0x80 + n / 64 % 64).toUInt8, (0x80 + n % 64).toUInt8]
  else
    [(0xF0 + n / 262144).toUInt8, (0x80 + n / 4096 % 64).toUInt8,
      (0x80 + n / 64 % 64).toUInt8, (0x80 + n % 64).toUInt8]

/-- The octets of a text. -/
def encode (s : String) : List UInt8 :=
  s.toList.flatMap encodeChar

/-- Whether an octet continues a sequence. -/
def isTail (b : UInt8) : Bool := 0x80 ≤ b && b ≤ 0xBF

/-- The character at the front of the octets and how many octets it takes, or none when the
first octet starts no well-formed sequence. -/
def decodeFront : List UInt8 → Option (Char × Nat)
  | [] => none
  | b0 :: rest =>
    let n0 := b0.toNat
    if n0 < 0x80 then some (Char.ofNat n0, 1)
    else if 0xC2 ≤ n0 ∧ n0 ≤ 0xDF then
      match rest with
      | b1 :: _ => if isTail b1 then some (Char.ofNat ((n0 - 0xC0) * 64 + (b1.toNat - 0x80)), 2) else none
      | [] => none
    else if 0xE0 ≤ n0 ∧ n0 ≤ 0xEF then
      let lo : Nat := if n0 = 0xE0 then 0xA0 else 0x80
      let hi : Nat := if n0 = 0xED then 0x9F else 0xBF
      match rest with
      | b1 :: b2 :: _ =>
        if lo ≤ b1.toNat ∧ b1.toNat ≤ hi ∧ isTail b2 then
          some (Char.ofNat ((n0 - 0xE0) * 4096 + (b1.toNat - 0x80) * 64 + (b2.toNat - 0x80)), 3)
        else none
      | _ => none
    else if 0xF0 ≤ n0 ∧ n0 ≤ 0xF4 then
      let lo : Nat := if n0 = 0xF0 then 0x90 else 0x80
      let hi : Nat := if n0 = 0xF4 then 0x8F else 0xBF
      match rest with
      | b1 :: b2 :: b3 :: _ =>
        if lo ≤ b1.toNat ∧ b1.toNat ≤ hi ∧ isTail b2 ∧ isTail b3 then
          some (Char.ofNat ((n0 - 0xF0) * 262144 + (b1.toNat - 0x80) * 4096
            + (b2.toNat - 0x80) * 64 + (b3.toNat - 0x80)), 4)
        else none
      | _ => none
    else none

/-- The replacement character. -/
def replacement : Char := '�'

/-- Characters of octets, each octet that starts no sequence read as one U+FFFD. -/
def decodeChars (bs : List UInt8) : List Char :=
  go bs.length bs
where
  /-- Reads with the octet count as fuel; each step consumes at least one octet. -/
  go : Nat → List UInt8 → List Char
    | 0, _ => []
    | _, [] => []
    | fuel + 1, b :: rest =>
      match decodeFront (b :: rest) with
      | some (c, k) => c :: go fuel ((b :: rest).drop k)
      | none => replacement :: go fuel rest

/-- Text of octets, invalid octets replaced. -/
def decodeLossy (bs : List UInt8) : String :=
  String.ofList (decodeChars bs)

/-- Whether the octets are well-formed UTF-8 throughout. -/
def isValid (bs : List UInt8) : Bool :=
  go bs.length bs
where
  /-- Walks the octets, one sequence a step. -/
  go : Nat → List UInt8 → Bool
    | _, [] => true
    | 0, _ => false
    | fuel + 1, b :: rest =>
      match decodeFront (b :: rest) with
      | some (_, k) => go fuel ((b :: rest).drop k)
      | none => false

/-- The text of octets that are well-formed UTF-8. -/
def valid? (bs : List UInt8) : Option String :=
  if isValid bs then some (decodeLossy bs) else none

end ConfigTables.Text.Utf8
