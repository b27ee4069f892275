/-!
# Binary64 numbers

IEEE 754 double-precision values, held as their 64 bits so that every operation here is
exact arithmetic on natural numbers. A finite value is `(-1)^s · m · 2^q` with an integer
significand `m`; `ofDecimal` rounds a decimal `d · 10^e` to the nearest value, ties to the
even significand, and past the largest finite value gives an infinity.

`shortest` gives the fewest decimal digits that read back as the same value: a decimal reads
back when it lies in the interval of reals that round to the value (ends included when the
significand is even). For each count of digits the two multiples of the digit grid that
surround the value are tried; the first count with a hit wins, and of two hits the nearer
one, a tie going to the even digit string.

`fixed` rounds the exact value to a number of places after the point, ties to even.
`fitsHalf` and `fitsSingle` tell whether the value is exactly representable in the narrower
binary formats, and `halfBits` and `singleBits` give those encodings.
-/

namespace ConfigTables

/-- A double-precision value, by its bits. -/
structure Binary64 where
  bits : UInt64
  deriving DecidableEq, Repr, Inhabited

namespace Binary64

/-- Positive zero. -/
def zero : Binary64 := ⟨0⟩

/-- Whether the sign bit is set. -/
def negative (x : Binary64) : Bool := x.bits >>> 63 == 1

/-- The biased exponent field. -/
def expField (x : Binary64) : Nat := ((x.bits >>> 52) &&& 0x7FF).toNat

/-- The fraction field. -/
def fracField (x : Binary64) : Nat := (x.bits &&& 0xFFFFFFFFFFFFF).toNat

/-- Whether the value is a NaN. -/
def isNaN (x : Binary64) : Bool := x.expField = 0x7FF && x.fracField ≠ 0

/-- Whether the value is an infinity. -/
def isInf (x : Binary64) : Bool := x.expField = 0x7FF && x.fracField = 0

/-- Whether the value is finite. -/
def isFinite (x : Binary64) : Bool := x.expField ≠ 0x7FF

/-- Whether the value is a zero of either sign. -/
def isZero (x : Binary64) : Bool := x.expField = 0 && x.fracField = 0

/-- The magnitude of a finite value as significand and binary exponent: `m · 2^q`. -/
def unpack (x : Binary64) : Nat × Int :=
  if x.expField = 0 then (x.fracField, -1074)
  else (x.fracField + Nat.pow 2 52, (x.expField : Int) - 1075)

/-- Bits from sign, biased exponent field and fraction field. -/
def pack (neg : Bool) (e f : Nat) : Binary64 :=
  ⟨((if neg then (1 : UInt64) else 0) <<< 63 ||| (e.toUInt64 <<< 52) ||| f.toUInt64)⟩

/-- The infinity of a sign. -/
def infinity (neg : Bool) : Binary64 := pack neg 0x7FF 0

/-- The quiet NaN. -/
def nan : Binary64 := ⟨0x7FF8000000000000⟩

/-- The number of binary digits of a natural number. -/
def bitLength (n : Nat) : Nat := if n = 0 then 0 else Nat.log2 n + 1

/-- The nearest natural number to `num / den`, ties to even. -/
def roundHalfEven (num den : Nat) : Nat :=
  let q := num / den
  let r := num % den
  if 2 * r < den then q
  else if 2 * r > den then q + 1
  else if q % 2 = 0 then q else q + 1

/-- The value `num / den · 2^k` as a natural number part `num · 2^k` over `den · 2^-k`. -/
def scaled (num den : Nat) (k : Int) : Nat × Nat :=
  if 0 ≤ k then (num * Nat.pow 2 k.toNat, den) else (num, den * Nat.pow 2 (-k).toNat)

/-- The nearest value to the positive rational `num / den`, ties to even. -/
def ofRatio (neg : Bool) (num den : Nat) : Binary64 :=
  if num = 0 then pack neg 0 0
  else
    -- The binary exponent that puts the significand in [2^52, 2^53), or the least one.
    let guess : Int := (bitLength num : Int) - bitLength den - 53
    let fits (q : Int) : Bool :=
      let (n, d) := scaled num den (-q)
      Nat.pow 2 52 * d ≤ n
    let q0 := if fits guess then (if fits (guess + 1) then guess + 1 else guess) else guess - 1
    let q := max q0 (-1074)
    let (n, d) := scaled num den (-q)
    let m := roundHalfEven n d
    let (m, q) := if m = Nat.pow 2 53 then (Nat.pow 2 52, q + 1) else (m, q)
    if q + 1075 > 2046 then infinity neg
    else if m < Nat.pow 2 52 then pack neg 0 m
    else pack neg (q + 1075).toNat (m - Nat.pow 2 52)

/-- The nearest value to `digits · 10^exp10`, ties to even. -/
def ofDecimal (neg : Bool) (digits : Nat) (exp10 : Int) : Binary64 :=
  if digits = 0 then pack neg 0 0
  else
    let size : Int := (toString digits).length
    if size + exp10 > 311 then infinity neg
    else if size + exp10 < -326 then pack neg 0 0
    else if 0 ≤ exp10 then ofRatio neg (digits * Nat.pow 10 exp10.toNat) 1
    else ofRatio neg digits (Nat.pow 10 (-exp10).toNat)

/-- The value of a whole number. -/
def ofInt (n : Int) : Binary64 :=
  ofDecimal (n < 0) n.natAbs 0

/-- The value as a rational `num / den` of its magnitude, for a finite value. -/
def ratio (x : Binary64) : Nat × Nat :=
  let (m, q) := x.unpack
  scaled m 1 q

/-- Compares `a · 10^p` with `b · 2^t`. -/
def cmpScaled (a : Nat) (p : Int) (b : Nat) (t : Int) : Ordering :=
  let lhs := a * Nat.pow 10 p.toNat * Nat.pow 2 (-t).toNat
  let rhs := b * Nat.pow 2 t.toNat * Nat.pow 10 (-p).toNat
  compare lhs rhs

/-- The exponent `k` with `10^k ≤ m · 2^q < 10^(k+1)`, for `m > 0`. -/
def decimalExponent (m : Nat) (q : Int) : Int :=
  -- An estimate from the bit length, corrected by exact comparison.
  let est : Int := ((bitLength m : Int) - 1 + q) * 30103 / 100000
  let below (k : Int) : Bool := cmpScaled 1 k m q != .gt
  let up := if below (est + 1) then (if below (est + 2) then est + 2 else est + 1) else est
  if below up then up else if below (up - 1) then up - 1 else up - 2

/-- A digit string with the decimal exponent of its first digit: the value is
`0.d₁d₂… · 10^point`. -/
structure Digits where
  digits : List Nat
  point : Int
  deriving Repr, DecidableEq

/-- The decimal digits of a natural number, most significant first. -/
def natDigits (n : Nat) : List Nat :=
  (toString n).toList.map (fun c => c.toNat - 48)

/-- Digits of `c · 10^p` with trailing zeros removed. -/
def digitsOf (c : Nat) (p : Int) : Digits :=
  let ds := natDigits c
  let kept := (ds.reverse.dropWhile (· = 0)).reverse
  ⟨kept, (ds.length : Int) + p⟩

/-- The fewest decimal digits that read back as the finite, non-zero value `x`. -/
def shortest (x : Binary64) : Digits :=
  let (m, q) := x.unpack
  -- The rounding interval in units of 2^(q-2): [4m - low, 4m + 2].
  let low := if m = Nat.pow 2 52 ∧ x.expField > 1 then 1 else 2
  let inclusive := m % 2 = 0
  let t := q - 2
  let center := 4 * m
  let k := decimalExponent m q
  let inside (c : Nat) (p : Int) : Bool :=
    let lo := cmpScaled c p (center - low) t
    let hi := cmpScaled c p (center + 2) t
    (lo == .gt || (inclusive && lo == .eq)) && (hi == .lt || (inclusive && hi == .eq))
  let attempt (n : Nat) : Option Digits :=
    let p : Int := k - n + 1
    -- c0 = ⌊x / 10^p⌋
    let num := center * Nat.pow 2 t.toNat * Nat.pow 10 (-p).toNat
    let den := Nat.pow 2 (-t).toNat * Nat.pow 10 p.toNat
    let c0 := num / den
    let c1 := c0 + 1
    let in0 := inside c0 p
    let in1 := inside c1 p
    if in0 && in1 then
      -- The nearer of the two; compare 2x with (2 c0 + 1) 10^p.
      match cmpScaled (2 * c0 + 1) p (2 * center) t with
      | .gt => some (digitsOf c0 p)
      | .lt => some (digitsOf c1 p)
      | .eq => some (if c0 % 2 = 0 then digitsOf c0 p else digitsOf c1 p)
    else if in0 then some (digitsOf c0 p)
    else if in1 then some (digitsOf c1 p)
    else none
  match (List.range 17).findSome? (fun i => attempt (i + 1)) with
  | some d => d
  | none => digitsOf 0 0

/-- Exponent text: sign and at least two digits. -/
def expText (e : Int) : String :=
  let sign := if e < 0 then "-" else "+"
  let n := e.natAbs
  sign ++ (if n < 10 then "0" else "") ++ toString n

/-- Digit characters. -/
def digitChars (ds : List Nat) : String :=
  String.ofList (ds.map (fun d => Char.ofNat (48 + d)))

/-- Scientific notation `d.ddde±XX` of a digit string. -/
def sciText (d : Digits) : String :=
  match d.digits with
  | [] => "0e+00"
  | first :: rest =>
    digitChars [first] ++ (if rest.isEmpty then "" else "." ++ digitChars rest) ++ "e" ++
      expText (d.point - 1)

/-- Positional notation of a digit string with `places` digits after the point. -/
def posText (d : Digits) (places : Nat) : String :=
  let nd := d.digits.length
  let at_ (j : Int) : Nat := if 0 ≤ j ∧ j < nd then d.digits.getD j.toNat 0 else 0
  let intPart :=
    if d.point ≤ 0 then "0"
    else digitChars ((List.range d.point.toNat).map (fun (i : Nat) => at_ (i : Int)))
  let frac := (List.range places).map (fun (i : Nat) => at_ (d.point + (i : Int)))
  intPart ++ (if places = 0 then "" else "." ++ digitChars frac)

/-- The shortest digits of a finite value, zero giving no digits. -/
def shortestOrZero (x : Binary64) : Digits :=
  if x.isZero then ⟨[], 1⟩ else x.shortest

/-- Shortest positional text, as `%f` with the fewest places that read back. -/
def formatF (x : Binary64) : String :=
  let d := x.shortestOrZero
  let places := (d.digits.length - d.point).toNat
  (if x.negative then "-" else "") ++ posText d places

/-- Shortest scientific text, as `%e` with the fewest digits that read back. -/
def formatE (x : Binary64) : String :=
  let d := x.shortestOrZero
  (if x.negative then "-" else "") ++ (if d.digits.isEmpty then "0e+00" else sciText d)

/-- Shortest text in the general form: scientific when the decimal exponent is below -4 or
at least `limit`, else positional. -/
def formatWithin (x : Binary64) (limit : Int) : String :=
  let d := x.shortestOrZero
  let exp := d.point - 1
  if d.digits.isEmpty then (if x.negative then "-0" else "0")
  else if exp < -4 ∨ exp ≥ limit then (if x.negative then "-" else "") ++ sciText d
  else
    let places := (d.digits.length - d.point).toNat
    (if x.negative then "-" else "") ++ posText d places

/-- The general form with the usual limit of six: `1e+06`, `123456.7`, `1e-05`. -/
def formatG (x : Binary64) : String :=
  x.formatWithin 6

/-- The double nearest to 1e-6, slightly below it. -/
def microBound : Binary64 := ⟨0x3EB0C6F7A0B5ED8D⟩

/-- Number text of a data file: positional for magnitudes from the double nearest 1e-6 up
to 1e21, else scientific with the exponent's leading zero dropped (`1e-7`, `1e+21`). The
lower bound is compared as a double, so 1e-6 itself is positional. -/
def formatData (x : Binary64) : String :=
  let (num, den) := x.ratio
  let (bnum, bden) := microBound.ratio
  let small := !x.isZero && num * bden < bnum * den
  let large := num ≥ Nat.pow 10 21 * den
  if small || large then
    let t := x.formatE
    -- drop the leading zero of a two-digit exponent below zero: e-07 becomes e-7
    let cs := t.toList
    let n := cs.length
    if n ≥ 4 && cs.getD (n - 4) ' ' = 'e' && cs.getD (n - 3) ' ' = '-' && cs.getD (n - 2) ' ' = '0'
    then String.ofList (cs.take (n - 2) ++ [cs.getD (n - 1) ' '])
    else t
  else x.formatF

/-- The value rounded to `places` digits after the point, ties to even. -/
def fixed (x : Binary64) (places : Nat) : String :=
  let (num, den) := x.ratio
  let r := roundHalfEven (num * Nat.pow 10 places) den
  let ds := natDigits r
  let ds := List.replicate (places + 1 - ds.length) 0 ++ ds
  let intDigits := ds.take (ds.length - places)
  let fracDigits := ds.drop (ds.length - places)
  (if x.negative then "-" else "") ++ digitChars intDigits ++
    (if places = 0 then "" else "." ++ digitChars fracDigits)

/-- A finite value's magnitude as an odd significand and an exponent, `m · 2^t`. -/
def oddForm (x : Binary64) : Nat × Int :=
  let (m, q) := x.unpack
  let tz := (List.range 64).find? (fun i => (m / Nat.pow 2 i) % 2 = 1)
  match tz with
  | some i => (m / Nat.pow 2 i, q + i)
  | none => (0, 0)

/-- Whether a finite value is exact in a binary format with `p` bits of precision and
exponent range `emin..emax`. -/
def fitsFormat (x : Binary64) (p : Nat) (emin emax : Int) : Bool :=
  if x.isZero then true
  else
    let (m, t) := x.oddForm
    let e : Int := (bitLength m : Int) - 1 + t
    e ≤ emax && (if e ≥ emin then bitLength m ≤ p else t ≥ emin - (p - 1))

/-- Whether a finite value is exact in half precision. -/
def fitsHalf (x : Binary64) : Bool := x.isFinite && x.fitsFormat 11 (-14) 15

/-- Whether a finite value is exact in single precision. -/
def fitsSingle (x : Binary64) : Bool := x.isFinite && x.fitsFormat 24 (-126) 127

/-- The encoding of an exactly representable value in a binary format of `p` bits
precision, `ebits` exponent bits and bias `bias`. -/
def narrowBits (x : Binary64) (p ebits : Nat) (bias : Int) : Nat :=
  let sign := if x.negative then Nat.pow 2 (p - 1 + ebits) else 0
  if x.isZero then sign
  else
    let (m, t) := x.oddForm
    let e : Int := (bitLength m : Int) - 1 + t
    if e ≥ 1 - bias then
      -- normal: significand with the leading one dropped
      let frac := m * Nat.pow 2 (p - bitLength m) - Nat.pow 2 (p - 1)
      sign + (e + bias).toNat * Nat.pow 2 (p - 1) + frac
    else
      -- subnormal: the value in units of 2^(1 - bias - (p - 1))
      sign + m * Nat.pow 2 (t - (1 - bias - (p - 1 : Nat))).toNat

/-- Half-precision bits of a value that fits. -/
def halfBits (x : Binary64) : Nat := x.narrowBits 11 5 15

/-- Single-precision bits of a value that fits. -/
def singleBits (x : Binary64) : Nat := x.narrowBits 24 8 127

/-- The value of half-precision bits. -/
def ofHalfBits (h : Nat) : Binary64 :=
  let neg := h / Nat.pow 2 15 % 2 = 1
  let e := h / Nat.pow 2 10 % 32
  let f := h % Nat.pow 2 10
  if e = 31 then (if f = 0 then infinity neg else nan)
  else if e = 0 then ofRatio neg f (Nat.pow 2 24)
  else ofRatio neg ((f + Nat.pow 2 10) * Nat.pow 2 e) (Nat.pow 2 25)

/-- The value of single-precision bits. -/
def ofSingleBits (s : Nat) : Binary64 :=
  let neg := s / Nat.pow 2 31 % 2 = 1
  let e := s / Nat.pow 2 23 % 256
  let f := s % Nat.pow 2 23
  if e = 255 then (if f = 0 then infinity neg else nan)
  else if e = 0 then ofRatio neg f (Nat.pow 2 149)
  else ofRatio neg ((f + Nat.pow 2 23) * Nat.pow 2 e) (Nat.pow 2 150)

/-- Whether two values are equal as numbers: zeros of both signs are equal, a NaN is equal
to nothing. -/
def numEq (x y : Binary64) : Bool :=
  if x.isNaN || y.isNaN then false
  else if x.isZero && y.isZero then true
  else x.bits == y.bits

/-- The whole number a finite value equals, if it is whole. -/
def toInt? (x : Binary64) : Option Int :=
  if !x.isFinite then none
  else
    let (m, q) := x.unpack
    let mag : Option Nat :=
      if 0 ≤ q then some (m * Nat.pow 2 q.toNat)
      else if m % Nat.pow 2 (-q).toNat = 0 then some (m / Nat.pow 2 (-q).toNat) else none
    mag.map (fun n => if x.negative then -(n : Int) else n)

end Binary64

end ConfigTables

namespace ConfigTables.Binary64

/-- The value of decimal digit characters. -/
def digitValue (ds : List Char) : Nat :=
  ds.foldl (fun a c => a * 10 + (c.toNat - 48)) 0

/-- Sign, digits and decimal exponent of a number literal `-?digits(.digits)?([eE][+-]?digits)?`. -/
def literalParts? (lit : String) : Option (Bool × Nat × Int) :=
  let cs := lit.toList
  let (neg, cs) := match cs with
    | '-' :: r => (true, r)
    | '+' :: r => (false, r)
    | r => (false, r)
  let intDs := cs.takeWhile Char.isDigit
  let cs := cs.dropWhile Char.isDigit
  let (fracDs, cs) := match cs with
    | '.' :: r => (r.takeWhile Char.isDigit, r.dropWhile Char.isDigit)
    | r => ([], r)
  let expPart : Option Int := match cs with
    | [] => some 0
    | e :: r =>
      if e = 'e' || e = 'E' then
        let (eneg, r) := match r with
          | '-' :: r => (true, r)
          | '+' :: r => (false, r)
          | r => (false, r)
        if r.isEmpty || !r.all Char.isDigit then none
        else
          let n : Int := digitValue r
          some (if eneg then -n else n)
      else none
  if intDs.isEmpty && fracDs.isEmpty then none
  else
    match expPart with
    | none => none
    | some e =>
      let digits := digitValue (intDs ++ fracDs)
      some (neg, digits, e - fracDs.length)

/-- The nearest value to a number literal, if it is well formed. -/
def ofLiteral? (lit : String) : Option Binary64 :=
  (literalParts? lit).map fun (neg, d, e) => ofDecimal neg d e

/-- The whole number a decimal literal of optional sign and digits only denotes. -/
def wholeLiteral? (lit : String) : Option Int :=
  let (neg, ds) := match lit.toList with
    | '-' :: r => (true, r)
    | '+' :: r => (false, r)
    | r => (false, r)
  if ds.isEmpty || !ds.all Char.isDigit then none
  else
    let n : Int := digitValue ds
    some (if neg then -n else n)

end ConfigTables.Binary64
