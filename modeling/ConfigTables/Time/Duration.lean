import ConfigTables.Text.Octets
import ConfigTables.Number.Binary64
/-!
# Durations

A duration is a whole number of nanoseconds. Its text uses the largest units that fit:
below a second a single unit (`ns`, `µs`, `ms`) with a fraction, else hours, minutes and
seconds with a fraction of a second (`1h2m3.5s`, `2m0s`, `1.5s`); fractions drop their
trailing zeros, zero is `0s`.

Reading a duration takes an optional sign and then one or more numbers with a unit each
(`1h30m`, `1.5s`, `.5ms`); a lone `0` needs no unit. The units are `ns`, `us`, `µs`, `μs`,
`ms`, `s`, `m` and `h`. A fraction of a unit is worked out in double precision and cut to
whole nanoseconds. A total beyond the signed 64-bit range is refused.
-/

namespace ConfigTables.Time

/-- Nanoseconds in a microsecond, millisecond, second, minute and hour. -/
def microsecond : Nat := 1000
def millisecond : Nat := 1000000
def second : Nat := 1000000000
def minute : Nat := 60 * second
def hour : Nat := 60 * minute

/-- The digits of a fraction `v / 10^prec` after the point, trailing zeros dropped; empty
when the fraction is zero. -/
def fracDigits (v prec : Nat) : String :=
  let ds := (List.range prec).reverse.map (fun i => Char.ofNat (48 + v / Nat.pow 10 i % 10))
  let kept := (ds.reverse.dropWhile (· = '0')).reverse
  if kept.isEmpty then "" else "." ++ String.ofList kept

/-- The text of a duration of `u` nanoseconds, without sign. -/
def magnitudeText (u : Nat) : String :=
  if u = 0 then "0s"
  else if u < microsecond then toString u ++ "ns"
  else if u < millisecond then toString (u / microsecond) ++ fracDigits (u % microsecond) 3 ++ "µs"
  else if u < second then toString (u / millisecond) ++ fracDigits (u % millisecond) 6 ++ "ms"
  else
    let secs := u / second
    let s := toString (secs % 60) ++ fracDigits (u % second) 9 ++ "s"
    let mins := secs / 60
    if mins = 0 then s
    else
      let m := toString (mins % 60) ++ "m" ++ s
      let hours := mins / 60
      if hours = 0 then m else toString hours ++ "h" ++ m

/-- The text of a duration in nanoseconds. -/
def durationText (ns : Int) : String :=
  (if ns < 0 then "-" else "") ++ magnitudeText ns.natAbs

/-- A text in double quotes as duration diagnostics write it: the quote and backslash
escaped, characters outside printable ASCII as `\x` escapes of their octets. -/
def quoteText (s : String) : String :=
  let esc := fun (c : Char) =>
    if c.toNat ≥ 0x80 || c.toNat < 0x20 then
      (String.singleton c).toUTF8.toList.flatMap (fun o => ['\\', 'x', Text.Hex.digit (o.toNat / 16),
        Text.Hex.digit (o.toNat % 16)])
    else if c = '"' || c = '\\' then ['\\', c]
    else [c]
  String.ofList ('"' :: s.toList.flatMap esc ++ ['"'])

/-- The nanoseconds of a unit name. -/
def unitOf : String → Option Nat
  | "ns" => some 1
  | "us" => some microsecond
  | "µs" => some microsecond
  | "μs" => some microsecond
  | "ms" => some millisecond
  | "s" => some second
  | "m" => some minute
  | "h" => some hour
  | _ => none

/-- The largest magnitude a duration can reach. -/
def limit : Nat := Nat.pow 2 63

/-- Leading digits as a number; none when it would pass the limit. -/
def leadingInt : List Char → Nat → Option Nat × List Char
  | c :: rest, x =>
    if c.isDigit then
      if x > (limit - 1) / 10 then (none, rest)
      else
        let y := x * 10 + (c.toNat - 48)
        if y > limit then (none, rest) else leadingInt rest y
    else (some x, c :: rest)
  | [], x => (some x, [])

/-- Leading digits of a fraction: the value of the digits kept, the power of ten they were
scaled by, and the rest; digits past what fits are skipped. -/
def leadingFraction : List Char → Nat → Nat → Bool → Nat × Nat × List Char
  | c :: rest, x, scale, past =>
    if c.isDigit then
      if past then leadingFraction rest x scale true
      else if x > (limit - 1) / 10 then leadingFraction rest x scale true
      else
        let y := x * 10 + (c.toNat - 48)
        if y > limit then leadingFraction rest x scale true
        else leadingFraction rest y (scale * 10) false
    else (x, scale, c :: rest)
  | [], x, scale, _ => (x, scale, [])

/-- The nanoseconds of a fraction `f / scale` of a unit, worked out in double precision as
`f · (unit / scale)` with each step rounded to the nearest double and the product cut to a
whole number: so `0.9999999999999999s` is a whole second. -/
def fractionNanos (f unit scale : Nat) : Nat :=
  let (a, b) := (Binary64.ofRatio false f 1).ratio
  let (c, d) := (Binary64.ofRatio false unit scale).ratio
  let (n, m) := (Binary64.ofRatio false (a * c) (b * d)).ratio
  n / m

/-- Reads the number-and-unit parts of a duration, adding to `d`. -/
def readParts (orig : String) (fuel : Nat) (cs : List Char) (d : Nat) : Except String Nat :=
  let invalid := Except.error ("time: invalid duration " ++ quoteText orig)
  match fuel with
  | 0 => invalid
  | fuel + 1 =>
    match cs with
    | [] => .ok d
    | c :: _ =>
      if !(c = '.' || c.isDigit) then invalid
      else
        match leadingInt cs 0 with
        | (none, _) => invalid
        | (some v, afterInt) =>
          let pre := decide (afterInt.length ≠ cs.length)
          let (f, scale, afterFrac, post) := match afterInt with
            | '.' :: more =>
              let (f, scale, r) := leadingFraction more 0 1 false
              (f, scale, r, decide (r.length ≠ more.length))
            | _ => (0, 1, afterInt, false)
          if !pre && !post then invalid
          else
            let unitChars := afterFrac.takeWhile (fun c => !(c = '.' || c.isDigit))
            let rest := afterFrac.drop unitChars.length
            if unitChars.isEmpty then .error ("time: missing unit in duration " ++ quoteText orig)
            else
              let u := String.ofList unitChars
              match unitOf u with
              | none => .error ("time: unknown unit " ++ quoteText u ++ " in duration " ++ quoteText orig)
              | some unit =>
                if v > limit / unit then invalid
                else
                  let v := v * unit + (if f > 0 then fractionNanos f unit scale else 0)
                  if v > limit then invalid
                  else
                    let d := d + v
                    if d > limit then invalid else readParts orig fuel rest d

/-- Reads a duration in nanoseconds. -/
def parseDuration (s : String) : Except String Int :=
  let (neg, body) := match s.toList with
    | '-' :: rest => (true, rest)
    | '+' :: rest => (false, rest)
    | cs => (false, cs)
  if body = ['0'] then .ok 0
  else if body.isEmpty then .error ("time: invalid duration " ++ quoteText s)
  else
    match readParts s (body.length + 1) body 0 with
    | .error e => .error e
    | .ok d =>
      if neg then .ok (-(d : Int))
      else if d > limit - 1 then .error ("time: invalid duration " ++ quoteText s)
      else .ok d

end ConfigTables.Time
