import Mathlib
import ConfigTables.Json.Scan
/-!
# Printed JSON reads back

Both printers and the strict reader agree: the octets of a printed value read back as the value,
for every string style and every value whose numbers are whole numbers as they are printed
(`Json.Whole`). A compact document parses back whole (`Json.parseDocument_compact`); an indented
one, with an indent of blanks, has the value as its first value and nothing after it
(`Json.scanFirst_indented`).

The argument follows the reader's layers.

* UTF-8: reading a character's octets gives the character back (`Utf8.decodeFront_encodeChar`).
* Strings: a character is written as itself, as a backslash and one letter, or as a `\u`
  escape below the surrogates (`Json.escapeChar_cases`); the body scanner walks each form
  octet by octet and stops at the closing quote (`Json.stringBody_quote`), and unescaping takes
  every character back (`Json.unescape_body`).
* Numbers: a printed whole number is a sign and a run of digits with no leading zero, which the
  number scanner reads whole up to the comma, bracket or blank after it (`Json.numberText_int`).
* Layouts: both printers are one printer that lays blanks between tokens (`Json.spaced`), the
  compact one none (`Json.compact_spaced`), the indented one a line break and an indent before
  each item, member and closing bracket and a space after each colon (`Json.indented_spaced`).
  The reader skips blanks wherever a layout lays them.
* Values: the reader spends one step of fuel a nesting level and an item, never more than the
  octets printed; a step lemma for values, items and members each, and an induction over the
  fuel (`Json.printed_reads`).
-/

namespace ConfigTables.Text.Utf8

/-! ## §1 — UTF-8 -/

theorem encodeChar_eq (c : Char) : encodeChar c =
    if c.toNat < 0x80 then [c.toNat.toUInt8]
    else if c.toNat < 0x800 then [(0xC0 + c.toNat / 64).toUInt8, (0x80 + c.toNat % 64).toUInt8]
    else if c.toNat < 0x10000 then
      [(0xE0 + c.toNat / 4096).toUInt8, (0x80 + c.toNat / 64 % 64).toUInt8, (0x80 + c.toNat % 64).toUInt8]
    else
      [(0xF0 + c.toNat / 262144).toUInt8, (0x80 + c.toNat / 4096 % 64).toUInt8,
        (0x80 + c.toNat / 64 % 64).toUInt8, (0x80 + c.toNat % 64).toUInt8] := rfl

theorem toNat_toUInt8 {x : Nat} (h : x < 256) : x.toUInt8.toNat = x := by
  simp [Nat.mod_eq_of_lt h]

theorem isTail_iff {b : UInt8} : isTail b = true ↔ 0x80 ≤ b.toNat ∧ b.toNat ≤ 0xBF := by
  simp [isTail, UInt8.le_iff_toNat_le]

theorem decodeFront_one {b0 : UInt8} (rest : List UInt8) (h0 : b0.toNat < 0x80) :
    decodeFront (b0 :: rest) = some (Char.ofNat b0.toNat, 1) := by
  simp [decodeFront, h0]

theorem decodeFront_two {b0 b1 : UInt8} (rest : List UInt8) (h0 : 0xC2 ≤ b0.toNat ∧ b0.toNat ≤ 0xDF)
    (h1 : 0x80 ≤ b1.toNat ∧ b1.toNat ≤ 0xBF) :
    decodeFront (b0 :: b1 :: rest) =
      some (Char.ofNat ((b0.toNat - 0xC0) * 64 + (b1.toNat - 0x80)), 2) := by
  simp only [decodeFront]
  rw [if_neg (by omega), if_pos h0, if_pos (isTail_iff.mpr h1)]

theorem decodeFront_three {b0 b1 b2 : UInt8} (rest : List UInt8)
    (h0 : 0xE0 ≤ b0.toNat ∧ b0.toNat ≤ 0xEF)
    (h1 : (if b0.toNat = 0xE0 then 0xA0 else 0x80) ≤ b1.toNat ∧
      b1.toNat ≤ (if b0.toNat = 0xED then 0x9F else 0xBF))
    (h2 : 0x80 ≤ b2.toNat ∧ b2.toNat ≤ 0xBF) :
    decodeFront (b0 :: b1 :: b2 :: rest) =
      some (Char.ofNat ((b0.toNat - 0xE0) * 4096 + (b1.toNat - 0x80) * 64 + (b2.toNat - 0x80)), 3) := by
  simp only [decodeFront]
  rw [if_neg (by omega), if_neg (by omega), if_pos h0, if_pos ⟨h1.1, h1.2, isTail_iff.mpr h2⟩]

theorem decodeFront_four {b0 b1 b2 b3 : UInt8} (rest : List UInt8)
    (h0 : 0xF0 ≤ b0.toNat ∧ b0.toNat ≤ 0xF4)
    (h1 : (if b0.toNat = 0xF0 then 0x90 else 0x80) ≤ b1.toNat ∧
      b1.toNat ≤ (if b0.toNat = 0xF4 then 0x8F else 0xBF))
    (h2 : 0x80 ≤ b2.toNat ∧ b2.toNat ≤ 0xBF) (h3 : 0x80 ≤ b3.toNat ∧ b3.toNat ≤ 0xBF) :
    decodeFront (b0 :: b1 :: b2 :: b3 :: rest) =
      some (Char.ofNat ((b0.toNat - 0xF0) * 262144 + (b1.toNat - 0x80) * 4096
        + (b2.toNat - 0x80) * 64 + (b3.toNat - 0x80)), 4) := by
  simp only [decodeFront]
  rw [if_neg (by omega), if_neg (by omega), if_neg (by omega), if_pos h0,
    if_pos ⟨h1.1, h1.2, isTail_iff.mpr h2, isTail_iff.mpr h3⟩]

theorem ofNat_of_eq_toNat {c : Char} {n : Nat} (h : n = c.toNat) : Char.ofNat n = c := by
  subst h; exact Char.ofNat_toNat c

theorem decodeFront_encodeChar (c : Char) (rest : List UInt8) :
    decodeFront (encodeChar c ++ rest) = some (c, (encodeChar c).length) := by
  have hv : c.toNat < 0xd800 ∨ (0xdfff < c.toNat ∧ c.toNat < 0x110000) := c.valid
  rw [encodeChar_eq]
  split
  · next h =>
    rw [List.cons_append, decodeFront_one _ (by rw [toNat_toUInt8 (by omega)]; exact h),
      toNat_toUInt8 (by omega), Char.ofNat_toNat]
    rfl
  split
  · next h1 h2 =>
    have e0 := toNat_toUInt8 (x := 0xC0 + c.toNat / 64) (by omega)
    have e1 := toNat_toUInt8 (x := 0x80 + c.toNat % 64) (by omega)
    rw [List.cons_append, List.cons_append, List.nil_append,
      decodeFront_two _ (by omega) (by omega), e0, e1, ofNat_of_eq_toNat (c := c) (by omega)]
    rfl
  split
  · next h1 h2 h3 =>
    have e0 := toNat_toUInt8 (x := 0xE0 + c.toNat / 4096) (by omega)
    have e1 := toNat_toUInt8 (x := 0x80 + c.toNat / 64 % 64) (by omega)
    have e2 := toNat_toUInt8 (x := 0x80 + c.toNat % 64) (by omega)
    rw [List.cons_append, List.cons_append, List.cons_append, List.nil_append,
      decodeFront_three _ (by omega) (by rw [e0, e1]; split_ifs <;> omega) (by omega), e0, e1, e2,
      ofNat_of_eq_toNat (c := c) (by omega)]
    rfl
  · next h1 h2 h3 =>
    have e0 := toNat_toUInt8 (x := 0xF0 + c.toNat / 262144) (by omega)
    have e1 := toNat_toUInt8 (x := 0x80 + c.toNat / 4096 % 64) (by omega)
    have e2 := toNat_toUInt8 (x := 0x80 + c.toNat / 64 % 64) (by omega)
    have e3 := toNat_toUInt8 (x := 0x80 + c.toNat % 64) (by omega)
    rw [List.cons_append, List.cons_append, List.cons_append, List.cons_append, List.nil_append,
      decodeFront_four _ (by omega) (by rw [e0, e1]; split_ifs <;> omega) (by omega) (by omega),
      e0, e1, e2, e3, ofNat_of_eq_toNat (c := c) (by omega)]
    rfl

theorem encodeChar_ascii {c : Char} (h : c.toNat < 0x80) :
    encodeChar c = [c.toNat.toUInt8] := by
  simp [encodeChar, h]

theorem toNat_ascii {c : Char} (h : c.toNat < 0x80) : c.toNat.toUInt8.toNat = c.toNat := by
  simp [Nat.mod_eq_of_lt (show c.toNat < 256 by omega)]

theorem flatMap_encodeChar_ascii {cs : List Char} (h : ∀ c ∈ cs, c.toNat < 0x80) :
    cs.flatMap encodeChar = cs.map (fun c => c.toNat.toUInt8) := by
  induction cs with
  | nil => rfl
  | cons c cs ih =>
    rw [List.flatMap_cons, encodeChar_ascii (h c List.mem_cons_self),
      ih (fun x hx => h x (List.mem_cons_of_mem _ hx))]
    rfl

theorem encode_append (a b : String) : encode (a ++ b) = encode a ++ encode b := by
  simp [Utf8.encode]

end ConfigTables.Text.Utf8

namespace ConfigTables.Json

open Text

/-! ## §2 — strings -/

/-- The short escapes, each with the character it stands for. -/
def shortEscapes : List (Char × Char) :=
  [('"', '"'), ('\\', '\\'), ('b', '\x08'), ('f', '\x0c'), ('n', '\n'), ('r', '\r'), ('t', '\t')]

theorem escapeChar_cases (st : StringStyle) (c : Char) :
    (escapeChar st c = [c] ∧ 0x20 ≤ c.toNat ∧ c ≠ '"' ∧ c ≠ '\\') ∨
    (∃ e, escapeChar st c = ['\\', e] ∧ (e, c) ∈ shortEscapes) ∨
    (escapeChar st c = unicodeEscape c.toNat ∧ c.toNat < 0xD800) := by
  unfold escapeChar
  split
  · exact .inr (.inl ⟨_, rfl, by simp [shortEscapes]⟩)
  · exact .inr (.inl ⟨_, rfl, by simp [shortEscapes]⟩)
  · exact .inr (.inl ⟨_, rfl, by simp [shortEscapes]⟩)
  · exact .inr (.inl ⟨_, rfl, by simp [shortEscapes]⟩)
  · exact .inr (.inl ⟨_, rfl, by simp [shortEscapes]⟩)
  · exact .inr (.inl ⟨_, rfl, by simp [shortEscapes]⟩)
  · exact .inr (.inl ⟨_, rfl, by simp [shortEscapes]⟩)
  · next hq hb h8 hc hn hr ht =>
    -- the markup characters, the separators and the delete character all lie below the
    -- surrogates
    have hmark : (c = '<' || c = '>' || c = '&') = true → c.toNat < 0xD800 := by
      intro h; simp only [Bool.or_eq_true, decide_eq_true_eq] at h
      rcases h with (rfl | rfl) | rfl <;> decide
    dsimp only
    split_ifs with h1 h2 h3 h4
    · exact .inr (.inr ⟨rfl, by omega⟩)
    · exact .inr (.inr ⟨rfl, hmark (Bool.and_eq_true _ _ ▸ h2).2⟩)
    · simp only [Bool.and_eq_true, Bool.or_eq_true, decide_eq_true_eq] at h3
      exact .inr (.inr ⟨rfl, by omega⟩)
    · simp only [Bool.and_eq_true, decide_eq_true_eq] at h4
      exact .inr (.inr ⟨rfl, by omega⟩)
    · exact .inl ⟨rfl, by omega, fun h => hq (h ▸ rfl), fun h => hb (h ▸ rfl)⟩

/-- The octets a character is written with inside a string. -/
def escapeOctets (st : StringStyle) (c : Char) : List UInt8 :=
  (escapeChar st c).flatMap Utf8.encodeChar

theorem encode_quote (st : StringStyle) (s : String) :
    Utf8.encode (quote st s) = 34 :: (s.toList.flatMap (escapeOctets st) ++ [34]) := by
  simp [quote, Utf8.encode, List.flatMap_assoc, Utf8.encodeChar]
  rfl

theorem unicodeEscape_eq (n : Nat) : unicodeEscape n =
    ['\\', 'u', Hex.digit (n / 4096 % 16), Hex.digit (n / 256 % 16), Hex.digit (n / 16 % 16),
      Hex.digit (n % 16)] := by
  simp [unicodeEscape, List.range_succ]

theorem digit_octet : ∀ k, k < 16 → (Hex.digit k).toNat < 0x80 ∧
    isHexOctet (Hex.digit k).toNat.toUInt8 = true ∧
    Hex.value? (Char.ofNat (Hex.digit k).toNat.toUInt8.toNat) = some k := by decide

/-- The octets of a `\u` escape: a backslash, `u` and four hexadecimal digits. -/
theorem unicodeEscape_octets (n : Nat) : (unicodeEscape n).flatMap Utf8.encodeChar =
    92 :: 117 :: [(Hex.digit (n / 4096 % 16)).toNat.toUInt8, (Hex.digit (n / 256 % 16)).toNat.toUInt8,
      (Hex.digit (n / 16 % 16)).toNat.toUInt8, (Hex.digit (n % 16)).toNat.toUInt8] := by
  rw [unicodeEscape_eq]
  simp only [List.flatMap_cons, List.flatMap_nil,
    Utf8.encodeChar_ascii (digit_octet _ (Nat.mod_lt _ (by omega))).1]
  rfl

theorem hex4_digits {n : Nat} (h : n < 0x10000) :
    hex4 (Hex.digit (n / 4096 % 16)).toNat.toUInt8 (Hex.digit (n / 256 % 16)).toNat.toUInt8
      (Hex.digit (n / 16 % 16)).toNat.toUInt8 (Hex.digit (n % 16)).toNat.toUInt8 = n := by
  simp only [hex4, (digit_octet _ (Nat.mod_lt _ (show 16 > 0 by omega))).2.2, Option.getD_some]
  omega

/-- A character written as itself has octets that are neither controls, quotes nor
backslashes. -/
theorem encodeChar_plain {c : Char} (h : 0x20 ≤ c.toNat) (hq : c ≠ '"') (hb : c ≠ '\\') :
    ∀ b ∈ Utf8.encodeChar c, 32 ≤ b.toNat ∧ b.toNat ≠ 34 ∧ b.toNat ≠ 92 := by
  by_cases ha : c.toNat < 0x80
  · rw [Utf8.encodeChar_ascii ha]
    intro b hb'
    rw [List.mem_singleton] at hb'
    subst hb'
    rw [Utf8.toNat_ascii ha]
    refine ⟨h, fun e => hq ?_, fun e => hb ?_⟩ <;> rw [← Char.ofNat_toNat c, e]
  · -- every octet of a longer sequence has its high bit set
    suffices hhigh : ∀ b ∈ Utf8.encodeChar c, 0x80 ≤ b.toNat by
      intro b hb'
      have := hhigh b hb'
      omega
    have hv : c.toNat < 0x110000 := by
      have : c.toNat < 0xd800 ∨ (0xdfff < c.toNat ∧ c.toNat < 0x110000) := c.valid
      omega
    rw [Utf8.encodeChar_eq, if_neg ha]
    split_ifs <;> simp only [List.mem_cons, List.not_mem_nil, or_false] <;>
      rintro b (rfl | rfl | rfl | rfl) <;> rw [Utf8.toNat_toUInt8 (by omega)] <;> omega

theorem short_octets : ∀ p ∈ shortEscapes, p.1.toNat < 0x80 ∧
    p.1.toNat.toUInt8 ∈ ([34, 92, 98, 102, 110, 114, 116] : List UInt8) := by decide

theorem stringBody_octet {b : UInt8} (h : 32 ≤ b.toNat) (h34 : b.toNat ≠ 34) (h92 : b.toNat ≠ 92)
    (f : Nat) (acc rest : List UInt8) :
    stringBody (f + 1) acc (b :: rest) = stringBody f (b :: acc) rest := by
  have hlt : ¬ b < 32 := by rw [UInt8.lt_iff_toNat_lt]; simpa using h
  have hq : b ≠ 34 := fun e => h34 (by rw [e]; rfl)
  have hb : b ≠ 92 := fun e => h92 (by rw [e]; rfl)
  simp [stringBody, hlt]

theorem stringBody_plain (bs : List UInt8)
    (hbs : ∀ b ∈ bs, 32 ≤ b.toNat ∧ b.toNat ≠ 34 ∧ b.toNat ≠ 92)
    (f : Nat) (acc more : List UInt8) :
    stringBody (bs.length + f) acc (bs ++ more) = stringBody f (bs.reverse ++ acc) more := by
  induction bs generalizing acc with
  | nil => simp
  | cons b bs ih =>
    obtain ⟨h, h34, h92⟩ := hbs b List.mem_cons_self
    rw [List.length_cons, show bs.length + 1 + f = (bs.length + f) + 1 by omega, List.cons_append,
      stringBody_octet h h34 h92, ih (fun x hx => hbs x (List.mem_cons_of_mem _ hx))]
    simp

theorem stringBody_short {e : UInt8} (he : e ∈ ([34, 92, 98, 102, 110, 114, 116] : List UInt8))
    (f : Nat) (acc more : List UInt8) :
    stringBody (f + 1) acc (92 :: e :: more) = stringBody f (e :: 92 :: acc) more := by
  simp only [List.mem_cons, List.not_mem_nil, or_false] at he
  rcases he with rfl | rfl | rfl | rfl | rfl | rfl | rfl <;> simp [stringBody]

theorem stringBody_unicode {a b c d : UInt8} (ha : isHexOctet a = true) (hb : isHexOctet b = true)
    (hc : isHexOctet c = true) (hd : isHexOctet d = true) (f : Nat) (acc more : List UInt8) :
    stringBody (f + 1) acc (92 :: 117 :: a :: b :: c :: d :: more) =
      stringBody f (d :: c :: b :: a :: 117 :: 92 :: acc) more := by
  simp [stringBody, stringBody.hex, ha, hb, hc, hd]

/-- Scanning the string body over a character's octets takes at most one step an octet and
keeps the octets as they are. -/
theorem stringBody_escapeOctets (st : StringStyle) (c : Char) :
    ∃ k ≤ (escapeOctets st c).length, ∀ f acc more,
      stringBody (k + f) acc (escapeOctets st c ++ more) =
        stringBody f ((escapeOctets st c).reverse ++ acc) more := by
  rcases escapeChar_cases st c with ⟨he, h, hq, hb⟩ | ⟨e, he, hpair⟩ | ⟨he, hlt⟩
  · -- written as itself
    refine ⟨(escapeOctets st c).length, le_rfl, fun f acc more => ?_⟩
    apply stringBody_plain
    rw [escapeOctets, he, List.flatMap_singleton]
    exact encodeChar_plain h hq hb
  · -- a backslash and one letter
    have ⟨hasc, hmem⟩ := short_octets _ hpair
    have hoct : escapeOctets st c = [92, e.toNat.toUInt8] := by
      rw [escapeOctets, he, List.flatMap_cons, List.flatMap_singleton, Utf8.encodeChar_ascii hasc]
      rfl
    refine ⟨1, by simp [hoct], fun f acc more => ?_⟩
    rw [hoct, Nat.add_comm, List.cons_append, List.cons_append, List.nil_append,
      stringBody_short hmem]
    rfl
  · -- a `\u` escape
    have hoct := unicodeEscape_octets c.toNat
    rw [← he] at hoct
    refine ⟨1, by simp [escapeOctets, hoct], fun f acc more => ?_⟩
    rw [escapeOctets, hoct, Nat.add_comm]
    simp only [List.cons_append, List.nil_append]
    rw [stringBody_unicode (digit_octet _ (Nat.mod_lt _ (by omega))).2.1
      (digit_octet _ (Nat.mod_lt _ (by omega))).2.1 (digit_octet _ (Nat.mod_lt _ (by omega))).2.1
      (digit_octet _ (Nat.mod_lt _ (by omega))).2.1]
    rfl

theorem stringBody_escaped (st : StringStyle) (cs : List Char) :
    ∃ k ≤ (cs.flatMap (escapeOctets st)).length, ∀ f acc more,
      stringBody (k + f) acc (cs.flatMap (escapeOctets st) ++ more) =
        stringBody f ((cs.flatMap (escapeOctets st)).reverse ++ acc) more := by
  induction cs with
  | nil => exact ⟨0, le_rfl, fun f acc more => by simp⟩
  | cons c cs ih =>
    obtain ⟨k, hk, hrun⟩ := stringBody_escapeOctets st c
    obtain ⟨k', hk', hrun'⟩ := ih
    refine ⟨k + k', by simp only [List.flatMap_cons, List.length_append]; omega,
      fun f acc more => ?_⟩
    rw [List.flatMap_cons, List.append_assoc, Nat.add_assoc, hrun, hrun']
    simp

/-- **A string's body scans to its closing quote**, with the fuel the reader gives it. -/
theorem stringBody_quote (st : StringStyle) (cs : List Char) (more : List UInt8) :
    stringBody ((cs.flatMap (escapeOctets st) ++ 34 :: more).length + 1) []
        (cs.flatMap (escapeOctets st) ++ 34 :: more) =
      .ok (cs.flatMap (escapeOctets st), more) := by
  obtain ⟨k, hk, hrun⟩ := stringBody_escaped st cs
  have hlen : (cs.flatMap (escapeOctets st) ++ 34 :: more).length + 1 =
      k + ((cs.flatMap (escapeOctets st)).length - k + more.length + 1 + 1) := by
    simp only [List.length_append, List.length_cons]
    omega
  rw [hlen, hrun]
  simp [stringBody]

theorem unescape_of_decodeFront {b : UInt8} {rest : List UInt8} {c : Char} {k : Nat}
    (hb : b ≠ 92) (hd : Utf8.decodeFront (b :: rest) = some (c, k)) (f : Nat) :
    unescape (f + 1) (b :: rest) = c :: unescape f ((b :: rest).drop k) := by
  -- through the definition's own match: its equation lemmas are slow to generate
  rw [unescape.eq_def]
  split
  · contradiction
  · contradiction
  · next h => cases h; exact absurd rfl hb
  · next fuel _ _ _ hfuel hbs =>
    obtain ⟨rfl, rfl⟩ := List.cons.inj hbs
    obtain rfl : f = fuel := Nat.succ.inj hfuel
    rw [hd]

theorem unescape_unicode {n : Nat} (hn : n < 0xD800) (f : Nat) (more : List UInt8) :
    unescape (f + 1) (92 :: 117 :: (Hex.digit (n / 4096 % 16)).toNat.toUInt8 ::
      (Hex.digit (n / 256 % 16)).toNat.toUInt8 :: (Hex.digit (n / 16 % 16)).toNat.toUInt8 ::
      (Hex.digit (n % 16)).toNat.toUInt8 :: more) = Char.ofNat n :: unescape f more := by
  have hsur : isSurrogate n = false := by
    simp [isSurrogate]
    omega
  rw [unescape.eq_def]
  simp only [hsur, Bool.false_eq_true, if_false, hex4_digits (show n < 0x10000 by omega)]

theorem unescape_nil (f : Nat) : unescape f [] = [] := by
  cases f <;> rfl

/-- **Unescaping reads a character back from its octets.** -/
theorem unescape_escapeOctets (st : StringStyle) (c : Char) (f : Nat) (more : List UInt8) :
    unescape (f + 1) (escapeOctets st c ++ more) = c :: unescape f more := by
  rcases escapeChar_cases st c with ⟨he, h, hq, hb⟩ | ⟨e, he, hpair⟩ | ⟨he, hlt⟩
  · -- written as itself: the UTF-8 reader takes it back
    rw [escapeOctets, he, List.flatMap_singleton]
    obtain ⟨b, bs, hbs⟩ : ∃ b bs, Utf8.encodeChar c = b :: bs := by
      cases h' : Utf8.encodeChar c with
      | nil =>
        have hd := Utf8.decodeFront_encodeChar c []
        rw [h'] at hd
        cases hd
      | cons b bs => exact ⟨b, bs, rfl⟩
    have hb92 : b ≠ 92 := fun e =>
      (encodeChar_plain h hq hb b (hbs ▸ List.mem_cons_self)).2.2 (by rw [e]; rfl)
    have hd := Utf8.decodeFront_encodeChar c more
    rw [hbs, List.cons_append] at hd ⊢
    rw [unescape_of_decodeFront hb92 hd, ← List.cons_append, ← hbs, List.drop_left]
  · -- a backslash and one letter
    simp only [shortEscapes, List.mem_cons, Prod.mk.injEq, List.not_mem_nil, or_false] at hpair
    rcases hpair with ⟨rfl, rfl⟩ | ⟨rfl, rfl⟩ | ⟨rfl, rfl⟩ | ⟨rfl, rfl⟩ | ⟨rfl, rfl⟩ |
      ⟨rfl, rfl⟩ | ⟨rfl, rfl⟩ <;> rw [escapeOctets, he] <;> rfl
  · -- a `\u` escape of a code point below the surrogates
    rw [escapeOctets, he, unicodeEscape_octets]
    simp only [List.cons_append, List.nil_append]
    rw [unescape_unicode hlt, Char.ofNat_toNat]

theorem escapeOctets_ne_nil (st : StringStyle) (c : Char) : escapeOctets st c ≠ [] := by
  have hone := unescape_escapeOctets st c 0 []
  intro h
  rw [h] at hone
  cases hone

theorem unescape_escaped (st : StringStyle) (cs : List Char) (f : Nat) (more : List UInt8) :
    unescape (cs.length + f) (cs.flatMap (escapeOctets st) ++ more) = cs ++ unescape f more := by
  induction cs with
  | nil => simp
  | cons c cs ih =>
    rw [List.length_cons, show cs.length + 1 + f = (cs.length + f) + 1 by omega, List.flatMap_cons,
      List.append_assoc, unescape_escapeOctets, ih, List.cons_append]

/-- **Unescaping a string's body gives the string back.** -/
theorem unescape_body (st : StringStyle) (cs : List Char) :
    unescape ((cs.flatMap (escapeOctets st)).length + 1) (cs.flatMap (escapeOctets st)) = cs := by
  -- every character takes at least one octet, so the fuel covers one step a character
  have hlen : cs.length ≤ (cs.flatMap (escapeOctets st)).length := by
    induction cs with
    | nil => simp
    | cons c cs ih =>
      have := List.length_pos_iff.mpr (escapeOctets_ne_nil st c)
      simp only [List.flatMap_cons, List.length_append, List.length_cons]
      omega
  have hrun := unescape_escaped st cs ((cs.flatMap (escapeOctets st)).length + 1 - cs.length) []
  rw [List.append_nil, show cs.length + ((cs.flatMap (escapeOctets st)).length + 1 - cs.length) =
    (cs.flatMap (escapeOctets st)).length + 1 by omega] at hrun
  rw [hrun, unescape_nil, List.append_nil]

/-! ## §3 — whole numbers -/

/-- The octets of a natural number in decimal. -/
def digitOctets (m : Nat) : List UInt8 := (Nat.toDigits 10 m).map (fun c => c.toNat.toUInt8)

theorem digit_bounds {c : Char} {m : Nat} (h : c ∈ Nat.toDigits 10 m) :
    48 ≤ c.toNat ∧ c.toNat ≤ 57 := by
  have hd := Nat.isDigit_of_mem_toDigits (by decide) (by decide) h
  simp [Char.isDigit, UInt32.le_iff_toNat_le] at hd
  exact hd

theorem encode_repr (m : Nat) : Utf8.encode m.repr = digitOctets m := by
  rw [Utf8.encode, Nat.toList_repr, digitOctets,
    Utf8.flatMap_encodeChar_ascii fun c hc => by have := digit_bounds hc; omega]

theorem isDigitOctet_of_mem {b : UInt8} {m : Nat} (h : b ∈ digitOctets m) : isDigitOctet b = true := by
  obtain ⟨c, hc, rfl⟩ := List.mem_map.mp h
  have := digit_bounds hc
  simp [isDigitOctet, UInt8.le_iff_toNat_le, Nat.mod_eq_of_lt (show c.toNat < 256 by omega)]
  omega

/-- A positive number's first digit is not zero. -/
theorem toDigits_head {m : Nat} (hm : m ≠ 0) {d : Char} {ds : List Char}
    (h : Nat.toDigits 10 m = d :: ds) : d ≠ '0' := by
  induction m using Nat.strong_induction_on generalizing d ds with
  | _ m ih =>
    rw [Nat.toDigits_eq_if (by decide)] at h
    split at h
    · next hlt =>
      cases h
      -- the digits below ten: only zero is written `0`
      have : ∀ k, k < 10 → k ≠ 0 → Nat.digitChar k ≠ '0' := by decide
      exact this m hlt hm
    · next hge =>
      obtain ⟨e, es, he⟩ := List.exists_cons_of_ne_nil (Nat.toDigits_ne_nil (n := m / 10) (b := 10))
      rw [he, List.cons_append] at h
      cases h
      exact ih (m / 10) (by omega) (by omega) he

theorem digitOctets_cons (m : Nat) : ∃ b bs, digitOctets m = b :: bs ∧ isDigitOctet b = true ∧
    (b = 48 → bs = []) ∧ ∀ x ∈ bs, isDigitOctet x = true := by
  obtain ⟨d, ds, hds⟩ := List.exists_cons_of_ne_nil (Nat.toDigits_ne_nil (n := m) (b := 10))
  have hall : ∀ x ∈ digitOctets m, isDigitOctet x = true := fun x hx => isDigitOctet_of_mem hx
  rw [digitOctets, hds, List.map_cons] at hall ⊢
  refine ⟨_, _, rfl, hall _ List.mem_cons_self, fun h48 => ?_,
    fun x hx => hall x (List.mem_cons_of_mem _ hx)⟩
  -- a leading zero is written only for zero itself, whose digits are `0` alone
  by_cases hm : m = 0
  · subst hm
    simp [Nat.toDigits, Nat.toDigitsCore] at hds
    simp [hds.2]
  · have hd := digit_bounds (hds ▸ List.mem_cons_self : d ∈ Nat.toDigits 10 m)
    have hd0 : d.toNat ≠ 48 := fun e => toDigits_head hm hds (by rw [← Char.ofNat_toNat d, e])
    have h := congrArg UInt8.toNat h48
    rw [Utf8.toNat_toUInt8 (by omega)] at h
    exact absurd h hd0

/-- What may follow a value: the end of the text, a comma, a closing bracket or brace, or a
blank. -/
def Closes (rest : List UInt8) : Prop :=
  rest = [] ∨ ∃ b r, rest = b :: r ∧ (b ∈ ([44, 93, 125] : List UInt8) ∨ isBlankOctet b = true)

/-- What may follow a value continues no number: no digit, point or exponent mark. -/
theorem closes_head {rest : List UInt8} (hr : Closes rest) :
    rest = [] ∨ ∃ c r, rest = c :: r ∧ isDigitOctet c = false ∧ c ≠ 46 ∧
      (c = 101 || c = 69) = false := by
  rcases hr with rfl | ⟨c, r, rfl, hc⟩
  · exact .inl rfl
  · refine .inr ⟨c, r, rfl, ?_⟩
    simp only [List.mem_cons, List.not_mem_nil, or_false, isBlankOctet, Bool.or_eq_true,
      decide_eq_true_eq] at hc
    rcases hc with (rfl | rfl | rfl) | (((rfl | rfl) | rfl) | rfl) <;> decide

theorem numberText_of_digits {b : UInt8} {bs rest : List UInt8} (sign : List UInt8)
    (hs : sign = [] ∨ sign = [45]) (hb : isDigitOctet b = true) (hzero : b = 48 → bs = [])
    (hbs : ∀ x ∈ bs, isDigitOctet x = true) (hr : Closes rest) :
    numberText (sign ++ b :: bs ++ rest) = .ok (sign ++ b :: bs, rest) := by
  have h45 : b ≠ 45 := by rintro rfl; simp [isDigitOctet] at hb
  have hstop : rest.takeWhile isDigitOctet = [] ∧ rest.dropWhile isDigitOctet = rest := by
    rcases closes_head hr with rfl | ⟨c, r, rfl, hc, -⟩
    · simp
    · simp [hc]
  have hd : digitsAfter (bs ++ rest) = (bs, rest) := by
    simp [digitsAfter, List.takeWhile_append_of_pos hbs, List.dropWhile_append_of_pos hbs, hstop]
  have hnext : rest = [] ∨ ∃ c r, rest = c :: r ∧ c ≠ 46 ∧ (c = 101 || c = 69) = false := by
    rcases closes_head hr with rfl | ⟨c, r, rfl, -, hc⟩
    · exact .inl rfl
    · exact .inr ⟨c, r, rfl, hc⟩
  -- the first digit is a lone zero or starts a run of digits; after the run no fraction or
  -- exponent starts
  by_cases h48 : b = 48
  · subst h48
    obtain rfl := hzero rfl
    rcases hnext with rfl | ⟨c, r, rfl, hc, he⟩
    · rcases hs with rfl | rfl <;> simp [numberText, bind, Except.bind, pure, Except.pure]
    · rcases hs with rfl | rfl <;> simp [numberText, hc, he, bind, Except.bind, pure, Except.pure]
  · rcases hnext with rfl | ⟨c, r, rfl, hc, he⟩
    · rw [List.append_nil] at hd
      rcases hs with rfl | rfl <;>
        simp [numberText, h45, hb, hd, bind, Except.bind, pure, Except.pure]
    · rcases hs with rfl | rfl <;>
        simp [numberText, hc, he, h45, hb, hd, bind, Except.bind, pure, Except.pure]

/-- The octets of a whole number as it is printed: a minus sign for a negative one, then its
digits. -/
theorem encode_int (n : Int) : Utf8.encode (toString n) =
    if 0 ≤ n then digitOctets n.toNat else 45 :: digitOctets (-n).toNat := by
  rw [Int.toString_eq_repr, Int.repr_eq_if]
  split
  · exact encode_repr _
  · rw [Utf8.encode_append, encode_repr]
    rfl

/-- **A printed whole number reads back as its own text**, up to what follows it. -/
theorem numberText_int (n : Int) {rest : List UInt8} (hr : Closes rest) :
    numberText (Utf8.encode (toString n) ++ rest) = .ok (Utf8.encode (toString n), rest) := by
  rw [encode_int]
  split
  · obtain ⟨b, bs, hbs, hb, hzero, hall⟩ := digitOctets_cons n.toNat
    rw [hbs]
    exact numberText_of_digits [] (.inl rfl) hb hzero hall hr
  · obtain ⟨b, bs, hbs, hb, hzero, hall⟩ := digitOctets_cons (-n).toNat
    rw [hbs]
    exact numberText_of_digits [45] (.inr rfl) hb hzero hall hr

theorem ascii_of_int (n : Int) : ∀ c ∈ (toString n).toList, c.toNat < 0x80 := by
  rw [Int.toString_eq_repr, Int.repr_eq_if]
  split
  · intro c hc
    rw [Nat.toList_repr] at hc
    have := digit_bounds hc
    omega
  · intro c hc
    rw [String.toList_append, Nat.toList_repr] at hc
    rcases List.mem_append.mp hc with hc | hc
    · simp at hc
      subst hc
      decide
    · have := digit_bounds hc
      omega

/-- **A printed whole number's octets spell its text.** -/
theorem ofOctets_int (n : Int) :
    String.ofList ((Utf8.encode (toString n)).map (fun x => Char.ofNat x.toNat)) = toString n := by
  have hascii := ascii_of_int n
  rw [Utf8.encode, Utf8.flatMap_encodeChar_ascii hascii, List.map_map]
  conv_rhs => rw [← String.ofList_toList (s := toString n)]
  congr 1
  refine List.map_congr_left (fun c hc => ?_) |>.trans (List.map_id _)
  simp only [Function.comp_apply, Utf8.toNat_ascii (hascii c hc), Char.ofNat_toNat, id]

/-- A digit octet is no octet outside `0` to `9`. -/
theorem digit_octet_ne {b : UInt8} (hb : isDigitOctet b = true) (k : UInt8)
    (hk : k.toNat < 48 ∨ 57 < k.toNat) : b ≠ k := by
  have h : 48 ≤ b.toNat ∧ b.toNat ≤ 57 := by simpa [isDigitOctet, UInt8.le_iff_toNat_le] using hb
  rintro rfl
  omega

theorem digit_octet_head {b : UInt8} (hb : isDigitOctet b = true) :
    isBlankOctet b = false ∧ b ≠ 93 ∧ b ≠ 125 := by
  have hne := digit_octet_ne hb
  refine ⟨?_, hne 93 (by decide), hne 125 (by decide)⟩
  simp [isBlankOctet, hne 32 (by decide), hne 9 (by decide), hne 10 (by decide), hne 13 (by decide)]

theorem int_head (n : Int) : ∃ b bs, Utf8.encode (toString n) = b :: bs ∧
    isBlankOctet b = false ∧ b ≠ 123 ∧ b ≠ 91 ∧ b ≠ 34 ∧
      (b = 45 || isDigitOctet b) = true := by
  rw [encode_int]
  split
  · obtain ⟨b, bs, hbs, hb, -⟩ := digitOctets_cons n.toNat
    have hne := digit_octet_ne hb
    exact ⟨b, bs, hbs, (digit_octet_head hb).1, hne 123 (by decide), hne 91 (by decide),
      hne 34 (by decide), by simp [hb]⟩
  · exact ⟨45, _, rfl, by decide, by decide, by decide, by decide, by decide⟩

/-! ## §4 — values, with blanks laid between their tokens -/

/-- A value whose numbers are all whole numbers as they are printed. -/
inductive Whole : Json → Prop
  | null : Whole .null
  | bool (b : Bool) : Whole (.bool b)
  | int (n : Int) : Whole (.number (toString n))
  | string (s : String) : Whole (.string s)
  | array {xs : List Json} (h : ∀ x ∈ xs, Whole x) : Whole (.array xs)
  | object {ms : List (String × Json)} (h : ∀ m ∈ ms, Whole m.2) : Whole (.object ms)

theorem skipBlank_cons {b : UInt8} (h : isBlankOctet b = false) (bs : List UInt8) :
    skipBlank (b :: bs) = b :: bs := by
  simp [skipBlank, h]

/-- Whether every octet of a run is a blank. -/
def Blanks (w : List UInt8) : Prop := ∀ b ∈ w, isBlankOctet b = true

theorem skipBlank_append {w : List UInt8} (hw : Blanks w) (bs : List UInt8) :
    skipBlank (w ++ bs) = skipBlank bs := by
  simp [skipBlank, List.dropWhile_append_of_pos hw]

/-- Where a printer lays blanks between the tokens of a value, by nesting depth: before each
item or member standing at depth `d` (`lead d`), before the closing bracket of a container at
depth `d` (`close d`), and after each colon. The items of a container at depth `d` stand at
depth `d + 1`. -/
structure Layout where
  lead : Nat → List UInt8
  close : Nat → List UInt8
  colon : List UInt8

/-- A layout that lays nothing but blanks. -/
structure Layout.Blank (L : Layout) : Prop where
  lead : ∀ d, Blanks (L.lead d)
  close : ∀ d, Blanks (L.close d)
  colon : Blanks L.colon

mutual
/-- The octets of a value at depth `d`, with a layout's blanks between its tokens. -/
def spaced (L : Layout) (st : StringStyle) (d : Nat) : Json → List UInt8
  | .array [] => [91, 93]
  | .object [] => [123, 125]
  | .array xs => 91 :: (spacedItems L st (d + 1) xs ++ (L.close d ++ [93]))
  | .object ms => 123 :: (spacedMembers L st (d + 1) ms ++ (L.close d ++ [125]))
  | v => Utf8.encode (compact st v)
/-- Array items standing at depth `d`, separated by commas. -/
def spacedItems (L : Layout) (st : StringStyle) (d : Nat) : List Json → List UInt8
  | [] => []
  | [x] => L.lead d ++ spaced L st d x
  | x :: xs => L.lead d ++ (spaced L st d x ++ 44 :: spacedItems L st d xs)
/-- Object members standing at depth `d`, separated by commas. -/
def spacedMembers (L : Layout) (st : StringStyle) (d : Nat) : List (String × Json) → List UInt8
  | [] => []
  | [(k, v)] => L.lead d ++ (Utf8.encode (quote st k) ++ 58 :: (L.colon ++ spaced L st d v))
  | (k, v) :: ms => L.lead d ++ (Utf8.encode (quote st k) ++
      58 :: (L.colon ++ (spaced L st d v ++ 44 :: spacedMembers L st d ms)))
end

/-- No blanks at all: the layout of `compact`. -/
def Layout.compact : Layout := ⟨fun _ => [], fun _ => [], []⟩

/-- The indent of a line at depth `d`: `d` copies of `unit`. -/
def indentAt (unit : String) : Nat → String
  | 0 => ""
  | d + 1 => indentAt unit d ++ unit

/-- The layout of `indented`: a line break and the indent of its depth before each item or
member and before each closing bracket, and a space after each colon. -/
def Layout.indented (unit : String) : Layout :=
  ⟨fun d => Utf8.encode ("\n" ++ indentAt unit d), fun d => Utf8.encode ("\n" ++ indentAt unit d),
    [32]⟩

theorem octets_null (st : StringStyle) :
    Utf8.encode (compact st .null) = [110, 117, 108, 108] := by
  rw [compact]
  decide

theorem octets_true (st : StringStyle) : Utf8.encode (compact st (.bool true)) = [116, 114, 117, 101] := by
  rw [compact]
  decide

theorem octets_false (st : StringStyle) :
    Utf8.encode (compact st (.bool false)) = [102, 97, 108, 115, 101] := by
  rw [compact]
  decide

theorem octets_object (st : StringStyle) (ms : List (String × Json)) :
    Utf8.encode (compact st (.object ms)) = 123 :: (Utf8.encode (compactMembers st ms) ++ [125]) := by
  simp [compact, Utf8.encode_append]
  rfl

/-! ### The two printers lay out blanks -/

theorem compactItems_spaced (st : StringStyle) (d : Nat) {xs : List Json}
    (ih : ∀ x ∈ xs, ∀ d, Utf8.encode (compact st x) = spaced Layout.compact st d x) :
    Utf8.encode (compactItems st xs) = spacedItems Layout.compact st d xs := by
  induction xs with
  | nil => rfl
  | cons x xs ihxs =>
    have hx := ih x List.mem_cons_self d
    cases xs with
    | nil => simpa [compactItems, spacedItems, Layout.compact] using hx
    | cons y ys =>
      have hys := ihxs fun z hz => ih z (List.mem_cons_of_mem _ hz)
      have hcomma : Utf8.encode "," = [44] := by decide
      simp only [compactItems, spacedItems, Layout.compact, Utf8.encode_append, hx, hys, hcomma,
        List.nil_append, List.append_assoc, List.singleton_append]

theorem compactMembers_spaced (st : StringStyle) (d : Nat) {ms : List (String × Json)}
    (ih : ∀ m ∈ ms, ∀ d, Utf8.encode (compact st m.2) = spaced Layout.compact st d m.2) :
    Utf8.encode (compactMembers st ms) = spacedMembers Layout.compact st d ms := by
  induction ms with
  | nil => rfl
  | cons m ms ihms =>
    obtain ⟨k, v⟩ := m
    have hv := ih (k, v) List.mem_cons_self d
    cases ms with
    | nil =>
      simp only [compactMembers, spacedMembers, Layout.compact, Utf8.encode_append, hv,
        List.nil_append, List.append_assoc]
      rfl
    | cons m' ms' =>
      have hms := ihms fun z hz => ih z (List.mem_cons_of_mem _ hz)
      simp only [compactMembers, spacedMembers, Layout.compact, Utf8.encode_append, hv, hms,
        List.nil_append, List.append_assoc]
      rfl

/-- **The compact printer lays no blanks.** -/
theorem compact_spaced (st : StringStyle) {v : Json} (hv : Whole v) (d : Nat) :
    Utf8.encode (compact st v) = spaced Layout.compact st d v := by
  induction hv generalizing d with
  | null | bool | int | string => rfl
  | @array xs _ ih =>
    cases xs with
    | nil =>
      simp only [compact, compactItems, spaced]
      decide
    | cons x xs =>
      simp only [compact, Utf8.encode_append, compactItems_spaced st (d + 1) ih]
      rfl
  | @object ms _ ih =>
    cases ms with
    | nil =>
      simp only [compact, compactMembers, spaced]
      decide
    | cons m ms =>
      simp only [compact, Utf8.encode_append, compactMembers_spaced st (d + 1) ih]
      rfl

theorem indented_lead (unit : String) (d : Nat) :
    (Layout.indented unit).lead d = 10 :: Utf8.encode (indentAt unit d) := by
  simp only [Layout.indented, Utf8.encode_append]
  rfl

theorem indented_close (unit : String) (d : Nat) :
    (Layout.indented unit).close d = 10 :: Utf8.encode (indentAt unit d) :=
  indented_lead unit d

theorem indented_colon (unit : String) : (Layout.indented unit).colon = [32] := rfl

theorem indentedItems_spaced (st : StringStyle) (unit : String) (d : Nat) (x : Json)
    {xs : List Json} (ih : ∀ y ∈ x :: xs, ∀ d, Utf8.encode (indented st unit (indentAt unit d) y) =
      spaced (Layout.indented unit) st d y) :
    10 :: Utf8.encode (indentedItems st unit (indentAt unit d) (x :: xs)) =
      spacedItems (Layout.indented unit) st d (x :: xs) := by
  induction xs generalizing x with
  | nil =>
    simp only [indentedItems, spacedItems, indented_lead, Utf8.encode_append,
      ih x List.mem_cons_self d, List.cons_append]
  | cons y ys ihys =>
    have hys := ihys y fun z hz => ih z (List.mem_cons_of_mem _ hz)
    have hbreak : Utf8.encode ",\n" = [44, 10] := by decide
    simp only [indentedItems, spacedItems, indented_lead, Utf8.encode_append,
      ih x List.mem_cons_self d, hbreak, ← hys, List.cons_append, List.append_assoc,
      List.nil_append]

theorem indentedMembers_spaced (st : StringStyle) (unit : String) (d : Nat) (m : String × Json)
    {ms : List (String × Json)} (ih : ∀ n ∈ m :: ms, ∀ d,
      Utf8.encode (indented st unit (indentAt unit d) n.2) = spaced (Layout.indented unit) st d n.2) :
    10 :: Utf8.encode (indentedMembers st unit (indentAt unit d) (m :: ms)) =
      spacedMembers (Layout.indented unit) st d (m :: ms) := by
  have hcolon : Utf8.encode ": " = [58, 32] := by decide
  induction ms generalizing m with
  | nil =>
    obtain ⟨k, v⟩ := m
    simp only [indentedMembers, spacedMembers, indented_lead, indented_colon, Utf8.encode_append,
      hcolon, ih (k, v) List.mem_cons_self d, List.cons_append, List.append_assoc, List.nil_append]
  | cons n ns ihns =>
    obtain ⟨k, v⟩ := m
    have hns := ihns n fun z hz => ih z (List.mem_cons_of_mem _ hz)
    have hbreak : Utf8.encode ",\n" = [44, 10] := by decide
    simp only [indentedMembers, spacedMembers, indented_lead, indented_colon, Utf8.encode_append,
      hcolon, hbreak, ih (k, v) List.mem_cons_self d, ← hns, List.cons_append, List.append_assoc,
      List.nil_append]

/-- **The indented printer lays a line break and an indent before each item, member and closing
bracket, and a space after each colon.** -/
theorem indented_spaced (st : StringStyle) (unit : String) {v : Json} (hv : Whole v) (d : Nat) :
    Utf8.encode (indented st unit (indentAt unit d) v) = spaced (Layout.indented unit) st d v := by
  induction hv generalizing d with
  | null | bool | int | string => rfl
  | @array xs _ ih =>
    cases xs with
    | nil =>
      simp only [indented, spaced]
      decide
    | cons x xs =>
      have hopen : Utf8.encode "[\n" = [91, 10] := by decide
      have hitems := indentedItems_spaced st unit (d + 1) x ih
      simp only [indented, spaced, Utf8.encode_append, hopen, indented_close] at hitems ⊢
      rw [← hitems]
      simp only [indentAt, List.cons_append, List.append_assoc, List.nil_append]
      rfl
  | @object ms _ ih =>
    cases ms with
    | nil =>
      simp only [indented, spaced]
      decide
    | cons m ms =>
      have hopen : Utf8.encode "\x7b\n" = [123, 10] := by decide
      have hmembers := indentedMembers_spaced st unit (d + 1) m ih
      simp only [indented, spaced, Utf8.encode_append, hopen, indented_close] at hmembers ⊢
      rw [← hmembers]
      simp only [indentAt, List.cons_append, List.append_assoc, List.nil_append]
      rfl

/-! ### Laid-out values read back -/

theorem blanks_nil : Blanks [] := fun _ h => absurd h List.not_mem_nil

theorem Blanks.append {w w' : List UInt8} (h : Blanks w) (h' : Blanks w') : Blanks (w ++ w') := by
  intro b hb
  rcases List.mem_append.mp hb with hb | hb
  exacts [h b hb, h' b hb]

theorem blanks_singleton {b : UInt8} (h : isBlankOctet b = true) : Blanks [b] := by
  intro c hc
  rw [List.mem_singleton] at hc
  exact hc ▸ h

theorem Layout.compact_blank : Layout.compact.Blank :=
  ⟨fun _ => blanks_nil, fun _ => blanks_nil, blanks_nil⟩

/-- An indent made of blanks lays only blanks. -/
theorem Layout.indented_blank {unit : String} (hu : Blanks (Utf8.encode unit)) :
    (Layout.indented unit).Blank := by
  have hpad : ∀ d, Blanks (Utf8.encode (indentAt unit d)) := by
    intro d
    induction d with
    | zero => exact blanks_nil
    | succ d ih => rw [indentAt, Utf8.encode_append]; exact ih.append hu
  have hline : ∀ d, Blanks (10 :: Utf8.encode (indentAt unit d)) :=
    fun d => (blanks_singleton (by decide)).append (hpad d)
  exact ⟨fun d => indented_lead unit d ▸ hline d, fun d => indented_close unit d ▸ hline d,
    blanks_singleton (by decide)⟩

theorem closes_blanks {w : List UInt8} (hw : Blanks w) {b : UInt8}
    (hb : b ∈ ([44, 93, 125] : List UInt8)) (r : List UInt8) : Closes (w ++ b :: r) := by
  cases w with
  | nil => exact .inr ⟨b, r, rfl, .inl hb⟩
  | cons c w => exact .inr ⟨c, _, rfl, .inr (hw c List.mem_cons_self)⟩

/-- Blanks before a value are skipped. -/
theorem value_blanks {w : List UInt8} (hw : Blanks w) (fuel : Nat) (bs : List UInt8) :
    value fuel (w ++ bs) = value fuel bs := by
  cases fuel with
  | zero => simp only [value]
  | succ f => simp only [value, skipBlank_append hw]

/-- Blanks before a member are skipped. -/
theorem members_blanks {w : List UInt8} (hw : Blanks w) (fuel : Nat) (acc : List (String × Json))
    (bs : List UInt8) : members fuel acc (w ++ bs) = members fuel acc bs := by
  cases fuel with
  | zero => simp only [members]
  | succ f => simp only [members, skipBlank_append hw]

theorem value_null (st : StringStyle) (f : Nat) (rest : List UInt8) :
    value (f + 1) (Utf8.encode (compact st .null) ++ rest) = .ok (.null, rest) := by
  rw [octets_null]
  simp [value, skipBlank, isBlankOctet, literalTail, isDigitOctet, Except.map]

theorem value_bool (st : StringStyle) (b : Bool) (f : Nat) (rest : List UInt8) :
    value (f + 1) (Utf8.encode (compact st (.bool b)) ++ rest) = .ok (.bool b, rest) := by
  cases b
  · rw [octets_false]
    simp [value, skipBlank, isBlankOctet, literalTail, isDigitOctet, Except.map]
  · rw [octets_true]
    simp [value, skipBlank, isBlankOctet, literalTail, isDigitOctet, Except.map]

theorem value_int (st : StringStyle) (n : Int) (f : Nat) {rest : List UInt8} (hr : Closes rest) :
    value (f + 1) (Utf8.encode (compact st (.number (toString n))) ++ rest) =
      .ok (.number (toString n), rest) := by
  have hread := numberText_int n hr
  have htext := ofOctets_int n
  rw [compact]
  obtain ⟨b, bs, hbs, hblank, h123, h91, h34, hnum⟩ := int_head n
  rw [hbs, List.cons_append] at hread ⊢
  rw [hbs] at htext
  simpa [value, skipBlank_cons hblank, h123, h91, h34, hnum, hread] using htext

theorem value_string (st : StringStyle) (s : String) (f : Nat) (rest : List UInt8) :
    value (f + 1) (Utf8.encode (compact st (.string s)) ++ rest) = .ok (.string s, rest) := by
  have hbody := stringBody_quote st s.toList rest
  have htext := unescape_body st s.toList
  rw [compact, encode_quote, List.cons_append, List.append_assoc, List.singleton_append]
  simp only [value, skipBlank_cons (show isBlankOctet 34 = false by decide)]
  simp only [show (34 : UInt8) ≠ 123 by decide, show (34 : UInt8) ≠ 91 by decide, if_false, if_true,
    hbody, htext, String.ofList_toList]

section Reading

variable (L : Layout) (st : StringStyle)

/-- A laid-out value starts with an octet that is no blank and closes nothing. -/
theorem spaced_head (d : Nat) {v : Json} (hv : Whole v) :
    ∃ b bs, spaced L st d v = b :: bs ∧ isBlankOctet b = false ∧ b ≠ 93 ∧ b ≠ 125 := by
  cases hv with
  | null => exact ⟨110, _, octets_null st, by decide, by decide, by decide⟩
  | bool b =>
    cases b
    · exact ⟨102, _, octets_false st, by decide, by decide, by decide⟩
    · exact ⟨116, _, octets_true st, by decide, by decide, by decide⟩
  | int n =>
    show ∃ b bs, Utf8.encode (compact st (.number (toString n))) = b :: bs ∧ _
    rw [compact, encode_int]
    split
    · obtain ⟨b, bs, hbs, hb, -⟩ := digitOctets_cons n.toNat
      exact ⟨b, bs, hbs, digit_octet_head hb⟩
    · exact ⟨45, _, rfl, by decide, by decide, by decide⟩
  | string s =>
    exact ⟨34, _, show Utf8.encode (compact st (.string s)) = _ by rw [compact, encode_quote],
      by decide, by decide, by decide⟩
  | @array xs h =>
    cases xs with
    | nil => exact ⟨91, _, rfl, by decide, by decide, by decide⟩
    | cons x xs => exact ⟨91, _, rfl, by decide, by decide, by decide⟩
  | @object ms h =>
    cases ms with
    | nil => exact ⟨123, _, rfl, by decide, by decide, by decide⟩
    | cons m ms => exact ⟨123, _, rfl, by decide, by decide, by decide⟩

/-- A run of items starts with the first item's lead and octets. -/
theorem spacedItems_head (d : Nat) (x : Json) (xs : List Json) :
    ∃ t, spacedItems L st d (x :: xs) = L.lead d ++ (spaced L st d x ++ t) := by
  cases xs with
  | nil => exact ⟨[], by simp [spacedItems]⟩
  | cons y ys => exact ⟨_, rfl⟩

/-- A run of members starts with the first member's lead and the quote of its key. -/
theorem spacedMembers_head (d : Nat) (m : String × Json) (ms : List (String × Json)) :
    ∃ t, spacedMembers L st d (m :: ms) = L.lead d ++ 34 :: t := by
  obtain ⟨k, v⟩ := m
  cases ms with
  | nil => exact ⟨_, by simp only [spacedMembers, encode_quote, List.cons_append]; rfl⟩
  | cons n ns => exact ⟨_, by simp only [spacedMembers, encode_quote, List.cons_append]; rfl⟩

/-- Reading with `fuel` takes back every laid-out value whose octets the fuel covers. -/
def ValueReads (fuel : Nat) : Prop :=
  ∀ (d : Nat) (v : Json) (rest : List UInt8), Whole v → (spaced L st d v).length ≤ fuel →
    Closes rest → value fuel (spaced L st d v ++ rest) = .ok (v, rest)

/-- Reading items with `fuel` takes back every laid-out run of items the fuel covers, up to the
blanks and the bracket that close it. -/
def ItemsRead (fuel : Nat) : Prop :=
  ∀ (d : Nat) (xs acc : List Json) (w rest : List UInt8), xs ≠ [] → (∀ x ∈ xs, Whole x) →
    Blanks w → (spacedItems L st d xs).length + 1 ≤ fuel →
    items fuel acc (spacedItems L st d xs ++ (w ++ 93 :: rest)) =
      .ok (.array (acc.reverse ++ xs), rest)

/-- Reading members with `fuel` takes back every laid-out run of members the fuel covers, up to
the blanks and the brace that close it. -/
def MembersRead (fuel : Nat) : Prop :=
  ∀ (d : Nat) (ms acc : List (String × Json)) (w rest : List UInt8), ms ≠ [] →
    (∀ m ∈ ms, Whole m.2) → Blanks w → (spacedMembers L st d ms).length + 1 ≤ fuel →
    members fuel acc (spacedMembers L st d ms ++ (w ++ 125 :: rest)) =
      .ok (.object (acc.reverse ++ ms), rest)

variable {L}

/-- One more step of fuel reads every value whose items and members the fuel before read. -/
theorem valueReads_succ (hL : L.Blank) {f : Nat} (hi : ItemsRead L st f)
    (hm : MembersRead L st f) : ValueReads L st (f + 1) := by
  intro d v rest hv hf hr
  cases hv with
  | null => exact value_null st f rest
  | bool b => exact value_bool st b f rest
  | int n => exact value_int st n f hr
  | string s => exact value_string st s f rest
  | @array xs hxs =>
    cases xs with
    | nil =>
      simp [spaced, value, arrayRest, skipBlank, isBlankOctet]
    | cons x xs =>
      -- after the first item's lead comes no blank and no closing bracket, so items are read
      obtain ⟨b, bs, hbs, hblank, h93, -⟩ := spaced_head L st (d + 1) (hxs x List.mem_cons_self)
      obtain ⟨t, ht⟩ := spacedItems_head L st (d + 1) x xs
      have hlen : (spacedItems L st (d + 1) (x :: xs)).length + 1 ≤ f := by
        simp only [spaced, List.length_cons, List.length_append] at hf
        omega
      have hread := hi (d + 1) (x :: xs) [] (L.close d) rest (List.cons_ne_nil _ _) hxs
        (hL.close d) hlen
      rw [ht, hbs] at hread
      simp only [spaced, ht, hbs, List.cons_append, List.append_assoc] at hread ⊢
      simp [value, arrayRest, skipBlank_cons (b := 91) (by decide),
        skipBlank_append (hL.lead (d + 1)), skipBlank_cons hblank, h93, hread]
  | @object ms hms =>
    cases ms with
    | nil =>
      simp [spaced, value, objectRest, skipBlank, isBlankOctet]
    | cons m ms =>
      -- after the first member's lead comes the quote of its key
      obtain ⟨t, ht⟩ := spacedMembers_head L st (d + 1) m ms
      have hlen : (spacedMembers L st (d + 1) (m :: ms)).length + 1 ≤ f := by
        simp only [spaced, List.length_cons, List.length_append] at hf
        omega
      have hread := hm (d + 1) (m :: ms) [] (L.close d) rest (List.cons_ne_nil _ _) hms
        (hL.close d) hlen
      rw [ht] at hread
      simp only [spaced, ht, List.cons_append, List.append_assoc] at hread ⊢
      simp [value, objectRest, skipBlank_cons (b := 123) (by decide),
        skipBlank_append (hL.lead (d + 1)), skipBlank_cons (b := 34) (by decide), hread]

/-- One more step of fuel reads every run of items whose values the fuel before read. -/
theorem itemsRead_succ (hL : L.Blank) {f : Nat} (hv : ValueReads L st f) (hi : ItemsRead L st f) :
    ItemsRead L st (f + 1) := by
  intro d xs acc w rest hne hw hwb hf
  obtain _ | ⟨x, _ | ⟨y, ys⟩⟩ := xs
  · exact absurd rfl hne
  · -- the last item is followed by blanks and the closing bracket
    have hlen : (spaced L st d x).length ≤ f := by
      simp only [spacedItems, List.length_append] at hf
      omega
    have hx := hv d x (w ++ 93 :: rest) (hw x List.mem_cons_self) hlen
      (closes_blanks hwb (by decide) rest)
    simp only [spacedItems, List.append_assoc]
    simp [items, value_blanks (hL.lead d), hx, skipBlank_append hwb,
      skipBlank_cons (b := 93) (by decide)]
  · -- an item followed by a comma, then the rest of the run
    have hlen : (spaced L st d x).length + (spacedItems L st d (y :: ys)).length + 1 ≤ f := by
      simp only [spacedItems, List.length_append, List.length_cons] at hf ⊢
      omega
    have hx := hv d x (44 :: (spacedItems L st d (y :: ys) ++ (w ++ 93 :: rest)))
      (hw x List.mem_cons_self) (by omega) (.inr ⟨44, _, rfl, .inl (by decide)⟩)
    have hys := hi d (y :: ys) (x :: acc) w rest (List.cons_ne_nil _ _)
      (fun z hz => hw z (List.mem_cons_of_mem _ hz)) hwb (by omega)
    have hsplit : spacedItems L st d (x :: y :: ys) =
        L.lead d ++ (spaced L st d x ++ 44 :: spacedItems L st d (y :: ys)) := rfl
    rw [hsplit]
    simp only [List.append_assoc, List.cons_append]
    simp [items, value_blanks (hL.lead d), hx, skipBlank_cons (b := 44) (by decide), hys]

/-- One more step of fuel reads every run of members whose values the fuel before read. -/
theorem membersRead_succ (hL : L.Blank) {f : Nat} (hv : ValueReads L st f)
    (hm : MembersRead L st f) : MembersRead L st (f + 1) := by
  intro d ms acc w rest hne hw hwb hf
  obtain _ | ⟨⟨k, v⟩, _ | ⟨m, ms⟩⟩ := ms
  · exact absurd rfl hne
  · -- the last member is followed by blanks and the closing brace
    have hlen : (spaced L st d v).length ≤ f := by
      simp only [spacedMembers, List.length_append, List.length_cons] at hf
      omega
    have hval := hv d v (w ++ 125 :: rest) (hw (k, v) List.mem_cons_self) hlen
      (closes_blanks hwb (by decide) rest)
    have hkey := stringBody_quote st k.toList
      (58 :: (L.colon ++ (spaced L st d v ++ (w ++ 125 :: rest))))
    simp only [spacedMembers, encode_quote, List.cons_append, List.append_assoc,
      List.nil_append] at hkey ⊢
    rw [members_blanks (hL.lead d)]
    simp only [members, skipBlank_cons (b := 34) (by decide)]
    rw [hkey]
    simp only [unescape_body, String.ofList_toList]
    simp [skipBlank_cons (b := 58) (by decide), value_blanks hL.colon, hval,
      skipBlank_append hwb, skipBlank_cons (b := 125) (by decide)]
  · -- a member followed by a comma, then the rest of the run
    have hlen : (spaced L st d v).length + (spacedMembers L st d (m :: ms)).length + 1 ≤ f := by
      simp only [spacedMembers, List.length_append, List.length_cons] at hf ⊢
      omega
    have hval := hv d v (44 :: (spacedMembers L st d (m :: ms) ++ (w ++ 125 :: rest)))
      (hw (k, v) List.mem_cons_self) (by omega) (.inr ⟨44, _, rfl, .inl (by decide)⟩)
    have hms := hm d (m :: ms) ((k, v) :: acc) w rest (List.cons_ne_nil _ _)
      (fun z hz => hw z (List.mem_cons_of_mem _ hz)) hwb (by omega)
    have hkey := stringBody_quote st k.toList (58 :: (L.colon ++ (spaced L st d v ++
      44 :: (spacedMembers L st d (m :: ms) ++ (w ++ 125 :: rest)))))
    have hsplit : spacedMembers L st d ((k, v) :: m :: ms) = L.lead d ++
        (Utf8.encode (quote st k) ++ 58 :: (L.colon ++ (spaced L st d v ++
          44 :: spacedMembers L st d (m :: ms)))) := rfl
    rw [hsplit]
    simp only [encode_quote, List.cons_append, List.append_assoc, List.nil_append] at hkey ⊢
    rw [members_blanks (hL.lead d)]
    simp only [members, skipBlank_cons (b := 34) (by decide)]
    rw [hkey]
    simp only [unescape_body, String.ofList_toList]
    simp [skipBlank_cons (b := 58) (by decide), value_blanks hL.colon, hval,
      skipBlank_cons (b := 44) (by decide), hms]

/-- **Reading covers every laid-out value**, whatever the fuel above its octet count. -/
theorem printed_reads (hL : L.Blank) :
    ∀ f, ValueReads L st f ∧ ItemsRead L st f ∧ MembersRead L st f
  | 0 => by
    -- no laid-out value, run of items or run of members is empty
    refine ⟨fun d v rest hv hf _ => ?_, fun _ _ _ _ _ _ _ _ hf => ?_,
      fun _ _ _ _ _ _ _ _ hf => ?_⟩
    · obtain ⟨b, bs, hbs, -⟩ := spaced_head L st d hv
      rw [hbs] at hf
      simp at hf
    · omega
    · omega
  | f + 1 =>
    have ⟨hv, hi, hm⟩ := printed_reads hL f
    ⟨valueReads_succ st hL hi hm, itemsRead_succ st hL hv hi, membersRead_succ st hL hv hm⟩

/-- **The first value of a laid-out text is the value laid out**, with nothing after it. -/
theorem scanFirst_spaced (hL : L.Blank) {v : Json} (hv : Whole v) (d : Nat) :
    scanFirst (spaced L st d v) = .ok (v, []) := by
  obtain ⟨b, bs, hbs, hblank, -⟩ := spaced_head L st d hv
  have hread := (printed_reads st hL (2 * (spaced L st d v).length + 2)).1 d v [] hv
    (by omega) (.inl rfl)
  rw [List.append_nil] at hread
  rw [scanFirst, hread, hbs, skipBlank_cons hblank]
  rfl

end Reading

/-- **A compact document parses back to the value printed.** -/
theorem parseDocument_compact (st : StringStyle) {v : Json} (hv : Whole v) :
    parseDocument (Utf8.encode (compact st v)) = .ok v := by
  rw [compact_spaced st hv 0, parseDocument, scanFirst_spaced st Layout.compact_blank hv 0]
  rfl

/-- **An indented document's first value is the value printed**, with nothing after it, for an
indent made of blanks. -/
theorem scanFirst_indented (st : StringStyle) {unit : String} (hu : Blanks (Utf8.encode unit))
    {v : Json} (hv : Whole v) :
    scanFirst (Utf8.encode (indented st unit "" v)) = .ok (v, []) := by
  rw [show "" = indentAt unit 0 from rfl, indented_spaced st unit hv 0]
  exact scanFirst_spaced st (Layout.indented_blank hu) hv 0

end ConfigTables.Json
