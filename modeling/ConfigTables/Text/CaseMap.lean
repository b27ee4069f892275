/-!
# Simple case mappings and case folding

The one-to-one lower- and upper-case mappings of the Unicode Character Database (version 15.0),
kept as runs: a run either shifts every character by a fixed amount, or moves every second
character, starting at the run's first, by a fixed amount and leaves those between alone.
Characters outside every run are their own lower and upper case.

Two texts are equal ignoring case when their characters, one by one, fall in the same class of
the simple case folding. `fold` maps each character to one representative of its class: the
lower case, except for the small letters listed in `variants` that share a class with another
small letter, and capital I with dot above, whose class holds only itself.

Member names of JSON objects are matched by a coarser key, `nameKey`: ASCII letters are taken
in upper case and every other character as the upper case of its lower case.
-/

namespace ConfigTables.Text.CaseMap

/-- How a run of code points maps. -/
inductive Step where
  /-- Every character of the run moves by the same signed amount. -/
  | shift (delta : Int)
  /-- The characters at an even offset from the start of the run move by the amount; those at
  an odd offset stay. -/
  | alternate (delta : Int)
  deriving Repr, DecidableEq

/-- A run of code points `lo..hi`, both ends included, and how it maps. -/
structure Run where
  lo : Nat
  hi : Nat
  step : Step
  deriving Repr

/-- The image of a code point under one run that holds it. -/
def Run.apply (r : Run) (n : Nat) : Nat :=
  match r.step with
  | .shift d => (n + d).toNat
  | .alternate d => if (n - r.lo) % 2 = 0 then (n + d).toNat else n

/-- The image of a code point under a list of runs: the first run holding it decides, and a
code point in no run is its own image. -/
def mapCode (rs : List Run) (n : Nat) : Nat :=
  match rs.find? (fun r => r.lo ≤ n && n ≤ r.hi) with
  | some r => r.apply n
  | none => n

/-- The runs of the simple lower-case mapping above ASCII, in ascending order. -/
def lowerRuns : List Run := [
  ⟨0xC0, 0xD6, .shift 32⟩, ⟨0xD8, 0xDE, .shift 32⟩, ⟨0x100, 0x12E, .alternate 1⟩,
  ⟨0x130, 0x130, .shift (-199)⟩, ⟨0x132, 0x136, .alternate 1⟩, ⟨0x139, 0x147, .alternate 1⟩,
  ⟨0x14A, 0x176, .alternate 1⟩, ⟨0x178, 0x178, .shift (-121)⟩, ⟨0x179, 0x17D, .alternate 1⟩,
  ⟨0x181, 0x181, .shift 210⟩, ⟨0x182, 0x184, .alternate 1⟩, ⟨0x186, 0x186, .shift 206⟩,
  ⟨0x187, 0x187, .shift 1⟩, ⟨0x189, 0x18A, .shift 205⟩, ⟨0x18B, 0x18B, .shift 1⟩,
  ⟨0x18E, 0x18E, .shift 79⟩, ⟨0x18F, 0x18F, .shift 202⟩, ⟨0x190, 0x190, .shift 203⟩,
  ⟨0x191, 0x191, .shift 1⟩, ⟨0x193, 0x193, .shift 205⟩, ⟨0x194, 0x194, .shift 207⟩,
  ⟨0x196, 0x196, .shift 211⟩, ⟨0x197, 0x197, .shift 209⟩, ⟨0x198, 0x198, .shift 1⟩,
  ⟨0x19C, 0x19C, .shift 211⟩, ⟨0x19D, 0x19D, .shift 213⟩, ⟨0x19F, 0x19F, .shift 214⟩,
  ⟨0x1A0, 0x1A4, .alternate 1⟩, ⟨0x1A6, 0x1A6, .shift 218⟩, ⟨0x1A7, 0x1A7, .shift 1⟩,
  ⟨0x1A9, 0x1A9, .shift 218⟩, ⟨0x1AC, 0x1AC, .shift 1⟩, ⟨0x1AE, 0x1AE, .shift 218⟩,
  ⟨0x1AF, 0x1AF, .shift 1⟩, ⟨0x1B1, 0x1B2, .shift 217⟩, ⟨0x1B3, 0x1B5, .alternate 1⟩,
  ⟨0x1B7, 0x1B7, .shift 219⟩, ⟨0x1B8, 0x1B8, .shift 1⟩, ⟨0x1BC, 0x1BC, .shift 1⟩,
  ⟨0x1C4, 0x1C4, .shift 2⟩, ⟨0x1C5, 0x1C5, .shift 1⟩, ⟨0x1C7, 0x1C7, .shift 2⟩,
  ⟨0x1C8, 0x1C8, .shift 1⟩, ⟨0x1CA, 0x1CA, .shift 2⟩, ⟨0x1CB, 0x1DB, .alternate 1⟩,
  ⟨0x1DE, 0x1EE, .alternate 1⟩, ⟨0x1F1, 0x1F1, .shift 2⟩, ⟨0x1F2, 0x1F4, .alternate 1⟩,
  ⟨0x1F6, 0x1F6, .shift (-97)⟩, ⟨0x1F7, 0x1F7, .shift (-56)⟩, ⟨0x1F8, 0x21E, .alternate 1⟩,
  ⟨0x220, 0x220, .shift (-130)⟩, ⟨0x222, 0x232, .alternate 1⟩, ⟨0x23A, 0x23A, .shift 10795⟩,
  ⟨0x23B, 0x23B, .shift 1⟩, ⟨0x23D, 0x23D, .shift (-163)⟩, ⟨0x23E, 0x23E, .shift 10792⟩,
  ⟨0x241, 0x241, .shift 1⟩, ⟨0x243, 0x243, .shift (-195)⟩, ⟨0x244, 0x244, .shift 69⟩,
  ⟨0x245, 0x245, .shift 71⟩, ⟨0x246, 0x24E, .alternate 1⟩, ⟨0x370, 0x372, .alternate 1⟩,
  ⟨0x376, 0x376, .shift 1⟩, ⟨0x37F, 0x37F, .shift 116⟩, ⟨0x386, 0x386, .shift 38⟩,
  ⟨0x388, 0x38A, .shift 37⟩, ⟨0x38C, 0x38C, .shift 64⟩, ⟨0x38E, 0x38F, .shift 63⟩,
  ⟨0x391, 0x3A1, .shift 32⟩, ⟨0x3A3, 0x3AB, .shift 32⟩, ⟨0x3CF, 0x3CF, .shift 8⟩,
  ⟨0x3D8, 0x3EE, .alternate 1⟩, ⟨0x3F4, 0x3F4, .shift (-60)⟩, ⟨0x3F7, 0x3F7, .shift 1⟩,
  ⟨0x3F9, 0x3F9, .shift (-7)⟩, ⟨0x3FA, 0x3FA, .shift 1⟩, ⟨0x3FD, 0x3FF, .shift (-130)⟩,
  ⟨0x400, 0x40F, .shift 80⟩, ⟨0x410, 0x42F, .shift 32⟩, ⟨0x460, 0x480, .alternate 1⟩,
  ⟨0x48A, 0x4BE, .alternate 1⟩, ⟨0x4C0, 0x4C0, .shift 15⟩, ⟨0x4C1, 0x4CD, .alternate 1⟩,
  ⟨0x4D0, 0x52E, .alternate 1⟩, ⟨0x531, 0x556, .shift 48⟩, ⟨0x10A0, 0x10C5, .shift 7264⟩,
  ⟨0x10C7, 0x10C7, .shift 7264⟩, ⟨0x10CD, 0x10CD, .shift 7264⟩, ⟨0x13A0, 0x13EF, .shift 38864⟩,
  ⟨0x13F0, 0x13F5, .shift 8⟩, ⟨0x1C90, 0x1CBA, .shift (-3008)⟩, ⟨0x1CBD, 0x1CBF, .shift (-3008)⟩,
  ⟨0x1E00, 0x1E94, .alternate 1⟩, ⟨0x1E9E, 0x1E9E, .shift (-7615)⟩,
  ⟨0x1EA0, 0x1EFE, .alternate 1⟩, ⟨0x1F08, 0x1F0F, .shift (-8)⟩, ⟨0x1F18, 0x1F1D, .shift (-8)⟩,
  ⟨0x1F28, 0x1F2F, .shift (-8)⟩, ⟨0x1F38, 0x1F3F, .shift (-8)⟩, ⟨0x1F48, 0x1F4D, .shift (-8)⟩,
  ⟨0x1F59, 0x1F59, .shift (-8)⟩, ⟨0x1F5B, 0x1F5B, .shift (-8)⟩, ⟨0x1F5D, 0x1F5D, .shift (-8)⟩,
  ⟨0x1F5F, 0x1F5F, .shift (-8)⟩, ⟨0x1F68, 0x1F6F, .shift (-8)⟩, ⟨0x1F88, 0x1F8F, .shift (-8)⟩,
  ⟨0x1F98, 0x1F9F, .shift (-8)⟩, ⟨0x1FA8, 0x1FAF, .shift (-8)⟩, ⟨0x1FB8, 0x1FB9, .shift (-8)⟩,
  ⟨0x1FBA, 0x1FBB, .shift (-74)⟩, ⟨0x1FBC, 0x1FBC, .shift (-9)⟩, ⟨0x1FC8, 0x1FCB, .shift (-86)⟩,
  ⟨0x1FCC, 0x1FCC, .shift (-9)⟩, ⟨0x1FD8, 0x1FD9, .shift (-8)⟩, ⟨0x1FDA, 0x1FDB, .shift (-100)⟩,
  ⟨0x1FE8, 0x1FE9, .shift (-8)⟩, ⟨0x1FEA, 0x1FEB, .shift (-112)⟩, ⟨0x1FEC, 0x1FEC, .shift (-7)⟩,
  ⟨0x1FF8, 0x1FF9, .shift (-128)⟩, ⟨0x1FFA, 0x1FFB, .shift (-126)⟩, ⟨0x1FFC, 0x1FFC, .shift (-9)⟩,
  ⟨0x2126, 0x2126, .shift (-7517)⟩, ⟨0x212A, 0x212A, .shift (-8383)⟩,
  ⟨0x212B, 0x212B, .shift (-8262)⟩, ⟨0x2132, 0x2132, .shift 28⟩, ⟨0x2160, 0x216F, .shift 16⟩,
  ⟨0x2183, 0x2183, .shift 1⟩, ⟨0x24B6, 0x24CF, .shift 26⟩, ⟨0x2C00, 0x2C2F, .shift 48⟩,
  ⟨0x2C60, 0x2C60, .shift 1⟩, ⟨0x2C62, 0x2C62, .shift (-10743)⟩, ⟨0x2C63, 0x2C63, .shift (-3814)⟩,
  ⟨0x2C64, 0x2C64, .shift (-10727)⟩, ⟨0x2C67, 0x2C6B, .alternate 1⟩,
  ⟨0x2C6D, 0x2C6D, .shift (-10780)⟩, ⟨0x2C6E, 0x2C6E, .shift (-10749)⟩,
  ⟨0x2C6F, 0x2C6F, .shift (-10783)⟩, ⟨0x2C70, 0x2C70, .shift (-10782)⟩,
  ⟨0x2C72, 0x2C72, .shift 1⟩, ⟨0x2C75, 0x2C75, .shift 1⟩, ⟨0x2C7E, 0x2C7F, .shift (-10815)⟩,
  ⟨0x2C80, 0x2CE2, .alternate 1⟩, ⟨0x2CEB, 0x2CED, .alternate 1⟩, ⟨0x2CF2, 0x2CF2, .shift 1⟩,
  ⟨0xA640, 0xA66C, .alternate 1⟩, ⟨0xA680, 0xA69A, .alternate 1⟩, ⟨0xA722, 0xA72E, .alternate 1⟩,
  ⟨0xA732, 0xA76E, .alternate 1⟩, ⟨0xA779, 0xA77B, .alternate 1⟩,
  ⟨0xA77D, 0xA77D, .shift (-35332)⟩, ⟨0xA77E, 0xA786, .alternate 1⟩, ⟨0xA78B, 0xA78B, .shift 1⟩,
  ⟨0xA78D, 0xA78D, .shift (-42280)⟩, ⟨0xA790, 0xA792, .alternate 1⟩,
  ⟨0xA796, 0xA7A8, .alternate 1⟩, ⟨0xA7AA, 0xA7AA, .shift (-42308)⟩,
  ⟨0xA7AB, 0xA7AB, .shift (-42319)⟩, ⟨0xA7AC, 0xA7AC, .shift (-42315)⟩,
  ⟨0xA7AD, 0xA7AD, .shift (-42305)⟩, ⟨0xA7AE, 0xA7AE, .shift (-42308)⟩,
  ⟨0xA7B0, 0xA7B0, .shift (-42258)⟩, ⟨0xA7B1, 0xA7B1, .shift (-42282)⟩,
  ⟨0xA7B2, 0xA7B2, .shift (-42261)⟩, ⟨0xA7B3, 0xA7B3, .shift 928⟩, ⟨0xA7B4, 0xA7C2, .alternate 1⟩,
  ⟨0xA7C4, 0xA7C4, .shift (-48)⟩, ⟨0xA7C5, 0xA7C5, .shift (-42307)⟩,
  ⟨0xA7C6, 0xA7C6, .shift (-35384)⟩, ⟨0xA7C7, 0xA7C9, .alternate 1⟩, ⟨0xA7D0, 0xA7D0, .shift 1⟩,
  ⟨0xA7D6, 0xA7D8, .alternate 1⟩, ⟨0xA7F5, 0xA7F5, .shift 1⟩, ⟨0xFF21, 0xFF3A, .shift 32⟩,
  ⟨0x10400, 0x10427, .shift 40⟩, ⟨0x104B0, 0x104D3, .shift 40⟩, ⟨0x10570, 0x1057A, .shift 39⟩,
  ⟨0x1057C, 0x1058A, .shift 39⟩, ⟨0x1058C, 0x10592, .shift 39⟩, ⟨0x10594, 0x10595, .shift 39⟩,
  ⟨0x10C80, 0x10CB2, .shift 64⟩, ⟨0x118A0, 0x118BF, .shift 32⟩, ⟨0x16E40, 0x16E5F, .shift 32⟩,
  ⟨0x1E900, 0x1E921, .shift 34⟩]

/-- The runs of the simple upper-case mapping above ASCII, in ascending order. -/
def upperRuns : List Run := [
  ⟨0xB5, 0xB5, .shift 743⟩, ⟨0xE0, 0xF6, .shift (-32)⟩, ⟨0xF8, 0xFE, .shift (-32)⟩,
  ⟨0xFF, 0xFF, .shift 121⟩, ⟨0x101, 0x12F, .alternate (-1)⟩, ⟨0x131, 0x131, .shift (-232)⟩,
  ⟨0x133, 0x137, .alternate (-1)⟩, ⟨0x13A, 0x148, .alternate (-1)⟩,
  ⟨0x14B, 0x177, .alternate (-1)⟩, ⟨0x17A, 0x17E, .alternate (-1)⟩, ⟨0x17F, 0x17F, .shift (-300)⟩,
  ⟨0x180, 0x180, .shift 195⟩, ⟨0x183, 0x185, .alternate (-1)⟩, ⟨0x188, 0x188, .shift (-1)⟩,
  ⟨0x18C, 0x18C, .shift (-1)⟩, ⟨0x192, 0x192, .shift (-1)⟩, ⟨0x195, 0x195, .shift 97⟩,
  ⟨0x199, 0x199, .shift (-1)⟩, ⟨0x19A, 0x19A, .shift 163⟩, ⟨0x19E, 0x19E, .shift 130⟩,
  ⟨0x1A1, 0x1A5, .alternate (-1)⟩, ⟨0x1A8, 0x1A8, .shift (-1)⟩, ⟨0x1AD, 0x1AD, .shift (-1)⟩,
  ⟨0x1B0, 0x1B0, .shift (-1)⟩, ⟨0x1B4, 0x1B6, .alternate (-1)⟩, ⟨0x1B9, 0x1B9, .shift (-1)⟩,
  ⟨0x1BD, 0x1BD, .shift (-1)⟩, ⟨0x1BF, 0x1BF, .shift 56⟩, ⟨0x1C5, 0x1C5, .shift (-1)⟩,
  ⟨0x1C6, 0x1C6, .shift (-2)⟩, ⟨0x1C8, 0x1C8, .shift (-1)⟩, ⟨0x1C9, 0x1C9, .shift (-2)⟩,
  ⟨0x1CB, 0x1CB, .shift (-1)⟩, ⟨0x1CC, 0x1CC, .shift (-2)⟩, ⟨0x1CE, 0x1DC, .alternate (-1)⟩,
  ⟨0x1DD, 0x1DD, .shift (-79)⟩, ⟨0x1DF, 0x1EF, .alternate (-1)⟩, ⟨0x1F2, 0x1F2, .shift (-1)⟩,
  ⟨0x1F3, 0x1F3, .shift (-2)⟩, ⟨0x1F5, 0x1F5, .shift (-1)⟩, ⟨0x1F9, 0x21F, .alternate (-1)⟩,
  ⟨0x223, 0x233, .alternate (-1)⟩, ⟨0x23C, 0x23C, .shift (-1)⟩, ⟨0x23F, 0x240, .shift 10815⟩,
  ⟨0x242, 0x242, .shift (-1)⟩, ⟨0x247, 0x24F, .alternate (-1)⟩, ⟨0x250, 0x250, .shift 10783⟩,
  ⟨0x251, 0x251, .shift 10780⟩, ⟨0x252, 0x252, .shift 10782⟩, ⟨0x253, 0x253, .shift (-210)⟩,
  ⟨0x254, 0x254, .shift (-206)⟩, ⟨0x256, 0x257, .shift (-205)⟩, ⟨0x259, 0x259, .shift (-202)⟩,
  ⟨0x25B, 0x25B, .shift (-203)⟩, ⟨0x25C, 0x25C, .shift 42319⟩, ⟨0x260, 0x260, .shift (-205)⟩,
  ⟨0x261, 0x261, .shift 42315⟩, ⟨0x263, 0x263, .shift (-207)⟩, ⟨0x265, 0x265, .shift 42280⟩,
  ⟨0x266, 0x266, .shift 42308⟩, ⟨0x268, 0x268, .shift (-209)⟩, ⟨0x269, 0x269, .shift (-211)⟩,
  ⟨0x26A, 0x26A, .shift 42308⟩, ⟨0x26B, 0x26B, .shift 10743⟩, ⟨0x26C, 0x26C, .shift 42305⟩,
  ⟨0x26F, 0x26F, .shift (-211)⟩, ⟨0x271, 0x271, .shift 10749⟩, ⟨0x272, 0x272, .shift (-213)⟩,
  ⟨0x275, 0x275, .shift (-214)⟩, ⟨0x27D, 0x27D, .shift 10727⟩, ⟨0x280, 0x280, .shift (-218)⟩,
  ⟨0x282, 0x282, .shift 42307⟩, ⟨0x283, 0x283, .shift (-218)⟩, ⟨0x287, 0x287, .shift 42282⟩,
  ⟨0x288, 0x288, .shift (-218)⟩, ⟨0x289, 0x289, .shift (-69)⟩, ⟨0x28A, 0x28B, .shift (-217)⟩,
  ⟨0x28C, 0x28C, .shift (-71)⟩, ⟨0x292, 0x292, .shift (-219)⟩, ⟨0x29D, 0x29D, .shift 42261⟩,
  ⟨0x29E, 0x29E, .shift 42258⟩, ⟨0x345, 0x345, .shift 84⟩, ⟨0x371, 0x373, .alternate (-1)⟩,
  ⟨0x377, 0x377, .shift (-1)⟩, ⟨0x37B, 0x37D, .shift 130⟩, ⟨0x3AC, 0x3AC, .shift (-38)⟩,
  ⟨0x3AD, 0x3AF, .shift (-37)⟩, ⟨0x3B1, 0x3C1, .shift (-32)⟩, ⟨0x3C2, 0x3C2, .shift (-31)⟩,
  ⟨0x3C3, 0x3CB, .shift (-32)⟩, ⟨0x3CC, 0x3CC, .shift (-64)⟩, ⟨0x3CD, 0x3CE, .shift (-63)⟩,
  ⟨0x3D0, 0x3D0, .shift (-62)⟩, ⟨0x3D1, 0x3D1, .shift (-57)⟩, ⟨0x3D5, 0x3D5, .shift (-47)⟩,
  ⟨0x3D6, 0x3D6, .shift (-54)⟩, ⟨0x3D7, 0x3D7, .shift (-8)⟩, ⟨0x3D9, 0x3EF, .alternate (-1)⟩,
  ⟨0x3F0, 0x3F0, .shift (-86)⟩, ⟨0x3F1, 0x3F1, .shift (-80)⟩, ⟨0x3F2, 0x3F2, .shift 7⟩,
  ⟨0x3F3, 0x3F3, .shift (-116)⟩, ⟨0x3F5, 0x3F5, .shift (-96)⟩, ⟨0x3F8, 0x3F8, .shift (-1)⟩,
  ⟨0x3FB, 0x3FB, .shift (-1)⟩, ⟨0x430, 0x44F, .shift (-32)⟩, ⟨0x450, 0x45F, .shift (-80)⟩,
  ⟨0x461, 0x481, .alternate (-1)⟩, ⟨0x48B, 0x4BF, .alternate (-1)⟩,
  ⟨0x4C2, 0x4CE, .alternate (-1)⟩, ⟨0x4CF, 0x4CF, .shift (-15)⟩, ⟨0x4D1, 0x52F, .alternate (-1)⟩,
  ⟨0x561, 0x586, .shift (-48)⟩, ⟨0x10D0, 0x10FA, .shift 3008⟩, ⟨0x10FD, 0x10FF, .shift 3008⟩,
  ⟨0x13F8, 0x13FD, .shift (-8)⟩, ⟨0x1C80, 0x1C80, .shift (-6254)⟩,
  ⟨0x1C81, 0x1C81, .shift (-6253)⟩, ⟨0x1C82, 0x1C82, .shift (-6244)⟩,
  ⟨0x1C83, 0x1C84, .shift (-6242)⟩, ⟨0x1C85, 0x1C85, .shift (-6243)⟩,
  ⟨0x1C86, 0x1C86, .shift (-6236)⟩, ⟨0x1C87, 0x1C87, .shift (-6181)⟩,
  ⟨0x1C88, 0x1C88, .shift 35266⟩, ⟨0x1D79, 0x1D79, .shift 35332⟩, ⟨0x1D7D, 0x1D7D, .shift 3814⟩,
  ⟨0x1D8E, 0x1D8E, .shift 35384⟩, ⟨0x1E01, 0x1E95, .alternate (-1)⟩,
  ⟨0x1E9B, 0x1E9B, .shift (-59)⟩, ⟨0x1EA1, 0x1EFF, .alternate (-1)⟩, ⟨0x1F00, 0x1F07, .shift 8⟩,
  ⟨0x1F10, 0x1F15, .shift 8⟩, ⟨0x1F20, 0x1F27, .shift 8⟩, ⟨0x1F30, 0x1F37, .shift 8⟩,
  ⟨0x1F40, 0x1F45, .shift 8⟩, ⟨0x1F51, 0x1F51, .shift 8⟩, ⟨0x1F53, 0x1F53, .shift 8⟩,
  ⟨0x1F55, 0x1F55, .shift 8⟩, ⟨0x1F57, 0x1F57, .shift 8⟩, ⟨0x1F60, 0x1F67, .shift 8⟩,
  ⟨0x1F70, 0x1F71, .shift 74⟩, ⟨0x1F72, 0x1F75, .shift 86⟩, ⟨0x1F76, 0x1F77, .shift 100⟩,
  ⟨0x1F78, 0x1F79, .shift 128⟩, ⟨0x1F7A, 0x1F7B, .shift 112⟩, ⟨0x1F7C, 0x1F7D, .shift 126⟩,
  ⟨0x1F80, 0x1F87, .shift 8⟩, ⟨0x1F90, 0x1F97, .shift 8⟩, ⟨0x1FA0, 0x1FA7, .shift 8⟩,
  ⟨0x1FB0, 0x1FB1, .shift 8⟩, ⟨0x1FB3, 0x1FB3, .shift 9⟩, ⟨0x1FBE, 0x1FBE, .shift (-7205)⟩,
  ⟨0x1FC3, 0x1FC3, .shift 9⟩, ⟨0x1FD0, 0x1FD1, .shift 8⟩, ⟨0x1FE0, 0x1FE1, .shift 8⟩,
  ⟨0x1FE5, 0x1FE5, .shift 7⟩, ⟨0x1FF3, 0x1FF3, .shift 9⟩, ⟨0x214E, 0x214E, .shift (-28)⟩,
  ⟨0x2170, 0x217F, .shift (-16)⟩, ⟨0x2184, 0x2184, .shift (-1)⟩, ⟨0x24D0, 0x24E9, .shift (-26)⟩,
  ⟨0x2C30, 0x2C5F, .shift (-48)⟩, ⟨0x2C61, 0x2C61, .shift (-1)⟩,
  ⟨0x2C65, 0x2C65, .shift (-10795)⟩, ⟨0x2C66, 0x2C66, .shift (-10792)⟩,
  ⟨0x2C68, 0x2C6C, .alternate (-1)⟩, ⟨0x2C73, 0x2C73, .shift (-1)⟩, ⟨0x2C76, 0x2C76, .shift (-1)⟩,
  ⟨0x2C81, 0x2CE3, .alternate (-1)⟩, ⟨0x2CEC, 0x2CEE, .alternate (-1)⟩,
  ⟨0x2CF3, 0x2CF3, .shift (-1)⟩, ⟨0x2D00, 0x2D25, .shift (-7264)⟩,
  ⟨0x2D27, 0x2D27, .shift (-7264)⟩, ⟨0x2D2D, 0x2D2D, .shift (-7264)⟩,
  ⟨0xA641, 0xA66D, .alternate (-1)⟩, ⟨0xA681, 0xA69B, .alternate (-1)⟩,
  ⟨0xA723, 0xA72F, .alternate (-1)⟩, ⟨0xA733, 0xA76F, .alternate (-1)⟩,
  ⟨0xA77A, 0xA77C, .alternate (-1)⟩, ⟨0xA77F, 0xA787, .alternate (-1)⟩,
  ⟨0xA78C, 0xA78C, .shift (-1)⟩, ⟨0xA791, 0xA793, .alternate (-1)⟩, ⟨0xA794, 0xA794, .shift 48⟩,
  ⟨0xA797, 0xA7A9, .alternate (-1)⟩, ⟨0xA7B5, 0xA7C3, .alternate (-1)⟩,
  ⟨0xA7C8, 0xA7CA, .alternate (-1)⟩, ⟨0xA7D1, 0xA7D1, .shift (-1)⟩,
  ⟨0xA7D7, 0xA7D9, .alternate (-1)⟩, ⟨0xA7F6, 0xA7F6, .shift (-1)⟩,
  ⟨0xAB53, 0xAB53, .shift (-928)⟩, ⟨0xAB70, 0xABBF, .shift (-38864)⟩,
  ⟨0xFF41, 0xFF5A, .shift (-32)⟩, ⟨0x10428, 0x1044F, .shift (-40)⟩,
  ⟨0x104D8, 0x104FB, .shift (-40)⟩, ⟨0x10597, 0x105A1, .shift (-39)⟩,
  ⟨0x105A3, 0x105B1, .shift (-39)⟩, ⟨0x105B3, 0x105B9, .shift (-39)⟩,
  ⟨0x105BB, 0x105BC, .shift (-39)⟩, ⟨0x10CC0, 0x10CF2, .shift (-64)⟩,
  ⟨0x118C0, 0x118DF, .shift (-32)⟩, ⟨0x16E60, 0x16E7F, .shift (-32)⟩,
  ⟨0x1E922, 0x1E943, .shift (-34)⟩]

/-- The lower case of a character. -/
def toLower (c : Char) : Char :=
  if c.toNat < 0x80 then c.toLower else Char.ofNat (mapCode lowerRuns c.toNat)

/-- The upper case of a character. -/
def toUpper (c : Char) : Char :=
  if c.toNat < 0x80 then c.toUpper else Char.ofNat (mapCode upperRuns c.toNat)

/-- The lower case of a text, character by character. -/
def lower (s : String) : String :=
  s.map toLower

/-- Small letters that share a case class with another small letter, and the one that
stands for the class. -/
def variants : List (Nat × Nat) :=
  [(0xB5, 0x3BC), (0x17F, 0x73), (0x345, 0x3B9), (0x3C2, 0x3C3), (0x3D0, 0x3B2),
   (0x3D1, 0x3B8), (0x3D5, 0x3C6), (0x3D6, 0x3C0), (0x3F0, 0x3BA), (0x3F1, 0x3C1),
   (0x3F5, 0x3B5), (0x1C80, 0x432), (0x1C81, 0x434), (0x1C82, 0x43E), (0x1C83, 0x441),
   (0x1C84, 0x442), (0x1C85, 0x442), (0x1C86, 0x44A), (0x1C87, 0x463), (0x1C88, 0xA64B),
   (0x1E9B, 0x1E61), (0x1FBE, 0x3B9), (0x1FD3, 0x390), (0x1FE3, 0x3B0), (0xFB06, 0xFB05)]

/-- The representative of a character's case class. Capital I with dot above lowers to a
plain small i but folds to nothing else, so it stands for itself. -/
def fold (c : Char) : Char :=
  if c.toNat = 0x130 then c
  else
    let l := toLower c
    match variants.find? (fun p => p.1 = l.toNat) with
    | some p => Char.ofNat p.2
    | none => l

/-- Whether two texts are equal ignoring case. -/
def equalFold (a b : String) : Bool :=
  a.toList.map fold == b.toList.map fold

/-- The key a member name is matched by when no member has exactly that name: every
character stands for its case class, so two names have one key exactly when they are equal
ignoring case. -/
def nameKey (s : String) : String :=
  s.map fold

end ConfigTables.Text.CaseMap
