import Mathlib
import ConfigTables.Proofs.PathExtension
/-!
# Formats read from paths and from words

A table file's format is read from the extension of its path, and a format a user names is read
from a word. Both readers are stated here against what they look at, said without the code:

* §1 — `Files.Path.isExtension_iff`: the extension of a path is its one suffix that starts
  with a dot and holds no other dot and no slash, or nothing when the last element has no dot.
  A path that ends in a slash has an empty last element, and so no extension.
* §2 — `Text.Blank.trim_eq_iff`: trimming leaves exactly the text between a leading and a
  trailing run of white space that neither starts nor ends with white space.
* §3 — `Format.ofPath_eq_iff`: a path is JSON (binary) exactly when that extension lower-cases,
  by the Unicode simple mapping, to `.json` (`.binpb`); so any text followed by a loadable
  format's extension reads as that format.
* §4 — `Format.parse_ok_iff`: a word names a format exactly when, trimmed, stripped of one
  leading dot and lower-cased, it is one of the seven accepted words; every format but
  `unknown` is read back from its name and from its extension.
-/

namespace ConfigTables.Files.Path

/-! ## §1 — the extension of the last element -/

/-- `e` is the extension of the last element of `p`: a suffix of `p` that starts with a dot and
holds no other dot and no slash. -/
def IsExtension (p e : String) : Prop :=
  ∃ front : String, p = front ++ e ∧ e.toList.head? = some '.' ∧ '.' ∉ e.toList.tail ∧
    '/' ∉ e.toList

/-- A dot followed by neither dot nor slash is its own extension. -/
theorem ext_of_dot_cons {e : String} {rest : List Char} (he : e.toList = '.' :: rest)
    (hdot : '.' ∉ rest) (hslash : '/' ∉ rest) : ext e = e := by
  have hall : ∀ c ∈ e.toList.reverse, decide (c ≠ '/') = true := by
    intro c hc
    rw [he, List.mem_reverse, List.mem_cons] at hc
    rcases hc with rfl | hc
    · decide
    · simp only [decide_eq_true_eq]
      rintro rfl
      exact hslash hc
  have hlast : e.toList.reverse.takeWhile (· ≠ '/') = rest.reverse ++ ['.'] := by
    rw [List.takeWhile_eq_self_iff.mpr hall, he, List.reverse_cons]
  have hidx : (rest.reverse ++ ['.']).findIdx? (· = '.') = some rest.length := by
    have hnone : rest.reverse.findIdx? (· = '.') = none := by
      rw [List.findIdx?_eq_none_iff]
      intro c hc
      simp only [decide_eq_false_iff_not]
      rintro rfl
      exact hdot (List.mem_reverse.mp hc)
    rw [List.findIdx?_append, hnone]
    simp [List.findIdx?_cons]
  simp only [ext, hlast, hidx]
  rw [List.take_of_length_le (by simp), List.reverse_append, List.reverse_reverse]
  rw [← String.toList_inj]
  simp [he]

/-- **A dot suffix with no slash is the extension.** -/
theorem ext_eq_of_isExtension {p e : String} (h : IsExtension p e) : ext p = e := by
  obtain ⟨front, rfl, hhead, hdot, hslash⟩ := h
  obtain ⟨rest, he⟩ : ∃ rest, e.toList = '.' :: rest := by
    cases hl : e.toList with
    | nil => simp [hl] at hhead
    | cons c rest => simp_all
  have hrest : '/' ∉ rest := fun hc => hslash (by rw [he]; exact List.mem_cons_of_mem _ hc)
  rw [he, List.tail_cons] at hdot
  rw [ext_append_of_dot (by rw [he]; exact List.mem_cons_self) hslash,
    ext_of_dot_cons he hdot hrest]

/-- **A non-empty extension is a dot suffix with no slash.** -/
theorem isExtension_ext {p : String} (h : ext p ≠ "") : IsExtension p (ext p) := by
  -- the last element, read backwards, and the first dot in it
  have hpre := List.prefix_iff_eq_take.mp (List.takeWhile_prefix (fun c => decide (c ≠ '/'))
    (l := p.toList.reverse))
  generalize hL : p.toList.reverse.takeWhile (· ≠ '/') = L at hpre
  obtain ⟨i, hi⟩ : ∃ i, L.findIdx? (· = '.') = some i := by
    cases hf : L.findIdx? (· = '.') with
    | none => simp only [ext, hL, hf, ne_eq, not_true_eq_false] at h
    | some i => exact ⟨i, rfl⟩
  have hext : ext p = String.ofList (L.take (i + 1)).reverse := by simp only [ext, hL, hi]
  obtain ⟨hlt, hdotI, hbefore⟩ := List.findIdx?_eq_some_iff_getElem.mp hi
  have hcons : (L.take (i + 1)).reverse = '.' :: (L.take i).reverse := by
    rw [List.take_succ_eq_append_getElem hlt, List.reverse_append]
    simpa using hdotI
  have htake : L.take (i + 1) = p.toList.reverse.take (i + 1) := by
    rw [hpre, List.take_take, Nat.min_eq_left (by omega)]
  rw [hext]
  refine ⟨String.ofList (p.toList.reverse.drop (i + 1)).reverse, ?_, ?_, ?_, ?_⟩
  · rw [String.ext_iff, String.toList_append, String.toList_ofList, String.toList_ofList, htake,
      ← List.reverse_append, List.take_append_drop, List.reverse_reverse]
  · simp [hcons]
  · -- the dot found is the first one of the last element
    rw [String.toList_ofList, hcons, List.tail_cons, List.mem_reverse, List.mem_take_iff_getElem]
    rintro ⟨j, hj, hLj⟩
    exact hbefore j (by omega) (by simpa using hLj)
  · -- the last element holds no slash
    rw [String.toList_ofList, List.mem_reverse]
    intro hs
    have := List.mem_takeWhile_imp (hL ▸ List.mem_of_mem_take hs)
    simp at this

/-- **The extension of a path is its dot suffix with no slash**, and a path has at most one. -/
theorem isExtension_iff {p e : String} : IsExtension p e ↔ ext p = e ∧ e ≠ "" := by
  constructor
  · intro h
    refine ⟨ext_eq_of_isExtension h, ?_⟩
    rintro rfl
    obtain ⟨_, _, hhead, _⟩ := h
    simp at hhead
  · rintro ⟨rfl, hne⟩
    exact isExtension_ext hne

end ConfigTables.Files.Path

namespace ConfigTables.Text.Blank

/-! ## §2 — trimming white space -/

/-- `t` is `s` without the white space at its ends: `s` is `t` between two runs of blanks,
and `t` neither starts nor ends with a blank. -/
def IsTrimmed (s t : String) : Prop :=
  ∃ l r : List Char, s.toList = l ++ t.toList ++ r ∧ (∀ c ∈ l, isBlank c) ∧
    (∀ c ∈ r, isBlank c) ∧ (∀ c ∈ t.toList.head?, isBlank c = false) ∧
    ∀ c ∈ t.toList.getLast?, isBlank c = false

/-- A character at the head of what `dropWhile` leaves fails the test. -/
theorem not_blank_of_head?_dropWhile {l : List Char} {c : Char}
    (h : c ∈ (l.dropWhile isBlank).head?) : isBlank c = false := by
  have hnot := List.head?_dropWhile_not isBlank l
  rw [Option.mem_def] at h
  rw [h] at hnot
  exact hnot

/-- Trimming removes a leading run of blanks and a trailing one, and keeps what is between. -/
theorem trim_isTrimmed (s : String) : IsTrimmed s (trim s) := by
  -- the text after its leading blanks, split at its trailing blanks
  generalize hm : s.toList.dropWhile isBlank = m
  have hsplit :
      m = (m.reverse.dropWhile isBlank).reverse ++ (m.reverse.takeWhile isBlank).reverse := by
    rw [← List.reverse_append, List.takeWhile_append_dropWhile, List.reverse_reverse]
  have htrim : (trim s).toList = (m.reverse.dropWhile isBlank).reverse := by
    simp only [trim, hm, String.toList_ofList]
  refine ⟨s.toList.takeWhile isBlank, (m.reverse.takeWhile isBlank).reverse, ?_, ?_, ?_, ?_, ?_⟩
  · rw [htrim, List.append_assoc, ← hsplit, ← hm, List.takeWhile_append_dropWhile]
  · exact fun c hc => List.mem_takeWhile_imp hc
  · exact fun c hc => List.mem_takeWhile_imp (List.mem_reverse.mp hc)
  · -- the first kept character is the first after the leading blanks
    intro c hc
    rw [htrim] at hc
    have hhead : c ∈ m.head? := by
      rw [hsplit, List.head?_append, Option.mem_def.mp hc]
      rfl
    rw [← hm] at hhead
    exact not_blank_of_head?_dropWhile hhead
  · intro c hc
    rw [htrim, List.getLast?_reverse] at hc
    exact not_blank_of_head?_dropWhile hc

/-- **A trimmed form is unique**: it is what trimming gives. -/
theorem trim_eq_of_isTrimmed {s t : String} (h : IsTrimmed s t) : trim s = t := by
  obtain ⟨l, r, hs, hl, hr, hhead, hlast⟩ := h
  by_cases ht : t.toList = []
  · -- all blank: nothing is left
    have hall : s.toList.dropWhile isBlank = [] := by
      rw [List.dropWhile_eq_nil_iff, hs, ht]
      intro c hc
      simp only [List.append_nil, List.mem_append] at hc
      exact hc.elim (hl c) (hr c)
    rw [String.ext_iff, ht]
    simp [trim, hall]
  · have hfront : s.toList.dropWhile isBlank = t.toList ++ r := by
      rw [hs, List.append_assoc, List.dropWhile_append_of_pos hl, List.dropWhile_eq_self_iff]
      intro hlen
      obtain ⟨c, rest, hc⟩ := List.exists_cons_of_ne_nil ht
      simp only [hc, List.cons_append, List.getElem_cons_zero]
      simpa [hc] using hhead c
    have hback : (t.toList ++ r).reverse.dropWhile isBlank = t.toList.reverse := by
      rw [List.reverse_append,
        List.dropWhile_append_of_pos (fun c hc => hr c (List.mem_reverse.mp hc)),
        List.dropWhile_eq_self_iff]
      intro hlen
      obtain ⟨c, hc⟩ := Option.isSome_iff_exists.mp (List.getLast?_isSome.mpr ht)
      have hc0 : t.toList.reverse[0] = c := by
        rw [← List.head?_reverse, List.head?_eq_getElem?, List.getElem?_eq_getElem hlen] at hc
        exact Option.some.inj hc
      rw [hc0]
      simpa using hlast c hc
    rw [String.ext_iff]
    simp only [trim, hfront, hback, List.reverse_reverse, String.toList_ofList]

/-- **Trimming is exactly the removal of the blanks at both ends.** -/
theorem trim_eq_iff {s t : String} : trim s = t ↔ IsTrimmed s t := by
  constructor
  · rintro rfl
    exact trim_isTrimmed s
  · exact trim_eq_of_isTrimmed

end ConfigTables.Text.Blank

namespace ConfigTables.Format

open Text.Blank Text.CaseMap

/-! ## §3 — formats from paths -/

@[simp] theorem lower_empty : lower "" = "" := by
  rw [String.ext_iff, lower, String.toList_map]
  rfl

/-- For a loadable format, the path's format is read off its lower-cased extension. -/
theorem ofPath_eq_iff_lower {f : Format} (hf : f.loadable = true) (p : String) :
    ofPath p = f ↔ lower (Files.Path.ext p) = f.ext := by
  cases f with
  | unknown | text => cases hf
  | json | binary =>
    unfold ofPath
    split <;> simp_all [Format.ext]

/-- **A path has a loadable format exactly when the extension of its last element
lower-cases to that format's extension.** -/
theorem ofPath_eq_iff {f : Format} (hf : f.loadable = true) (p : String) :
    ofPath p = f ↔ ∃ e, Files.Path.IsExtension p e ∧ lower e = f.ext := by
  rw [ofPath_eq_iff_lower hf]
  constructor
  · intro h
    refine ⟨Files.Path.ext p, Files.Path.isExtension_iff.mpr ⟨rfl, ?_⟩, h⟩
    -- an empty extension lower-cases to nothing, which is no format's extension
    intro h0
    rw [h0, lower_empty] at h
    cases f <;> simp_all [Format.ext]
  · rintro ⟨e, he, hl⟩
    rw [(Files.Path.isExtension_iff.mp he).1, hl]

/-- A loadable format's extension, put after any text, reads back as that format. -/
theorem ofPath_append_ext (stem : String) {f : Format} (hf : f.loadable = true) :
    ofPath (stem ++ f.ext) = f := by
  obtain ⟨hdot, hslash, -⟩ := ext_shape hf
  rw [ofPath_congr (Files.Path.ext_append_of_dot hdot hslash), ofPath_ext hf]

/-! ## §4 — formats from words -/

/-- The words that name a format once trimmed, stripped of a leading dot and lower-cased. -/
def acceptedWords : List String := ["json", "binary", "bin", "binpb", "text", "txt", "txtpb"]

/-- `u` is `t` with one leading dot removed when `t` has one. -/
def DotDropped (t u : String) : Prop :=
  t.toList = '.' :: u.toList ∨ (t.toList.head? ≠ some '.' ∧ u = t)

/-- Dropping a leading dot as the word reader does it. -/
theorem dotDropped_iff {t u : String} :
    DotDropped t u ↔ u = if t.startsWith "." then String.ofList (t.toList.drop 1) else t := by
  have hdot : t.startsWith "." = true ↔ t.toList.head? = some '.' := by
    rw [String.startsWith_string_iff]
    cases t.toList <;> simp [eq_comm]
  unfold DotDropped
  by_cases hs : t.startsWith "." = true
  · obtain ⟨rest, hrest⟩ : ∃ rest, t.toList = '.' :: rest := by
      have := hdot.mp hs
      cases h : t.toList <;> simp_all
    simp only [hs, if_true, hrest, List.drop_succ_cons, List.drop_zero, List.head?_cons, ne_eq,
      not_true_eq_false, false_and, or_false, List.cons.injEq, true_and]
    rw [← String.toList_inj, String.toList_ofList]
    exact eq_comm
  · have hhead : t.toList.head? ≠ some '.' := fun h => hs (hdot.mpr h)
    simp only [hs, Bool.false_eq_true, if_false, ne_eq, hhead, not_false_eq_true, true_and]
    constructor
    · rintro (h | h)
      · exact absurd (by simp [h]) hhead
      · exact h
    · exact Or.inr

/-- A word names a format exactly when its trimmed, dot-stripped, lower-cased form is an
accepted word. -/
theorem ofWord?_isSome_iff {s t u : String} (ht : trim s = t) (hu : DotDropped t u) :
    (ofWord? s).isSome ↔ lower u ∈ acceptedWords := by
  dsimp only [ofWord?]
  rw [ht, ← dotDropped_iff.mp hu]
  split <;> simp_all [acceptedWords]

theorem parse_ok_iff_isSome (s : String) : (∃ f, parse s = .ok f) ↔ (ofWord? s).isSome := by
  unfold parse
  cases ofWord? s <;> simp

/-- **A word is read as a format exactly when, trimmed of white space, stripped of one leading
dot and lower-cased, it is an accepted word.** -/
theorem parse_ok_iff (s : String) : (∃ f, parse s = .ok f) ↔
    ∃ t u, IsTrimmed s t ∧ DotDropped t u ∧ lower u ∈ acceptedWords := by
  rw [parse_ok_iff_isSome]
  constructor
  · intro h
    have hu : DotDropped (trim s) _ := dotDropped_iff.mpr rfl
    exact ⟨trim s, _, trim_isTrimmed s, hu, (ofWord?_isSome_iff rfl hu).mp h⟩
  · rintro ⟨t, u, ht, hu, hw⟩
    exact (ofWord?_isSome_iff (trim_eq_of_isTrimmed ht) hu).mpr hw

example : parse " .BİNPB " = .ok binary := by decide +kernel

/-- Every format but `unknown` is read back from its name and from its extension. -/
theorem parse_name_and_ext {f : Format} (hf : f ≠ unknown) :
    parse f.name = .ok f ∧ parse f.ext = .ok f := by
  cases f with
  | unknown => exact absurd rfl hf
  | json => decide +kernel
  | binary => decide +kernel
  | text => decide +kernel

/-- **Formats from paths and words.** Any text followed by `.json` or `.binpb` reads as JSON or
binary; a path reads as JSON (binary) exactly when the extension of its last element
lower-cases to `.json` (`.binpb`); a word is read as a format exactly when, trimmed of white
space, stripped of one leading dot and lower-cased, it is an accepted word; and JSON, binary and
text are each read back from their name and from their extension. -/
theorem formats_from_paths_and_words :
    (∀ stem : String, ofPath (stem ++ json.ext) = json ∧ ofPath (stem ++ binary.ext) = binary) ∧
    (∀ p : String, (ofPath p = json ↔ ∃ e, Files.Path.IsExtension p e ∧ lower e = ".json") ∧
      (ofPath p = binary ↔ ∃ e, Files.Path.IsExtension p e ∧ lower e = ".binpb")) ∧
    (∀ s : String, (∃ f, parse s = .ok f) ↔
      ∃ t u, IsTrimmed s t ∧ DotDropped t u ∧ lower u ∈ acceptedWords) ∧
    (parse json.name = .ok json ∧ parse json.ext = .ok json) ∧
    (parse binary.name = .ok binary ∧ parse binary.ext = .ok binary) ∧
    (parse text.name = .ok text ∧ parse text.ext = .ok text) :=
  ⟨fun stem => ⟨ofPath_append_ext stem rfl, ofPath_append_ext stem rfl⟩,
    fun p => ⟨ofPath_eq_iff rfl p, ofPath_eq_iff rfl p⟩, parse_ok_iff,
    parse_name_and_ext nofun, parse_name_and_ext nofun, parse_name_and_ext nofun⟩

end ConfigTables.Format
