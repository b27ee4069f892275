import Mathlib
import ConfigTables.Format
/-!
# The extension of a joined path

A table's patch files are looked for as `<patchdir>/<name><ext>` in each patch directory, and
their format is read back from their extension. That read gives back the format the name was
built with, whatever the directory:

* `elements_append_slash`: splitting at a slash splits the elements; everything about the
  elements of a joined path follows from it.
* `clean_of_elements`: cleaning a path whose last element names a file or directory (not empty,
  `.` or `..`) keeps that element last, alone or after a slash.
* `ext_join`: so joining such an element under any directory keeps its extension.
* `Format.ofPath_join`: the format of `<dir>/<name><ext f>` is `f`, for every loadable `f` and
  every directory.
-/

namespace ConfigTables.Files.Path

/-! ## §1 — elements -/

/-- **Splitting at a slash splits the elements.** -/
theorem elements_append_slash (a b : String) :
    elements (a ++ "/" ++ b) = elements a ++ elements b := by
  simp [elements, String.toList_append, List.splitOn_append_cons_self]

/-- A text with no slash is one element. -/
theorem elements_of_not_mem {b : String} (h : '/' ∉ b.toList) : elements b = [b] := by
  simp [elements, List.splitOn_eq_singleton h]

/-- Resolving elements one list after another is resolving them all at once. -/
theorem resolve_append (r : Bool) (acc xs ys : List String) :
    resolve r acc (xs ++ ys) = resolve r (resolve r acc xs) ys := by
  induction xs generalizing acc with
  | nil => rfl
  | cons e rest ih =>
    simp only [List.cons_append, resolve]
    split
    · exact ih acc
    · split
      · split
        · split <;> exact ih _
        · split <;> exact ih _
      · exact ih _

/-- An element that is neither empty, `.` nor `..` is kept on top of the stack. -/
theorem resolve_plain (r : Bool) (acc : List String) {e : String} (he : e ≠ "") (h1 : e ≠ ".")
    (h2 : e ≠ "..") : resolve r acc [e] = e :: acc := by
  simp [resolve, he, h1, h2]

/-! ## §2 — cleaning and joining -/

/-- **Cleaning keeps a last element that names something**: the cleaned path is that element
alone, or ends in a slash and that element. -/
theorem clean_of_elements {p e : String} {es : List String} (hp : p ≠ "")
    (hel : elements p = es ++ [e]) (he : e ≠ "") (h1 : e ≠ ".") (h2 : e ≠ "..") :
    clean p = e ∨ ∃ x, clean p = x ++ "/" ++ e := by
  have hkept : (resolve (p.startsWith "/") [] (elements p)).reverse =
      (resolve (p.startsWith "/") [] es).reverse ++ [e] := by
    rw [hel, resolve_append, resolve_plain _ _ he h1 h2, List.reverse_cons]
  -- the kept elements joined by slashes are `e` alone or end in `/e`
  have hbody : "/".intercalate ((resolve (p.startsWith "/") [] es).reverse ++ [e]) = e ∨
      ∃ x, "/".intercalate ((resolve (p.startsWith "/") [] es).reverse ++ [e]) = x ++ "/" ++ e := by
    rcases (resolve (p.startsWith "/") [] es).reverse with _ | ⟨a, L⟩
    · exact .inl String.intercalate_singleton
    · refine .inr ⟨"/".intercalate (a :: L), ?_⟩
      rw [String.intercalate_append_of_ne_nil (by simp) (by simp), String.intercalate_singleton]
  unfold clean
  rw [if_neg hp]
  simp only [hkept]
  split
  · -- a rooted path puts one more slash in front
    rcases hbody with hb | ⟨x, hb⟩
    · exact .inr ⟨"", by rw [hb, String.empty_append]⟩
    · exact .inr ⟨"/" ++ x, by rw [hb, String.append_assoc, String.append_assoc, String.append_assoc]⟩
  · rcases hbody with hb | ⟨x, hb⟩
    · rw [hb, if_neg he]
      exact .inl rfl
    · rw [hb, if_neg]
      · exact .inr ⟨x, rfl⟩
      · -- a body ending in `/e` is not empty
        intro h
        simpa using congrArg String.length h

/-- The path a directory and a non-empty name join to: the name cleaned when the directory is
empty, else both cleaned around a slash. -/
theorem join_pair (d : String) {e : String} (he : e ≠ "") :
    join [d, e] = clean e ∧ d = "" ∨ join [d, e] = clean (d ++ "/" ++ e) ∧ d ≠ "" := by
  by_cases hd : d = ""
  · exact .inl ⟨by simp [join, hd, he, String.intercalate_singleton], hd⟩
  · exact .inr ⟨by simp [join, hd, he, String.intercalate_cons_cons, String.intercalate_singleton], hd⟩

/-! ## §3 — extensions -/

/-- The extension is read after the last slash only. -/
theorem ext_append_slash (x e : String) : ext (x ++ "/" ++ e) = ext e := by
  have hlast : (x ++ "/" ++ e).toList.reverse.takeWhile (· ≠ '/') =
      e.toList.reverse.takeWhile (· ≠ '/') := by
    simp only [String.toList_append, List.reverse_append, List.append_assoc]
    rw [List.takeWhile_append]
    split
    · next h =>
      rw [(List.takeWhile_prefix _).eq_of_length h]
      simp
    · rfl
  simp only [ext, hlast]

/-- A suffix with a dot and no slash decides the extension by itself. -/
theorem ext_append_of_dot {s t : String} (hdot : '.' ∈ t.toList) (hslash : '/' ∉ t.toList) :
    ext (s ++ t) = ext t := by
  have hall : ∀ c ∈ t.toList.reverse, decide (c ≠ '/') = true := by
    intro c hc
    simp only [decide_eq_true_eq]
    rintro rfl
    exact hslash (List.mem_reverse.mp hc)
  have hlast : (s ++ t).toList.reverse.takeWhile (· ≠ '/') =
      t.toList.reverse ++ s.toList.reverse.takeWhile (· ≠ '/') := by
    simp only [String.toList_append, List.reverse_append]
    exact List.takeWhile_append_of_pos hall
  have hself : t.toList.reverse.takeWhile (· ≠ '/') = t.toList.reverse := by
    simpa using @List.takeWhile_append_of_pos _ _ _ [] hall
  -- the last dot of the whole text is the suffix's own
  obtain ⟨i, hi⟩ : ∃ i, t.toList.reverse.findIdx? (· = '.') = some i := by
    rw [← Option.isSome_iff_exists, List.findIdx?_isSome]
    simpa using hdot
  have hlt : i < t.toList.reverse.length := (List.findIdx?_eq_some_iff_findIdx_eq.mp hi).1
  simp only [ext, hlast, hself, List.findIdx?_append, hi, Option.some_or]
  rw [List.take_append_of_le_length (by omega)]

/-- **Joining a name under a directory keeps its extension**, whatever the directory, when the
name is one element that names something. -/
theorem ext_join (d : String) {e : String} (hslash : '/' ∉ e.toList) (he : e ≠ "")
    (h1 : e ≠ ".") (h2 : e ≠ "..") : ext (join [d, e]) = ext e := by
  -- the joined path cleans a text whose elements end in `e`
  obtain ⟨p, es, hp, hel, hj⟩ :
      ∃ p es, p ≠ "" ∧ elements p = es ++ [e] ∧ join [d, e] = clean p := by
    rcases join_pair d he with ⟨hj, -⟩ | ⟨hj, -⟩
    · exact ⟨e, [], he, elements_of_not_mem hslash, hj⟩
    · refine ⟨d ++ "/" ++ e, elements d, by simp [he], ?_, hj⟩
      rw [elements_append_slash, elements_of_not_mem hslash]
  rw [hj]
  rcases clean_of_elements hp hel he h1 h2 with hc | ⟨x, hc⟩
  · rw [hc]
  · rw [hc, ext_append_slash]

end ConfigTables.Files.Path

namespace ConfigTables.Format

/-- The format read from a path depends on its extension only. -/
theorem ofPath_congr {p q : String} (h : Files.Path.ext p = Files.Path.ext q) :
    ofPath p = ofPath q := by
  simp only [ofPath, h]

/-- A path whose extension is known has a loadable format. -/
theorem loadable_of_ofPath {q : String} (h : ofPath q ≠ .unknown) : (ofPath q).loadable = true := by
  unfold ofPath at *
  split <;> simp_all [loadable]

/-- A loadable format's own extension reads back as that format. -/
theorem ofPath_ext {f : Format} (hf : f.loadable = true) : ofPath f.ext = f := by
  cases f with
  | json => decide +kernel
  | binary => decide +kernel
  | unknown | text => cases hf

/-- A loadable format's extension has a dot, no slash, and at least five characters. -/
theorem ext_shape {f : Format} (hf : f.loadable = true) :
    '.' ∈ f.ext.toList ∧ '/' ∉ f.ext.toList ∧ 5 ≤ f.ext.length := by
  cases f with
  | json => decide
  | binary => decide
  | unknown | text => cases hf

/-- **A file named after a table in any directory has the format it was named with.** For every
loadable format `f`, directory `d` and name with no slash, `<d>/<name><ext f>` reads as `f`. -/
theorem ofPath_join {f : Format} (hf : f.loadable = true) (d : String) {name : String}
    (hname : '/' ∉ name.toList) : ofPath (Files.Path.join [d, name ++ f.ext]) = f := by
  obtain ⟨hdot, hslash, hlen⟩ := ext_shape hf
  have hno : '/' ∉ (name ++ f.ext).toList := by
    simp only [String.toList_append, List.mem_append, not_or]
    exact ⟨hname, hslash⟩
  -- the name is long enough to be none of the empty, `.` and `..` elements
  have hlong : ∀ s : String, s.length < 5 → name ++ f.ext ≠ s := by
    intro s hs h
    have := congrArg String.length h
    simp only [String.length_append] at this
    omega
  rw [ofPath_congr (Files.Path.ext_join d hno (hlong "" (by decide)) (hlong "." (by decide))
    (hlong ".." (by decide))), ofPath_congr (Files.Path.ext_append_of_dot hdot hslash),
    ofPath_ext hf]

end ConfigTables.Format
