import Mathlib
import ConfigTables.Proofs.PathExtension
import ConfigTables.Proofs.TreeFrame
/-!
# The keys of the files a directory holds

A file tree keys its nodes by cleaned paths relative to the working directory, and finding a path
reads the keys of its elements one prefix after another. Storing a table writes
`<dir>/<name><ext>` through a temporary `<dir>/.<name>.tmp.*`, and a later load reads the
first back: all three paths must be seen to share the elements of `dir` and differ in their
last element only. This module proves that of cleaning and of the elements a tree reads.

* `kept_resolve`: resolving `.` and `..` keeps a stack of plain elements on top of some `..`
  (`Kept`), and none for a rooted path.
* `clean_clean`: so cleaning is idempotent (`clean_render`), and `clean_child`: cleaning a path
  with one more plain element puts it under the cleaned path.
* `Tree.elementsOf_child`: **the elements of `d/x` are those of `d` and then `x`**, for every
  working directory and every `d` whose child names something below it; what a path names
  depends on its cleaned form only (`Tree.elementsOf_eq_of_clean`).
* `Tree.elementsOf_plain`, `Tree.elementsOf_intercalate`: the elements of a path inside the
  working directory are plain, and plain elements joined by slashes name themselves when the
  working directory's absolute path, if it has one, starts at the root (`Tree.RootSane`).
-/

namespace ConfigTables.Files.Path

/-! ## §1 — resolving elements -/

/-- An element that names a file or directory by itself: not empty, neither `.` nor `..`, and
without a slash. -/
def Plain (e : String) : Prop := e ≠ "" ∧ e ≠ "." ∧ e ≠ ".." ∧ '/' ∉ e.toList

/-- A stack of kept elements as resolving leaves it: plain elements on top of some `..`, and no
`..` at all for a rooted path. -/
def Kept (rooted : Bool) (acc : List String) : Prop :=
  ∃ P n, acc = P ++ List.replicate n ".." ∧ (∀ e ∈ P, Plain e) ∧ (rooted = true → n = 0)

theorem kept_nil (r : Bool) : Kept r [] := ⟨[], 0, rfl, by simp, fun _ => rfl⟩

theorem kept_resolve {r : Bool} {acc : List String} (h : Kept r acc) {xs : List String}
    (hxs : ∀ e ∈ xs, '/' ∉ e.toList) : Kept r (resolve r acc xs) := by
  induction xs generalizing acc with
  | nil => exact h
  | cons e rest ih =>
    have hrest : ∀ e ∈ rest, '/' ∉ e.toList := fun e he => hxs e (List.mem_cons_of_mem _ he)
    obtain ⟨P, n, rfl, hP, hn⟩ := h
    unfold Path.resolve
    by_cases h1 : e = "" ∨ e = "."
    · rw [if_pos h1]
      exact ih ⟨P, n, rfl, hP, hn⟩ hrest
    rw [if_neg h1]
    by_cases h2 : e = ".."
    · rw [if_pos h2]
      split
      · next top below hacc =>
        by_cases htop : top = ".."
        · -- a `..` on top: nothing plain is kept, only `..`
          rw [if_pos htop]
          obtain rfl : P = [] := by
            rcases P with _ | ⟨p, P⟩
            · rfl
            · simp only [List.cons_append, List.cons.injEq] at hacc
              exact absurd (hacc.1 ▸ htop) (hP p List.mem_cons_self).2.2.1
          refine ih ⟨[], n + 1, by simp [List.replicate_succ], by simp, fun hr => ?_⟩ hrest
          rw [hn hr] at hacc
          simp at hacc
        · -- a plain element on top is dropped
          rw [if_neg htop]
          rcases P with _ | ⟨p, P⟩
          · rcases n with _ | n
            · simp at hacc
            · simp only [List.replicate_succ, List.nil_append, List.cons.injEq] at hacc
              exact absurd hacc.1.symm htop
          · simp only [List.cons_append, List.cons.injEq] at hacc
            obtain ⟨rfl, rfl⟩ := hacc
            exact ih ⟨P, n, rfl, fun e he => hP e (List.mem_cons_of_mem _ he), hn⟩ hrest
      · next hacc =>
        cases r with
        | false => exact ih ⟨[], 1, rfl, by simp, fun h => nomatch h⟩ hrest
        | true => exact ih (kept_nil _) hrest
    · rw [if_neg h2]
      have he : Plain e := ⟨fun h => h1 (.inl h), fun h => h1 (.inr h), h2,
        hxs e List.mem_cons_self⟩
      refine ih ⟨e :: P, n, rfl, ?_, hn⟩ hrest
      intro x hx
      rcases List.mem_cons.mp hx with rfl | hx
      · exact he
      · exact hP x hx

/-- Plain elements are pushed in turn. -/
theorem resolve_plains (r : Bool) (acc : List String) {Q : List String} (hQ : ∀ e ∈ Q, Plain e) :
    resolve r acc Q = Q.reverse ++ acc := by
  induction Q generalizing acc with
  | nil => rfl
  | cons e rest ih =>
    obtain ⟨he, h1, h2, -⟩ := hQ e List.mem_cons_self
    rw [← List.singleton_append, resolve_append, resolve_plain r acc he h1 h2,
      ih _ (fun x hx => hQ x (List.mem_cons_of_mem _ hx))]
    simp

/-- An unrooted path keeps every leading `..`. -/
theorem resolve_dotdots (k n : Nat) :
    resolve false (List.replicate k "..") (List.replicate n "..") = List.replicate (n + k) ".." := by
  induction n generalizing k with
  | zero => simp [resolve]
  | succ n ih =>
    rw [List.replicate_succ]
    unfold Path.resolve
    rw [if_neg (by decide), if_pos rfl]
    rcases k with _ | k
    · simpa using ih 1
    · simp only [List.replicate_succ]
      rw [if_pos trivial, ← List.replicate_succ, ← List.replicate_succ, ih (k + 2)]
      congr 1
      omega

/-- The parts of a list split at slashes hold no slash. -/
theorem not_mem_of_mem_splitOn {l part : List Char} (h : part ∈ l.splitOn '/') : '/' ∉ part := by
  induction l generalizing part with
  | nil => simp_all
  | cons x xs ih =>
    rw [List.splitOn_eq_splitOnP, List.splitOnP_cons_eq_if_modifyHead] at h
    split at h
    · rcases List.mem_cons.mp h with rfl | h
      · simp
      · exact ih h
    · next hx =>
      obtain ⟨q, qs, hq⟩ := List.exists_cons_of_ne_nil (List.splitOnP_ne_nil (· == '/') xs)
      rw [hq, List.modifyHead_cons] at h
      rw [← List.splitOn_eq_splitOnP] at hq
      rcases List.mem_cons.mp h with rfl | h
      · simp only [List.mem_cons, not_or]
        exact ⟨fun e => hx (by simp [← e]), ih (by rw [hq]; exact List.mem_cons_self)⟩
      · exact ih (by rw [hq]; exact List.mem_cons_of_mem _ h)

theorem slash_not_mem_of_mem_elements {p e : String} (h : e ∈ elements p) : '/' ∉ e.toList := by
  obtain ⟨part, hpart, rfl⟩ := List.mem_map.mp h
  simpa using not_mem_of_mem_splitOn hpart

/-- Elements without slashes, joined by slashes, split back into themselves. -/
theorem elements_intercalate {K : List String} (hK : K ≠ []) (h : ∀ e ∈ K, '/' ∉ e.toList) :
    elements ("/".intercalate K) = K := by
  have hsplit := @List.splitOn_intercalate _ (K.map String.toList) _ _ '/'
    (by simpa using h) (by simpa using hK)
  simp only [elements, String.toList_intercalate]
  rw [show "/".toList = ['/'] from rfl, hsplit, List.map_map]
  simp

theorem elements_slash (s : String) : elements ("/" ++ s) = "" :: elements s := by
  have h := elements_append_slash "" s
  rw [String.empty_append] at h
  rw [h]
  rfl

theorem intercalate_eq_empty {K : List String} (h : ∀ e ∈ K, e ≠ "") :
    "/".intercalate K = "" ↔ K = [] := by
  refine ⟨fun hK => ?_, fun hK => by simp [hK]⟩
  rcases K with _ | ⟨k, rest⟩
  · rfl
  · have hlen := congrArg String.length hK
    have hk := h k List.mem_cons_self
    rcases rest with _ | ⟨k', rest⟩
    · simp at hK; exact absurd hK hk
    · simp at hlen

/-! ## §2 — cleaning -/

theorem length_pos_of_ne {s : String} (h : s ≠ "") : 0 < s.length :=
  Nat.pos_of_ne_zero fun e => h (String.length_eq_zero_iff.mp e)

/-- A path with a slash and more after it is longer than the path. -/
theorem append_slash_ne_self (c x : String) : c ++ "/" ++ x ≠ c := by
  intro e
  have hl := congrArg String.length e
  simp only [String.length_append, show "/".length = 1 from rfl] at hl
  omega

/-- A slash with a non-empty text after it is longer than `.`. -/
theorem append_slash_ne_dot (c : String) {x : String} (hx : x ≠ "") : c ++ "/" ++ x ≠ "." := by
  intro e
  have hl := congrArg String.length e
  have h2 := length_pos_of_ne hx
  simp only [String.length_append, show "/".length = 1 from rfl,
    show ".".length = 1 from rfl] at hl
  omega

/-- A text that starts with a non-empty element starts with no slash. -/
theorem startsWith_slash_append {k t : String} (hne : k ≠ "") (hs : '/' ∉ k.toList) :
    (k ++ t).startsWith "/" = false := by
  rw [String.startsWith_string_eq_false_iff, String.toList_append]
  obtain ⟨c, cs, hk⟩ := List.exists_cons_of_ne_nil (by simpa using hne : k.toList ≠ [])
  rw [hk, show "/".toList = ['/'] from rfl, List.cons_append, List.cons_prefix_cons]
  rintro ⟨rfl, -⟩
  exact hs (by rw [hk]; exact List.mem_cons_self)

theorem slash_append_startsWith (s : String) : ("/" ++ s).startsWith "/" = true := by
  simp [String.startsWith_string_iff]

/-- The text cleaning writes for a stack of kept elements, outermost first. -/
def render (rooted : Bool) (K : List String) : String :=
  if rooted then "/" ++ "/".intercalate K
  else if "/".intercalate K = "" then "." else "/".intercalate K

theorem clean_eq_render {p : String} (hp : p ≠ "") :
    clean p = render (p.startsWith "/") (resolve (p.startsWith "/") [] (elements p)).reverse := by
  rw [clean, if_neg hp]
  rfl

theorem clean_dot : clean "." = "." := by decide +kernel

theorem resolve_empty (r : Bool) (acc xs : List String) :
    resolve r acc ("" :: xs) = resolve r acc xs := by
  conv_lhs => unfold Path.resolve
  simp

/-- **Cleaning a cleaned path changes nothing**: a stack of kept elements, written out, is
cleaned back into itself. -/
theorem clean_render {r : Bool} {S : List String} (hS : Kept r S) :
    clean (render r S.reverse) = render r S.reverse := by
  obtain ⟨P, n, rfl, hP, hn⟩ := hS
  have hPr : ∀ e ∈ P.reverse, Plain e := fun e he => hP e (List.mem_reverse.mp he)
  have hPs : ∀ e ∈ P.reverse, '/' ∉ e.toList := fun e he => (hPr e he).2.2.2
  cases r with
  | false =>
    by_cases hK0 : P = [] ∧ n = 0
    · obtain ⟨rfl, rfl⟩ := hK0
      simpa [render] using clean_dot
    set K := (P ++ List.replicate n "..").reverse with hKdef
    have hK : K = List.replicate n ".." ++ P.reverse := by simp [hKdef]
    have hKne : K ≠ [] := by
      rw [hKdef, Ne, List.reverse_eq_nil_iff, List.append_eq_nil_iff, List.replicate_eq_nil_iff]
      exact hK0
    have hmem : ∀ e ∈ K, e ≠ "" ∧ '/' ∉ e.toList := by
      intro e he
      rw [hK, List.mem_append] at he
      rcases he with he | he
      · rw [List.eq_of_mem_replicate he]; decide
      · exact ⟨(hPr e he).1, hPs e he⟩
    have hc : "/".intercalate K ≠ "" :=
      (intercalate_eq_empty fun e he => (hmem e he).1).not.mpr hKne
    obtain ⟨k, rest, hkr⟩ := List.exists_cons_of_ne_nil hKne
    have hstart : ("/".intercalate K).startsWith "/" = false := by
      have hk := hmem k (by rw [hkr]; exact List.mem_cons_self)
      rcases rest with _ | ⟨k', rest⟩
      · rw [hkr, String.intercalate_singleton]
        simpa using startsWith_slash_append (t := "") hk.1 hk.2
      · rw [hkr, String.intercalate_cons_cons, String.append_assoc]
        exact startsWith_slash_append hk.1 hk.2
    -- the leading `..` are kept as they are, then the plain elements are pushed after them
    have hres : (resolve false [] (elements ("/".intercalate K))).reverse = K := by
      have hd : resolve false [] (List.replicate n "..") = List.replicate n ".." := by
        simpa using resolve_dotdots 0 n
      rw [elements_intercalate hKne (fun e he => (hmem e he).2), hK, resolve_append, hd,
        resolve_plains false _ hPr, List.reverse_reverse]
      simp
    have hrender : render false K = "/".intercalate K := by simp [render, hc]
    rw [hrender, clean_eq_render hc, hstart, hres, hrender]
  | true =>
    obtain rfl := hn rfl
    simp only [List.replicate_zero, List.append_nil]
    have hrender : render true P.reverse = "/" ++ "/".intercalate P.reverse := rfl
    rw [hrender, clean_eq_render (by simp), slash_append_startsWith, elements_slash,
      resolve_empty, ← hrender]
    congr 1
    rcases hPe : P.reverse with _ | ⟨k, rest⟩
    · rfl
    · rw [← hPe, elements_intercalate (by simp [hPe]) hPs, resolve_plains true [] hPr]
      simp

/-- **Cleaning is idempotent.** -/
theorem clean_clean (p : String) : clean (clean p) = clean p := by
  by_cases hp : p = ""
  · rw [hp, show clean "" = "." from rfl, clean_dot]
  rw [clean_eq_render hp]
  exact clean_render (kept_resolve (kept_nil _) fun e he => slash_not_mem_of_mem_elements he)

/-- A path cleaned, with one more element under it, as cleaning writes it. -/
def child (c x : String) : String :=
  if c = "." then x else if c = "/" then "/" ++ x else c ++ "/" ++ x

theorem startsWith_slash_of_ne {d : String} (hd : d ≠ "") (t : String) :
    (d ++ t).startsWith "/" = d.startsWith "/" := by
  obtain ⟨c, cs, hc⟩ := List.exists_cons_of_ne_nil (by simpa using hd : d.toList ≠ [])
  apply Bool.eq_iff_iff.mpr
  simp only [String.startsWith_string_iff, String.toList_append, hc,
    show "/".toList = ['/'] from rfl, List.cons_append, List.cons_prefix_cons, List.nil_prefix,
    and_true]

/-- The elements a stack keeps are neither empty nor `.`, and hold no slash. -/
theorem Kept.mem {r : Bool} {S : List String} (h : Kept r S) :
    ∀ e ∈ S, e ≠ "" ∧ e ≠ "." ∧ '/' ∉ e.toList := by
  obtain ⟨P, n, rfl, hP, -⟩ := h
  intro e he
  rcases List.mem_append.mp he with he | he
  · exact ⟨(hP e he).1, (hP e he).2.1, (hP e he).2.2.2⟩
  · rw [List.eq_of_mem_replicate he]; decide

/-- Elements that are neither empty nor `.` and hold no slash join to neither `.` nor `/`. -/
theorem intercalate_ne_dot_slash {K : List String}
    (h : ∀ e ∈ K, e ≠ "" ∧ e ≠ "." ∧ '/' ∉ e.toList) :
    "/".intercalate K ≠ "." ∧ "/".intercalate K ≠ "/" := by
  rcases K with _ | ⟨k, _ | ⟨k', rest⟩⟩
  · decide
  · obtain ⟨-, hk, hs⟩ := h k List.mem_cons_self
    refine ⟨by simpa using hk, fun e => hs ?_⟩
    rw [String.intercalate_singleton] at e
    simp [e]
  · have hk := (h k List.mem_cons_self).1
    have hk' := (h k' (List.mem_cons_of_mem _ List.mem_cons_self)).1
    have hlen : 3 ≤ ("/".intercalate (k :: k' :: rest)).length := by
      have h1 := length_pos_of_ne hk
      have h2 := length_pos_of_ne hk'
      have h3 : "/".length = 1 := rfl
      rcases rest with _ | ⟨k'', rest⟩ <;>
        simp [String.intercalate_cons_cons, String.length_append] <;> omega
    constructor <;> intro e <;> rw [e] at hlen <;> revert hlen <;> decide

theorem render_snoc {r : Bool} {S : List String} (hS : Kept r S) {x : String} (hx : Plain x) :
    render r (S.reverse ++ [x]) = child (render r S.reverse) x := by
  have hmem : ∀ e ∈ S.reverse, e ≠ "" ∧ e ≠ "." ∧ '/' ∉ e.toList :=
    fun e he => hS.mem e (List.mem_reverse.mp he)
  have hx0 : x ≠ "" := hx.1
  rcases hK : S.reverse with _ | ⟨k, rest⟩
  · cases r <;> simp [render, child, hx0]
  · rw [← hK]
    have hne : S.reverse ≠ [] := by simp [hK]
    have hc : "/".intercalate S.reverse ≠ "" :=
      (intercalate_eq_empty fun e he => (hmem e he).1).not.mpr hne
    obtain ⟨hdot, hslash⟩ := intercalate_ne_dot_slash hmem
    have hjoin : "/".intercalate (S.reverse ++ [x]) = "/".intercalate S.reverse ++ "/" ++ x := by
      rw [String.intercalate_append_of_ne_nil hne (by simp), String.intercalate_singleton]
    cases r with
    | false =>
      have hc' : "/".intercalate S.reverse ++ "/" ++ x ≠ "" := by simp
      simp [render, child, hjoin, hc, hc', hdot, hslash]
    | true =>
      have h1 : "/" ++ "/".intercalate S.reverse ≠ "." := by
        simpa using append_slash_ne_dot "" hc
      have h2 : "/" ++ "/".intercalate S.reverse ≠ "/" := by
        intro e; exact hc (by simpa using e)
      simp [render, child, hjoin, h1, h2, String.append_assoc]

/-- **Cleaning a path with one more element** puts the element under the cleaned path. -/
theorem clean_child {d x : String} (hd : d ≠ "") (hx : Plain x) :
    clean (d ++ "/" ++ x) = child (clean d) x := by
  have hdx : d ++ "/" ++ x ≠ "" := by simp [hd]
  have hr : (d ++ "/" ++ x).startsWith "/" = d.startsWith "/" := by
    rw [String.append_assoc, startsWith_slash_of_ne hd]
  have hel : elements (d ++ "/" ++ x) = elements d ++ [x] := by
    rw [elements_append_slash, elements_of_not_mem hx.2.2.2]
  have hS : Kept (d.startsWith "/") (resolve (d.startsWith "/") [] (elements d)) :=
    kept_resolve (kept_nil _) fun e he => slash_not_mem_of_mem_elements he
  rw [clean_eq_render hdx, clean_eq_render hd, hr, hel, resolve_append,
    resolve_plain _ _ hx.1 hx.2.1 hx.2.2.1, List.reverse_cons]
  exact render_snoc hS hx

/-! ## §3 — paths that leave the working directory -/

/-- Whether a cleaned path leaves the working directory: it is rooted, or starts with `..`. -/
def leaves (c : String) : Bool := c.startsWith "/" || c = ".." || c.startsWith "../"

/-- A `../` in front of a path with one more element was in front of the path already, or
the path is `..` itself. -/
theorem dotdot_prefix_child {c x : List Char} (hc : c ≠ [] ∧ c ≠ ['.']) :
    ['.', '.', '/'] <+: c ++ '/' :: x ↔ c = ['.', '.'] ∨ ['.', '.', '/'] <+: c := by
  rcases c with _ | ⟨a, _ | ⟨b, _ | ⟨d, rest⟩⟩⟩
  · exact absurd rfl hc.1
  · simp only [List.cons_append, List.nil_append, List.cons_prefix_cons, List.cons.injEq,
      List.prefix_nil, reduceCtorEq, and_false, or_false, iff_false, not_and]
    rintro rfl
    exact absurd rfl hc.2
  · simp [eq_comm]
  · simp

theorem leaves_child {c x : String} (hc : c ≠ "" ∧ c ≠ ".") (hx : Plain x) :
    leaves (c ++ "/" ++ x) = leaves c := by
  have hne : c ++ "/" ++ x ≠ ".." := by
    intro e
    have hl := congrArg String.length e
    have h1 := length_pos_of_ne hc.1
    have h2 := length_pos_of_ne hx.1
    simp only [String.length_append, show "/".length = 1 from rfl,
      show "..".length = 2 from rfl] at hl
    omega
  have hs1 : (c ++ "/" ++ x).startsWith "/" = c.startsWith "/" := by
    rw [String.append_assoc]
    exact startsWith_slash_of_ne hc.1 _
  have hs3 : (c ++ "/" ++ x).startsWith "../" = (decide (c = "..") || c.startsWith "../") := by
    have hcl : c.toList ≠ [] ∧ c.toList ≠ ['.'] :=
      ⟨by simpa using hc.1, fun h => hc.2 (String.toList_inj.mp (by rw [h]; rfl))⟩
    have hdd : c = ".." ↔ c.toList = ['.', '.'] :=
      ⟨fun h => by rw [h]; rfl, fun h => String.toList_inj.mp (by rw [h]; rfl)⟩
    apply Bool.eq_iff_iff.mpr
    simp only [String.startsWith_string_iff, String.toList_append,
      show "../".toList = ['.', '.', '/'] from rfl, show "/".toList = ['/'] from rfl,
      List.append_assoc, List.cons_append, List.nil_append, Bool.or_eq_true, decide_eq_true_eq,
      hdd]
    exact dotdot_prefix_child hcl
  unfold leaves
  rw [hs1, hs3]
  simp [hne, Bool.or_assoc]

theorem clean_ne_empty (p : String) : clean p ≠ "" := by
  by_cases hp : p = ""
  · rw [hp]; decide
  rw [clean_eq_render hp]
  unfold render
  split
  · simp
  · split <;> simp_all

/-- A plain element does not leave the working directory. -/
theorem Plain.leaves_eq {x : String} (hx : Plain x) : leaves x = false := by
  have h1 : x.startsWith "/" = false := by
    simpa using startsWith_slash_append (t := "") hx.1 hx.2.2.2
  have h3 : x.startsWith "../" = false := by
    rw [String.startsWith_string_eq_false_iff]
    intro h
    exact hx.2.2.2 (h.subset (by decide))
  simp [leaves, h1, h3, hx.2.2.1]

theorem Plain.elements_eq {x : String} (hx : Plain x) : elements x = [x] :=
  elements_of_not_mem hx.2.2.2

theorem Plain.startsWith_slash {x : String} (hx : Plain x) : x.startsWith "/" = false := by
  simpa using startsWith_slash_append (t := "") hx.1 hx.2.2.2

theorem Plain.clean_eq {x : String} (hx : Plain x) : clean x = x := by
  rw [clean_eq_render hx.1, hx.startsWith_slash, hx.elements_eq,
    resolve_plain _ _ hx.1 hx.2.1 hx.2.2.1]
  simp [render, hx.1]

/-- A prefix that ends in a slash, of a list with a slash and then no more slashes, ends at that
slash at the latest. -/
theorem prefix_of_prefix_slash {a b x : List Char} (hx : '/' ∉ x)
    (h : a ++ ['/'] <+: b ++ '/' :: x) : a ++ ['/'] <+: b ++ ['/'] := by
  have hb : b ++ ['/'] <+: b ++ '/' :: x := by simp
  by_cases hlen : (a ++ ['/']).length ≤ (b ++ ['/']).length
  · exact List.prefix_of_prefix_length_le h hb hlen
  · -- otherwise the prefix runs into `x` and brings its slash along
    obtain ⟨y, hy⟩ := List.prefix_of_prefix_length_le hb h (by omega)
    have hyne : y ≠ [] := by
      rintro rfl
      simp only [List.append_nil] at hy
      exact hlen (by rw [hy])
    rw [← hy, List.append_assoc, List.singleton_append] at h
    have hyx : y <+: x := by
      have := (List.prefix_append_right_inj (b ++ ['/'])).mp (by simpa using h)
      exact this
    have hlast : y.getLast hyne = '/' := by
      have := congrArg (fun l => l.getLast?) hy
      simp only [List.getLast?_append, List.getLast?_singleton] at this
      rw [List.getLast?_eq_some_getLast hyne] at this
      simpa using this
    exact absurd (hyx.subset (hlast ▸ List.getLast_mem hyne)) hx

/-- A directory path prefixed by `R/` after one more element was `R` or prefixed by `R/`
already. -/
theorem child_startsWith {c x R : String} (hR : R ≠ "") (hx : Plain x)
    (h : (child c x).startsWith (R ++ "/") = true) : c = R ∨ c.startsWith (R ++ "/") = true := by
  have hRl : R.toList ≠ [] := by simpa using hR
  unfold child at h
  rw [String.startsWith_string_iff, String.toList_append] at h
  split_ifs at h with h1 h2
  · exact absurd (h.subset (List.mem_append_right _ (List.mem_singleton_self _))) hx.2.2.2
  · obtain ⟨r, rs, hr⟩ := List.exists_cons_of_ne_nil hRl
    rw [hr, String.toList_append, show "/".toList = ['/'] from rfl, List.cons_append,
      List.singleton_append, List.cons_prefix_cons] at h
    exact absurd (h.2.subset (List.mem_append_right _ (List.mem_singleton_self _))) hx.2.2.2
  · rw [String.toList_append, String.toList_append, show "/".toList = ['/'] from rfl,
      List.append_assoc, List.singleton_append] at h
    rcases List.prefix_concat_iff.mp (prefix_of_prefix_slash hx.2.2.2 h) with he | hp
    · exact .inl (String.toList_inj.mp (List.append_cancel_right he)).symm
    · exact .inr (by rw [String.startsWith_string_iff, String.toList_append]; exact hp)

/-- A path whose elements are all plain leaves nothing: it starts with no slash and no `..`. -/
theorem leaves_of_elements {s : String} (h : ∀ e ∈ elements s, Plain e) : leaves s = false := by
  have hsplit : ∀ pat : String, s.startsWith pat = true → ∃ u, s = pat ++ u := by
    intro pat hp
    obtain ⟨u, hu⟩ := String.startsWith_string_iff.mp hp
    exact ⟨String.ofList u, String.toList_inj.mp (by simp [← hu])⟩
  have h1 : s.startsWith "/" = false := by
    by_contra hs
    obtain ⟨u, rfl⟩ := hsplit "/" (by simpa using hs)
    exact (h "" (by rw [elements_slash]; exact List.mem_cons_self)).1 rfl
  have h2 : s ≠ ".." := by
    rintro rfl
    exact (h ".." (by decide)).2.2.1 rfl
  have h3 : s.startsWith "../" = false := by
    by_contra hs
    obtain ⟨u, rfl⟩ := hsplit "../" (by simpa using hs)
    have he : elements ("../" ++ u) = ".." :: elements u := by
      rw [show "../" ++ u = ".." ++ "/" ++ u by rw [String.append_assoc]; rfl,
        elements_append_slash]
      rfl
    exact (h ".." (by rw [he]; exact List.mem_cons_self)).2.2.1 rfl
  simp [leaves, h1, h2, h3]

/-- Plain elements joined by slashes are a clean path of their own. -/
theorem clean_intercalate {K : List String} (hK : K ≠ []) (h : ∀ e ∈ K, Plain e) :
    clean ("/".intercalate K) = "/".intercalate K := by
  have hkept : Kept false K.reverse :=
    ⟨K.reverse, 0, by simp, fun e he => h e (List.mem_reverse.mp he), fun h => nomatch h⟩
  have hc := clean_render hkept
  have hne : "/".intercalate K ≠ "" :=
    (intercalate_eq_empty fun e he => (h e he).1).not.mpr hK
  simpa [render, hne] using hc

/-- **The elements a cleaned path keeps inside the working directory are plain.** -/
theorem plain_of_clean {q : String} (hq : q ≠ "") (h1 : clean q ≠ ".")
    (h2 : leaves (clean q) = false) : ∀ e ∈ elements (clean q), Plain e := by
  have hS : Kept (q.startsWith "/") (resolve (q.startsWith "/") [] (elements q)) :=
    kept_resolve (kept_nil _) fun e he => slash_not_mem_of_mem_elements he
  rw [clean_eq_render hq] at h1 h2 ⊢
  generalize resolve (q.startsWith "/") [] (elements q) = S at hS h1 h2 ⊢
  generalize q.startsWith "/" = r at hS h1 h2 ⊢
  obtain ⟨P, n, rfl, hP, hn⟩ := hS
  cases r with
  | true =>
    simp [render, leaves, slash_append_startsWith] at h2
  | false =>
    have hK : (P ++ List.replicate n "..").reverse = List.replicate n ".." ++ P.reverse := by simp
    rw [hK] at h1 h2 ⊢
    have hne : "/".intercalate (List.replicate n ".." ++ P.reverse) ≠ "" := by
      intro e; simp [render, e] at h1
    simp only [render, Bool.false_eq_true, if_false, if_neg hne] at h1 h2 ⊢
    -- a kept `..` would lead the path out of the working directory
    obtain rfl : n = 0 := by
      rcases n with _ | n
      · rfl
      · exfalso
        rcases hPr : List.replicate n ".." ++ P.reverse with _ | ⟨k, rest⟩
        · simp only [List.replicate_succ, List.cons_append, hPr, String.intercalate_singleton] at h2
          simp [leaves] at h2
        · simp only [List.replicate_succ, List.cons_append, hPr, String.intercalate_cons_cons] at h2
          simp [leaves] at h2
    have hmem : ∀ e ∈ P.reverse, Plain e := fun e he => hP e (List.mem_reverse.mp he)
    simp only [List.replicate_zero, List.nil_append] at hne ⊢
    have hPne : P.reverse ≠ [] := by intro e; simp [e] at hne
    rw [elements_intercalate hPne fun e he => (hmem e he).2.2.2]
    exact hmem

/-- An empty element between two slashes changes nothing once cleaned. -/
theorem clean_slash_slash (a b : String) : clean (a ++ "/" ++ ("/" ++ b)) = clean (a ++ "/" ++ b) := by
  have hne1 : a ++ "/" ++ ("/" ++ b) ≠ "" := by simp
  have hne2 : a ++ "/" ++ b ≠ "" := by simp
  have hr : (a ++ "/" ++ ("/" ++ b)).startsWith "/" = (a ++ "/" ++ b).startsWith "/" := by
    by_cases ha : a = ""
    · simp [ha, slash_append_startsWith]
    · rw [String.append_assoc, String.append_assoc, startsWith_slash_of_ne ha,
        startsWith_slash_of_ne ha]
  rw [clean_eq_render hne1, clean_eq_render hne2, hr, elements_append_slash, elements_slash,
    elements_append_slash, ← List.singleton_append, resolve_append, resolve_append,
    resolve_append, show resolve _ _ [""] = _ from resolve_empty _ _ []]
  rfl

end ConfigTables.Files.Path

namespace ConfigTables.Files.Tree

/-! ## §4 — the elements a tree reads -/

/-- A path's elements are those of its form relative to the working directory, read as if the
working directory had no absolute path. -/
theorem elementsOf_relative (t : Tree) (p : String) :
    t.elementsOf p = Tree.empty.elementsOf (t.relative p) := by
  simp [elementsOf, relative, Tree.empty]

theorem empty_elementsOf {q : String} (hq : q ≠ "") :
    Tree.empty.elementsOf q =
      if Path.clean q = "." then some [] else if Path.leaves (Path.clean q) then none
      else some (Path.elements (Path.clean q)) := by
  have hq' : q.isEmpty = false := by simpa [String.isEmpty_iff] using hq
  simp [elementsOf, relative, Tree.empty, hq', Path.leaves]

/-- **One more element under a path, read from the working directory itself**: the elements of
`q/x` are those of `q` and then `x`, whenever the former name something. -/
theorem empty_elementsOf_child {q x : String} (hq : q ≠ "") (hx : Path.Plain x)
    {es : List String} (h : Tree.empty.elementsOf (q ++ "/" ++ x) = some es) :
    ∃ E, Tree.empty.elementsOf q = some E ∧ es = E ++ [x] := by
  have hqx : q ++ "/" ++ x ≠ "" := by simp [hq]
  rw [empty_elementsOf hqx, Path.clean_child hq hx] at h
  rw [empty_elementsOf hq]
  have hc0 := Path.clean_ne_empty q
  by_cases hdot : Path.clean q = "."
  · simp only [Path.child, hdot, if_true, hx.2.1, if_false, hx.leaves_eq, Bool.false_eq_true,
      hx.elements_eq, Option.some.injEq] at h
    exact ⟨[], by rw [if_pos hdot], by rw [← h]; rfl⟩
  by_cases hsl : Path.clean q = "/"
  · have hne : "/" ++ x ≠ "." := by simpa using Path.append_slash_ne_dot "" hx.1
    simp [Path.child, hsl, hne, Path.leaves, Path.slash_append_startsWith] at h
  · have hne := Path.append_slash_ne_dot (Path.clean q) hx.1
    simp only [Path.child, hdot, hsl, if_false, hne, Path.leaves_child ⟨hc0, hdot⟩ hx] at h
    rw [if_neg hdot]
    by_cases hl : Path.leaves (Path.clean q) = true
    · rw [if_pos hl] at h
      cases h
    · rw [if_neg hl, Option.some.injEq] at h
      rw [if_neg hl]
      exact ⟨_, rfl, by rw [← h, Path.elements_append_slash, hx.elements_eq]⟩

theorem empty_elementsOf_rooted (s : String) : Tree.empty.elementsOf ("/" ++ s) = none := by
  have hne : "/" ++ s ≠ "" := by simp
  have hr : Path.clean ("/" ++ s) = "/" ++ "/".intercalate
      (Path.resolve true [] (Path.elements ("/" ++ s))).reverse := by
    rw [Path.clean_eq_render hne, Path.slash_append_startsWith]
    rfl
  have hdot : "/" ++ "/".intercalate (Path.resolve true [] (Path.elements ("/" ++ s))).reverse ≠ "." := by
    intro e
    have := congrArg (fun q => q.toList.head?) e
    simp at this
  rw [empty_elementsOf hne, hr, if_neg hdot]
  simp [Path.leaves, Path.slash_append_startsWith]

/-- The path `R/rest` with its first `R/` dropped. -/
theorem drop_child {c x : String} {k : Nat} (hk : k ≤ c.length) :
    ((c ++ "/" ++ x).drop k).toString = (c.drop k).toString ++ "/" ++ x := by
  apply String.toList_inj.mp
  have hk' : k ≤ c.toList.length := by rw [String.length_toList]; exact hk
  simp [List.drop_append_of_le_length hk']

/-! The four branches of reading a path against the working directory. -/

theorem relative_of_root_empty {t : Tree} (hR : t.root = "") (p : String) : t.relative p = p := by
  simp [relative, hR]

theorem relative_of_clean_eq_root {t : Tree} (hR : t.root ≠ "") {p : String}
    (h : Path.clean p = t.root) : t.relative p = "." := by
  simp [relative, hR, h]

theorem relative_of_below {t : Tree} (hR : t.root ≠ "") {p : String} (h1 : Path.clean p ≠ t.root)
    (h2 : (Path.clean p).startsWith (t.root ++ "/") = true) :
    t.relative p = ((Path.clean p).drop (t.root.length + 1)).toString := by
  simp [relative, hR, h1, h2]

theorem relative_of_outside {t : Tree} (hR : t.root ≠ "") {p : String} (h1 : Path.clean p ≠ t.root)
    (h2 : (Path.clean p).startsWith (t.root ++ "/") = false) : t.relative p = p := by
  simp [relative, hR, h1, h2]

theorem empty_elementsOf_dot : Tree.empty.elementsOf "." = some [] := by
  rw [empty_elementsOf (by decide), Path.clean_dot, if_pos rfl]

/-- **One element under the working directory itself** is read as that element alone; at a
working directory `/` nothing under it is read at all. -/
theorem elementsOf_child_of_clean_eq_root {t : Tree} {d x : String} (hd : d ≠ "")
    (hx : Path.Plain x) (hR : t.root ≠ "") (h1 : Path.clean d = t.root) {es : List String}
    (h : Tree.empty.elementsOf (t.relative (d ++ "/" ++ x)) = some es) : es = [x] := by
  have hcx := Path.clean_child hd hx
  have hxs : x.startsWith (t.root ++ "/") = false := by
    rw [String.startsWith_string_eq_false_iff, String.toList_append]
    exact fun hp => hx.2.2.2 (hp.subset (List.mem_append_right _ (List.mem_singleton_self _)))
  by_cases hc1 : Path.clean d = "."
  · -- a working directory `.`: the child is read as given, under a directory of no elements
    have hch : Path.clean (d ++ "/" ++ x) = x := by rw [hcx, Path.child, if_pos hc1]
    have hne : Path.clean (d ++ "/" ++ x) ≠ t.root := by
      rw [hch]; exact fun e => hx.2.1 (e.trans (h1.symm.trans hc1))
    rw [relative_of_outside hR hne (by rw [hch]; exact hxs)] at h
    obtain ⟨E, hE, rfl⟩ := empty_elementsOf_child hd hx h
    rw [empty_elementsOf hd, hc1, if_pos rfl] at hE
    cases hE
    rfl
  by_cases hc2 : Path.clean d = "/"
  · -- `/x` is read as given, and a rooted path names nothing
    have hch : Path.clean (d ++ "/" ++ x) = "/" ++ x := by
      rw [hcx, Path.child, if_neg hc1, if_pos hc2]
    have hne : Path.clean (d ++ "/" ++ x) ≠ t.root := by
      rw [hch, ← h1, hc2]; intro e; exact hx.1 (by simpa using congrArg String.length e)
    have hs : (Path.clean (d ++ "/" ++ x)).startsWith (t.root ++ "/") = false := by
      rw [hch, ← h1, hc2, String.startsWith_string_eq_false_iff]
      simp only [String.toList_append, show "/".toList = ['/'] from rfl, List.singleton_append,
        List.cons_prefix_cons, true_and]
      intro hp
      exact hx.2.2.2 (hp.subset (List.mem_singleton_self _))
    rw [relative_of_outside hR hne hs] at h
    obtain ⟨E, hE, -⟩ := empty_elementsOf_child hd hx h
    rw [empty_elementsOf hd, hc2] at hE
    simp [Path.leaves] at hE
  · -- otherwise `R/x` lies below the working directory, one element down
    have hch : Path.clean (d ++ "/" ++ x) = t.root ++ "/" ++ x := by
      rw [hcx, Path.child, if_neg hc1, if_neg hc2, h1]
    have hs : (t.root ++ "/" ++ x).startsWith (t.root ++ "/") = true := by
      simp [String.startsWith_string_iff, String.toList_append]
    have hdrop : ((t.root ++ "/" ++ x).drop (t.root.length + 1)).toString = x := by
      apply String.toList_inj.mp
      have hl : t.root.length + 1 = (t.root.toList ++ ['/']).length := by
        rw [List.length_append, String.length_toList]; rfl
      simp only [hl]
      simp
    have hne : Path.clean (d ++ "/" ++ x) ≠ t.root := by
      rw [hch]; exact Path.append_slash_ne_self _ _
    rw [relative_of_below hR hne (by rw [hch]; exact hs), hch, hdrop, empty_elementsOf hx.1,
      hx.clean_eq, if_neg hx.2.1, hx.leaves_eq, hx.elements_eq] at h
    simp only [Bool.false_eq_true, if_false, Option.some.injEq] at h
    exact h.symm

/-- **One element under a directory below the working directory** is one more element of the
directory's relative path. -/
theorem relative_child_of_below {t : Tree} {d x : String} (hd : d ≠ "") (hx : Path.Plain x)
    (hR : t.root ≠ "") (h1 : Path.clean d ≠ t.root)
    (h2 : (Path.clean d).startsWith (t.root ++ "/") = true) :
    t.relative (d ++ "/" ++ x) = t.relative d ++ "/" ++ x := by
  have hpre := String.startsWith_string_iff.mp h2
  have hlen : t.root.length + 1 ≤ (Path.clean d).length := by
    have hl := hpre.length_le
    simp only [String.length_toList, String.length_append] at hl
    rwa [show "/".length = 1 from rfl] at hl
  have hR1 := Path.length_pos_of_ne hR
  have hc1 : Path.clean d ≠ "." := by
    intro e; rw [e, show ".".length = 1 from rfl] at hlen; omega
  have hc2 : Path.clean d ≠ "/" := by
    intro e; rw [e, show "/".length = 1 from rfl] at hlen; omega
  have hch : Path.clean (d ++ "/" ++ x) = Path.clean d ++ "/" ++ x := by
    rw [Path.clean_child hd hx, Path.child, if_neg hc1, if_neg hc2]
  have hne : Path.clean d ++ "/" ++ x ≠ t.root := by
    intro e
    have hl := congrArg String.length e
    simp only [String.length_append, show "/".length = 1 from rfl] at hl
    omega
  have hs : (Path.clean d ++ "/" ++ x).startsWith (t.root ++ "/") = true := by
    rw [String.startsWith_string_iff]
    simp only [String.toList_append, List.append_assoc] at hpre ⊢
    exact hpre.trans (List.prefix_append _ _)
  rw [relative_of_below hR (by rw [hch]; exact hne) (by rw [hch]; exact hs),
    relative_of_below hR h1 h2, hch, drop_child hlen]

/-- **One more element under a path**: the elements of `d/x` inside the working directory are
those of `d` and then `x`, whenever the former name something below it. -/
theorem elementsOf_child (t : Tree) {d x : String} (hd : d ≠ "") (hx : Path.Plain x)
    {es : List String} (h : t.elementsOf (d ++ "/" ++ x) = some es) (hes : es ≠ []) :
    ∃ E, t.elementsOf d = some E ∧ es = E ++ [x] := by
  rw [elementsOf_relative] at h ⊢
  by_cases hR : t.root = ""
  · -- no absolute path: both are read as given
    rw [relative_of_root_empty hR] at h ⊢
    exact empty_elementsOf_child hd hx h
  by_cases h1 : Path.clean d = t.root
  · -- the directory is the working directory itself
    rw [relative_of_clean_eq_root hR h1, empty_elementsOf_dot]
    exact ⟨[], rfl, elementsOf_child_of_clean_eq_root hd hx hR h1 h⟩
  have hcx := Path.clean_child hd hx
  cases h2 : (Path.clean d).startsWith (t.root ++ "/")
  · -- the directory is read as given, and so is its child unless it is the working directory
    rw [relative_of_outside hR h1 h2]
    by_cases he : Path.clean (d ++ "/" ++ x) = t.root
    · rw [relative_of_clean_eq_root hR he, empty_elementsOf_dot] at h
      cases h
      exact absurd rfl hes
    have hs : (Path.clean (d ++ "/" ++ x)).startsWith (t.root ++ "/") = false := by
      by_contra hs'
      rw [hcx] at hs'
      rcases Path.child_startsWith hR hx (by simpa using hs') with h' | h'
      · exact h1 h'
      · exact absurd h' (by simp [h2])
    rw [relative_of_outside hR he hs] at h
    exact empty_elementsOf_child hd hx h
  · -- the directory lies below the working directory's absolute path
    rw [relative_child_of_below hd hx hR h1 h2] at h
    by_cases hD : t.relative d = ""
    · rw [hD, String.empty_append, empty_elementsOf_rooted] at h
      cases h
    · exact empty_elementsOf_child hD hx h

/-- What a nonempty path names inside the working directory depends on its cleaned form
only. -/
theorem elementsOf_eq_of_clean (t : Tree) {p q : String} (hp : p ≠ "") (hq : q ≠ "")
    (h : Path.clean p = Path.clean q) : t.elementsOf p = t.elementsOf q := by
  rw [elementsOf_relative t p, elementsOf_relative t q]
  unfold relative
  simp only [h]
  by_cases hR : t.root = ""
  · rw [if_pos hR, if_pos hR, empty_elementsOf hp, empty_elementsOf hq, h]
  rw [if_neg hR, if_neg hR]
  split_ifs
  · rfl
  · rfl
  · rw [empty_elementsOf hp, empty_elementsOf hq, h]

/-- A joined directory and name name what the directory, a slash and the name name. -/
theorem elementsOf_join (t : Tree) {d x : String} (hd : d ≠ "") (hx : x ≠ "") :
    t.elementsOf (Path.join [d, x]) = t.elementsOf (d ++ "/" ++ x) := by
  have hj : Path.join [d, x] = Path.clean (d ++ "/" ++ x) := by
    rcases Path.join_pair d hx with ⟨-, hd'⟩ | ⟨hj, -⟩
    · exact absurd hd' hd
    · exact hj
  rw [hj]
  exact elementsOf_eq_of_clean t (Path.clean_ne_empty _) (by simp [hd]) (Path.clean_clean _)

/-- **The elements of a path inside the working directory are plain.** -/
theorem elementsOf_plain (t : Tree) {p : String} {es : List String}
    (h : t.elementsOf p = some es) : ∀ e ∈ es, Path.Plain e := by
  rw [elementsOf_relative] at h
  by_cases hq : t.relative p = ""
  · rw [hq] at h; simp [elementsOf, relative, Tree.empty] at h
  rw [empty_elementsOf hq] at h
  split_ifs at h with h1 h2
  · cases h; simp
  · cases h
    exact Path.plain_of_clean hq h1 (by simpa using h2)

/-- A working directory that has no absolute path or has one. -/
def RootSane (t : Tree) : Prop := t.root = "" ∨ t.root.startsWith "/" = true

/-- **Plain elements joined by slashes name themselves** inside a working directory whose
absolute path, if any, starts at the root. -/
theorem elementsOf_intercalate {t : Tree} (ht : t.RootSane) {K : List String} (hK : K ≠ [])
    (h : ∀ e ∈ K, Path.Plain e) : t.elementsOf ("/".intercalate K) = some K := by
  have hel : Path.elements ("/".intercalate K) = K :=
    Path.elements_intercalate hK fun e he => (h e he).2.2.2
  have hclean := Path.clean_intercalate hK h
  have hne : "/".intercalate K ≠ "" :=
    (Path.intercalate_eq_empty fun e he => (h e he).1).not.mpr hK
  have hleaves : Path.leaves ("/".intercalate K) = false :=
    Path.leaves_of_elements (by rw [hel]; exact h)
  have hdot : "/".intercalate K ≠ "." :=
    (Path.intercalate_ne_dot_slash fun e he => ⟨(h e he).1, (h e he).2.1, (h e he).2.2.2⟩).1
  have hslash : ("/".intercalate K).startsWith "/" = false := by
    simp only [Path.leaves, Bool.or_eq_false_iff] at hleaves
    exact hleaves.1.1
  -- the path is relative, so the working directory's absolute path does not touch it
  have hrel : t.relative ("/".intercalate K) = "/".intercalate K := by
    unfold relative
    simp only [hclean]
    rcases ht with hR | hR
    · simp [hR]
    · have h1 : "/".intercalate K ≠ t.root := by
        intro e; rw [e] at hslash; rw [hslash] at hR; cases hR
      have h2 : ("/".intercalate K).startsWith (t.root ++ "/") = false := by
        rw [String.startsWith_string_eq_false_iff]
        intro hp
        have hp' := String.startsWith_string_iff.mp hR
        rw [String.startsWith_string_eq_false_iff] at hslash
        exact hslash (hp'.trans ((List.prefix_append _ _).trans (by simpa using hp)))
      simp [h1, h2]
  rw [elementsOf_relative, hrel, empty_elementsOf hne, hclean, if_neg hdot, hleaves, hel]
  rfl

end ConfigTables.Files.Tree
