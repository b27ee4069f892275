/-!
# Slash-separated paths

Paths are texts whose elements are divided by `/`. `clean` gives the shortest path naming
the same file by lexical rules alone: runs of slashes become one, `.` elements go, a `..`
removes the element before it, a `..` at the start of a rooted path goes, and the empty
result is `.`. `join` puts the non-empty parts together and cleans the result; `ext` is the
suffix from the last dot of the last element.
-/

namespace ConfigTables.Files.Path

/-- The elements of a path between its slashes, empty ones included. -/
def elements (p : String) : List String :=
  (p.toList.splitOn '/').map String.ofList

/-- Resolves `.` and `..` over a stack of kept elements, the last kept element first. -/
def resolve (rooted : Bool) : List String → List String → List String
  | acc, [] => acc
  | acc, e :: rest =>
    if e = "" ∨ e = "." then resolve rooted acc rest
    else if e = ".." then
      match acc with
      | top :: below => if top = ".." then resolve rooted (".." :: acc) rest else resolve rooted below rest
      | [] => if rooted then resolve rooted [] rest else resolve rooted [".."] rest
    else resolve rooted (e :: acc) rest

/-- The shortest lexically equal path. -/
def clean (p : String) : String :=
  if p = "" then "."
  else
    let rooted := p.startsWith "/"
    let kept := (resolve rooted [] (elements p)).reverse
    let body := "/".intercalate kept
    if rooted then "/" ++ body
    else if body = "" then "." else body

/-- The non-empty parts joined by slashes and cleaned; no part at all gives the empty path. -/
def join (parts : List String) : String :=
  match parts.filter (· ≠ "") with
  | [] => ""
  | kept => clean ("/".intercalate kept)

/-- The suffix of the last element from its last dot, dot included; empty without a dot. -/
def ext (p : String) : String :=
  let last := (p.toList.reverse.takeWhile (· ≠ '/'))
  match last.findIdx? (· = '.') with
  | some i => String.ofList (last.take (i + 1)).reverse
  | none => ""

/-- The last element of a path, trailing slashes ignored; `.` for the empty path and `/`
for a path of slashes only. -/
def base (p : String) : String :=
  if p = "" then "."
  else
    let trimmed := (p.toList.reverse.dropWhile (· = '/'))
    if trimmed = [] then "/"
    else String.ofList (trimmed.takeWhile (· ≠ '/')).reverse

/-- Everything but the last element, cleaned. -/
def dir (p : String) : String :=
  let front := (p.toList.reverse.dropWhile (· ≠ '/')).reverse
  clean (String.ofList front)

/-- Whether a path starts at the root. -/
def isAbs (p : String) : Bool :=
  p.startsWith "/"

/-- Whether `p` lies at or below directory `d`, both cleaned. -/
def isWithin (d p : String) : Bool :=
  d = "." || p = d || p.startsWith (d ++ "/")

end ConfigTables.Files.Path
