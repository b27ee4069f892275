import ConfigTables.Present.Markdown.Highlight.Go
import ConfigTables.Present.Markdown.Highlight.Json
import ConfigTables.Present.Markdown.Highlight.Shell
/-!
# Highlighting code blocks

A code block whose sheet highlights code is cut into tokens by the lexer of its language,
each drawn in the colour of its kind. The language is found from the name the block gives:

1. by name, in any case: `go` or `golang`; `json`; `bash`, `sh`, `ksh`, `zsh` or `shell`;
2. as a file extension, then as a file name (the part after the last slash), matched case
   for case against the file patterns of each language: Go `*.go`; shell scripts `*.sh`,
   `*.bash`, `.bashrc`, `PKGBUILD` and the like; JSON `*.json` and `*.avsc`;
3. by the code itself: a script whose `#!` line names a shell is a shell script, and code
   that mentions a `package ` is Go;
4. else the code is plain text, one text token.

The language is found from the code as written; the lexer then reads it with its line breaks
made line feeds.
-/

namespace ConfigTables.Present.Markdown

/-- The languages code is highlighted as. -/
inductive Language where
  | go
  | json
  | shell
  | plain
  deriving Repr, DecidableEq, Inhabited

/-- Whether a name matches a file pattern in which `*` stands for any run of characters. -/
def globMatches : List Char → List Char → Bool
  | [], name => name.isEmpty
  | '*' :: p, name => (List.range (name.length + 1)).any fun k => globMatches p (name.drop k)
  | c :: p, d :: name => c = d && globMatches p name
  | _ :: _, [] => false

/-- The last element of a slash-separated path, trailing slashes aside. -/
def baseName (s : List Char) : List Char :=
  let trimmed := (s.reverse.dropWhile (· = '/')).reverse
  if trimmed.isEmpty then (if s.isEmpty then ['.'] else ['/'])
  else (trimmed.reverse.takeWhile (· ≠ '/')).reverse

/-- The file patterns of each language, in the order the languages are tried. -/
def filePatterns : List (Language × List String) :=
  [(.go, ["*.go"]),
    (.shell, ["*.sh", "*.ksh", "*.bash", "*.ebuild", "*.eclass", ".env", "*.env", "*.exheres-0",
      "*.exlib", "*.zsh", "*.zshrc", ".bashrc", "bashrc", ".bash_*", "bash_*", "zshrc",
      ".zshrc", "PKGBUILD"]),
    (.json, ["*.json", "*.avsc"])]

/-- The language a file name is written in, by the file patterns. -/
def Language.ofFile? (file : List Char) : Option Language :=
  let name := baseName file
  (filePatterns.find? fun (_, globs) => globs.any fun g => globMatches g.toList name).map (·.1)

/-- The language a name stands for, by name or as a file extension or name. -/
def Language.ofName? (name : String) : Option Language :=
  let l := name.toLower
  if l = "go" || l = "golang" then some .go
  else if l = "json" then some .json
  else if ["bash", "sh", "ksh", "zsh", "shell"].contains l then some .shell
  else (Language.ofFile? ("filename.".toList ++ name.toList)).orElse fun _ => Language.ofFile? name.toList

/-- The language code reads as when its name stands for none. -/
def Language.ofCode (code : List Char) : Language :=
  if Highlight.Shell.namesShell code then .shell
  else if occursIn "package ".toList code then .go
  else .plain

/-- The tokens of code in a language. -/
def Language.tokens (language : Language) (code : List Char) : List Token :=
  match language with
  | .go => Highlight.Go.lexer.tokens code
  | .json => Highlight.Json.lexer.tokens code
  | .shell => Highlight.Shell.lexer.tokens code
  | .plain => if code.isEmpty then [] else [(.text, code)]

/-- Code drawn with its tokens in their colours, in the language its name stands for or it
reads as. -/
def highlight (name code : String) : String :=
  let language := (Language.ofName? name).getD (Language.ofCode code.toList)
  String.join ((joinTokens (language.tokens (unifyLineBreaks code.toList))).map drawToken)

end ConfigTables.Present.Markdown
