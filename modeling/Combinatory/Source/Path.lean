import Combinatory.Number.Power

/-!
# Slash-separated paths

Lexical path cleaning: repeated slashes collapse, `.` elements vanish, an element followed by
`..` vanishes with it, `..` at the start of a rooted path vanishes, and the empty result is
`.`. The base name is the last element once trailing slashes are dropped; the directory is
everything before the last slash, cleaned.
-/

namespace Combinatory.Path

/-- Folds the elements of a path, resolving `.` and `..` against what came before. The kept
elements are reversed. -/
def resolve (rooted : Bool) (elems : List String) : List String :=
  elems.foldl (fun acc e =>
    if e = "" ∨ e = "." then acc
    else if e = ".." then
      match acc with
      | top :: rest => if top = ".." then e :: acc else rest
      | [] => if rooted then [] else [e]
    else e :: acc) []

/-- The shortest path lexically equal to `p`. -/
def clean (p : String) : String :=
  if p = "" then "."
  else
    let rooted := p.startsWith "/"
    let kept := (resolve rooted (p.splitOn "/")).reverse
    let body := "/".intercalate kept
    if rooted then "/" ++ body
    else if body = "" then "." else body

/-- The last element of a path; `.` for the empty path and `/` for the root. -/
def base (p : String) : String :=
  if p = "" then "."
  else
    let trimmed := (p.toList.reverse.dropWhile (· = '/')).reverse
    if trimmed.isEmpty then "/"
    else String.ofList ((trimmed.reverse.takeWhile (· ≠ '/')).reverse)

/-- Everything before the last slash, cleaned. -/
def dir (p : String) : String :=
  let before := (p.toList.reverse.dropWhile (· ≠ '/')).reverse
  clean (String.ofList before)

/-- Joins two paths with a slash and cleans the result; an empty part is left out. -/
def join (a b : String) : String :=
  if a = "" then clean b else if b = "" then clean a else clean (a ++ "/" ++ b)

/-- Whether a path starts at the root. -/
def isAbsolute (p : String) : Bool := p.startsWith "/"

end Combinatory.Path
