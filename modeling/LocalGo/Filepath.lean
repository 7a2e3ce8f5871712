import Mathlib.Data.List.Basic

/-!
# `path/filepath` on a Unix system

`filepath.Join` and the lexical `filepath.Clean` it ends with, which `UploadHandlerV2` uses to
name the file it saves, and `filepath.Base`, which the sender uses to name the file it declares.
`Clean` walks the path one byte at a time; every pass of its loop consumes a separator, a `.`
element, a `..` element or a whole name, so it is modelled here one element at a time
(`splitSlash` reads the elements off the characters), with the output kept as a stack of
elements.
-/

namespace LocalGo.Filepath

/-- One element of `Clean`'s loop. `out` holds the elements written so far, last first; in a
rooted path `..` stops at the root, and in a relative one a leading `..` is kept. -/
def cleanElem (rooted : Bool) (out : List String) (elem : String) : List String :=
  if elem = "" ∨ elem = "." then out
  else if elem = ".." then
    match out with
    | e :: rest => if e = ".." then ".." :: out else rest
    | [] => if rooted then [] else [".."]
  else elem :: out

/-- The elements between the separators of a path, what `strings.Split(path, "/")` returns:
`cur` holds the characters of the element being read, last first. -/
def splitSlash (cur : List Char) : List Char → List String
  | [] => [String.mk cur.reverse]
  | c :: cs => if c = '/' then String.mk cur.reverse :: splitSlash [] cs else splitSlash (c :: cur) cs

/-- `filepath.Clean(path)`. -/
def clean (path : String) : String :=
  if path = "" then "."
  else
    let rooted := path.data.head? = some '/'
    let body := "/".intercalate ((splitSlash [] path.data).foldl (cleanElem rooted) []).reverse
    if rooted then "/" ++ body else if body = "" then "." else body

/-- `filepath.Join(dir, name)`: the non-empty elements joined by `/`, then cleaned. -/
def join (dir name : String) : String :=
  if dir ≠ "" then clean (dir ++ "/" ++ name)
  else if name ≠ "" then clean name
  else ""

/-- `filepath.Base(path)`: the last element once trailing separators are dropped; `.` for the
empty path and `/` for a path made of separators only. -/
def base (path : String) : String :=
  if path = "" then "."
  else
    let last := String.mk ((path.data.reverse.dropWhile (· = '/')).takeWhile (· ≠ '/')).reverse
    if last = "" then "/" else last

end LocalGo.Filepath
