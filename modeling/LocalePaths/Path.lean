import LocalePaths.Text

/-!
# Paths

Paths are texts with `/` as separator. The operations here are lexical: they resolve `.` and `..`
by the text alone.
-/

namespace LocalePaths.Path

/-- The parts between the separators; there is always at least one. -/
def segments : Text → List Text
  | [] => [[]]
  | c :: r =>
    if c = '/' then [] :: segments r
    else
      match segments r with
      | [] => [[c]]
      | s :: ss => (c :: s) :: ss

def isAbsolute : Text → Bool
  | '/' :: _ => true
  | _ => false

/-- The segment that leads back. -/
def parent : Text := ['.', '.']

/-- Adds one segment to the segments resolved so far, the last of which comes first. A `..` takes
back the segment before it; with none to take back it is kept only in a relative path. -/
def push (absolute : Bool) (stack : List Text) (segment : Text) : List Text :=
  if segment = [] ∨ segment = ['.'] then stack
  else if segment = parent then
    match stack with
    | [] => if absolute then [] else [parent]
    | last :: rest => if last = parent then (if absolute then stack else parent :: stack) else rest
  else segment :: stack

/-- The segments of a path, with `.` and `..` resolved. -/
def resolved (path : Text) : List Text :=
  ((segments path).foldl (push (isAbsolute path)) []).reverse

/-- Drops redundant separators and resolves `.` and `..`. A relative path keeps its leading `..`,
and nothing is left as `.`. -/
def normalize (path : Text) : Text :=
  let joined := ['/'].intercalate (resolved path)
  if isAbsolute path then '/' :: joined else if joined = [] then ['.'] else joined

/-- Puts `path` under `base`; an absolute `path` stands for itself. -/
def join (base path : Text) : Text :=
  if isAbsolute path ∨ base = [] then path
  else if base.getLast? = some '/' then base ++ path
  else base ++ '/' :: path

/-- The path up to its last separator. -/
def head (path : Text) : Text := (path.reverse.dropWhile (· ≠ '/')).reverse

def fileName (path : Text) : Text := (path.reverse.takeWhile (· ≠ '/')).reverse

/-- The part before the last separator, without trailing separators unless it has nothing else. -/
def directory (path : Text) : Text :=
  if (head path).all (· = '/') then head path
  else ((head path).reverse.dropWhile (· = '/')).reverse

/-- The canonical form of a path, seen from the current directory if it is relative. -/
def absolute (cwd path : Text) : Text :=
  if isAbsolute path then normalize path else normalize (join cwd path)

/-- `absolute`, where there may be no current directory: then a relative path has no absolute form. -/
def absolute? (dir : Option Text) (path : Text) : Option Text :=
  if isAbsolute path then some (normalize path) else dir.map fun cwd => normalize (join cwd path)

/-- The root directory of patterns: absolute, and ending in a separator. -/
def rootDirectory (cwd path : Text) : Text :=
  let dir := absolute cwd path
  if dir.getLast? = some '/' then dir else dir ++ ['/']

end LocalePaths.Path
