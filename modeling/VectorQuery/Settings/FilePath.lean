import VectorQuery.Text.Split
/-! Paths of files in their shortest spelling. -/
namespace VectorQuery.FilePath
open VectorQuery.Text

/-- The slashes that a path begins with, if they count: one, or exactly two. -/
def root (s : List Char) : List Char :=
  match s.takeWhile (· == '/') with
  | [] => []
  | ['/', '/'] => ['/', '/']
  | _ => ['/']

/-- The parts of a path; empty ones and single dots are none. -/
def parts (s : List Char) : List (List Char) :=
  (splitOn '/' s).filter fun p => !p.isEmpty && p != ['.']

/-- A path with these slashes in front of its parts. -/
def spelled (root : List Char) (parts : List (List Char)) : String :=
  let whole := root ++ join ['/'] parts
  if whole.isEmpty then "." else String.ofList whole

/-- The shortest spelling of a path. -/
def normal (path : String) : String := spelled (root path.toList) (parts path.toList)

/-- The parts of a path, the last one first, with one more: a double dot takes back the part before
it. -/
def enter (done : List (List Char)) (part : List Char) : List (List Char) :=
  match done with
  | last :: before => if part = ['.', '.'] ∧ last ≠ ['.', '.'] then before else part :: done
  | [] => [part]

/-- The spelling of a path without double dots, as far as they can be taken back. -/
def resolved (path : String) : String :=
  spelled (root path.toList) ((parts path.toList).foldl enter []).reverse

/-- The paths above a path, on the way down to it. -/
def above (path : String) : List String :=
  let ps := parts path.toList
  (List.range ps.length).map fun n => spelled (root path.toList) (ps.take n)

end VectorQuery.FilePath
