/-!
# Paths

A path is a sequence of names below a root or below the working directory. Its text has single
slashes between the names, no name that stands for the same directory, and no slash at its
end. A name that stands for the parent directory stays.

## Implementation notes

Exactly two slashes in front are a root of their own, which stays apart from the usual one.
-/

namespace UnitScan

/-- A path, normalised. -/
structure Path where
  /-- The slashes in front: none, one, or two. -/
  root : String
  names : List String
  deriving DecidableEq, Repr

namespace Path

/-- The parts of a text between its slashes. -/
def parts (text : String) : List String := (text.toList.splitOn '/').map String.ofList

/-- Whether a part of a path names something. -/
def isName (part : String) : Bool := !part.isEmpty && part != "."

/-- The root of a path with the given number of slashes in front. -/
def rootOf : Nat → String
  | 0 => ""
  | 2 => "//"
  | _ => "/"

/-- The path that a text denotes. -/
def ofText (text : String) : Path where
  root := rootOf (text.toList.takeWhile (· = '/')).length
  names := (parts text).filter isName

/-- The text of a path. The working directory itself is written as a point. -/
def text (p : Path) : String :=
  if p.root.isEmpty && p.names.isEmpty then "." else p.root ++ "/".intercalate p.names

end Path

end UnitScan
