import MiniScheme.Text.Fields

/-!
# Paths

A path is kept without the parts of its text that make no difference:
repeated slashes, components that name the directory they stand in, and a
slash at the end.  A component that leads up stays, because what it leads
to depends on the files.

One or two slashes may begin a path; two are kept apart from one, and three
or more mean the same as one.
-/

namespace MiniScheme

/-- What a path starts from. -/
inductive Path.Anchor where
  /-- The working directory. -/
  | relative
  | slash
  | twoSlashes
  deriving DecidableEq, Repr

/-- A path: where it starts, and the names it goes through. -/
structure Path where
  anchor : Path.Anchor
  parts : List String
  deriving DecidableEq, Repr

namespace Path

/-- How the text of a path begins. -/
def Anchor.text : Anchor → String
  | .relative => ""
  | .slash => "/"
  | .twoSlashes => "//"

/-- What a text that begins with `count` slashes starts from. -/
def Anchor.ofSlashes (count : Nat) : Anchor :=
  if count = 0 then .relative else if count = 2 then .twoSlashes else .slash

/-- The path that a text spells. -/
def ofText (s : String) : Path :=
  { anchor := Anchor.ofSlashes (s.toList.takeWhile (· == '/')).length
    parts := ((Text.fields '/' s.toList).filter fun part => part ≠ [] ∧ part ≠ ['.']).map
      String.ofList }

/-- The text of a path. -/
def text (path : Path) : String :=
  match path.anchor, path.parts with
  | .relative, [] => "."
  | anchor, parts => anchor.text ++ "/".intercalate parts

/-- Does the path start at the top of all files? -/
def isAbsolute (path : Path) : Bool := path.anchor ≠ .relative

/-- Does the path hold the character that ends names?  Such a path leads
nowhere. -/
def isBroken (path : Path) : Bool := path.parts.any fun part => part.toList.contains '\x00'

/-- The path as seen from the directory `root`. -/
def under (path root : Path) : Path :=
  if path.isAbsolute then path else { root with parts := root.parts ++ path.parts }

end Path

end MiniScheme
