import MiniScheme.Error.Basic
import MiniScheme.Files.Path

/-!
# Files

A file system is what reading a path gives: the bytes of a file, or the
reason why there are none.  That is all the interpreter needs to know about
it; `FileSystem.ofFiles` builds one from a list of files in an otherwise
empty working directory.

Names and paths have a greatest length.  Reading a path beyond it is an
error like any other, but a search that meets one cannot go on: a relative
name is searched for, so it is a fault for such a name to be too long.

Source text is UTF-8, a byte order mark being a character like any other.
Lines may end in a return, a newline, or both; all of them are read as a
newline.
-/

namespace MiniScheme

/-- What reading a path gives. -/
structure FileSystem where
  read : Path → Except FileProblem ByteArray

namespace FileSystem

/-- Does the path lead to a file?  Nothing can be said of one that is too
long to be followed. -/
def isFile (files : FileSystem) (path : Path) : Except Fault Bool :=
  if path.isBroken then .ok false
  else
    match files.read path with
    | .ok _ => .ok true
    | .error .nameTooLong => .error .longFileName
    | .error _ => .ok false

/-- The first path that leads to a file. -/
def firstFile? (files : FileSystem) : List Path → Except Fault (Option Path)
  | [] => .ok none
  | path :: rest => do
    if ← files.isFile path then return some path else files.firstFile? rest

/-- The path to load for a file name: the name itself if it is absolute or
leads to a file, else its first continuation of one of the `roots` that
does, else the name itself. -/
def resolve (files : FileSystem) (roots : List Path) (name : String) : Except Fault Path :=
  let path := Path.ofText name
  if path.isAbsolute then .ok path
  else do return (← files.firstFile? (path :: roots.map path.under)).getD path

/-! ## Files in memory -/

/-- A place that a walk along a path can reach. -/
inductive Place where
  /-- A place below the working directory, the innermost name first. -/
  | inside (names : List String)
  /-- A directory that contains the working directory. -/
  | above
  /-- A place where nothing is. -/
  | nowhere
  deriving DecidableEq, Repr

/-- Where the next component of a path leads. -/
def Place.step : Place → String → Place
  | .inside [], ".." => .above
  | .inside (_ :: names), ".." => .inside names
  | .inside names, name => .inside (name :: names)
  | .above, ".." => .above
  | .above, _ => .nowhere
  | .nowhere, _ => .nowhere

/-- What is found at a place. -/
inductive Entry where
  | file (bytes : ByteArray)
  | directory

/-- What is found at a place when the working directory holds the given
files, each with the components of its path. -/
def entry? (files : List (List String × ByteArray)) : Place → Option Entry
  | .above => some .directory
  | .nowhere => none
  | .inside [] => some .directory
  | .inside names =>
    let path := names.reverse
    match files.lookup path with
    | some bytes => some (.file bytes)
    | none => if files.any fun file => path.isPrefixOf file.1 then some .directory else none

/-- The length in bytes of the longest name that a file can have. -/
def longestName : Nat := 255

/-- The length in bytes of the longest path that can be followed. -/
def longestPath : Nat := 4095

/-- Follows the components of a path from a place.  A component counts only
once the path is followed up to it. -/
def walk (files : List (List String × ByteArray)) :
    Place → List String → Except FileProblem ByteArray
  | place, [] =>
    match entry? files place with
    | some (.file bytes) => .ok bytes
    | some .directory => .error .isDirectory
    | none => .error .missing
  | place, part :: rest =>
    match entry? files place with
    | some .directory =>
      if part.utf8ByteSize ≤ longestName then walk files (place.step part) rest
      else .error .nameTooLong
    | some (.file _) => .error .notDirectory
    | none => .error .missing

/-- The file system in which the working directory holds the given files
and nothing else is known. -/
def ofFiles (files : List (String × ByteArray)) : FileSystem :=
  let known := files.map fun file => ((Path.ofText file.1).parts, file.2)
  { read := fun path =>
      if path.text.utf8ByteSize ≤ longestPath then
        walk known (if path.isAbsolute then .above else .inside []) path.parts
      else .error .nameTooLong }

end FileSystem

/-! ## Source text -/

/-- The text with every end of line written as one newline. -/
def unifyLines : List Char → List Char
  | [] => []
  | '\r' :: '\n' :: rest => '\n' :: unifyLines rest
  | '\r' :: rest => '\n' :: unifyLines rest
  | c :: rest => c :: unifyLines rest

/-- The source text that the bytes of a file spell. -/
def sourceText? (bytes : ByteArray) : Option String :=
  (String.fromUTF8? bytes).map fun text => String.ofList (unifyLines text.toList)

end MiniScheme
