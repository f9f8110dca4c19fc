import MiniScheme.Store.Frame
import MiniScheme.Value.Basic

/-!
# The store

All that a program can change: the frames with their tables, the cells
that hold the values of variables, and the count of closures made so far,
from which the next closure takes its identity.

Frames and cells are numbered in the order of their creation and are never
removed.  A number that was never given out names an empty frame.
-/

namespace MiniScheme

/-- The state of all variables. -/
structure Store where
  frames : Array Frame
  cells : Array Value
  /-- How many closures have been made. -/
  closures : Nat

namespace Store

/-- The store before anything happened. -/
def empty : Store := { frames := #[], cells := #[], closures := 0 }

instance : Inhabited Store := ⟨empty⟩

/-- The frame of the given number. -/
def frame (s : Store) (f : FrameId) : Frame := s.frames.getD f Frame.empty

/-- The cell that a name is bound to in a frame. -/
def cell? (s : Store) (f : FrameId) (name : String) : Option CellId := (s.frame f).cell? name

/-- Is the name bound in the frame? -/
def isBound (s : Store) (f : FrameId) (name : String) : Bool := (s.cell? f name).isSome

/-- The value of a name in a frame. -/
def get? (s : Store) (f : FrameId) (name : String) : Option Value :=
  (s.cell? f name).bind fun cell => s.cells[cell]?

/-- Puts a value into a cell. -/
def write (s : Store) (cell : CellId) (v : Value) : Store :=
  { s with cells := s.cells.setIfInBounds cell v }

/-- Gives a bound name another value, seen by every frame that shares its
cell. -/
def set? (s : Store) (f : FrameId) (name : String) (v : Value) : Option Store :=
  (s.cell? f name).map fun cell => s.write cell v

/-- Adds a name with a cell of its own to a frame. -/
def add (s : Store) (f : FrameId) (name : String) (v : Value) : Store :=
  { s with
    frames := s.frames.modify f (·.put name s.cells.size)
    cells := s.cells.push v }

/-- Binds a name in a frame, reusing its cell when it is bound already. -/
def define (s : Store) (f : FrameId) (name : String) (v : Value) : Store :=
  match s.cell? f name with
  | some cell => s.write cell v
  | none => s.add f name v

/-- A new frame that binds nothing. -/
def newFrame (s : Store) : Store × FrameId :=
  let id := s.frames.size
  ({ s with frames := s.frames.push Frame.empty }, id)

/-- A new frame over `base`: the names of the batch get cells of their own,
of a repeated name the first occurrence counts, and all other names share
the cells of `base`. -/
def derive (s : Store) (base : FrameId) (batch : List (String × Value)) : Store × FrameId :=
  let id := s.frames.size
  let fresh := firstOccurrences batch
  let table := (fresh.zipIdx s.cells.size).map fun (entry, cell) => (entry.1, cell)
  ({ s with
     frames := s.frames.push ((s.frame base).overlay table)
     cells := s.cells ++ fresh.map (·.2) }, id)

/-- The number of the next closure, and the store that has given it out. -/
def nextClosure (s : Store) : Store × Nat :=
  ({ s with closures := s.closures + 1 }, s.closures)

/-- The names of a frame with their values, in the order of listing. -/
def listing (s : Store) (f : FrameId) : List (String × Value) :=
  (s.frame f).bindings.map fun entry => (entry.1, s.cells.getD entry.2 .foreign)

/-- A new frame for a call of `fn`: the parameters are bound to the leading
arguments, and the name for the rest, if there is one, to the list of the
others.  The rest is bound last and in a cell of its own, so it wins over a
parameter of the same name. -/
def callFrame (s : Store) (fn : Closure Value) (args : List Value) : Store × FrameId :=
  let (s, frame) := s.derive fn.frame (fn.params.zip args)
  match fn.rest with
  | none => (s, frame)
  | some rest => s.derive frame [(rest, .list (args.drop fn.arity))]

end Store

end MiniScheme
