import MiniScheme.Error.Basic
import MiniScheme.Files.Path
import MiniScheme.Store.Basic

/-!
# The machine

What a computation reads and changes, and the monad it runs in.  A failed
computation keeps what it changed before it failed: assignments stay made,
output stays written.
-/

namespace MiniScheme

/-- The state of a run. -/
structure Machine where
  store : Store
  /-- All that was written to standard output. -/
  output : String
  /-- The files that were opened, the first one first. -/
  opened : Array Path

/-- A computation of the machine that may fail. -/
abbrev Run := EStateM Failure Machine

namespace Run

/-- Fails with an error of the program. -/
def fail {α : Type} (e : Error) : Run α := throw (.error e)

/-- Fails with a fault of the machine. -/
def halt {α : Type} (f : Fault) : Run α := throw (.fault f)

/-- The result of something that can go wrong in the program. -/
def ofExcept {α : Type} : Except Error α → Run α
  | .ok a => pure a
  | .error e => fail e

/-- The result of something that the machine may be unable to do. -/
def ofFaulty {α : Type} : Except Fault α → Run α
  | .ok a => pure a
  | .error f => halt f

/-- The result of something that can go wrong in either way. -/
def ofFailing {α : Type} : Except Failure α → Run α
  | .ok a => pure a
  | .error failure => throw failure

/-- Writes to standard output. -/
def emit (text : String) : Run Unit :=
  modify fun m => { m with output := m.output ++ text }

/-- Notes that a file is about to be read. -/
def noteOpened (path : Path) : Run Unit :=
  modify fun m => { m with opened := m.opened.push path }

/-- Changes the store. -/
def update (f : Store → Store) : Run Unit :=
  modify fun { store, output, opened } => { store := f store, output, opened }

/-- Changes the store by an operation that has a result. -/
def create {α : Type} (f : Store → Store × α) : Run α :=
  modifyGet fun { store, output, opened } =>
    let (store, result) := f store
    (result, { store, output, opened })

/-- The value of a variable. -/
def getVar (f : FrameId) (name : String) : Run Value := do
  match (← get).store.get? f name with
  | some v => pure v
  | none => fail (.unbound .getting name)

/-- Gives a bound variable another value, which is also the result. -/
def setVar (f : FrameId) (name : String) (v : Value) : Run Value := do
  if (← get).store.isBound f name then
    update fun s => s.define f name v
    pure v
  else fail (.unbound .setting name)

/-- Binds a variable; its value is also the result. -/
def defineVar (f : FrameId) (name : String) (v : Value) : Run Value := do
  update fun s => s.define f name v
  pure v

end Run

end MiniScheme
