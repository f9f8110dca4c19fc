import MiniScheme.Eval.Basic

/-!
# The interpreter

An interpreter is a machine together with what its runs may rely on: the
files, the directories searched for them, the global frame and the depth of
nesting it allows.  Everything its users do is one of the operations below,
each a computation of the machine; `Interpreter.run` performs one and keeps
what it changed, whether it succeeded or not.

`bindArgs` is the exception: it replaces the global frame by one over it,
which no program can do.
-/

namespace MiniScheme

/-- How deeply an evaluation may be nested unless less is asked for. -/
def defaultDepth : Nat := 10000

/-- A machine and what its runs may rely on. -/
structure Interpreter where
  context : Context
  depth : Nat
  machine : Machine

namespace Interpreter

/-! ## Operations -/

/-- Evaluates a value as an expression in the global frame. -/
def eval (ctx : Context) (depth : Nat) (expr : Value) : Run Value :=
  Eval.evaluate ctx depth (.eval expr ctx.globals)

/-- Evaluates the one expression of a text. -/
def evalText (ctx : Context) (depth : Nat) (text : String) : Run Value := do
  eval ctx depth (← Run.ofFailing (Reader.readOne text))

/-- Evaluates every expression of a text in its order.  All of the text is
read before any of it is evaluated. -/
def evalTextAll (ctx : Context) (depth : Nat) (text : String) : Run (List Value) := do
  let forms ← Run.ofFailing (Reader.readAll text)
  Eval.evalAll (Eval.evaluate ctx depth) ctx.globals forms

/-- Writes a value as a line of its own, if it is not nested too deeply. -/
def printLine (depth : Nat) (v : Value) : Run Unit := do
  Run.emit ((← Run.ofFaulty (v.writtenWithin depth)) ++ "\n")

/-- Applies a value to arguments that are not evaluated again. -/
def call (ctx : Context) (depth : Nat) (fn : Value) (args : List Value) : Run Value :=
  Eval.evaluate ctx depth (.apply fn args)

/-- Evaluates the special form of a keyword in the global frame, if the
keyword accepts what follows it. -/
def evalForm (ctx : Context) (depth : Nat) (keyword : Keyword) (tail : List Value) :
    Run (Option Value) := do
  match keyword.form? tail with
  | none => pure none
  | some form => return some (← Eval.performForm (Eval.evaluate ctx depth) ctx.globals form)

/-- Evaluates the forms of a file in the global frame; the result is the
last value, or the empty list if there is none. -/
def load (ctx : Context) (depth : Nat) (name : String) : Run Value :=
  Eval.load ctx (Eval.evaluate ctx depth) name

/-! ## Using an interpreter -/

/-- Performs an operation and keeps what it changed. -/
def run {α : Type} (i : Interpreter) (work : Context → Nat → Run α) :
    Except Failure α × Interpreter :=
  match i with
  | { context, depth, machine } =>
    match work context depth machine with
    | .ok result machine => (.ok result, { context, depth, machine })
    | .error failure machine => (.error failure, { context, depth, machine })

/-- An interpreter whose global frame binds the primitives of a table, the
required ones included. -/
def ofTable (files : FileSystem) (roots : List Path) (depth : Nat) (table : Primitive.Table) :
    Interpreter :=
  let bindings := table.complete.map fun entry => (entry.1, Value.primitive entry.1 entry.2)
  let (store, base) := Store.empty.newFrame
  let (store, globals) := store.derive base bindings
  { context := { globals, files, roots }
    depth
    machine := { store, output := "", opened := #[] } }

/-- The value of a global variable. -/
def global? (i : Interpreter) (name : String) : Option Value :=
  i.machine.store.get? i.context.globals name

/-- Makes the arguments of a program known to it: a new global frame over
the old one, in which `args` is the list of their texts. -/
def bindArgs (i : Interpreter) (args : List String) : Interpreter :=
  let (store, globals) :=
    i.machine.store.derive i.context.globals [("args", .list (args.map Value.string))]
  { i with
    context := { i.context with globals }
    machine := { i.machine with store } }

/-- The path that loading a file of the given name would open. -/
def resolve (i : Interpreter) (name : String) : Except Fault Path :=
  i.context.files.resolve i.context.roots name

/-- What was written to standard output so far, and the interpreter with
nothing written. -/
def takeOutput (i : Interpreter) : String × Interpreter :=
  (i.machine.output, { i with machine := { i.machine with output := "" } })

/-- Is the value a primitive bound under the name it goes by? -/
def isOwnPrimitive (name : String) : Value → Bool
  | .primitive ownName _ => ownName == name
  | _ => false

/-- The global variables that are not primitives under their own names,
sorted by name. -/
def userGlobals (i : Interpreter) : List (String × Value) :=
  ((i.machine.store.listing i.context.globals).filter fun entry =>
      !isOwnPrimitive entry.1 entry.2).mergeSort fun a b => a.1 ≤ b.1

end Interpreter

end MiniScheme
