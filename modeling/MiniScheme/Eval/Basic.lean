import MiniScheme.Eval.Form
import MiniScheme.Eval.Machine
import MiniScheme.Files.Basic
import MiniScheme.Primitive.Pure
import MiniScheme.Reader.Basic

/-!
# Evaluation

There are two kinds of work: evaluating an expression in a frame, and
applying a procedure to arguments.  `perform` says how one piece of work is
done, given a way `sub` of doing the smaller pieces it consists of.
`evaluate` closes the circle: it performs a task with itself for the
smaller pieces, one level of nesting fewer at its disposal, and gives up
when none is left.

**All nesting goes through `sub`.**  A statement about evaluation at every
depth is therefore an induction on the depth over a statement about
`perform`, and `perform` mentions the depth nowhere.
-/

namespace MiniScheme

/-- What a run needs to know and cannot change. -/
structure Context where
  /-- The frame in which loaded files are evaluated. -/
  globals : FrameId
  files : FileSystem
  /-- The directories searched for files to load. -/
  roots : List Path

/-- A piece of work. -/
inductive Task where
  | eval (expr : Value) (frame : FrameId)
  | apply (fn : Value) (args : List Value)

namespace Eval

/-- A way of doing pieces of work. -/
abbrev Worker := Task → Run Value

/-- Evaluates expressions in their order, for their values. -/
def evalAll (sub : Worker) (frame : FrameId) : List Value → Run (List Value)
  | [] => pure []
  | expr :: rest => do
    let v ← sub (.eval expr frame)
    let vs ← evalAll sub frame rest
    return v :: vs

/-- Evaluates expressions in their order; the result is the last value, or
`last` if there is none. -/
def evalLast (sub : Worker) (frame : FrameId) (last : Value) : List Value → Run Value
  | [] => pure last
  | expr :: rest => do
    let v ← sub (.eval expr frame)
    evalLast sub frame v rest

/-- Makes the procedure that a template describes. -/
def makeClosure (frame : FrameId) (t : Template) : Run Value := do
  let fn ← Run.ofExcept (t.instantiate frame (← get).store.closures)
  let _ ← Run.create Store.nextClosure
  return .closure fn

/-- Evaluates a special form. -/
def performForm (sub : Worker) (frame : FrameId) : Form → Run Value
  | .quote datum => pure datum
  | .choose test consequent alternative => do
    match ← sub (.eval test frame) with
    | .bool false => sub (.eval alternative frame)
    | _ => sub (.eval consequent frame)
  | .badChoice parts => Run.fail (.arity 3 parts)
  | .assign name value => do Run.setVar frame name (← sub (.eval value frame))
  | .define name value => do Run.defineVar frame name (← sub (.eval value frame))
  | .defineProcedure name t => do Run.defineVar frame name (← makeClosure frame t)
  | .lambda t => makeClosure frame t

/-- Evaluates an expression. -/
def performEval (sub : Worker) (frame : FrameId) (expr : Value) : Run Value :=
  match expr with
  | .int _ | .string _ | .bool _ | .char _ | .dotted _ _ | .list [] => pure expr
  | .symbol name => Run.getVar frame name
  | .list (head :: tail) =>
    match Form.ofParts? head tail with
    | some form => performForm sub frame form
    | none => do
      let fn ← sub (.eval head frame)
      let args ← evalAll sub frame tail
      sub (.apply fn args)
  | .primitive _ _ | .closure _ | .foreign => Run.fail (.badForm .unrecognized expr)

/-- The source text of a file.  What is wrong with the file is reported
under the name it was asked for. -/
def source (ctx : Context) (name : String) : Run String := do
  let path ← Run.ofFaulty (ctx.files.resolve ctx.roots name)
  Run.noteOpened path
  if path.isBroken then Run.halt .badFileName
  else
    match ctx.files.read path with
    | .error problem => Run.fail (.cannotLoad name problem)
    | .ok bytes =>
      match sourceText? bytes with
      | some text => pure text
      | none => Run.halt .notUtf8

/-- Evaluates the forms of a file in the global frame.  All of the file is
read before any of it is evaluated. -/
def load (ctx : Context) (sub : Worker) (name : String) : Run Value := do
  let forms ← Run.ofFailing (Reader.readAll (← source ctx name))
  evalLast sub ctx.globals .nil forms

/-- Calls a primitive. -/
def performPrimitive (ctx : Context) (sub : Worker) (op : Primitive) (args : List Value) :
    Run Value :=
  match op.pure? with
  | some f => Run.ofExcept (f args)
  | none =>
    match op, args with
    | .display, [v] => do
      Run.emit (← Run.ofFaulty v.displayed)
      return .nil
    | .write, [v] => do
      Run.emit (← Run.ofFaulty v.written)
      return .nil
    | .newline, [] => do
      Run.emit "\n"
      return .nil
    | .newline, args => Run.fail (.arity 0 args)
    | .read, [v] => do Run.ofFailing (Reader.readOne (← Run.ofExcept v.toText))
    | .load, [v] => do load ctx sub (← Run.ofExcept v.toText)
    | .apply, fn :: first :: more => do
      let spread := (first :: more).getLast (by simp)
      let items ← Run.ofExcept spread.toItems
      sub (.apply fn ((first :: more).dropLast ++ items))
    | .apply, args => Run.fail (.arity 2 args)
    | _, args => Run.fail (.arity 1 args)

/-- Calls a procedure written in the language. -/
def performClosure (sub : Worker) (fn : Closure Value) (args : List Value) : Run Value := do
  if fn.accepts args.length then
    let frame ← Run.create (·.callFrame fn args)
    evalLast sub frame .foreign fn.body
  else Run.fail (.arity fn.arity args)

/-- Applies a value to arguments. -/
def performApply (ctx : Context) (sub : Worker) (fn : Value) (args : List Value) : Run Value :=
  match fn with
  | .closure fn => performClosure sub fn args
  | .primitive _ op => performPrimitive ctx sub op args
  | v => Run.fail (.type .procedure v)

/-- Does one piece of work, leaving the smaller pieces to `sub`. -/
def perform (ctx : Context) (sub : Worker) : Worker
  | .eval expr frame => performEval sub frame expr
  | .apply fn args => performApply ctx sub fn args

/-- Does a piece of work that is nested at most `depth` levels deep. -/
def evaluate (ctx : Context) : Nat → Worker
  | 0 => fun _ => Run.halt .tooDeep
  | depth + 1 => perform ctx (evaluate ctx depth)

end Eval

end MiniScheme
