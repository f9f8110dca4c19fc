import Mathlib.Order.Filter.AtTopBot.Basic
import MiniScheme.Proofs.Eval.Application
import MiniScheme.Proofs.Eval.Locality
import MiniScheme.Proofs.Eval.TwinRuns
import MiniScheme.Proofs.Store.CallFrame

/-!
# What evaluation comes to

`ComesTo ctx task m v m'` says that the work, begun in `m`, gives `v` and
leaves `m'`, at all depths from some on.  The rules of evaluation become
rules of this relation, and a program is followed through by chaining them.

A program that is followed through uses primitives, and they have to stay
where they are: some other variable may be assigned, but not `car`.  The
relation says this too.  In a frame that a store `Serves`, the primitives
that take values in and give them out have their usual names, and **work
leaves every frame served that was served before**.

## Main results

* `ComesTo.application` — an expression that is no special form.
* `ComesTo.call` — a procedure with arguments that it accepts.
* `ComesTo.define`, `ComesTo.assign` — variables other than the primitives.
-/

namespace MiniScheme

/-- The primitives that take any values in and give them out, under their
usual names. -/
def Primitive.carriers : Primitive.Table :=
  [("car", .car), ("cdr", .cdr), ("cons", .cons), ("list", .list), ("apply", .apply),
    ("eqv?", .eqv)]

/-- The name is not the usual name of such a primitive. -/
def Primitive.IsFree (name : String) : Prop := name ∉ carriers.map (·.1)

instance (name : String) : Decidable (Primitive.IsFree name) :=
  inferInstanceAs (Decidable (name ∉ Primitive.carriers.map (·.1)))

/-- No keyword has such a name. -/
theorem Form.ofParts?_carrier {name : String} {op : Primitive}
    (h : (name, op) ∈ Primitive.carriers) (tail : List Value) :
    ofParts? (.symbol name) tail = none := by
  have hName : ∀ entry ∈ Primitive.carriers, ∀ keyword : Keyword, entry.1 ≠ keyword.name := by
    intro entry hEntry keyword
    revert entry
    cases keyword <;> decide
  exact ofParts?_symbol_eq_none (hName _ h) tail

namespace Store

variable {s s' : Store} {f g : FrameId} {name : String} {v : Value}

/-! ## Variables -/

theorem Unaliased.of_evolves {touched : Set FrameId} (h : s.Unaliased)
    (hLater : s.Evolves touched s') : s'.Unaliased := by
  obtain ⟨history, rfl, -⟩ := hLater
  exact h.replay history

theorem Unaliased.get?_define_of_ne (h : s.Unaliased) (f : FrameId) (v : Value) (g : FrameId)
    {other : String} (hOther : other ≠ name) :
    (s.define f name v).get? g other = s.get? g other := by
  cases hCell : s.cell? f name with
  | some cell => rw [define_of_cell? hCell, h.get?_write hCell, if_neg fun hSame => hOther hSame.1]
  | none =>
      rw [define_of_unbound hCell, get?, get?, cell?_add, if_neg fun hNew => hOther hNew.2.2]
      cases hOld : s.cell? g other with
      | none => rfl
      | some cell =>
          have hLt := h.lt_size hOld
          show (s.cells.push v)[cell]? = s.cells[cell]?
          rw [Array.getElem?_push_lt hLt, Array.getElem?_eq_getElem hLt]

theorem Unaliased.get?_define_self (h : s.Unaliased) (hf : f < s.frames.size) (name : String)
    (v : Value) : (s.define f name v).get? f name = some v := by
  cases hCell : s.cell? f name with
  | some cell => rw [define_of_cell? hCell, h.get?_write hCell, if_pos ⟨rfl, hCell⟩]
  | none =>
      rw [define_of_unbound hCell, get?, cell?_add, if_pos ⟨rfl, hf, rfl⟩]
      exact Array.getElem?_push_size

theorem isBound_callFrame (s : Store) {fn : Closure Value} {args : List Value}
    (hLength : fn.params.length ≤ args.length) (hName : fn.Binds name) :
    (s.callFrame fn args).1.isBound (s.callFrame fn args).2 name = true := by
  obtain ⟨cell, hCell, -⟩ := s.cell?_callFrame_of_binds hLength hName
  exact Option.isSome_iff_exists.2 ⟨cell, hCell⟩

/-! ## Frames that are served -/

/-- Names are kept apart in the store, and in the frame the primitives have
their usual names. -/
structure Serves (s : Store) (f : FrameId) : Prop where
  unaliased : s.Unaliased
  has : ∀ {name op}, (name, op) ∈ Primitive.carriers →
    ∃ p, s.get? f name = some (.primitive p op)

namespace Serves

/-- What looks the same in a frame serves it the same. -/
theorem of_get?_eq (h : s.Serves f) (hApart : s'.Unaliased)
    (hSame : ∀ name ∈ Primitive.carriers.map (·.1), s'.get? g name = s.get? f name) :
    s'.Serves g := by
  refine ⟨hApart, fun hName => ?_⟩
  rw [hSame _ (List.mem_map_of_mem hName)]
  exact h.has hName

theorem nextClosure (h : s.Serves f) : s.nextClosure.1.Serves f :=
  h.of_get?_eq (h.unaliased.after .number) fun _ _ => rfl

theorem define (h : s.Serves g) (f : FrameId) (hName : Primitive.IsFree name) (v : Value) :
    (s.define f name v).Serves g := by
  refine h.of_get?_eq (h.unaliased.after (.define f name v)) fun other hOther => ?_
  exact h.unaliased.get?_define_of_ne f v g fun hSame => hName (hSame ▸ hOther)

theorem unaliased_callFrame (h : s.Serves f) (fn : Closure Value) (args : List Value) :
    (s.callFrame fn args).1.Unaliased :=
  h.unaliased.of_evolves (s.evolves_callFrame fn args ∅).1

/-- Making the frame of a call leaves the others served. -/
theorem callFrame (h : s.Serves g) (fn : Closure Value) (args : List Value) :
    (s.callFrame fn args).1.Serves g := by
  refine ⟨h.unaliased_callFrame fn args, fun hName => ?_⟩
  obtain ⟨p, hOld⟩ := h.has hName
  exact ⟨p, (s.extends_callFrame fn args).get?_of_some hOld⟩

/-- The frame of a call is served if that of the procedure is, and if the
call binds none of the names. -/
theorem inside {fn : Closure Value} {args : List Value} (h : s.Serves fn.frame)
    (hLength : fn.params.length ≤ args.length)
    (hNames : ∀ name, fn.Binds name → Primitive.IsFree name) :
    (s.callFrame fn args).1.Serves (s.callFrame fn args).2 := by
  refine h.of_get?_eq (h.unaliased_callFrame fn args) fun name hName => ?_
  exact get?_callFrame_of_not_binds h.unaliased hLength fun hBinds => hNames name hBinds hName

end Serves

end Store

namespace Eval

open Filter

variable {ctx : Context} {frame : FrameId} {m m₁ m₂ m' : Machine} {v : Value}

/-- The work gives the value and leaves the machine, at all depths from some
on, and it leaves all frames served that were served. -/
structure ComesTo (ctx : Context) (task : Task) (m : Machine) (v : Value) (m' : Machine) :
    Prop where
  eventually : ∀ᶠ d in atTop, evaluate ctx d task m = .ok v m'
  serves : ∀ g, m.store.Serves g → m'.store.Serves g

/-- The expressions, in their order, give the values. -/
inductive AllCome (ctx : Context) (frame : FrameId) :
    List Value → Machine → List Value → Machine → Prop
  | nil {m : Machine} : AllCome ctx frame [] m [] m
  | cons {expr v : Value} {exprs vs : List Value} {m m₁ m₂ : Machine}
      (hFirst : ComesTo ctx (.eval expr frame) m v m₁) (hRest : AllCome ctx frame exprs m₁ vs m₂) :
      AllCome ctx frame (expr :: exprs) m (v :: vs) m₂

/-! ## Sequences of expressions -/

namespace AllCome

variable {exprs front back vs ws : List Value}

theorem serves (h : AllCome ctx frame exprs m vs m') (g : FrameId) (hg : m.store.Serves g) :
    m'.store.Serves g := by
  induction h with
  | nil => exact hg
  | cons hFirst _ ih => exact ih (hFirst.serves g hg)

theorem eventually_evalAll (h : AllCome ctx frame exprs m vs m') :
    ∀ᶠ d in atTop, evalAll (evaluate ctx d) frame exprs m = .ok vs m' := by
  induction h with
  | nil => exact .of_forall fun _ => rfl
  | cons hFirst _ ih =>
      filter_upwards [hFirst.eventually, ih] with d hFirst hRest
      exact evalAll_cons_of_ok hFirst hRest

theorem eventually_evalLast (h : AllCome ctx frame exprs m vs m') (last : Value) :
    ∀ᶠ d in atTop, evalLast (evaluate ctx d) frame last exprs m = .ok (vs.getLastD last) m' := by
  induction h generalizing last with
  | nil => exact .of_forall fun _ => rfl
  | cons hFirst _ ih =>
      filter_upwards [hFirst.eventually, ih _] with d hFirst hRest
      rw [evalLast, Run.bind_eq_of_ok hFirst, hRest, List.getLastD_cons]

theorem append (hFront : AllCome ctx frame front m vs m₁) (hBack : AllCome ctx frame back m₁ ws m') :
    AllCome ctx frame (front ++ back) m (vs ++ ws) m' := by
  induction hFront with
  | nil => exact hBack
  | cons hFirst _ ih => exact .cons hFirst (ih hBack)

theorem exists_of_append (h : AllCome ctx frame (front ++ back) m vs m') :
    ∃ ws us m₁, vs = ws ++ us ∧ AllCome ctx frame front m ws m₁ ∧
      AllCome ctx frame back m₁ us m' := by
  induction front generalizing m vs with
  | nil => exact ⟨[], vs, m, rfl, .nil, h⟩
  | cons expr front ih =>
      cases h with
      | cons hFirst hRest =>
          obtain ⟨ws, us, m₁, rfl, hFront, hBack⟩ := ih hRest
          exact ⟨_ :: ws, us, m₁, rfl, .cons hFirst hFront, hBack⟩

end AllCome

/-! ## The rules -/

namespace ComesTo

/-- What the work gives with one level more than some depth on. -/
theorem of_succ {task : Task} (h : ∀ᶠ d in atTop, evaluate ctx (d + 1) task m = .ok v m')
    (hServes : ∀ g, m.store.Serves g → m'.store.Serves g) : ComesTo ctx task m v m' := by
  refine ⟨?_, hServes⟩
  rw [← map_add_atTop_eq_nat 1]
  exact h

theorem symbol {name : String} (h : m.store.get? frame name = some v) :
    ComesTo ctx (.eval (.symbol name) frame) m v m :=
  .of_succ (.of_forall fun _ => evaluate_symbol h) fun _ => id

theorem quote (v : Value) : ComesTo ctx (.eval v.quote frame) m v m :=
  .of_succ (.of_forall fun _ => evaluate_quote v) fun _ => id

theorem quotes (vs : List Value) : AllCome ctx frame (vs.map Value.quote) m vs m := by
  induction vs with
  | nil => exact .nil
  | cons v vs ih => exact .cons (quote v) ih

theorem application {head fn : Value} {tail args : List Value}
    (hForm : Form.ofParts? head tail = none) (hHead : ComesTo ctx (.eval head frame) m fn m₁)
    (hArgs : AllCome ctx frame tail m₁ args m₂) (hApply : ComesTo ctx (.apply fn args) m₂ v m') :
    ComesTo ctx (.eval (.list (head :: tail)) frame) m v m' := by
  refine .of_succ ?_ fun g hg => hApply.serves g (hArgs.serves g (hHead.serves g hg))
  filter_upwards [hHead.eventually, hArgs.eventually_evalAll, hApply.eventually]
    with d hHead hArgs hApply
  rw [evaluate_application hForm hHead hArgs, hApply]

/-- A primitive, called by its usual name. -/
theorem byName {name : String} {op : Primitive} {tail args : List Value}
    (hName : (name, op) ∈ Primitive.carriers) (hServes : m.store.Serves frame)
    (hArgs : AllCome ctx frame tail m args m₁)
    (hApply : ∀ p, ComesTo ctx (.apply (.primitive p op) args) m₁ v m') :
    ComesTo ctx (.eval (.list (.symbol name :: tail)) frame) m v m' := by
  obtain ⟨p, hBound⟩ := hServes.has hName
  exact application (Form.ofParts?_carrier hName tail) (symbol hBound) hArgs (hApply p)

/-- A primitive that only computes. -/
theorem primitive (p : String) {op : Primitive} {f : List Value → Except Error Value}
    {args : List Value} (hOp : op.pure? = some f) (hAnswer : f args = .ok v) :
    ComesTo ctx (.apply (.primitive p op) args) m v m := by
  refine .of_succ (.of_forall fun d => ?_) fun _ => id
  show performPrimitive ctx (evaluate ctx d) op args m = _
  unfold performPrimitive
  rw [hOp]
  show Run.ofExcept (f args) m = _
  rw [hAnswer]
  rfl

theorem apply (p : String) {fn : Value} {front items : List Value}
    (h : ComesTo ctx (.apply fn (front ++ items)) m v m') :
    ComesTo ctx (.apply (.primitive p .apply) (fn :: (front ++ [.list items]))) m v m' := by
  refine .of_succ ?_ h.serves
  filter_upwards [h.eventually] with d hd
  rw [evaluate_apply_call, hd]

theorem lambda {head : Value} {tail : List Value} {t : Template} {fn : Closure Value}
    (hForm : Form.ofParts? head tail = some (.lambda t))
    (hMade : t.instantiate frame m.store.closures = .ok fn) :
    ComesTo ctx (.eval (.list (head :: tail)) frame) m (.closure fn)
      { m with store := m.store.nextClosure.1 } := by
  refine .of_succ (.of_forall fun d => ?_) fun _ hg => hg.nextClosure
  show performEval (evaluate ctx d) frame (.list (head :: tail)) m = _
  rw [performEval, hForm]
  show makeClosure frame t m = _
  rw [makeClosure_eq, hMade]

/-- **A procedure** evaluates its body in the frame of the call, and the last
value is that of the call. -/
theorem call {fn : Closure Value} {args vs : List Value} (hArgs : fn.accepts args.length = true)
    (hBody : AllCome ctx (m.store.callFrame fn args).2 fn.body
      { m with store := (m.store.callFrame fn args).1 } vs m') :
    ComesTo ctx (.apply (.closure fn) args) m (vs.getLastD .foreign) m' := by
  refine .of_succ ?_ fun g hg => hBody.serves g (hg.callFrame fn args)
  filter_upwards [hBody.eventually_evalLast .foreign] with d hd
  show performClosure (evaluate ctx d) fn args m = _
  rw [performClosure, if_pos hArgs]
  exact (Run.bind_eq_of_ok (Run.create_eq _ m) _).trans hd

/-- A definition of a name that no primitive needs. -/
theorem define {name : String} {expr : Value} (hName : Primitive.IsFree name)
    (h : ComesTo ctx (.eval expr frame) m v m₁) :
    ComesTo ctx (.eval (.list [.symbol "define", .symbol name, expr]) frame) m v
      { m₁ with store := m₁.store.define frame name v } := by
  refine .of_succ ?_ fun g hg => (h.serves g hg).define frame hName v
  filter_upwards [h.eventually] with d hd
  exact Run.bind_eq_of_ok hd _

/-- Work removes no variable and no frame. -/
theorem grows {expr : Value} (h : ComesTo ctx (.eval expr frame) m v m') :
    m.store.Grows {frame, ctx.globals} m'.store := by
  obtain ⟨d, hd⟩ := h.eventually.exists
  have hGrows := grows_evaluate ctx d expr frame m
  rw [Run.final, hd] at hGrows
  exact hGrows

/-- An assignment to a variable that no primitive needs. -/
theorem assign {name : String} {expr : Value} (hName : Primitive.IsFree name)
    (hBound : m.store.isBound frame name = true) (h : ComesTo ctx (.eval expr frame) m v m₁) :
    ComesTo ctx (.eval (.list [.symbol "set!", .symbol name, expr]) frame) m v
      { m₁ with store := m₁.store.define frame name v } := by
  obtain ⟨cell, hCell⟩ := Option.isSome_iff_exists.1 hBound
  have hBound₁ : m₁.store.isBound frame name = true :=
    Option.isSome_iff_exists.2 ⟨cell, h.grows.kept hCell⟩
  refine .of_succ ?_ fun g hg => (h.serves g hg).define frame hName v
  filter_upwards [h.eventually] with d hd
  refine (Run.bind_eq_of_ok hd _).trans ?_
  rw [Run.setVar_eq, if_pos hBound₁]

end ComesTo

end Eval

end MiniScheme
