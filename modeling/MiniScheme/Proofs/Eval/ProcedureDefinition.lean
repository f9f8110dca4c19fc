import MiniScheme.Proofs.Eval.Assignment
import MiniScheme.Proofs.Eval.Carrying

/-!
# Definitions of procedures

`(define (f p ...) body ...)` is short for `(define f (lambda (p ...) body ...))`.
The two take different ways: the short form makes the procedure itself, the
long one evaluates an expression that is a form in turn.  The parameters are
written in different places, and where a rest parameter is all there is, in
different ways: `(f . r)` with `define`, `r` with `lambda`.

Both ways lead through `Template.instantiate`, with templates that differ in
the form to report and in nothing else.  So the argument has two halves.
One is about shapes: **the two forms have the same template** but for the
report.  The other is about templates: what is made, or the first thing that
is wrong, does not depend on the report.

Parameters, rest and body are any values here, sensible or not.

## Main results

* `Template.exists_instantiate` — the procedure that is made.
* `procedure_both_made`, `procedure_both_fail` — the forms go together.
* `procedure_is_definition_of_lambda` — which of the two happens, and when.
-/

namespace MiniScheme

namespace Value

/-! ## The two forms -/

/-- A procedure's name and parameters in a definition: `(f p ...)` or
`(f p ... . r)`. -/
def header (name : String) (params : List Value) : Option Value → Value
  | none => .list (.symbol name :: params)
  | some rest => .dotted (.symbol name :: params) rest

/-- A procedure's parameters behind `lambda`: `(p ...)`, `(p ... . r)`, or `r`
alone. -/
def parameters (params : List Value) : Option Value → Value
  | none => .list params
  | some rest => if params.isEmpty then rest else .dotted params rest

/-- The form `(define (name params . rest) body ...)`. -/
def procedure (name : String) (params : List Value) (rest : Option Value) (body : List Value) :
    Value :=
  .list (.symbol "define" :: header name params rest :: body)

theorem isKind_symbol_eq_false {v : Value} (h : ∀ name, v ≠ .symbol name) :
    v.isKind .symbol = false := by
  cases v with
  | symbol name => exact absurd rfl (h name)
  | _ => rfl

end Value

/-- The parameters can be written behind `lambda`: there is no rest parameter,
or it is a symbol, or there are others before it. -/
def Template.Writable (params : List Value) (rest : Option Value) : Prop :=
  rest = none ∨ (∃ name, rest = some (.symbol name)) ∨ params ≠ []

/-- The procedure has the given parameters, rest parameter, body and frame. -/
structure Closure.IsWritten (fn : Closure Value) (params : List Value) (rest : Option Value)
    (body : List Value) (f : FrameId) : Prop where
  params : fn.params.map .symbol = params
  rest : ∀ name, fn.rest = some name ↔ rest = some (.symbol name)
  body : fn.body = body
  frame : fn.frame = f

namespace Form

theorem ofParts?_header (name : String) (params : List Value) (rest : Option Value)
    (body : List Value) :
    ofParts? (.symbol "define") (.header name params rest :: body) =
      some (.defineProcedure name
        { params, rest, body, form := .procedure name params rest body }) := by
  cases rest <;> rfl

theorem ofParts?_parameters {params : List Value} {rest : Option Value}
    (h : Template.Writable params rest) (body : List Value) :
    ofParts? (.symbol "lambda") (.parameters params rest :: body) =
      some (.lambda { params, rest, body, form := .lambda (.parameters params rest) body }) := by
  cases params with
  | cons param params => cases rest <;> rfl
  | nil =>
      obtain rfl | ⟨name, rfl⟩ | hSome := h
      · rfl
      · rfl
      · exact absurd rfl hSome

end Form

namespace Template

variable {params : List Value} {rest : Option Value} {body : List Value} {f : FrameId} {id : Nat}

/-! ## What is made of a template -/

/-- All parameters are symbols. -/
def ParamsFit (params : List Value) : Prop := ∀ p ∈ params, p.isKind .symbol = true

/-- The rest parameter is a symbol, if there is one and it is not foreign. -/
def RestFits (rest : Option Value) : Prop :=
  ∀ r, rest = some r → r ≠ .foreign → r.isKind .symbol = true

theorem paramNames?_eq_none_iff : paramNames? params = none ↔ ¬ ParamsFit params := by
  fun_induction paramNames? params with
  | case1 => simp [ParamsFit]
  | case2 name more ih =>
      rw [Option.map_eq_none_iff, ih]
      simp [ParamsFit, Value.isKind]
  | case3 p more hSymbol =>
      have hKind : p.isKind .symbol = false := Value.isKind_symbol_eq_false hSymbol
      simp [ParamsFit, hKind]

theorem ParamsFit.exists_names (h : ParamsFit params) : ∃ names, paramNames? params = some names :=
  Option.ne_none_iff_exists'.1 fun hNone => paramNames?_eq_none_iff.1 hNone h

theorem map_symbol_of_paramNames? {names : List String} (h : paramNames? params = some names) :
    names.map .symbol = params := by
  fun_induction paramNames? params generalizing names with
  | case1 =>
      cases h
      rfl
  | case2 name more ih =>
      obtain ⟨names, hMore, rfl⟩ := Option.map_eq_some_iff.1 h
      rw [List.map_cons, ih hMore]
  | case3 => cases h

theorem restName?_eq_none_iff : restName? rest = none ↔ ¬ RestFits rest := by
  fun_cases restName? rest with
  | case1 => simp [RestFits]
  | case2 => simp [RestFits]
  | case3 name => simp [RestFits, Value.isKind]
  | case4 r hForeign hSymbol =>
      have hKind : r.isKind .symbol = false := Value.isKind_symbol_eq_false hSymbol
      exact iff_of_true rfl fun hFits => Bool.eq_false_iff.1 hKind (hFits r rfl hForeign)

theorem RestFits.exists_name (h : RestFits rest) : ∃ found, restName? rest = some found :=
  Option.ne_none_iff_exists'.1 fun hNone => restName?_eq_none_iff.1 hNone h

theorem eq_some_of_restName? {found : Option String} (h : restName? rest = some found)
    (name : String) : found = some name ↔ rest = some (.symbol name) := by
  match rest, h with
  | none, rfl => simp
  | some .foreign, rfl => simp
  | some (.symbol other), rfl => simp

/-! The first thing that is wrong is reported, with the form as it was given. -/

theorem instantiate_of_not_paramsFit (h : ¬ ParamsFit params) (form : Value) :
    instantiate { params, rest, body, form } f id = .error (.badForm .paramNotSymbol form) := by
  simp only [instantiate, paramNames?_eq_none_iff.2 h]

theorem instantiate_of_not_restFits (hParams : ParamsFit params) (hRest : ¬ RestFits rest)
    (form : Value) :
    instantiate { params, rest, body, form } f id = .error (.badForm .restNotSymbol form) := by
  obtain ⟨names, hNames⟩ := hParams.exists_names
  simp only [instantiate, hNames, restName?_eq_none_iff.2 hRest]

theorem instantiate_of_empty (hParams : ParamsFit params) (hRest : RestFits rest)
    (hBody : body = []) (form : Value) :
    instantiate { params, rest, body, form } f id = .error (.badForm .emptyBody form) := by
  obtain ⟨names, hNames⟩ := hParams.exists_names
  obtain ⟨found, hFound⟩ := hRest.exists_name
  simp [instantiate, hNames, hFound, hBody]

/-- What is made, if nothing is wrong, is the procedure that is written.  The
form to report has no part in it. -/
theorem exists_instantiate (hParams : ParamsFit params) (hRest : RestFits rest) (hBody : body ≠ [])
    (f : FrameId) (id : Nat) :
    ∃ fn : Closure Value, fn.IsWritten params rest body f ∧
      ∀ form, instantiate { params, rest, body, form } f id = .ok fn := by
  obtain ⟨names, hNames⟩ := hParams.exists_names
  obtain ⟨found, hFound⟩ := hRest.exists_name
  refine ⟨{ id, params := names, rest := found, body, frame := f }, ?_, fun form => ?_⟩
  · exact ⟨map_symbol_of_paramNames? hNames, eq_some_of_restName? hFound, rfl, rfl⟩
  · simp [instantiate, hNames, hFound, hBody]

end Template

namespace Eval

variable {ctx : Context} {d d' : Nat} {f : FrameId} {m : Machine} {name : String}
  {params body : List Value} {rest : Option Value}

/-! ## The two forms go together -/

/-- The short form makes the procedure and binds it. -/
theorem evaluate_procedure_eq :
    evaluate ctx (d + 1) (.eval (.procedure name params rest body) f) =
      makeClosure f { params, rest, body, form := .procedure name params rest body } >>=
        Run.defineVar f name := by
  show performEval (evaluate ctx d) f (.list (.symbol "define" :: _)) = _
  rw [performEval, Form.ofParts?_header]
  rfl

/-- The long form does the same one level deeper. -/
theorem evaluate_definition_lambda_eq (h : Template.Writable params rest) :
    evaluate ctx (d + 2) (.eval (.definition name (.lambda (.parameters params rest) body)) f) =
      makeClosure f { params, rest, body, form := .lambda (.parameters params rest) body } >>=
        Run.defineVar f name := by
  have hLambda : evaluate ctx (d + 1) (.eval (.lambda (.parameters params rest) body) f) =
      makeClosure f { params, rest, body, form := .lambda (.parameters params rest) body } := by
    show performEval (evaluate ctx d) f (.list (.symbol "lambda" :: _)) = _
    rw [performEval, Form.ofParts?_parameters h]
    rfl
  rw [← hLambda]
  rfl

/-- Where one form makes a procedure, so does the other. -/
theorem procedure_both_made (h : Template.Writable params rest) {fn : Closure Value}
    (hMade : ∀ form,
      Template.instantiate { params, rest, body, form } f m.store.closures = .ok fn) :
    let m' : Machine := { m with store := m.store.nextClosure.1.define f name (.closure fn) }
    evaluate ctx (d + 1) (.eval (.procedure name params rest body) f) m = .ok (.closure fn) m' ∧
      evaluate ctx (d' + 2) (.eval (.definition name (.lambda (.parameters params rest) body)) f) m =
        .ok (.closure fn) m' := by
  intro m'
  have hEach : ∀ form, (makeClosure f { params, rest, body, form } >>= Run.defineVar f name) m =
      .ok (.closure fn) m' := by
    intro form
    have hClosure : makeClosure f { params, rest, body, form } m =
        .ok (.closure fn) { m with store := m.store.nextClosure.1 } := by
      rw [makeClosure_eq, hMade]
    exact Run.bind_eq_of_ok hClosure _
  rw [evaluate_procedure_eq, evaluate_definition_lambda_eq h]
  exact ⟨hEach _, hEach _⟩

/-- Where one form is refused, so is the other, and neither changes anything. -/
theorem procedure_both_fail (h : Template.Writable params rest) {flaw : FormFlaw}
    (hFlaw : ∀ form, Template.instantiate { params, rest, body, form } f m.store.closures =
      .error (.badForm flaw form)) :
    evaluate ctx (d + 1) (.eval (.procedure name params rest body) f) m =
        .error (.error (.badForm flaw (.procedure name params rest body))) m ∧
      evaluate ctx (d' + 2) (.eval (.definition name (.lambda (.parameters params rest) body)) f) m =
        .error (.error (.badForm flaw (.lambda (.parameters params rest) body))) m := by
  have hEach : ∀ form, (makeClosure f { params, rest, body, form } >>= Run.defineVar f name) m =
      .error (.error (.badForm flaw form)) m := by
    intro form
    refine Run.bind_eq_of_error ?_ _
    rw [makeClosure_eq, hFlaw]
  rw [evaluate_procedure_eq, evaluate_definition_lambda_eq h]
  exact ⟨hEach _, hEach _⟩

/-- **A procedure definition is the definition of a `lambda`.**  In any
machine and any frame, for any values as parameters, as rest parameter and
as body, `(define (name params . rest) body ...)` and
`(define name (lambda (params . rest) body ...))` go together:

* if not all parameters are symbols, if the rest parameter is not one, or if
  the body is empty, both are refused for the first of these reasons, each
  with its own form in the report, and nothing has changed;
* otherwise both have the same procedure as their value, which is the one
  that is written, and leave the same machine.

This is so at all depths at which the forms are evaluated at all.  The long
one takes two levels, since the `lambda` in it is evaluated in turn. -/
theorem procedure_is_definition_of_lambda (ctx : Context) (m : Machine) (f : FrameId)
    (name : String) (params : List Value) (rest : Option Value) (body : List Value)
    (hWritable : Template.Writable params rest) (d d' : Nat) :
    let form := Value.procedure name params rest body
    let lambda := Value.lambda (.parameters params rest) body
    let short := evaluate ctx (d + 1) (.eval form f) m
    let long := evaluate ctx (d' + 2) (.eval (.definition name lambda) f) m
    let paramsFit := Template.ParamsFit params
    let restFits := Template.RestFits rest
    let BothFail (text : String) := ∃ flaw : FormFlaw, flaw.message = text ∧
      short = .error (.error (.badForm flaw form)) m ∧
      long = .error (.error (.badForm flaw lambda)) m
    (¬ paramsFit → BothFail "Parameter is not a symbol") ∧
    (paramsFit → ¬ restFits → BothFail "Rest parameter is not a symbol") ∧
    (paramsFit → restFits → body = [] → BothFail "Procedure body is empty") ∧
    (paramsFit → restFits → body ≠ [] → ∃ fn : Closure Value, fn.IsWritten params rest body f ∧
      let m' := { m with store := m.store.nextClosure.1.define f name (.closure fn) }
      short = .ok (.closure fn) m' ∧ long = .ok (.closure fn) m') ∧
    ((∃ v m', short = .ok v m') ↔ paramsFit ∧ restFits ∧ body ≠ []) ∧
    ((∃ v m', long = .ok v m') ↔ paramsFit ∧ restFits ∧ body ≠ []) := by
  intro form lambda short long paramsFit restFits BothFail
  have hParam : ¬ paramsFit → BothFail "Parameter is not a symbol" := fun hParams =>
    ⟨.paramNotSymbol, rfl,
      procedure_both_fail hWritable (Template.instantiate_of_not_paramsFit hParams)⟩
  have hRestParam : paramsFit → ¬ restFits → BothFail "Rest parameter is not a symbol" :=
    fun hParams hRest => ⟨.restNotSymbol, rfl,
      procedure_both_fail hWritable (Template.instantiate_of_not_restFits hParams hRest)⟩
  have hEmpty : paramsFit → restFits → body = [] → BothFail "Procedure body is empty" :=
    fun hParams hRest hBody => ⟨.emptyBody, rfl,
      procedure_both_fail hWritable (Template.instantiate_of_empty hParams hRest hBody)⟩
  have hFails : ¬ (paramsFit ∧ restFits ∧ body ≠ []) → ∃ text, BothFail text := by
    intro hNot
    by_cases hParams : paramsFit
    · by_cases hRest : restFits
      · exact ⟨_, hEmpty hParams hRest (by_contra fun hBody => hNot ⟨hParams, hRest, hBody⟩)⟩
      · exact ⟨_, hRestParam hParams hRest⟩
    · exact ⟨_, hParam hParams⟩
  have hMade : paramsFit ∧ restFits ∧ body ≠ [] → ∃ fn : Closure Value,
      fn.IsWritten params rest body f ∧
        let m' := { m with store := m.store.nextClosure.1.define f name (.closure fn) }
        short = .ok (.closure fn) m' ∧ long = .ok (.closure fn) m' := by
    rintro ⟨hParams, hRest, hBody⟩
    obtain ⟨fn, hWritten, hMade⟩ :=
      Template.exists_instantiate hParams hRest hBody f m.store.closures
    exact ⟨fn, hWritten, procedure_both_made hWritable hMade⟩
  refine ⟨hParam, hRestParam, hEmpty, fun hParams hRest hBody => hMade ⟨hParams, hRest, hBody⟩,
    ⟨?_, ?_⟩, ⟨?_, ?_⟩⟩
  · rintro ⟨v, m', hOk⟩
    by_contra hNot
    obtain ⟨_, _, -, hShort, -⟩ := hFails hNot
    cases hShort.symm.trans hOk
  · intro hAll
    obtain ⟨fn, -, hShort, -⟩ := hMade hAll
    exact ⟨_, _, hShort⟩
  · rintro ⟨v, m', hOk⟩
    by_contra hNot
    obtain ⟨_, _, -, -, hLong⟩ := hFails hNot
    cases hLong.symm.trans hOk
  · intro hAll
    obtain ⟨fn, -, -, hLong⟩ := hMade hAll
    exact ⟨_, _, hLong⟩

/-- The forms `(define (f x . r) x)`, which makes a procedure, and
`(define (f x 1 . 2))`, in which three things are wrong. -/
theorem procedure_is_definition_of_lambda_rest :
    let ctx : Context := { globals := 0, files := ⟨fun _ => .error .missing⟩, roots := [] }
    let m : Machine := { store := Store.empty.newFrame.1, output := "", opened := #[] }
    let x := Value.symbol "x"
    Template.Writable [x] (some (.symbol "r")) ∧ Template.Writable [x, .int 1] (some (.int 2)) ∧
      (∃ fn : Closure Value, fn.IsWritten [x] (some (.symbol "r")) [x] 0 ∧ ∃ m',
        evaluate ctx 5 (.eval (.procedure "f" [x] (some (.symbol "r")) [x]) 0) m =
          .ok (.closure fn) m') ∧
      ∃ flaw : FormFlaw, flaw.message = "Parameter is not a symbol" ∧
        evaluate ctx 5 (.eval (.procedure "f" [x, .int 1] (some (.int 2)) []) 0) m =
          .error (.error (.badForm flaw (.procedure "f" [x, .int 1] (some (.int 2)) []))) m := by
  intro ctx m x
  have hGood : Template.Writable [x] (some (.symbol "r")) := .inr (.inl ⟨"r", rfl⟩)
  have hBad : Template.Writable [x, .int 1] (some (.int 2)) := .inr (.inr (by simp))
  have hParams : Template.ParamsFit [x] := by simp [Template.ParamsFit, x, Value.isKind]
  have hRest : Template.RestFits (some (.symbol "r")) := by simp [Template.RestFits, Value.isKind]
  have hParam : ¬ Template.ParamsFit [x, .int 1] := by simp [Template.ParamsFit, Value.isKind]
  obtain ⟨-, -, -, hMade, -⟩ := procedure_is_definition_of_lambda ctx m 0 "f" _ _ [x] hGood 4 0
  obtain ⟨fn, hWritten, hShort, -⟩ := hMade hParams hRest (by simp)
  obtain ⟨hFails, -⟩ := procedure_is_definition_of_lambda ctx m 0 "f" _ _ [] hBad 4 0
  obtain ⟨flaw, hText, hRefused, -⟩ := hFails hParam
  exact ⟨hGood, hBad, ⟨fn, hWritten, _, hShort⟩, flaw, hText, hRefused⟩

end Eval

end MiniScheme
