import MiniScheme.Proofs.Eval.BigStep

/-!
# Carrying a procedure through a program

A procedure that was made is bound to a variable, passed to other
procedures, gathered with the rest of the arguments, defined and assigned
under other names, put into pairs and lists and taken out again, handed on
by `apply`.  Nothing of this makes another procedure of it.

`Carries x path piece found` describes such programs: if the procedure is in
the value of the variable `x`, at the place to which `path` leads, then it is
in the value of the piece of program at the place to which `found` leads.
The pieces are built from each other in any order and to any size.

**What is carried arrives** (`Carries.delivers`): in every frame in which the
primitives can be used under their names, the piece has a value, and the
very procedure is at its place.

## Main results

* `Carries.delivers` — what is carried arrives.
* `Carries.eqv` — a procedure that was carried is `eqv?` to itself.
-/

namespace MiniScheme

/-! ## Places in a value -/

/-- The parts of a pair. -/
inductive Side where
  | first
  | rest

namespace Side

/-- The part of the pair. -/
def of : Side → Value × Value → Value
  | .first, parts => parts.1
  | .rest, parts => parts.2

/-- The primitive that takes the part out of a pair, with its name. -/
def taker : Side → String × Primitive
  | .first => ("car", .car)
  | .rest => ("cdr", .cdr)

theorem taker_mem_carriers (side : Side) : side.taker ∈ Primitive.carriers := by
  cases side <;> decide

end Side

namespace Value

/-- What is found in a value by taking pairs apart. -/
def at? : Value → List Side → Option Value
  | v, [] => some v
  | v, side :: path => v.uncons?.bind fun parts => (side.of parts).at? path

variable {fn : Closure Value} {a b v : Value} {path : List Side}

theorem exists_of_at?_cons {side : Side} (h : v.at? (side :: path) = some (.closure fn)) :
    ∃ parts, v.uncons? = some parts ∧ (side.of parts).at? path = some (.closure fn) :=
  Option.bind_eq_some_iff.1 h

theorem at?_cons_first (a b : Value) (path : List Side) :
    (cons a b).at? (.first :: path) = a.at? path := by
  cases b with
  | dotted head tail => cases head <;> rfl
  | _ => rfl

/-- A procedure in the second part of a pair.  A dotted list without elements
would not be taken out as it was put in, but there is nothing in it. -/
theorem at?_cons_rest (a : Value) (h : b.at? path = some (.closure fn)) :
    (cons a b).at? (.rest :: path) = some (.closure fn) := by
  cases b with
  | dotted head tail =>
      cases head with
      | nil => cases path <;> cases h
      | cons first head => exact h
  | _ => exact h

theorem at?_list (front : List Value) (v : Value) (back : List Value) (path : List Side) :
    (list (front ++ v :: back)).at? (List.replicate front.length .rest ++ .first :: path) =
      v.at? path := by
  induction front with
  | nil => rfl
  | cons first front ih => exact ih

/-- The form that makes a procedure. -/
def lambda (params : Value) (body : List Value) : Value :=
  .list (.symbol "lambda" :: params :: body)

end Value

/-! ## Programs that carry a procedure -/

/-- A piece of program: an expression, or a call that has yet to be written
as one. -/
inductive Piece where
  | expr (expr : Value)
  | call (head : Value) (args : List Value)

/-- A procedure that is in the variable, at the place of the first path, is
carried to the place of the second one in the value of the piece. -/
inductive Carries : String → List Side → Piece → List Side → Prop
  | named {x : String} {path : List Side} : Carries x path (.expr (.symbol x)) path
  /-- A call, as an expression. -/
  | called {x : String} {path found : List Side} {head : Value} {args : List Value}
      (h : Carries x path (.call head args) found) :
      Carries x path (.expr (.list (head :: args))) found
  /-- A call by `apply`, with the last arguments in a list. -/
  | applied {x : String} {path found : List Side} {head : Value} {front back : List Value}
      (h : Carries x path (.call head (front ++ back)) found) :
      Carries x path (.expr (.list (.symbol "apply" :: head ::
        (front ++ [.list (.symbol "list" :: back)])))) found
  /-- `car` and `cdr`. -/
  | taken {x : String} {path found : List Side} {expr : Value} (side : Side)
      (h : Carries x path (.expr expr) (side :: found)) :
      Carries x path (.call (.symbol side.taker.1) [expr]) found
  | first {x : String} {path found : List Side} {expr : Value} (other : Value)
      (h : Carries x path (.expr expr) found) :
      Carries x path (.call (.symbol "cons") [expr, other.quote]) (.first :: found)
  | second {x : String} {path found : List Side} {expr : Value} (other : Value)
      (h : Carries x path (.expr expr) found) :
      Carries x path (.call (.symbol "cons") [other.quote, expr]) (.rest :: found)
  | listed {x : String} {path found : List Side} {expr : Value} (front back : List Value)
      (h : Carries x path (.expr expr) found) :
      Carries x path
        (.call (.symbol "list") (front.map Value.quote ++ expr :: back.map Value.quote))
        (List.replicate front.length .rest ++ .first :: found)
  /-- An argument in any place, returned by the body. -/
  | passed {x y : String} {path between found : List Side} {expr body : Value}
      (before after : List String) (front back : List Value)
      (hFront : before.length = front.length) (hBack : after.length = back.length)
      (hFirst : y ∉ before) (hFree : ∀ name ∈ before ++ y :: after, Primitive.IsFree name)
      (hArg : Carries x path (.expr expr) between)
      (hBody : Carries y between (.expr body) found) :
      Carries x path
        (.call (.lambda (.list ((before ++ y :: after).map Value.symbol)) [body])
          (front.map Value.quote ++ expr :: back.map Value.quote)) found
  /-- An argument among those that are gathered in a list. -/
  | gathered {x y : String} {path between found : List Side} {expr body : Value}
      (front back : List Value) (hFree : Primitive.IsFree y)
      (hArg : Carries x path (.expr expr) between)
      (hBody : Carries y (List.replicate front.length .rest ++ .first :: between)
        (.expr body) found) :
      Carries x path
        (.call (.lambda (.symbol y) [body])
          (front.map Value.quote ++ expr :: back.map Value.quote)) found
  /-- A definition, of a variable that may be new or not. -/
  | defined {x y : String} {path between found : List Side} {expr body : Value}
      (hFree : Primitive.IsFree y) (hValue : Carries x path (.expr expr) between)
      (hBody : Carries y between (.expr body) found) :
      Carries x path
        (.call (.lambda (.list []) [.list [.symbol "define", .symbol y, expr], body]) []) found
  /-- An assignment to a variable that had another value. -/
  | assigned {x y : String} {path between found : List Side} {expr body : Value}
      (other : Value) (hFree : Primitive.IsFree y) (hOther : y ≠ x)
      (hValue : Carries x path (.expr expr) between)
      (hBody : Carries y between (.expr body) found) :
      Carries x path
        (.call (.lambda (.list [.symbol y]) [.list [.symbol "set!", .symbol y, expr], body])
          [other.quote]) found

/-- In the frame the primitives can be used, and the procedure is in the
variable at the place of the path. -/
structure Store.Offers (s : Store) (f : FrameId) (x : String) (path : List Side)
    (fn : Closure Value) : Prop where
  serves : s.Serves f
  found : ∃ v, s.get? f x = some v ∧ v.at? path = some (.closure fn)

namespace Store.Offers

variable {s : Store} {f : FrameId} {x y : String} {path : List Side} {fn p : Closure Value}
  {args : List Value} {v : Value}

theorem nextClosure (h : s.Offers f x path fn) : s.nextClosure.1.Offers f x path fn :=
  ⟨h.serves.nextClosure, h.found⟩

/-- A variable that was just defined or assigned. -/
theorem define (hServes : s.Serves f) (hf : f < s.frames.size) (hFree : Primitive.IsFree y)
    (hFound : v.at? path = some (.closure fn)) : (s.define f y v).Offers f y path fn :=
  ⟨hServes.define f hFree v, v, hServes.unaliased.get?_define_self hf y v, hFound⟩

/-- A variable that a call does not bind is found from inside. -/
theorem inside (h : s.Offers p.frame x path fn) (hLength : p.params.length ≤ args.length)
    (hFree : ∀ name, p.Binds name → Primitive.IsFree name) (hOther : ¬ p.Binds x) :
    (s.callFrame p args).1.Offers (s.callFrame p args).2 x path fn := by
  obtain ⟨v, hv, hFound⟩ := h.found
  refine ⟨h.serves.inside hLength hFree, v, ?_, hFound⟩
  exact (get?_callFrame_of_not_binds h.serves.unaliased hLength hOther).trans hv

end Store.Offers

theorem Template.paramNames?_map_symbol (names : List String) :
    paramNames? (names.map Value.symbol) = some names := by
  induction names with
  | nil => rfl
  | cons name names ih => rw [List.map_cons, paramNames?, ih, Option.map_some]

namespace Eval

variable {ctx : Context} {frame : FrameId} {m m₂ m' : Machine} {fn : Closure Value}
  {path found : List Side} {x y : String}

/-- The piece has a value, in which the procedure is at the place.  Of a call
this is said without writing it as an expression: of the head, the
arguments, and the application. -/
def Delivers (ctx : Context) (frame : FrameId) (m : Machine) (fn : Closure Value)
    (found : List Side) : Piece → Prop
  | .expr expr => ∃ v m', ComesTo ctx (.eval expr frame) m v m' ∧ v.at? found = some (.closure fn)
  | .call head args =>
    Form.ofParts? head args = none ∧ ∃ p vs v m₁ m₂ m',
      ComesTo ctx (.eval head frame) m p m₁ ∧ AllCome ctx frame args m₁ vs m₂ ∧
      ComesTo ctx (.apply p vs) m₂ v m' ∧ v.at? found = some (.closure fn)

namespace Delivers

theorem called {head : Value} {args : List Value}
    (h : Delivers ctx frame m fn found (.call head args)) :
    Delivers ctx frame m fn found (.expr (.list (head :: args))) := by
  obtain ⟨hForm, p, vs, v, m₁, m₂, m', hHead, hArgs, hApply, hFound⟩ := h
  exact ⟨v, m', .application hForm hHead hArgs hApply, hFound⟩

/-- A primitive that only computes, called by its name. -/
theorem primitive {name : String} {op : Primitive} (hName : (name, op) ∈ Primitive.carriers)
    (hServes : m.store.Serves frame) {f : List Value → Except Error Value}
    (hOp : op.pure? = some f) {args vs : List Value} (hArgs : AllCome ctx frame args m vs m')
    {v : Value} (hAnswer : f vs = .ok v) (hFound : v.at? found = some (.closure fn)) :
    Delivers ctx frame m fn found (.call (.symbol name) args) := by
  obtain ⟨p, hBound⟩ := hServes.has hName
  exact ⟨Form.ofParts?_carrier hName args, _, vs, v, m, m', m', .symbol hBound, hArgs,
    .primitive p hOp hAnswer, hFound⟩

theorem applied {head : Value} {front back : List Value} (hServes : m.store.Serves frame)
    (h : Delivers ctx frame m fn found (.call head (front ++ back))) :
    Delivers ctx frame m fn found (.expr (.list (.symbol "apply" :: head ::
      (front ++ [.list (.symbol "list" :: back)])))) := by
  obtain ⟨-, p, _, v, m₁, m₂, m', hHead, hArgs, hApply, hFound⟩ := h
  obtain ⟨vs, ws, m₃, rfl, hFront, hBack⟩ := hArgs.exists_of_append
  -- The list is made when the head and the first arguments have their values.
  have hServes₃ := hFront.serves frame (hHead.serves frame hServes)
  have hList : ComesTo ctx (.eval (.list (.symbol "list" :: back)) frame) m₃ (.list ws) m₂ :=
    .byName (show ("list", Primitive.list) ∈ Primitive.carriers by decide) hServes₃ hBack
      fun q => .primitive q rfl rfl
  have hSpread : AllCome ctx frame (head :: (front ++ [.list (.symbol "list" :: back)])) m
      (p :: (vs ++ [.list ws])) m₂ := .cons hHead (hFront.append (.cons hList .nil))
  exact ⟨v, m', .byName (show ("apply", Primitive.apply) ∈ Primitive.carriers by decide) hServes
    hSpread fun q => .apply q hApply, hFound⟩

end Delivers

/-- One expression among quoted values. -/
theorem AllCome.amid {v expr : Value} (front back : List Value)
    (h : ComesTo ctx (.eval expr frame) m v m') :
    AllCome ctx frame (front.map Value.quote ++ expr :: back.map Value.quote) m
      (front ++ v :: back) m' :=
  (ComesTo.quotes front).append (.cons h (ComesTo.quotes back))

/-! ## Procedures at the head of a call -/

/-- The machine after a procedure was made. -/
def afterMaking (m : Machine) : Machine := { m with store := m.store.nextClosure.1 }

/-- The machine at the beginning of a call. -/
def entering (m : Machine) (p : Closure Value) (args : List Value) : Machine :=
  { m with store := (m.store.callFrame p args).1 }

/-- The procedure that is made next. -/
def nextProcedure (m : Machine) (frame : FrameId) (params : List String) (rest : Option String)
    (body : List Value) : Closure Value :=
  { id := m.store.closures, params, rest, body, frame }

namespace Delivers

variable {between : List Side} {params : Value} {names : List String} {rest : Option String}
  {t : Template} {args vs : List Value} {expr body : Value}

/-- A procedure whose body carries on what the call has bound. -/
theorem bound (hForm : Form.ofParts? (.symbol "lambda") [params, body] = some (.lambda t))
    (hMade : t.instantiate frame m.store.closures = .ok (nextProcedure m frame names rest [body]))
    (hArgs : AllCome ctx frame args (afterMaking m) vs m₂)
    (hAccepts : (nextProcedure m frame names rest [body]).accepts vs.length = true)
    (hFree : ∀ name, (nextProcedure m frame names rest [body]).Binds name → Primitive.IsFree name)
    (hServes : m.store.Serves frame) {v : Value}
    (hBound : (entering m₂ (nextProcedure m frame names rest [body]) vs).store.get?
      (m₂.store.callFrame (nextProcedure m frame names rest [body]) vs).2 y = some v)
    (hFound : v.at? between = some (.closure fn))
    (hBody : ∀ m frame, m.store.Offers frame y between fn →
      Delivers ctx frame m fn found (.expr body)) :
    Delivers ctx frame m fn found (.call (.lambda params [body]) args) := by
  have hServes₂ := hArgs.serves frame hServes.nextClosure
  have hLength := ((Closure.accepts_iff _ _).1 hAccepts).2
  obtain ⟨w, m', hw, hResult⟩ := hBody (entering m₂ _ vs) _
    ⟨hServes₂.inside hLength hFree, v, hBound, hFound⟩
  exact ⟨rfl, _, vs, w, _, m₂, m', .lambda hForm hMade, hArgs,
    .call hAccepts (.cons hw .nil), hResult⟩

theorem passed {before after : List String} {front back : List Value}
    (hFront : before.length = front.length) (hBack : after.length = back.length)
    (hFirst : y ∉ before) (hFree : ∀ name ∈ before ++ y :: after, Primitive.IsFree name)
    (hServes : m.store.Serves frame)
    (hArg : Delivers ctx frame (afterMaking m) fn between (.expr expr))
    (hBody : ∀ m frame, m.store.Offers frame y between fn →
      Delivers ctx frame m fn found (.expr body)) :
    Delivers ctx frame m fn found
      (.call (.lambda (.list ((before ++ y :: after).map Value.symbol)) [body])
        (front.map Value.quote ++ expr :: back.map Value.quote)) := by
  obtain ⟨v, m₂, hv, hFound⟩ := hArg
  let p := nextProcedure m frame (before ++ y :: after) none [body]
  have hLength : p.params.length = (front ++ v :: back).length := by
    simp [p, nextProcedure, hFront, hBack]
  have hAccepts : p.accepts (front ++ v :: back).length = true :=
    (p.accepts_iff _).2 ⟨fun _ => hLength.symm, hLength.le⟩
  have hBinds : ∀ name, p.Binds name → Primitive.IsFree name :=
    fun name hName => hFree name (hName.resolve_right nofun)
  have hParam : y ∈ p.params := List.mem_append_right _ List.mem_cons_self
  obtain ⟨u, hPlace, hBound⟩ := m₂.store.get?_callFrame_param hLength.le hParam nofun
  -- The first place of the name is behind the others, and so is the argument.
  have hIndex : p.params.idxOf y = front.length := by
    show (before ++ y :: after).idxOf y = front.length
    rw [List.idxOf_append, if_neg hFirst, List.idxOf_cons_self, Nat.zero_add, hFront]
  have hSame : u = v := by
    rw [hIndex] at hPlace
    simpa using hPlace.symm
  refine bound rfl ?_ (.amid front back hv) hAccepts hBinds hServes (hSame ▸ hBound) hFound hBody
  rw [Template.instantiate, Template.paramNames?_map_symbol]
  rfl

theorem gathered (front back : List Value) (hFree : Primitive.IsFree y)
    (hServes : m.store.Serves frame)
    (hArg : Delivers ctx frame (afterMaking m) fn between (.expr expr))
    (hBody : ∀ m frame,
      m.store.Offers frame y (List.replicate front.length .rest ++ .first :: between) fn →
        Delivers ctx frame m fn found (.expr body)) :
    Delivers ctx frame m fn found
      (.call (.lambda (.symbol y) [body])
        (front.map Value.quote ++ expr :: back.map Value.quote)) := by
  obtain ⟨v, m₂, hv, hFound⟩ := hArg
  let p := nextProcedure m frame [] (some y) [body]
  have hAccepts : p.accepts (front ++ v :: back).length = true :=
    (p.accepts_iff _).2 ⟨nofun, Nat.zero_le _⟩
  have hBinds : ∀ name, p.Binds name → Primitive.IsFree name := by
    rintro name (hParam | hRest)
    · cases hParam
    · exact Option.some.inj hRest ▸ hFree
  exact bound rfl rfl (.amid front back hv) hAccepts hBinds hServes
    (m₂.store.get?_callFrame_rest _ rfl) ((Value.at?_list front v back between).trans hFound) hBody

/-- A procedure whose body stores what was carried, and then carries it on. -/
theorem stored {setter : Value}
    (hForm : Form.ofParts? (.symbol "lambda") [params, setter, body] = some (.lambda t))
    (hMade : t.instantiate frame m.store.closures =
      .ok (nextProcedure m frame names none [setter, body]))
    (hArgs : AllCome ctx frame args (afterMaking m) vs (afterMaking m))
    (hLength : vs.length = names.length) (hNames : ∀ name ∈ names, Primitive.IsFree name)
    (hFree : Primitive.IsFree y) (hOther : x ∉ names) (hOffers : m.store.Offers frame x path fn)
    (hSetter : ∀ m₃ v, let p := nextProcedure m frame names none [setter, body]
      ComesTo ctx (.eval expr ((afterMaking m).store.callFrame p vs).2)
        (entering (afterMaking m) p vs) v m₃ →
      ComesTo ctx (.eval setter ((afterMaking m).store.callFrame p vs).2)
        (entering (afterMaking m) p vs) v
        { m₃ with store := m₃.store.define ((afterMaking m).store.callFrame p vs).2 y v })
    (hValue : ∀ m frame, m.store.Offers frame x path fn →
      Delivers ctx frame m fn between (.expr expr))
    (hBody : ∀ m frame, m.store.Offers frame y between fn →
      Delivers ctx frame m fn found (.expr body)) :
    Delivers ctx frame m fn found (.call (.lambda params [setter, body]) args) := by
  let p := nextProcedure m frame names none [setter, body]
  have hAccepts : p.accepts vs.length = true :=
    (p.accepts_iff _).2 ⟨fun _ => hLength, hLength.ge⟩
  have hBinds : ∀ name, p.Binds name → Primitive.IsFree name :=
    fun name hName => hNames name (hName.resolve_right nofun)
  have hInside : (entering (afterMaking m) p vs).store.Offers
      ((afterMaking m).store.callFrame p vs).2 x path fn :=
    hOffers.nextClosure.inside hLength.ge hBinds fun hName => hOther (hName.resolve_right nofun)
  obtain ⟨v, m₃, hv, hFound⟩ := hValue _ _ hInside
  -- The frame of the call still exists when the value is stored.
  have hExists := Nat.lt_of_lt_of_le ((afterMaking m).store.size_le_callFrame p vs).2
    hv.grows.frames_le
  obtain ⟨w, m', hw, hResult⟩ := hBody { m₃ with store := m₃.store.define _ y v } _
    (.define (hv.serves _ hInside.serves) hExists hFree hFound)
  exact ⟨rfl, _, vs, w, _, _, m', .lambda hForm hMade, hArgs,
    .call hAccepts (.cons (hSetter m₃ v hv) (.cons hw .nil)), hResult⟩

end Delivers

/-! ## What is carried arrives -/

end Eval

open Eval

/-- **What is carried arrives.** -/
theorem Carries.delivers {ctx : Context} {fn : Closure Value} {x : String}
    {path found : List Side} {piece : Piece} (h : Carries x path piece found) (m : Machine)
    (frame : FrameId) (hOffers : m.store.Offers frame x path fn) :
    Delivers ctx frame m fn found piece := by
  induction h generalizing m frame with
  | named =>
      obtain ⟨v, hv, hFound⟩ := hOffers.found
      exact ⟨v, m, .symbol hv, hFound⟩
  | called _ ih => exact (ih m frame hOffers).called
  | applied _ ih => exact (ih m frame hOffers).applied hOffers.serves
  | taken side _ ih =>
      obtain ⟨v, m', hv, hFound⟩ := ih m frame hOffers
      obtain ⟨parts, hParts, hPart⟩ := Value.exists_of_at?_cons hFound
      have hPair : v.toPair = .ok parts := by rw [Value.toPair, hParts]
      cases side with
      | first =>
          refine .primitive (Side.taker_mem_carriers .first) hOffers.serves rfl (.cons hv .nil) ?_
            hPart
          exact congrArg (Except.map _) hPair
      | rest =>
          refine .primitive (Side.taker_mem_carriers .rest) hOffers.serves rfl (.cons hv .nil) ?_
            hPart
          exact congrArg (Except.map _) hPair
  | first other _ ih =>
      obtain ⟨v, m', hv, hFound⟩ := ih m frame hOffers
      exact .primitive (show ("cons", Primitive.cons) ∈ Primitive.carriers by decide)
        hOffers.serves rfl (.cons hv (.cons (.quote other) .nil)) rfl
        ((Value.at?_cons_first v other _).trans hFound)
  | second other _ ih =>
      obtain ⟨v, m', hv, hFound⟩ := ih m frame hOffers
      exact .primitive (show ("cons", Primitive.cons) ∈ Primitive.carriers by decide)
        hOffers.serves rfl (.cons (.quote other) (.cons hv .nil)) rfl
        (Value.at?_cons_rest other hFound)
  | listed front back _ ih =>
      obtain ⟨v, m', hv, hFound⟩ := ih m frame hOffers
      exact .primitive (show ("list", Primitive.list) ∈ Primitive.carriers by decide)
        hOffers.serves rfl (.amid front back hv) rfl ((Value.at?_list front v back _).trans hFound)
  | passed _ _ _ _ hFront hBack hFirst hFree _ _ ihArg ihBody =>
      exact .passed hFront hBack hFirst hFree hOffers.serves
        (ihArg (afterMaking m) frame hOffers.nextClosure) ihBody
  | gathered front back hFree _ _ ihArg ihBody =>
      exact .gathered front back hFree hOffers.serves
        (ihArg (afterMaking m) frame hOffers.nextClosure) ihBody
  | defined hFree _ _ ihValue ihBody =>
      exact .stored rfl rfl .nil rfl (List.forall_mem_nil _) hFree List.not_mem_nil hOffers
        (fun _ _ hv => .define hFree hv) ihValue ihBody
  | assigned other hFree hOther _ _ ihValue ihBody =>
      refine .stored rfl rfl (.cons (.quote other) .nil) rfl (List.forall_mem_singleton.2 hFree)
        hFree (fun hSame => hOther (List.mem_singleton.1 hSame).symm) hOffers
        (fun _ _ hv => .assign hFree ?_ hv) ihValue ihBody
      exact (afterMaking m).store.isBound_callFrame (Nat.le_refl 1) (.inl List.mem_cons_self)

/-- **A procedure that was carried is `eqv?` to itself**: comparing a variable
that has the procedure with the value of an expression to which it was
carried gives true. -/
theorem Carries.eqv {ctx : Context} {fn : Closure Value} {x : String} {expr : Value}
    (h : Carries x [] (.expr expr) []) {m : Machine} {frame : FrameId}
    (hServes : m.store.Serves frame) (hFn : m.store.get? frame x = some (.closure fn)) :
    ∃ m', ComesTo ctx (.eval (.list [.symbol "eqv?", .symbol x, expr]) frame) m (.bool true) m' := by
  obtain ⟨v, m', hv, hFound⟩ := h.delivers m frame ⟨hServes, _, hFn, rfl⟩
  obtain rfl : v = .closure fn := Option.some.inj hFound
  refine ⟨m', .byName (show ("eqv?", Primitive.eqv) ∈ Primitive.carriers by decide) hServes
    (.cons (.symbol hFn) (.cons hv .nil)) fun p => .primitive p rfl ?_⟩
  show Except.ok (Value.bool ((Value.closure fn).eqv (.closure fn))) = _
  rw [Value.eqv, beq_self_eq_true]

end MiniScheme
