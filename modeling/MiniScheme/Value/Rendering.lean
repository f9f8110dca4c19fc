import MiniScheme.Error.Fault
import MiniScheme.Value.Inspect

/-!
# Rendering values

The textual forms of a value as strings.  Each is refused to a value that
holds an integer too long to be written.

Where results and failures are reported, the room for writing a value is
limited too: it is a recursion over the value, and the machine gives up on
values that are nested too deeply.  `Value.writtenWithin` is told how many
levels it may use.

## Main results

* `writtenWithin_eq_of_ne` — the limit decides nothing else: a text that is
  not given up on is the same at all limits.
* `exists_room`, `exists_rooms` — no value is given up on at all limits.
-/

namespace MiniScheme.Value

/-- The value in one of its textual forms, unless an integer in it is too
long to be written. -/
def render (form : Value → List Char) (v : Value) : Except Fault String :=
  if v.hasText then .ok (String.ofList (form v)) else .error .tooManyDigits

/-- The text of a value as the reader takes it back. -/
def written (v : Value) : Except Fault String := v.render Value.text

/-- The text of a value for people. -/
def displayed (v : Value) : Except Fault String := v.render Value.displayText

/-- The diagnostic form of a value. -/
def inspected (v : Value) : Except Fault String := v.render Value.inspect

/-- The diagnostic form, in which a string or symbol stands for itself. -/
def plain (v : Value) : Except Fault String := v.render Value.plainText

/-! ## Writing within a limit -/

mutual

/-- The first fault of writing a value with `depth` levels of recursion to
spare.  A value takes one of them, and the walk through the values of a list
another. -/
def writingFault? : Nat → Value → Option Fault
  | 0, _ => some .tooDeep
  | _ + 1, .int n => if Numeral.hasText n then none else some .tooManyDigits
  | depth + 1, .list items => writingFaults? (depth - 1) items
  | depth + 1, .dotted head tail =>
    (writingFaults? (depth - 1) head).or (writingFault? depth tail)
  | _ + 1, _ => none

/-- The first fault of writing several values, one after the other. -/
def writingFaults? : Nat → List Value → Option Fault
  | _, [] => none
  | depth, v :: rest => (writingFault? depth v).or (writingFaults? depth rest)

end

/-- The text of a value as the reader takes it back, written with `depth`
levels of recursion to spare. -/
def writtenWithin (depth : Nat) (v : Value) : Except Fault String :=
  match writingFault? depth v with
  | none => .ok (String.ofList v.text)
  | some f => .error f

theorem or_ne_of_ne {first second : Option Fault} {f : Fault} (hFirst : first ≠ some f)
    (hSecond : second ≠ some f) : first.or second ≠ some f := by
  cases first with
  | none => exact hSecond
  | some g => exact hFirst

/-- Two walks in turn are stopped by what stops one of them. -/
theorem or_eq_of_ne {first second : Option Fault} {b c : Bool}
    (hFirst : first ≠ some .tooDeep → first = if b then none else some .tooManyDigits)
    (hSecond : second ≠ some .tooDeep → second = if c then none else some .tooManyDigits)
    (h : first.or second ≠ some .tooDeep) :
    first.or second = if b && c then none else some .tooManyDigits := by
  cases first with
  | none =>
      have hb : b = true := by simpa using hFirst nofun
      rw [Option.none_or] at h ⊢
      rw [hSecond h, hb, Bool.true_and]
  | some f =>
      have hb : b = false := by
        cases b with
        | false => rfl
        | true => exact nomatch hFirst h
      rw [Option.some_or, hFirst h, hb]
      rfl

mutual

/-- Unless the levels run out, what stops the writing of a value is an integer
that is too long. -/
theorem writingFault?_eq_of_ne {depth : Nat} {v : Value}
    (h : writingFault? depth v ≠ some .tooDeep) :
    writingFault? depth v = if v.hasText then none else some .tooManyDigits := by
  cases depth with
  | zero =>
      rw [writingFault?] at h
      exact absurd rfl h
  | succ depth =>
      cases v with
      | int n =>
          rw [writingFault?]
          exact ite_congr (by rw [hasText]) (fun _ => rfl) fun _ => rfl
      | list items =>
          rw [writingFault?] at h ⊢
          rw [hasText, writingFaults?_eq_of_ne h]
      | dotted head tail =>
          rw [writingFault?] at h ⊢
          rw [hasText]
          exact or_eq_of_ne writingFaults?_eq_of_ne writingFault?_eq_of_ne h
      | symbol | string | bool | char | primitive | closure | foreign => rfl

theorem writingFaults?_eq_of_ne {depth : Nat} {vs : List Value}
    (h : writingFaults? depth vs ≠ some .tooDeep) :
    writingFaults? depth vs = if haveText vs then none else some .tooManyDigits := by
  cases vs with
  | nil => rfl
  | cons v rest =>
      rw [writingFaults?] at h ⊢
      rw [haveText]
      exact or_eq_of_ne writingFault?_eq_of_ne writingFaults?_eq_of_ne h

end

mutual

/-- With room enough, the writing of a value is not given up. -/
theorem exists_room (v : Value) :
    ∃ room, ∀ depth, room < depth → writingFault? depth v ≠ some .tooDeep := by
  cases v with
  | list items =>
      obtain ⟨room, hRoom⟩ := exists_rooms items
      refine ⟨room + 2, fun depth hDepth => ?_⟩
      obtain ⟨d, rfl⟩ := Nat.exists_eq_add_of_lt hDepth
      rw [writingFault?]
      exact hRoom _ (by omega)
  | dotted head tail =>
      obtain ⟨room, hHead⟩ := exists_rooms head
      obtain ⟨room', hTail⟩ := exists_room tail
      refine ⟨room + room' + 2, fun depth hDepth => ?_⟩
      obtain ⟨d, rfl⟩ := Nat.exists_eq_add_of_lt hDepth
      rw [writingFault?]
      exact or_ne_of_ne (hHead _ (by omega)) (hTail _ (by omega))
  | int n =>
      refine ⟨0, fun depth hDepth => ?_⟩
      obtain ⟨d, rfl⟩ := Nat.exists_eq_add_of_lt hDepth
      rw [writingFault?]
      split <;> nofun
  | symbol | string | bool | char | primitive | closure | foreign =>
      refine ⟨0, fun depth hDepth => ?_⟩
      obtain ⟨d, rfl⟩ := Nat.exists_eq_add_of_lt hDepth
      nofun

theorem exists_rooms (vs : List Value) :
    ∃ room, ∀ depth, room < depth → writingFaults? depth vs ≠ some .tooDeep := by
  cases vs with
  | nil => exact ⟨0, fun depth _ => nofun⟩
  | cons v rest =>
      obtain ⟨room, hFirst⟩ := exists_room v
      obtain ⟨room', hRest⟩ := exists_rooms rest
      refine ⟨room + room', fun depth hDepth => ?_⟩
      rw [writingFaults?]
      exact or_ne_of_ne (hFirst _ (by omega)) (hRest _ (by omega))

end

/-- **The limit decides only whether the writing is given up.** -/
theorem writtenWithin_eq_of_ne {depth : Nat} {v : Value}
    (h : v.writtenWithin depth ≠ .error .tooDeep) : v.writtenWithin depth = v.written := by
  have hDeep : writingFault? depth v ≠ some .tooDeep := by
    intro hDeep
    rw [writtenWithin, hDeep] at h
    exact h rfl
  rw [writtenWithin, writingFault?_eq_of_ne hDeep, written, render]
  cases v.hasText <;> rfl

theorem written_of_writtenWithin {depth : Nat} {v : Value} {text : String}
    (h : v.writtenWithin depth = .ok text) : v.written = .ok text := by
  rw [← h, writtenWithin_eq_of_ne]
  rw [h]
  nofun

/-! ## Characters from text -/

/-- The character that a text of one character gives. -/
def ofCharText (s : String) : Except Fault Value :=
  match s.toList with
  | [c] => .ok (.char c)
  | _ => .error (.notOneCharacter s)

end MiniScheme.Value
