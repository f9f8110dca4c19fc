import MiniScheme.Reader.Gap
import MiniScheme.Reader.Token

/-!
# Expressions

`expr` reads one expression from the front of a text:

* a token, or a quote mark and an expression;
* `( )` around expressions with separators between them, a proper list;
* the same with a dot, a separator and one more expression before the
  closing parenthesis, a dotted list.

Two notations share the opening parenthesis, and one pass over the text
decides between them: the elements are the same in both, and only where an
element might stand do they part.

## Which failure is reported

A text that is rejected fails in several places at once, because an element
that cannot be read leaves the list around it looking for its parenthesis.
Three rules say which place counts.

1. An element after the first that cannot be read is forgotten, and the
   list complains of its missing parenthesis in the element's place.
2. The first element is needed in the dotted notation, so its failure
   counts when it lies further on than the element's beginning.  It is then
   seen for the second time, and says so (`again`).
3. Behind a dot nothing is optional: every failure counts as it is.
-/

namespace MiniScheme.Reader

/-- A failure that is met for the second time names the first of the things
that were looked for in vain. -/
def again : ParseReason → ParseReason
  | .expectedExpression => .expectedString
  | reason => reason

/-- What follows the first element of a list: further elements, and the
expression behind a dot. -/
structure Items where
  elements : List Value
  tail? : Option Value

/-- The list with the given first element. -/
def Items.withFirst (items : Items) (first : Value) : Value :=
  match items.tail? with
  | none => .list (first :: items.elements)
  | some tail => .dotted (first :: items.elements) tail

/-- The items with one more in front. -/
def Items.cons (element : Value) (items : Items) : Items :=
  { items with elements := element :: items.elements }

/-- How an expression begins, with what follows its first character where
that character is a mark of its own. -/
inductive Opening where
  | quote (rest : List Char)
  | list (rest : List Char)
  | token
  deriving DecidableEq, Repr

/-- How the expression at the front of a text begins. -/
def opening : List Char → Opening
  | '\'' :: rest => .quote rest
  | '(' :: rest => .list rest
  | _ => .token

/-- What a quote mark stands before is shorter than the text. -/
theorem length_lt_of_opening_quote {s rest : List Char} (h : opening s = .quote rest) :
    rest.length < s.length := by
  unfold opening at h
  split at h <;> cases h
  exact Nat.lt_succ_self _

/-- What follows an opening parenthesis is shorter than the text. -/
theorem length_lt_of_opening_list {s rest : List Char} (h : opening s = .list rest) :
    rest.length < s.length := by
  unfold opening at h
  split at h <;> cases h
  exact Nat.lt_succ_self _

mutual

/-- Reads one expression. -/
def expr (s : List Char) : Except Stop (Reading Value s) :=
  match front : opening s with
  | .quote rest =>
    have inside := length_lt_of_opening_quote front
    match expr rest with
    | .ok r => .ok ((r.map Value.quote).extend (Nat.le_of_lt inside))
    | .error stop => .error stop
  | .list rest =>
    have inside := length_lt_of_opening_list front
    match inner : gap rest with
    | ')' :: after =>
      .ok { result := .nil, rest := after,
            shorter := Nat.lt_trans (length_lt_of_gap_eq_cons inner) inside }
    | first =>
      have skipped := length_le_of_gap_eq inner
      match expr first with
      | .ok r =>
        have := r.shorter
        match items r.rest with
        | .ok more => .ok ((more.map (·.withFirst r.result)).extend (by omega))
        | .error stop => .error stop
      | .error (.mismatch place reason) =>
        if place.length < first.length then .error (.mismatch place (again reason))
        else .error (.mismatch first .expectedClose)
      | .error stop => .error stop
  | .token =>
    match read : token? s with
    | .ok (some (v, rest)) => .ok { result := v, rest, shorter := token?_shorter read }
    | .ok none => .error (.mismatch s .expectedExpression)
    | .error stop => .error stop
termination_by s.length
decreasing_by all_goals omega

/-- Reads what follows the first element of a list, up to and with the
closing parenthesis. -/
def items (s : List Char) : Except Stop (Reading Items s) :=
  match inner : gap s with
  | ')' :: rest =>
    .ok { result := { elements := [], tail? := none }, rest,
          shorter := length_lt_of_gap_eq_cons inner }
  | '.' :: rest =>
    have inside := length_lt_of_gap_eq_cons inner
    if !startsGap s then .error (.mismatch ('.' :: rest) .expectedClose)
    else if !startsGap rest then .error (.mismatch rest .expectedSeparator)
    else
      have skipped := gap_length_le rest
      match expr (gap rest) with
      | .ok r =>
        have := r.shorter
        match closing : gap r.rest with
        | ')' :: after =>
          .ok { result := { elements := [], tail? := some r.result }, rest := after,
                shorter := by
                  have := length_lt_of_gap_eq_cons closing
                  omega }
        | place => .error (.mismatch place .expectedClose)
      | .error stop => .error stop
  | next =>
    if sep : startsGap s then
      have inside := length_lt_of_gap_eq sep inner
      match expr next with
      | .ok r =>
        have := r.shorter
        match items r.rest with
        | .ok more => .ok ((more.map (·.cons r.result)).extend (by omega))
        | .error stop => .error stop
      | .error (.mismatch _ _) => .error (.mismatch next .expectedClose)
      | .error stop => .error stop
    else .error (.mismatch next .expectedClose)
termination_by s.length
decreasing_by all_goals omega

end

end MiniScheme.Reader
