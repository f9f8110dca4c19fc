/-!
# The primitive procedures

Every procedure that is not written in the language itself is a constructor
of `Primitive`.  Families that differ only in an operation share one
constructor with that operation as its argument, so a law about all of them
is one statement.

The name a primitive goes by is not part of it: a table (`standard`, or one
that the user of the library puts together) gives each primitive its name.
-/

namespace MiniScheme

/-- The operations folded over two or more integers. -/
inductive Arithmetic where
  | add
  | subtract
  | multiply
  /-- Division rounding down. -/
  | floorDivide
  /-- What division rounding down leaves; it has the divisor's sign. -/
  | modulo
  /-- Division rounding toward zero. -/
  | quotient
  /-- What division rounding toward zero leaves; it has the dividend's sign. -/
  | remainder
  deriving DecidableEq, Repr

/-- The six comparisons of two things in a linear order. -/
inductive Comparison where
  | equal
  | less
  | greater
  | notEqual
  | atLeast
  | atMost
  deriving DecidableEq, Repr

/-- Does the comparison hold of two things in the given order? -/
def Comparison.holds : Comparison → Ordering → Bool
  | .equal, o => o.isEq
  | .less, o => o.isLT
  | .greater, o => o.isGT
  | .notEqual, o => o.isNe
  | .atLeast, o => o.isGE
  | .atMost, o => o.isLE

/-- The connectives of two booleans. -/
inductive Connective where
  | and
  | or
  deriving DecidableEq, Repr

/-- The kinds of value that a predicate can ask for. -/
inductive Kind where
  | null
  | pair
  | list
  | symbol
  | string
  | number
  | boolean
  | char
  | procedure
  deriving DecidableEq, Repr

/-- The procedures that are not written in the language itself. -/
inductive Primitive where
  | arithmetic (op : Arithmetic)
  | compareNumbers (op : Comparison)
  | connect (op : Connective)
  | compareStrings (op : Comparison)
  | car
  | cdr
  | cons
  | list
  | length
  | eqv
  | equal
  | test (kind : Kind)
  | stringLength
  | stringAppend
  | symbolToString
  | stringToSymbol
  | display
  | write
  | newline
  | read
  /-- Evaluates the forms of a file in the global frame. -/
  | load
  /-- Calls a procedure with the items of a list as its last arguments. -/
  | apply
  deriving DecidableEq, Repr

/-- A table of primitives under the names they are bound to, in the order
in which a frame lists them. -/
abbrev Primitive.Table := List (String × Primitive)

/-- The standard names, without the two primitives that need an
interpreter to call back into. -/
def Primitive.standard : Primitive.Table :=
  [("+", .arithmetic .add), ("-", .arithmetic .subtract), ("*", .arithmetic .multiply),
    ("/", .arithmetic .floorDivide), ("mod", .arithmetic .modulo),
    ("quotient", .arithmetic .quotient), ("remainder", .arithmetic .remainder),
    ("=", .compareNumbers .equal), ("<", .compareNumbers .less),
    (">", .compareNumbers .greater), ("/=", .compareNumbers .notEqual),
    (">=", .compareNumbers .atLeast), ("<=", .compareNumbers .atMost),
    ("&&", .connect .and), ("||", .connect .or),
    ("string=?", .compareStrings .equal), ("string<?", .compareStrings .less),
    ("string>?", .compareStrings .greater), ("string<=?", .compareStrings .atMost),
    ("string>=?", .compareStrings .atLeast),
    ("car", .car), ("cdr", .cdr), ("cons", .cons), ("list", .list), ("length", .length),
    ("eq?", .eqv), ("eqv?", .eqv), ("equal?", .equal),
    ("null?", .test .null), ("pair?", .test .pair), ("list?", .test .list),
    ("symbol?", .test .symbol), ("string?", .test .string), ("number?", .test .number),
    ("boolean?", .test .boolean), ("char?", .test .char), ("procedure?", .test .procedure),
    ("string-length", .stringLength), ("string-append", .stringAppend),
    ("symbol->string", .symbolToString), ("string->symbol", .stringToSymbol),
    ("display", .display), ("write", .write), ("newline", .newline), ("read", .read)]

/-- The primitives that every interpreter has, even one made with a table
that lacks them. -/
def Primitive.required : Primitive.Table := [("load", .load), ("apply", .apply)]

/-- Binds `name` to `op`.  A name that the table lists already keeps its
place. -/
def Primitive.Table.insert (table : Primitive.Table) (name : String) (op : Primitive) :
    Primitive.Table :=
  if table.any (·.1 == name) then
    table.map fun entry => if entry.1 == name then (name, op) else entry
  else table ++ [(name, op)]

/-- The table with the required primitives added, unless their names are
taken. -/
def Primitive.Table.complete (table : Primitive.Table) : Primitive.Table :=
  Primitive.required.foldl
    (fun done entry => if done.any (·.1 == entry.1) then done else done ++ [entry]) table

end MiniScheme
