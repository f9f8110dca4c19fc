/-!
# Frames

A frame is a table of names, each with the number of the cell that holds
its value.  There is no parent link.  A frame derived from another starts
with the same table, and the two share every cell that was not replaced,
which is how an assignment through one is seen through the other.

A frame is listed in the order in which its names came: a name that is
replaced keeps its place, a new name goes to the end.  The table is kept
the other way round, the newest name first.  So a derived frame is the old
table with a few entries in front, and the tables of many calls share their
tails.

## Main results

* `Frame.cell?_put` — binding a name changes what is found under that name
  and nothing else.
* `Frame.names_put` — a listed name keeps its place, a new one goes to the
  end.
-/

namespace MiniScheme

/-- A number by which the store knows a cell. -/
abbrev CellId := Nat

/-- A table of names with their cells. -/
structure Frame where
  /-- The entries of the table, the newest first. -/
  newest : List (String × CellId)
  deriving DecidableEq, Repr

namespace Frame

/-- The frame that binds nothing. -/
def empty : Frame := { newest := [] }

instance : Inhabited Frame := ⟨empty⟩

/-- The entries of the table in the order of listing. -/
def bindings (frame : Frame) : List (String × CellId) := frame.newest.reverse

/-- The names of the frame in the order of listing. -/
def names (frame : Frame) : List String := frame.bindings.map (·.1)

/-- The cell that `name` is bound to. -/
def cell? (frame : Frame) (name : String) : Option CellId := frame.newest.lookup name

/-- Puts another cell in the place of a name, wherever the list has it. -/
def replace (name : String) (cell : CellId) : List (String × CellId) → List (String × CellId)
  | [] => []
  | entry :: rest =>
    if entry.1 = name then (name, cell) :: rest else entry :: replace name cell rest

/-- Binds a name to a cell: in its old place if the frame lists it already,
at the end otherwise. -/
def put (frame : Frame) (name : String) (cell : CellId) : Frame :=
  match frame.cell? name with
  | some _ => { newest := replace name cell frame.newest }
  | none => { newest := (name, cell) :: frame.newest }

/-- Binds several names, one after the other. -/
def overlay (frame : Frame) (fresh : List (String × CellId)) : Frame :=
  fresh.foldl (fun frame entry => frame.put entry.1 entry.2) frame

/-! ## What binding a name changes -/

/-- Replacing changes what is found under the replaced name only. -/
theorem lookup_replace (name : String) (cell : CellId) (entries : List (String × CellId))
    (other : String) :
    (replace name cell entries).lookup other =
      if other = name then (entries.lookup name).map fun _ => cell
      else entries.lookup other := by
  induction entries with
  | nil => simp [replace]
  | cons entry rest ih =>
      obtain ⟨key, old⟩ := entry
      by_cases here : key = name
      · subst here
        by_cases same : other = key
        · simp [replace, same]
        · simp [replace, same, List.lookup_cons, beq_eq_false_iff_ne.2 same]
      · by_cases same : other = name
        · subst same
          have apart : (other == key) = false := beq_eq_false_iff_ne.2 fun h => here h.symm
          simpa [replace, here, List.lookup_cons, apart] using ih
        · simp only [replace, here, same, if_false, List.lookup_cons] at ih ⊢
          rw [ih]

/-- Replacing keeps the names and their order. -/
theorem map_fst_replace (name : String) (cell : CellId) (entries : List (String × CellId)) :
    (replace name cell entries).map (·.1) = entries.map (·.1) := by
  induction entries with
  | nil => rfl
  | cons entry rest ih =>
      by_cases here : entry.1 = name
      · simp [replace, here]
      · simp [replace, here, ih]

/-- A bound name is found, and all other names are found as before. -/
theorem cell?_put (frame : Frame) (name : String) (cell : CellId) (other : String) :
    (frame.put name cell).cell? other = if other = name then some cell else frame.cell? other := by
  unfold put
  split
  · next old found =>
      by_cases same : other = name
      · simp [cell?, lookup_replace, same] at found ⊢
        simp [found]
      · simp [cell?, lookup_replace, same]
  · by_cases same : other = name
    · simp [cell?, same]
    · simp [cell?, same, List.lookup_cons, beq_eq_false_iff_ne.2 same]

/-- A name that was listed keeps its place, a new one goes to the end. -/
theorem names_put (frame : Frame) (name : String) (cell : CellId) :
    (frame.put name cell).names =
      if (frame.cell? name).isSome then frame.names else frame.names ++ [name] := by
  unfold put
  split
  · next old found => simp [names, bindings, map_fst_replace, found]
  · next absent => simp [names, bindings, absent]

end Frame

/-- A batch of bindings without its repetitions: of one name the first
occurrence stays. -/
def firstOccurrences {α : Type} : List (String × α) → List (String × α)
  | [] => []
  | entry :: rest => entry :: (firstOccurrences rest).filter fun other => other.1 != entry.1

end MiniScheme
