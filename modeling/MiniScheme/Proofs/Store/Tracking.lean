import MiniScheme.Proofs.Eval.Evolution
import MiniScheme.Proofs.Store.Aliasing
import MiniScheme.Proofs.Store.Origin

/-!
# A variable has the value last written to it

The store keeps tables that are copied and cells that are shared.  The
history of its changes knows neither: it has origins and the writes to them
(`MiniScheme.Proofs.Store.Origin`).  Here the two are shown to be the same
thing, whatever frames are derived, defined in and assigned through, and in
whatever order.

The invariant is that cells are places for origins.  `Tracks place history
s` says that a name is bound exactly where it has an origin, to the cell
that `place` gives this origin; that different origins of one name have
different cells; and that each of these cells holds the latest write.  A
change either leaves the places as they are (`Tracks.quiet`) or adds one for
each new origin (`Tracks.fresh`).

## Main results

* `exists_tracks` — the store follows every history.
* `Machine.getVar_latest_write` — getting a variable fails if the name has
  no origin in the frame, and gives the latest write to its origin if it
  has one.
-/

namespace MiniScheme

/-! ## Batches of bindings -/

theorem lookup_filter_of_ne {α : Type} (batch : List (String × α)) {name key : String}
    (hKey : name ≠ key) :
    (batch.filter fun entry => entry.1 != key).lookup name = batch.lookup name := by
  induction batch with
  | nil => rfl
  | cons entry rest ih =>
      obtain ⟨other, v⟩ := entry
      by_cases hOther : other = key
      · subst hOther
        rw [List.filter_cons_of_neg (by simp), ih, List.lookup_cons, beq_eq_false_iff_ne.2 hKey]
      · rw [List.filter_cons_of_pos (by simpa using hOther), List.lookup_cons, List.lookup_cons,
          ih]

/-- Leaving repetitions out does not change what is found. -/
theorem lookup_firstOccurrences {α : Type} (batch : List (String × α)) (name : String) :
    (firstOccurrences batch).lookup name = batch.lookup name := by
  induction batch with
  | nil => rfl
  | cons entry rest ih =>
      obtain ⟨key, v⟩ := entry
      rw [firstOccurrences, List.lookup_cons, List.lookup_cons]
      cases hKey : name == key with
      | true => rfl
      | false => exact (lookup_filter_of_ne _ (beq_eq_false_iff_ne.1 hKey)).trans ih

/-- What is found is the value in the first place of the name. -/
theorem lookup_eq_getElem?_findIdx? {α : Type} (entries : List (String × α)) (name : String) :
    entries.lookup name =
      (entries.findIdx? (·.1 == name)).bind fun i => (entries.map (·.2))[i]? := by
  induction entries with
  | nil => rfl
  | cons entry rest ih =>
      rw [List.lookup_cons, List.findIdx?_cons, BEq.comm]
      cases entry.1 == name with
      | true => rfl
      | false =>
          rw [ih, if_neg Bool.false_ne_true, Option.bind_map]
          rfl

theorem lookup_eq_none_iff_notMem {α : Type} {entries : List (String × α)} {name : String} :
    entries.lookup name = none ↔ name ∉ entries.map (·.1) := by
  simp only [List.lookup_eq_none_iff, bne_iff_ne, List.mem_map, not_exists, not_and]
  exact ⟨fun h entry hEntry hKey => h entry hEntry hKey.symm,
    fun h entry hEntry hKey => h entry hEntry hKey.symm⟩

/-- A name of a batch keeps a place when repetitions are left out, and the
value there is the one that the name first occurs with. -/
theorem exists_findIdx?_firstOccurrences {α : Type} {batch : List (String × α)} {name : String}
    (hName : name ∈ batch.map (·.1)) :
    ∃ i v, (firstOccurrences batch).findIdx? (·.1 == name) = some i ∧
      ((firstOccurrences batch).map (·.2))[i]? = some v ∧ batch.lookup name = some v := by
  obtain ⟨v, hv⟩ := Option.ne_none_iff_exists'.1 fun hNone =>
    lookup_eq_none_iff_notMem.1 hNone hName
  have hPlace := hv
  rw [← lookup_firstOccurrences, lookup_eq_getElem?_findIdx?, Option.bind_eq_some_iff] at hPlace
  obtain ⟨i, hi, hValue⟩ := hPlace
  exact ⟨i, v, hi, hValue, hv⟩

theorem findIdx?_firstOccurrences_eq_none {α : Type} {batch : List (String × α)} {name : String}
    (hName : name ∉ batch.map (·.1)) :
    (firstOccurrences batch).findIdx? (·.1 == name) = none := by
  have hNone := lookup_eq_none_iff_notMem.2 hName
  rw [← lookup_firstOccurrences, List.lookup_eq_none_iff] at hNone
  rw [List.findIdx?_eq_none_iff]
  intro entry hEntry
  exact beq_eq_false_iff_ne.2 (Ne.symm (bne_iff_ne.1 (hNone entry hEntry)))

namespace Store

/-! ## Cells as places for origins -/

/-- Some frame has the name from this origin. -/
def Live (history : List Change) (name : String) (o : Nat) : Prop :=
  ∃ f, origin history f name = some o

/-- Every cell that is bound is the place of an origin, and holds what was
written to this origin last. -/
structure Tracks (place : String → Nat → CellId) (history : List Change) (s : Store) : Prop where
  frames : s.frames.size = frameCount history
  cell : ∀ f name, s.cell? f name = (origin history f name).map (place name)
  apart : ∀ {name o o'}, Live history name o → Live history name o' →
    place name o = place name o' → o = o'
  held : ∀ {name o}, Live history name o →
    s.cells[place name o]? = (writes history name o).getLast?

/-- Places for one more change, which is itself the origin of names that get
the given cells. -/
def placesAfter (history : List Change) (place : String → Nat → CellId)
    (cells : String → CellId) (name : String) (o : Nat) : CellId :=
  if o = history.length then cells name else place name o

theorem placesAfter_length (history : List Change) (place : String → Nat → CellId)
    (cells : String → CellId) (name : String) :
    placesAfter history place cells name history.length = cells name := if_pos rfl

theorem Live.placesAfter_eq {history : List Change} {name : String} {o : Nat}
    (hLive : Live history name o) (place : String → Nat → CellId) (cells : String → CellId) :
    placesAfter history place cells name o = place name o := by
  obtain ⟨f, hf⟩ := hLive
  exact if_neg (Nat.ne_of_lt (lt_length_of_origin hf))

theorem Live.of_append {history : List Change} {change : Change} {name : String} {o : Nat}
    (hLive : Live (history ++ [change]) name o) : Live history name o ∨ o = history.length := by
  obtain ⟨f, hf⟩ := hLive
  exact origin_append_cases hf

namespace Tracks

variable {place : String → Nat → CellId} {history : List Change} {s : Store}

theorem place_lt (h : Tracks place history s) (hApart : s.Unaliased) {name : String} {o : Nat}
    (hLive : Live history name o) : place name o < s.cells.size := by
  obtain ⟨f, hf⟩ := hLive
  have hCell := h.cell f name
  rw [hf, Option.map_some] at hCell
  exact hApart.lt_size hCell

/-- Different variables have different cells. -/
theorem place_eq_iff (h : Tracks place history s) (hApart : s.Unaliased) {name name' : String}
    {o o' : Nat} (hLive : Live history name o) (hLive' : Live history name' o') :
    place name o = place name' o' ↔ name = name' ∧ o = o' := by
  constructor
  · intro hPlace
    obtain ⟨f, hf⟩ := id hLive
    obtain ⟨g, hg⟩ := id hLive'
    have hCell := h.cell f name
    have hCell' := h.cell g name'
    rw [hf, Option.map_some] at hCell
    rw [hg, Option.map_some, ← hPlace] at hCell'
    obtain rfl := hApart.name_eq hCell hCell'
    exact ⟨rfl, h.apart hLive hLive' hPlace⟩
  · rintro ⟨rfl, rfl⟩
    rfl

/-- New places do not matter for the names that were bound before. -/
theorem map_placesAfter (h : Tracks place history s) (cells : String → CellId) (f : FrameId)
    (name : String) :
    (origin history f name).map (placesAfter history place cells name) = s.cell? f name := by
  rw [h.cell]
  cases hOrigin : origin history f name with
  | none => rfl
  | some o => rw [Option.map_some, Option.map_some, Live.placesAfter_eq ⟨f, hOrigin⟩]

/-- A change that makes no origins keeps the places. -/
theorem quiet (h : Tracks place history s) {change : Change}
    (hOrigin : ∀ f name, origin (history ++ [change]) f name = origin history f name)
    (hFrames : (s.after change).frames.size = frameCount (history ++ [change]))
    (hCell : ∀ f name, (s.after change).cell? f name = s.cell? f name)
    (hHeld : ∀ {name o}, Live history name o → (s.after change).cells[place name o]? =
      (written? history name o change).or s.cells[place name o]?) :
    Tracks place (history ++ [change]) (s.after change) := by
  have hLive : ∀ {name o}, Live (history ++ [change]) name o → Live history name o := by
    rintro name o ⟨f, hf⟩
    rw [hOrigin] at hf
    exact ⟨f, hf⟩
  refine ⟨hFrames, ?_, fun h₁ h₂ => h.apart (hLive h₁) (hLive h₂), ?_⟩
  · intro f name
    rw [hCell, hOrigin, h.cell]
  · intro name o hNew
    rw [hHeld (hLive hNew), getLast?_writes_append, h.held (hLive hNew)]

/-- A change that makes origins needs new cells for them, in which it leaves
what it writes, and leaves the old cells alone. -/
theorem fresh (h : Tracks place history s) (hApart : s.Unaliased) {change : Change}
    {cells : String → CellId} (hNew : ∀ name, s.cells.size ≤ cells name)
    (hFrames : (s.after change).frames.size = frameCount (history ++ [change]))
    (hCell : ∀ f name, (s.after change).cell? f name =
      (origin (history ++ [change]) f name).map (placesAfter history place cells name))
    (hOld : ∀ {name o}, Live history name o →
      (s.after change).cells[place name o]? = s.cells[place name o]? ∧
        written? history name o change = none)
    (hHeld : ∀ {name}, Live (history ++ [change]) name history.length →
      ∃ v, (s.after change).cells[cells name]? = some v ∧
        written? history name history.length change = some v) :
    Tracks (placesAfter history place cells) (history ++ [change]) (s.after change) := by
  have hBelow : ∀ {name o}, Live history name o → place name o ≠ cells name := fun hLive =>
    Nat.ne_of_lt (Nat.lt_of_lt_of_le (h.place_lt hApart hLive) (hNew _))
  refine ⟨hFrames, hCell, ?_, ?_⟩
  · intro name o o' hLive hLive' hSame
    rcases hLive.of_append with hBefore | rfl
    · rw [hBefore.placesAfter_eq] at hSame
      rcases hLive'.of_append with hBefore' | rfl
      · rw [hBefore'.placesAfter_eq] at hSame
        exact h.apart hBefore hBefore' hSame
      · rw [placesAfter_length] at hSame
        exact absurd hSame (hBelow hBefore)
    · rw [placesAfter_length] at hSame
      rcases hLive'.of_append with hBefore' | rfl
      · rw [hBefore'.placesAfter_eq] at hSame
        exact absurd hSame.symm (hBelow hBefore')
      · rfl
  · intro name o hLive
    rw [getLast?_writes_append]
    rcases hLive.of_append with hBefore | rfl
    · obtain ⟨hSame, hNone⟩ := hOld hBefore
      rw [hBefore.placesAfter_eq, hSame, hNone, Option.none_or, h.held hBefore]
    · obtain ⟨v, hValue, hWritten⟩ := hHeld hLive
      rw [placesAfter_length, hValue, hWritten, Option.some_or]

/-! ## Each kind of change -/

/-- A write to the cell of an origin is the latest write to this origin and
to no other. -/
theorem write (h : Tracks place history s) (hApart : s.Unaliased) {change : Change}
    {f : FrameId} {name : String} {o : Nat} {v : Value} (hOrigin : origin history f name = some o)
    (hAfter : s.after change = s.write (place name o) v)
    (hSame : ∀ g other, origin (history ++ [change]) g other = origin history g other)
    (hFrames : frameCount (history ++ [change]) = frameCount history)
    (hWritten : ∀ other o', written? history other o' change =
      if name = other ∧ origin history f other = some o' then some v else none) :
    Tracks place (history ++ [change]) (s.after change) := by
  have hHere : Live history name o := ⟨f, hOrigin⟩
  refine h.quiet hSame ?_ ?_ ?_
  · rw [hAfter, hFrames]
    exact h.frames
  · intro g other
    rw [hAfter, cell?_write]
  · intro other o' hLive
    rw [hAfter, hWritten, Store.write, Array.getElem?_setIfInBounds]
    by_cases hPlace : place name o = place other o'
    · obtain ⟨rfl, rfl⟩ := (h.place_eq_iff hApart hHere hLive).1 hPlace
      rw [if_pos rfl, if_pos (h.place_lt hApart hHere), if_pos ⟨rfl, hOrigin⟩, Option.some_or]
    · rw [if_neg hPlace, if_neg, Option.none_or]
      rintro ⟨rfl, hSome⟩
      rw [hOrigin, Option.some_inj] at hSome
      exact hPlace (hSome ▸ rfl)

theorem assign (h : Tracks place history s) (hApart : s.Unaliased) (f : FrameId) (name : String)
    (v : Value) : Tracks place (history ++ [.assign f name v]) (s.after (.assign f name v)) := by
  have hSame : ∀ g other,
      origin (history ++ [.assign f name v]) g other = origin history g other :=
    fun g other => origin_append_of_not_defines rfl rfl
  have hFrames : frameCount (history ++ [.assign f name v]) = frameCount history :=
    frameCount_append_singleton _ _
  have hCell := h.cell f name
  cases hOrigin : origin history f name with
  | some o =>
      rw [hOrigin, Option.map_some] at hCell
      refine h.write hApart hOrigin ?_ hSame hFrames fun _ _ => rfl
      rw [after, set?_of_cell? hCell, Option.getD_some]
  | none =>
      rw [hOrigin, Option.map_none] at hCell
      have hAfter : s.after (.assign f name v) = s := by
        rw [after, set?, hCell]
        rfl
      refine h.quiet hSame (by rw [hAfter, hFrames, h.frames]) (fun _ _ => by rw [hAfter]) ?_
      intro other o _
      have hWritten : written? history other o (.assign f name v) = none := by
        rw [written?, if_neg]
        rintro ⟨rfl, hSome⟩
        rw [hOrigin] at hSome
        cases hSome
      rw [hAfter, hWritten, Option.none_or]

/-- A definition of a name that has an origin is an assignment. -/
theorem redefine (h : Tracks place history s) (hApart : s.Unaliased) {f : FrameId}
    {name : String} {o : Nat} (hOrigin : origin history f name = some o) (v : Value) :
    Tracks place (history ++ [.define f name v]) (s.after (.define f name v)) := by
  have hCell := h.cell f name
  rw [hOrigin, Option.map_some] at hCell
  refine h.write hApart hOrigin (define_of_cell? hCell v) ?_ (frameCount_append_singleton _ _) ?_
  · refine fun g other => origin_append_of_quiet rfl fun hDefines _ => ?_
    simp only [Change.defines, Bool.and_eq_true, beq_iff_eq] at hDefines
    obtain ⟨rfl, rfl⟩ := hDefines
    rw [hOrigin]
    exact Option.some_ne_none o
  · intro other o'
    rw [written?]
    by_cases hName : name = other
    · subst hName
      simp [hOrigin]
    · rw [if_neg fun hBoth => hName hBoth.1, if_neg fun hBoth => hName hBoth.1]

/-- A definition of a name that has no origin leaves the other variables
alone. -/
theorem add_old (h : Tracks place history s) (hApart : s.Unaliased) {f : FrameId}
    {name : String} (hOrigin : origin history f name = none) (v : Value) {other : String} {o : Nat}
    (hLive : Live history other o) :
    (s.add f name v).cells[place other o]? = s.cells[place other o]? ∧
      written? history other o (.define f name v) = none := by
  have hLt := h.place_lt hApart hLive
  refine ⟨?_, ?_⟩
  · rw [add, Array.getElem?_push_lt hLt, Array.getElem?_eq_getElem hLt]
  · rw [written?, if_neg]
    rintro ⟨rfl, hHere⟩
    obtain ⟨g, hg⟩ := hLive
    rw [hOrigin, Option.getD_none] at hHere
    exact absurd (lt_length_of_origin hg) (hHere ▸ Nat.lt_irrefl _)

/-- A definition of a name that has no origin is the origin of this name in
this frame. -/
theorem defineNew (h : Tracks place history s) (hApart : s.Unaliased) {f : FrameId}
    {name : String} (hf : f < frameCount history) (hOrigin : origin history f name = none)
    (v : Value) :
    Tracks (placesAfter history place fun _ => s.cells.size) (history ++ [.define f name v])
      (s.after (.define f name v)) := by
  have hAfter : s.after (.define f name v) = s.add f name v :=
    define_of_unbound (by rw [h.cell, hOrigin, Option.map_none]) v
  have hHere : origin (history ++ [.define f name v]) f name = some history.length := by
    rw [origin_append_of_lt hf, hOrigin, Change.defines]
    simp
  have hOther : ∀ {g other}, ¬ (g = f ∧ other = name) →
      origin (history ++ [.define f name v]) g other = origin history g other := by
    refine fun hSite => origin_append_of_quiet rfl fun hDefines _ => ?_
    simp only [Change.defines, Bool.and_eq_true, beq_iff_eq] at hDefines
    exact absurd ⟨hDefines.1.symm, hDefines.2.symm⟩ hSite
  refine h.fresh hApart (fun _ => Nat.le_refl _) ?_ ?_ ?_ ?_
  · rw [hAfter, frameCount_append_singleton, ← h.frames]
    exact Array.size_modify
  · intro g other
    rw [hAfter, cell?_add, h.frames]
    by_cases hSite : g = f ∧ other = name
    · obtain ⟨rfl, rfl⟩ := hSite
      rw [if_pos ⟨rfl, hf, rfl⟩, hHere, Option.map_some, placesAfter_length]
    · rw [if_neg fun hAll => hSite ⟨hAll.1, hAll.2.2⟩, hOther hSite, h.map_placesAfter]
  · intro other o hLive
    rw [hAfter]
    exact h.add_old hApart hOrigin v hLive
  · rintro other ⟨g, hg⟩
    have hSite : g = f ∧ other = name := by
      refine Classical.byContradiction fun hSite => ?_
      rw [hOther hSite] at hg
      exact absurd (lt_length_of_origin hg) (Nat.lt_irrefl _)
    obtain ⟨rfl, rfl⟩ := hSite
    refine ⟨v, ?_, ?_⟩
    · rw [hAfter]
      exact Array.getElem?_push_size
    · rw [written?, hOrigin, if_pos ⟨rfl, rfl⟩]

/-- Nothing can be defined in a frame that does not exist. -/
theorem defineNowhere (h : Tracks place history s) (hApart : s.Unaliased) {f : FrameId}
    (hf : frameCount history ≤ f) (name : String) (v : Value) :
    Tracks place (history ++ [.define f name v]) (s.after (.define f name v)) := by
  have hOrigin := origin_of_maker?_eq_none (maker?_eq_none_iff.2 hf) name
  have hAfter : s.after (.define f name v) = s.add f name v :=
    define_of_unbound (by rw [h.cell, hOrigin, Option.map_none]) v
  refine h.quiet ?_ ?_ ?_ ?_
  · refine fun g other => origin_append_of_quiet rfl fun hDefines hg => ?_
    simp only [Change.defines, Bool.and_eq_true, beq_iff_eq] at hDefines
    exact absurd (hDefines.1 ▸ hg) (Nat.not_lt.2 hf)
  · rw [hAfter, frameCount_append_singleton, ← h.frames]
    exact Array.size_modify
  · intro g other
    rw [hAfter, cell?_add, h.frames, if_neg fun hAll => Nat.not_lt.2 hf hAll.2.1]
  · intro other o hLive
    obtain ⟨hSame, hNone⟩ := h.add_old hApart hOrigin v hLive
    rw [hAfter, hSame, hNone, Option.none_or]

end Tracks

/-- The cell that a name of a batch gets. -/
def batchCell (s : Store) (batch : List (String × Value)) (name : String) : CellId :=
  s.cells.size + ((firstOccurrences batch).findIdx? (·.1 == name)).getD 0

theorem getElem?_cells_derive (s : Store) (base : FrameId) (batch : List (String × Value))
    (i : Nat) :
    (s.derive base batch).1.cells[i]? =
      (s.cells.toList ++ (firstOccurrences batch).map (·.2))[i]? := by
  rw [← Array.getElem?_toList]
  exact congrArg (·[i]?) Array.toList_appendList

namespace Tracks

variable {place : String → Nat → CellId} {history : List Change} {s : Store}

/-- What the frames have after a bind: the old ones what they had, the new
one the names of the batch and what is passed to it. -/
theorem cell?_bind (h : Tracks place history s) (base : FrameId)
    (batch : List (String × Value)) (f : FrameId) (name : String) :
    (s.after (.bind base batch)).cell? f name =
      (origin (history ++ [.bind base batch]) f name).map
        (placesAfter history place (s.batchCell batch) name) := by
  rw [origin_append_bind, ← h.frames]
  rcases Nat.lt_trichotomy f s.frames.size with hf | rfl | hf
  · have hTarget : f ∉ { g | (Change.bind base batch).target? = some g } := by
      rintro ⟨⟩
    rw [if_pos hf, h.map_placesAfter, cell?, (s.grows_after (.bind base batch)).untouched hf hTarget,
      cell?]
  · rw [if_neg (Nat.lt_irrefl _), if_pos rfl, after, cell?_derive, Change.passes?]
    by_cases hName : name ∈ batch.map (·.1)
    · obtain ⟨i, v, hi, -⟩ := exists_findIdx?_firstOccurrences hName
      rw [if_pos hName, Option.map_some, placesAfter_length, batchCell, hi]
      rfl
    · rw [if_neg hName, findIdx?_firstOccurrences_eq_none hName, h.map_placesAfter]
      rfl
  · rw [if_neg (Nat.not_lt_of_gt hf), if_neg (Nat.ne_of_gt hf), Option.map_none]
    exact cell?_of_size_le ((Array.size_push _).trans_le hf) name

/-- The names that a bind is the origin of are those of its batch. -/
theorem mem_batch_of_live {base : FrameId} {batch : List (String × Value)} {name : String}
    (hLive : Live (history ++ [.bind base batch]) name history.length) :
    name ∈ batch.map (·.1) := by
  obtain ⟨f, hf⟩ := hLive
  rw [origin_append_bind] at hf
  split at hf
  · exact absurd (lt_length_of_origin hf) (Nat.lt_irrefl _)
  · split at hf
    · rw [Change.passes?] at hf
      split at hf
      · assumption
      · exact absurd (lt_length_of_origin hf) (Nat.lt_irrefl _)
    · cases hf

/-- A bind is the origin of the names of its batch, in the frame that it
makes. -/
theorem bind (h : Tracks place history s) (hApart : s.Unaliased) (base : FrameId)
    (batch : List (String × Value)) :
    Tracks (placesAfter history place (s.batchCell batch)) (history ++ [.bind base batch])
      (s.after (.bind base batch)) := by
  refine h.fresh hApart (fun _ => Nat.le_add_right _ _) ?_ (h.cell?_bind base batch) ?_ ?_
  · rw [frameCount_append_singleton, ← h.frames]
    exact Array.size_push _
  · intro name o hLive
    have hLt := h.place_lt hApart hLive
    obtain ⟨f, hf⟩ := hLive
    refine ⟨?_, ?_⟩
    · rw [after, getElem?_cells_derive, List.getElem?_append_left (by simpa using hLt),
        Array.getElem?_toList]
    · rw [written?, if_neg (Nat.ne_of_gt (lt_length_of_origin hf))]
  · intro name hLive
    obtain ⟨i, v, hi, hValue, hLookup⟩ :=
      exists_findIdx?_firstOccurrences (mem_batch_of_live hLive)
    refine ⟨v, ?_, ?_⟩
    · rw [after, getElem?_cells_derive, batchCell, hi, Option.getD_some, ← Array.length_toList,
        List.getElem?_append_right (Nat.le_add_right _ _), Nat.add_sub_cancel_left, hValue]
    · rw [written?, if_pos rfl, hLookup]

/-- **The store follows each change.** -/
theorem after (h : Tracks place history s) (hApart : s.Unaliased) (change : Change) :
    ∃ place', Tracks place' (history ++ [change]) (s.after change) := by
  cases change with
  | new =>
      refine ⟨place, h.quiet (fun _ _ => origin_append_of_not_defines rfl rfl) ?_ ?_ fun _ => rfl⟩
      · rw [frameCount_append_singleton, ← h.frames]
        exact Array.size_push _
      · intro f name
        rw [Store.after, newFrame, cell?, frame_push]
        split
        · next hf => rw [hf, cell?_of_size_le (Nat.le_refl _)]; rfl
        · rfl
  | bind base batch => exact ⟨_, h.bind hApart base batch⟩
  | assign f name v => exact ⟨place, h.assign hApart f name v⟩
  | define f name v =>
      cases hOrigin : origin history f name with
      | some o => exact ⟨place, h.redefine hApart hOrigin v⟩
      | none =>
          rcases Nat.lt_or_ge f (frameCount history) with hf | hf
          · exact ⟨_, h.defineNew hApart hf hOrigin v⟩
          · exact ⟨place, h.defineNowhere hApart hf name v⟩
  | number =>
      refine ⟨place, h.quiet (fun _ _ => origin_append_of_not_defines rfl rfl) ?_
        (fun _ _ => rfl) fun _ => rfl⟩
      rw [frameCount_append_singleton]
      exact h.frames

end Tracks

/-- **The store follows every history.** -/
theorem exists_tracks (history : List Change) :
    ∃ place, Tracks place history (Store.empty.replay history) := by
  induction history using List.reverseRecOn with
  | nil =>
      have hNone : ∀ f name, origin [] f name = none := fun _ => origin_of_maker?_eq_none rfl
      have hLive : ∀ {name o}, ¬ Live [] name o := by
        rintro name o ⟨f, hf⟩
        rw [hNone] at hf
        cases hf
      refine ⟨fun _ _ => 0, rfl, ?_, fun h => absurd h hLive, fun h => absurd h hLive⟩
      intro f name
      rw [hNone]
      rfl
  | append_singleton history change ih =>
      obtain ⟨place, hTracks⟩ := ih
      rw [replay_append]
      exact hTracks.after (unaliased_empty.replay history) change

/-- What is found under a name is the latest write to its origin. -/
theorem get?_replay (history : List Change) (f : FrameId) (name : String) :
    (Store.empty.replay history).get? f name =
      (origin history f name).bind fun o => (writes history name o).getLast? := by
  obtain ⟨place, hTracks⟩ := exists_tracks history
  rw [get?, hTracks.cell]
  cases hOrigin : origin history f name with
  | none => rfl
  | some o => exact hTracks.held ⟨f, hOrigin⟩

/-- What has an origin has a value. -/
theorem exists_latest_write {history : List Change} {f : FrameId} {name : String} {o : Nat}
    (hOrigin : origin history f name = some o) :
    ∃ v, (writes history name o).getLast? = some v := by
  obtain ⟨place, hTracks⟩ := exists_tracks history
  have hLive : Live history name o := ⟨f, hOrigin⟩
  have hLt := hTracks.place_lt (unaliased_empty.replay history) hLive
  exact ⟨_, (hTracks.held hLive).symm.trans (Array.getElem?_eq_getElem hLt)⟩

end Store

/-! ## Variables of the machine -/

namespace Machine

open Store (Change origin writes frameCount)

/-- The machine after a change of its variables, successful or not. -/
def perform (m : Machine) : Change → Machine
  | .new => (Run.create Store.newFrame).final m
  | .bind base batch => (Run.create (·.derive base batch)).final m
  | .assign f name v => (Run.setVar f name v).final m
  | .define f name v => (Run.defineVar f name v).final m
  | .number => (Run.create Store.nextClosure).final m

/-- The machine after a sequence of changes. -/
def performAll (m : Machine) (history : List Change) : Machine := history.foldl perform m

theorem store_perform (m : Machine) (change : Change) :
    (m.perform change).store = m.store.after change := by
  cases change with
  | assign f name v => exact Run.store_final_setVar f name v m
  | new | bind | define | number => rfl

theorem store_performAll (m : Machine) (history : List Change) :
    (m.performAll history).store = m.store.replay history := by
  induction history generalizing m with
  | nil => rfl
  | cons change history ih => exact (ih _).trans (congrArg (·.replay history) (m.store_perform change))

/-- **A variable has the value last written to it.**  After any sequence of
changes, failed ones included:

* getting a variable fails exactly if the name has no origin in the frame;
* if it has one, the result is the latest write to this origin;
* what is defined in a frame after another was derived from it is not seen
  in the derived one;
* what is assigned in a frame is seen in the frames derived from it, if
  they inherited the name. -/
theorem getVar_latest_write (output : String) (opened : Array Path) (history : List Change)
    (f : FrameId) (name : String) :
    let m := performAll { store := .empty, output, opened } history
    (Run.getVar f name m = .error (.error (.unbound .getting name)) m ↔
      origin history f name = none) ∧
    (∀ o, origin history f name = some o →
      ∃ v, (writes history name o).getLast? = some v ∧ Run.getVar f name m = .ok v m) ∧
    (∀ earlier base batch later, history = earlier ++ .bind base batch :: later →
      f = frameCount earlier → name ∉ batch.map (·.1) → origin earlier base name = none →
      (∀ change ∈ later, change.defines f name = false) →
      Run.getVar f name m = .error (.error (.unbound .getting name)) m) ∧
    (∀ earlier base batch later v,
      history = earlier ++ .bind base batch :: (later ++ [.assign base name v]) →
      f = frameCount earlier → name ∉ batch.map (·.1) → origin earlier base name ≠ none →
      Run.getVar f name m = .ok v m) := by
  intro m
  have hGet : m.store.get? f name =
      (origin history f name).bind fun o => (writes history name o).getLast? := by
    rw [← Store.get?_replay]
    exact congrArg (·.get? f name) (store_performAll _ history)
  have hNone : origin history f name = none →
      Run.getVar f name m = .error (.error (.unbound .getting name)) m := by
    intro hOrigin
    rw [Run.getVar_eq, hGet, hOrigin]
    rfl
  have hSome : ∀ o v, origin history f name = some o → (writes history name o).getLast? = some v →
      Run.getVar f name m = .ok v m := by
    intro o v hOrigin hLatest
    rw [Run.getVar_eq, hGet, hOrigin, Option.bind_some, hLatest]
  refine ⟨⟨fun hFails => ?_, hNone⟩, ?_, ?_, ?_⟩
  · refine Option.eq_none_iff_forall_ne_some.2 fun o hOrigin => ?_
    obtain ⟨v, hv⟩ := Store.exists_latest_write hOrigin
    rw [hSome o v hOrigin hv] at hFails
    cases hFails
  · intro o hOrigin
    obtain ⟨v, hv⟩ := Store.exists_latest_write hOrigin
    exact ⟨v, hv, hSome o v hOrigin hv⟩
  · rintro earlier base batch later rfl rfl hName hBase hLater
    refine hNone ?_
    rw [Store.origin_of_bind _ _ _ hName, hBase, List.findIdx?_eq_none_iff.2 hLater]
    rfl
  · rintro earlier base batch later v rfl rfl hName hBase
    obtain ⟨o, ho⟩ := Option.ne_none_iff_exists'.1 hBase
    refine hSome o v (by rw [Store.origin_of_bind _ _ _ hName, ho, Option.some_or]) ?_
    have hBefore := Store.origin_append_of_some ho (.bind base batch :: later)
    rw [← List.cons_append, ← List.append_assoc, Store.getLast?_writes_append, Store.written?,
      if_pos ⟨rfl, hBefore⟩, Option.some_or]

/-- A frame is derived from another; then the other gets a new name and an
old one is assigned through it.  The derived frame sees the assignment and
not the new name. -/
theorem getVar_latest_write_derived :
    let history : List Change := [.new, .bind 0 [("x", .int 1), ("x", .int 2)], .bind 1 [],
      .define 1 "y" (.int 5), .assign 1 "x" (.int 9)]
    let m := performAll { store := .empty, output := "", opened := #[] } history
    origin history 2 "x" = some 1 ∧ Run.getVar 2 "x" m = .ok (.int 9) m ∧
      Run.getVar 2 "y" m = .error (.error (.unbound .getting "y")) m := by
  intro history m
  have hInherited : origin [.new, .bind 0 [("x", .int 1), ("x", .int 2)]] 1 "x" ≠ none := by
    decide +kernel
  have hMissing : origin [.new, .bind 0 [("x", .int 1), ("x", .int 2)]] 1 "y" = none := by
    decide +kernel
  refine ⟨by decide +kernel, ?_, ?_⟩
  · exact (getVar_latest_write "" #[] history 2 "x").2.2.2 [.new, .bind 0 _] 1 []
      [.define 1 "y" (.int 5)] (.int 9) rfl rfl (by simp) hInherited
  · exact (getVar_latest_write "" #[] history 2 "y").2.2.1 [.new, .bind 0 _] 1 [] _ rfl rfl
      (by simp) hMissing (by decide)

end Machine

end MiniScheme
