import Mathlib.Data.List.Nodup
import MiniScheme.Proofs.Store.CallFrame
import MiniScheme.Store.Listing

/-!
# The order in which names are listed

A frame shows its names in an order, and the order is part of what a user
sees.  It is the order in which the names came: assigning or defining a
listed name moves nothing, a new name goes to the end, and a derived frame
begins with the list of the frame it is derived from, whatever its batch
shadows, repeats or adds.

The list and the table that names are looked up in are one piece of data,
but they are read differently: looking up stops at the first entry of a
name, listing shows them all.  The two agree because **no name is listed
twice** (`ListsOnce`), which every change keeps (`ListsOnce.after`).

## Main results

* `names_derive` — the names of a derived frame: those of the base, then the
  new ones of the batch in the order of their first occurrence.
* `names_define` — a definition of a new name appends it to one list.
* `ListsOnce.replay` — no history makes a frame list a name twice.
* `prefix_names_replay` — the list of an existing frame only grows at its
  end.
* `ListsOnce.exists_frameText_eq` — what is shown for a name is what is found
  under it.
-/

namespace MiniScheme

/-! ## Batches of bindings -/

/-- Without its repetitions a batch has its names in the order of their first
occurrence, also when only some of the names are looked at. -/
theorem filter_map_fst_firstOccurrences {α : Type} (batch : List (String × α))
    (p : String → Bool) :
    ((firstOccurrences batch).map (·.1)).filter p = ((batch.map (·.1)).filter p).eraseDups := by
  induction batch generalizing p with
  | nil => rfl
  | cons entry rest ih =>
      obtain ⟨key, v⟩ := entry
      have hOthers : ((firstOccurrences rest).filter fun other => other.1 != key).map (·.1) =
          ((firstOccurrences rest).map (·.1)).filter (· != key) := by
        rw [List.filter_map]
        rfl
      rw [firstOccurrences, List.map_cons, List.map_cons, hOthers]
      by_cases hKey : p key = true
      · rw [List.filter_cons_of_pos hKey, List.filter_cons_of_pos hKey, List.eraseDups_cons,
          List.filter_comm _ p, List.filter_filter, List.filter_filter]
        exact congrArg _ (ih _)
      · -- Names that pass the test differ from the key anyway.
        have hApart : ∀ name, (p name && name != key) = p name := by
          intro name
          by_cases hSame : name = key
          · simp [hSame, hKey]
          · simp [hSame]
        rw [List.filter_cons_of_neg hKey, List.filter_cons_of_neg hKey, List.filter_filter]
        simp only [hApart, ih]

/-- Of entries with different names each is found. -/
theorem lookup_of_mem {α : Type} {entries : List (String × α)}
    (hNames : (entries.map (·.1)).Nodup) {entry : String × α} (hEntry : entry ∈ entries) :
    entries.lookup entry.1 = some entry.2 := by
  induction entries with
  | nil => cases hEntry
  | cons first rest ih =>
      rw [List.map_cons, List.nodup_cons] at hNames
      rw [List.lookup_cons]
      rcases List.mem_cons.1 hEntry with rfl | hRest
      · rw [beq_self_eq_true]
      · have hOther : entry.1 ≠ first.1 := fun hSame =>
          hNames.1 (hSame ▸ List.mem_map_of_mem hRest)
        rw [beq_eq_false_iff_ne.2 hOther]
        exact ih hNames.2 hRest

/-- Looking up the names of some entries that are all found. -/
theorem mapM_map_fst {α : Type} {find : String → Option α} {entries : List (String × α)}
    (h : ∀ entry ∈ entries, find entry.1 = some entry.2) :
    (entries.map (·.1)).mapM find = some (entries.map (·.2)) := by
  induction entries with
  | nil => rfl
  | cons entry rest ih =>
      rw [List.map_cons, List.mapM_cons, h entry List.mem_cons_self,
        ih fun other hOther => h other (List.mem_cons_of_mem _ hOther)]
      rfl

namespace Frame

/-! ## The names of one frame -/

theorem mem_names_iff {frame : Frame} {name : String} :
    name ∈ frame.names ↔ (frame.cell? name).isSome = true := by
  have hNone : frame.cell? name = none ↔ name ∉ frame.names := by
    rw [cell?, lookup_eq_none_iff_notMem, names, bindings, List.map_reverse, List.mem_reverse]
  rw [Option.isSome_iff_ne_none, Ne, hNone, not_not]

/-- Listed names keep their places, and the others follow in their order. -/
theorem names_overlay (frame : Frame) {fresh : List (String × CellId)}
    (hNames : (fresh.map (·.1)).Nodup) :
    (frame.overlay fresh).names =
      frame.names ++ (fresh.map (·.1)).filter (· ∉ frame.names) := by
  induction fresh generalizing frame with
  | nil => simp [overlay]
  | cons entry fresh ih =>
      obtain ⟨key, cell⟩ := entry
      rw [List.map_cons, List.nodup_cons] at hNames
      rw [overlay, List.foldl_cons, ← overlay, ih _ hNames.2, names_put, List.map_cons]
      by_cases hKey : key ∈ frame.names
      · rw [if_pos (mem_names_iff.1 hKey), List.filter_cons_of_neg (by simpa using hKey)]
      · rw [if_neg fun hSome => hKey (mem_names_iff.2 hSome),
          List.filter_cons_of_pos (by simpa using hKey), List.append_assoc, List.singleton_append]
        -- The key does not occur again, so it may count as listed already.
        congr 2
        refine List.filter_congr fun name hName => ?_
        have hOther : name ≠ key := fun hSame => hNames.1 (hSame ▸ hName)
        simp [hOther]

/-- In a table without repetitions every entry is found. -/
theorem cell?_of_mem_bindings {frame : Frame} (h : frame.names.Nodup) {entry : String × CellId}
    (hEntry : entry ∈ frame.bindings) : frame.cell? entry.1 = some entry.2 := by
  rw [names, bindings, List.map_reverse, List.nodup_reverse] at h
  exact lookup_of_mem h (List.mem_reverse.1 hEntry)

end Frame

namespace Store

/-- The names of a frame in the order of listing. -/
def names (s : Store) (f : FrameId) : List String := (s.listing f).map (·.1)

theorem names_eq (s : Store) (f : FrameId) : s.names f = (s.frame f).names := by
  rw [names, listing, List.map_map]
  rfl

/-- The names that are listed are those that are bound. -/
theorem mem_names_iff {s : Store} {f : FrameId} {name : String} :
    name ∈ s.names f ↔ s.isBound f name = true := by
  rw [names_eq, Frame.mem_names_iff, isBound, cell?]

/-! ## The lists after one change -/

/-- A new frame lists nothing, and the others what they did. -/
theorem names_newFrame (s : Store) (g : FrameId) :
    s.newFrame.1.names g = if g = s.frames.size then [] else s.names g := by
  rw [names_eq, names_eq, newFrame, frame_push]
  split <;> rfl

/-- **The names of a derived frame** are those of the base in their order,
then the names that only the batch has, in the order of their first
occurrence. -/
theorem names_derive (s : Store) (base : FrameId) (batch : List (String × Value)) (g : FrameId) :
    (s.derive base batch).1.names g =
      if g = s.frames.size then
        s.names base ++ ((batch.map (·.1)).filter (· ∉ s.names base)).eraseDups
      else s.names g := by
  have hNames := nodup_map_fst_firstOccurrences batch
  rw [← map_fst_map_zipIdx _ s.cells.size] at hNames
  rw [names_eq, names_eq, names_eq, derive, frame_push]
  split
  · rw [Frame.names_overlay _ hNames, map_fst_map_zipIdx, filter_map_fst_firstOccurrences]
  · rfl

/-- An assignment moves nothing, whether the name is bound or not. -/
theorem names_after_assign (s : Store) (f : FrameId) (name : String) (v : Value) (g : FrameId) :
    (s.after (.assign f name v)).names g = s.names g := by
  rw [names_eq, names_eq, frame, frame, (s.after_assign f name v).1]

/-- **A definition** of a new name appends it to the list of its frame and
does nothing to the others; of a listed name it moves nothing. -/
theorem names_define (s : Store) (f : FrameId) (name : String) (v : Value) (g : FrameId) :
    (s.define f name v).names g =
      if g = f ∧ f < s.frames.size ∧ s.isBound f name = false then s.names f ++ [name]
      else s.names g := by
  cases hCell : s.cell? f name with
  | some cell =>
      have hBound : s.isBound f name = true := by rw [isBound, hCell, Option.isSome_some]
      rw [define_of_cell? hCell, if_neg]
      · rw [names_eq, names_eq]
        rfl
      · rintro ⟨-, -, hUnbound⟩
        rw [hBound] at hUnbound
        cases hUnbound
  | none =>
      have hUnbound : s.isBound f name = false := by rw [isBound, hCell, Option.isSome_none]
      have hAbsent : ((s.frame f).cell? name).isSome = false := hUnbound
      rw [define_of_unbound hCell, names_eq, names_eq, names_eq, frame_add]
      by_cases hHere : g = f ∧ f < s.frames.size
      · rw [if_pos hHere, if_pos ⟨hHere.1, hHere.2, hUnbound⟩, Frame.names_put, hAbsent,
          if_neg Bool.false_ne_true]
      · rw [if_neg hHere, if_neg fun hAll => hHere ⟨hAll.1, hAll.2.1⟩]

/-- A change that defines no name in an existing frame leaves its list as it
is. -/
theorem names_after_of_target?_ne (s : Store) {change : Change} {g : FrameId}
    (hg : g < s.frames.size) (hTarget : change.target? ≠ some g) :
    (s.after change).names g = s.names g := by
  rw [names_eq, names_eq, (s.grows_after change).untouched hg hTarget]

/-- **One change** only adds to the end of the list of an existing frame. -/
theorem prefix_names_after (s : Store) (change : Change) {g : FrameId} (hg : g < s.frames.size) :
    s.names g <+: (s.after change).names g := by
  cases change with
  | define f name v =>
      rw [after, names_define]
      split
      · next hNew =>
          rw [hNew.1]
          exact List.prefix_append _ _
      · exact List.prefix_rfl
  | new | bind | assign | number =>
      -- No other change has a target at all.
      refine ⟨[], (List.append_nil _).trans (s.names_after_of_target?_ne hg ?_).symm⟩
      rintro ⟨⟩

/-- **A history** only adds to the ends of the lists of existing frames. -/
theorem prefix_names_replay (s : Store) (history : List Change) {g : FrameId}
    (hg : g < s.frames.size) : s.names g <+: (s.replay history).names g := by
  induction history generalizing s with
  | nil => exact List.prefix_rfl
  | cons change history ih =>
      have hStill : g < (s.after change).frames.size :=
        Nat.lt_of_lt_of_le hg (s.grows_after change).frames_le
      exact (s.prefix_names_after change hg).trans (ih _ hStill)

theorem Evolves.prefix_names {touched : Set FrameId} {s s' : Store} (h : Evolves touched s s')
    {g : FrameId} (hg : g < s.frames.size) : s.names g <+: s'.names g := by
  obtain ⟨history, rfl, -⟩ := h
  exact s.prefix_names_replay history hg

/-! ## Values in a derived frame -/

/-- In a derived frame a name of the batch has the value that it first occurs
with there, and any other name the value that it has in the base. -/
theorem Unaliased.get?_derive {s : Store} (h : s.Unaliased) (base : FrameId)
    (batch : List (String × Value)) (name : String) :
    (s.derive base batch).1.get? s.frames.size name =
      (batch.lookup name).or (s.get? base name) := by
  by_cases hName : name ∈ batch.map (·.1)
  · obtain ⟨v, hValue⟩ := Option.ne_none_iff_exists'.1 fun hNone =>
      lookup_eq_none_iff_notMem.1 hNone hName
    rw [hValue, Option.some_or, ← hValue]
    exact s.get?_derive_of_mem base hName
  · rw [lookup_eq_none_iff_notMem.2 hName, Option.none_or, get?, get?]
    refine (congrArg (Option.bind · _) (s.cell?_derive_of_notMem base hName)).trans ?_
    cases hCell : s.cell? base name with
    | none => rfl
    | some cell => exact (s.extends_derive base batch).held (h.lt_size hCell)

/-! ## No name is listed twice -/

/-- No frame lists a name twice. -/
def ListsOnce (s : Store) : Prop := ∀ f, (s.names f).Nodup

theorem listsOnce_empty : ListsOnce empty := fun _ => List.nodup_nil

namespace ListsOnce

variable {s : Store}

/-- **Each change** keeps it so: what it appends was not listed. -/
theorem after (h : s.ListsOnce) (change : Change) : (s.after change).ListsOnce := by
  intro g
  cases change with
  | new =>
      rw [Store.after, names_newFrame]
      split
      · exact List.nodup_nil
      · exact h g
  | bind base batch =>
      rw [Store.after, names_derive]
      split
      · refine (h base).append ?_ fun name hListed hNew => ?_
        · rw [← filter_map_fst_firstOccurrences]
          exact (nodup_map_fst_firstOccurrences batch).filter _
        · have hFilter := (List.mem_filter.1 (List.mem_eraseDups.1 hNew)).2
          exact of_decide_eq_true hFilter hListed
      · exact h g
  | assign f name v =>
      rw [names_after_assign]
      exact h g
  | define f name v =>
      rw [Store.after, names_define]
      split
      · next hNew =>
          rw [← List.concat_eq_append]
          refine List.Nodup.concat (fun hListed => ?_) (h f)
          rw [mem_names_iff, hNew.2.2] at hListed
          cases hListed
      · exact h g
  | number => exact h g

theorem replay (h : s.ListsOnce) (history : List Change) : (s.replay history).ListsOnce := by
  induction history generalizing s with
  | nil => exact h
  | cons change history ih => exact ih (h.after change)

theorem evolves {touched : Set FrameId} {s' : Store} (h : s.ListsOnce)
    (hEvolves : Evolves touched s s') : s'.ListsOnce := by
  obtain ⟨history, rfl, -⟩ := hEvolves
  exact h.replay history

/-! ## What is shown for a name -/

/-- What a listing shows for a name is what is found under it. -/
theorem get?_of_mem_listing (h : s.ListsOnce) (hApart : s.Unaliased) {f : FrameId}
    {entry : String × Value} (hEntry : entry ∈ s.listing f) :
    s.get? f entry.1 = some entry.2 := by
  obtain ⟨⟨name, cell⟩, hBinding, rfl⟩ := List.mem_map.1 hEntry
  have hNames := h f
  rw [names_eq] at hNames
  have hCell : s.cell? f name = some cell := Frame.cell?_of_mem_bindings hNames hBinding
  refine get?_of_cell? hCell ?_
  rw [Array.getD_eq_getD_getElem?, Array.getElem?_eq_getElem (hApart.lt_size hCell)]
  rfl

/-- **To show a frame** is to look its names up, one after the other, and to
write each in front of a colon and the value that is found. -/
theorem exists_frameText_eq (h : s.ListsOnce) (hApart : s.Unaliased) (f : FrameId) :
    ∃ values, (s.names f).mapM (s.get? f) = some values ∧
      s.frameText f = do
        let shown ← ((s.names f).zip values).mapM fun entry => do
          return entry.1 ++ ": " ++ (← entry.2.inspected)
        return "\x7b" ++ ", ".intercalate shown ++ "\x7d" := by
  refine ⟨(s.listing f).map (·.2), ?_, ?_⟩
  · exact mapM_map_fst fun entry hEntry => h.get?_of_mem_listing hApart hEntry
  · rw [names, List.zip_map', List.map_id']
    rfl

end ListsOnce

end Store

end MiniScheme
