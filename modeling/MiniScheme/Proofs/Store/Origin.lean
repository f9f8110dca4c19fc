import Mathlib.Data.List.Induction
import MiniScheme.Proofs.Store.Change

/-!
# Where the value of a variable comes from

This module describes variables by the history of changes alone, without
frames, tables and cells.  A change is known by its place in the history.

* The **origin** of a name in a frame is the change that the variable began
  with.  If the frame was made by a bind whose batch has the name, it is
  that bind; if it was derived from a frame that had the name then, it is
  the origin that the name had there then; otherwise it is the first
  definition of the name in the frame since it was made.
* The **writes** to an origin are its creation and all later assignments
  and definitions through frames in which the name has that origin.

The two definitions read the history from its beginning.  To follow a store
along the history one needs them for a history with one more change at its
end; these equations are the rest of the module.

## Main results

* `origin_append_singleton` — the origins after one more change.
* `lt_length_of_origin`, `origin_append_of_some` — an origin is a place of
  the history, and later changes leave it as it is.
* `getLast?_writes_append` — the latest write after one more change.
-/

namespace MiniScheme.Store

/-! ## Origins -/

/-- Does the change make a frame? -/
def Change.makesFrame : Change → Bool
  | .new | .bind _ _ => true
  | _ => false

/-- Is the change a definition of the name in the frame? -/
def Change.defines (f : FrameId) (name : String) : Change → Bool
  | .define g other _ => g == f && other == name
  | _ => false

/-- How many frames a history makes. -/
def frameCount (history : List Change) : Nat := history.countP (·.makesFrame)

/-- The change that made a frame, with its place.  Frames are numbered in the
order in which they are made. -/
def maker? (history : List Change) (f : FrameId) : Option (Change × Nat) :=
  (history.zipIdx.filter (·.1.makesFrame))[f]?

/-- The place of the first definition of a name in a frame, from the place
`since` on. -/
def definedAt? (history : List Change) (f : FrameId) (name : String) (since : Nat) : Option Nat :=
  ((history.drop since).findIdx? (·.defines f name)).map (since + ·)

theorem lt_length_of_maker? {history : List Change} {f : FrameId} {change : Change} {time : Nat}
    (h : maker? history f = some (change, time)) : time < history.length := by
  have hMem := (List.mem_filter.1 (List.mem_of_getElem? h)).1
  simpa using List.snd_lt_of_mem_zipIdx hMem

/-- The origin of a name in a frame: the bind that made the frame, if the
name is in its batch; else what the name came from in the frame that this
one was derived from, when it was; else the first definition since. -/
def origin (history : List Change) (f : FrameId) (name : String) : Option Nat :=
  match made : maker? history f with
  | none => none
  | some (.bind base batch, time) =>
    have := lt_length_of_maker? made
    if name ∈ batch.map (·.1) then some time
    else (origin (history.take time) base name).or (definedAt? history f name (time + 1))
  | some (_, time) => definedAt? history f name (time + 1)
termination_by history.length
decreasing_by simp only [List.length_take]; omega

/-- What a change that follows `earlier` writes to the origin `o` of a name:
a bind the value with which the name first occurs in its batch, an
assignment or a definition its value, if it goes through a frame in which
the name has this origin.  A definition of a name that has none is the
origin itself. -/
def written? (earlier : List Change) (name : String) (o : Nat) : Change → Option Value
  | .bind _ batch => if earlier.length = o then batch.lookup name else none
  | .assign f other v => if other = name ∧ origin earlier f name = some o then some v else none
  | .define f other v =>
    if other = name ∧ (origin earlier f name).getD earlier.length = o then some v else none
  | _ => none

/-- What the changes that follow `earlier` write to an origin, in order. -/
def writesAfter (earlier : List Change) (name : String) (o : Nat) : List Change → List Value
  | [] => []
  | change :: later =>
    (written? earlier name o change).toList ++ writesAfter (earlier ++ [change]) name o later

/-- All that a history writes to an origin, in order. -/
def writes (history : List Change) (name : String) (o : Nat) : List Value :=
  writesAfter [] name o history

/-! ## Which change made a frame -/

theorem length_filter_zipIdx (history : List Change) :
    (history.zipIdx.filter (·.1.makesFrame)).length = frameCount history := by
  rw [← List.countP_eq_length_filter, frameCount]
  conv_rhs => rw [← List.zipIdx_map_fst 0 history, List.countP_map]
  rfl

theorem frameCount_append_singleton (history : List Change) (change : Change) :
    frameCount (history ++ [change]) =
      frameCount history + if change.makesFrame then 1 else 0 := by
  rw [frameCount, List.countP_append, List.countP_singleton, frameCount]

theorem maker?_eq_none_iff {history : List Change} {f : FrameId} :
    maker? history f = none ↔ frameCount history ≤ f := by
  rw [maker?, List.getElem?_eq_none_iff, length_filter_zipIdx]

theorem maker?_append_of_lt {history : List Change} {f : FrameId} (hf : f < frameCount history)
    (change : Change) : maker? (history ++ [change]) f = maker? history f := by
  rw [← length_filter_zipIdx] at hf
  rw [maker?, List.zipIdx_append, List.filter_append, List.getElem?_append_left hf, maker?]

/-- The next frame is made by the next change that makes one. -/
theorem maker?_append_frameCount {history : List Change} {change : Change}
    (hMakes : change.makesFrame = true) (later : List Change) :
    maker? (history ++ change :: later) (frameCount history) = some (change, history.length) := by
  rw [maker?, List.zipIdx_append, List.filter_append, ← length_filter_zipIdx,
    List.getElem?_append_right (Nat.le_refl _), Nat.sub_self, List.zipIdx_cons, Nat.zero_add,
    List.filter_cons, if_pos hMakes, List.getElem?_cons_zero]

/-! ## Origins after one more change -/

/-- The origin that a name gets in the frame that a change, following
`earlier`, makes. -/
def Change.passes? (earlier : List Change) (name : String) : Change → Option Nat
  | .bind base batch =>
    if name ∈ batch.map (·.1) then some earlier.length else origin earlier base name
  | _ => none

/-- A frame that was not made has no names. -/
theorem origin_of_maker?_eq_none {history : List Change} {f : FrameId}
    (hMaker : maker? history f = none) (name : String) : origin history f name = none := by
  rw [origin]
  split
  · rfl
  · next made =>
      rw [hMaker] at made
      cases made
  · next made =>
      rw [hMaker] at made
      cases made

/-- A name comes from the making of its frame, or else from a definition. -/
theorem origin_of_maker? {history : List Change} {f : FrameId} {change : Change} {time : Nat}
    (hMaker : maker? history f = some (change, time)) (name : String) :
    origin history f name =
      (change.passes? (history.take time) name).or (definedAt? history f name (time + 1)) := by
  have hTime : (history.take time).length = time :=
    List.length_take_of_le (Nat.le_of_lt (lt_length_of_maker? hMaker))
  rw [origin]
  split
  · next made =>
      rw [hMaker] at made
      cases made
  · next made =>
      rw [hMaker] at made
      cases made
      rw [Change.passes?, hTime]
      split <;> rfl
  · next hOther made =>
      rw [hMaker] at made
      cases made
      cases change with
      | bind base batch => exact absurd rfl (hOther base batch)
      | _ => rfl

theorem definedAt?_append_singleton {history : List Change} {since : Nat}
    (hSince : since ≤ history.length) (change : Change) (f : FrameId) (name : String) :
    definedAt? (history ++ [change]) f name since =
      (definedAt? history f name since).or
        (if change.defines f name then some history.length else none) := by
  have hSum : since + (history.length - since) = history.length := Nat.add_sub_cancel' hSince
  rw [definedAt?, List.drop_append_of_le_length hSince, List.findIdx?_append, definedAt?,
    Option.map_or, List.findIdx?_singleton]
  cases change.defines f name <;> simp [hSum]

theorem definedAt?_length (history : List Change) (f : FrameId) (name : String) :
    definedAt? history f name history.length = none := by
  rw [definedAt?, List.drop_length]
  rfl

/-- In a frame that exists a change gives a name an origin by defining it,
unless the name has one. -/
theorem origin_append_of_lt {history : List Change} {f : FrameId} (hf : f < frameCount history)
    (change : Change) (name : String) :
    origin (history ++ [change]) f name =
      (origin history f name).or
        (if change.defines f name then some history.length else none) := by
  obtain ⟨⟨maker, time⟩, hMaker⟩ := Option.ne_none_iff_exists'.1 fun hNone =>
    Nat.not_le.2 hf (maker?_eq_none_iff.1 hNone)
  have hTime := lt_length_of_maker? hMaker
  rw [origin_of_maker? ((maker?_append_of_lt hf change).trans hMaker), origin_of_maker? hMaker,
    List.take_append_of_le_length (Nat.le_of_lt hTime), definedAt?_append_singleton hTime,
    Option.or_assoc]

theorem origin_append_frameCount (history : List Change) (change : Change) (name : String) :
    origin (history ++ [change]) (frameCount history) name = change.passes? history name := by
  cases hMakes : change.makesFrame with
  | true =>
      have hLength : history.length + 1 = (history ++ [change]).length := by simp
      rw [origin_of_maker? (maker?_append_frameCount hMakes []), List.take_left, hLength,
        definedAt?_length, Option.or_none]
  | false =>
      have hCount : frameCount (history ++ [change]) ≤ frameCount history := by
        simp [frameCount_append_singleton, hMakes]
      rw [origin_of_maker?_eq_none (maker?_eq_none_iff.2 hCount)]
      cases change with
      | bind base batch => cases hMakes
      | _ => rfl

/-- **Origins after one more change.**  A frame that exists can get an origin
for a name that it defines, and the next frame gets what the change passes
to it. -/
theorem origin_append_singleton (history : List Change) (change : Change) (f : FrameId)
    (name : String) :
    origin (history ++ [change]) f name =
      if f < frameCount history then
        (origin history f name).or (if change.defines f name then some history.length else none)
      else if f = frameCount history then change.passes? history name
      else none := by
  rcases Nat.lt_trichotomy f (frameCount history) with hf | rfl | hf
  · rw [if_pos hf, origin_append_of_lt hf]
  · rw [if_neg (Nat.lt_irrefl _), if_pos rfl, origin_append_frameCount]
  · have hCount : frameCount (history ++ [change]) ≤ f := by
      rw [frameCount_append_singleton]
      split <;> omega
    rw [if_neg (Nat.not_lt_of_gt hf), if_neg (Nat.ne_of_gt hf),
      origin_of_maker?_eq_none (maker?_eq_none_iff.2 hCount)]

/-- A bind gives no name to an existing frame. -/
theorem origin_append_bind (history : List Change) (base : FrameId)
    (batch : List (String × Value)) (f : FrameId) (name : String) :
    origin (history ++ [.bind base batch]) f name =
      if f < frameCount history then origin history f name
      else if f = frameCount history then Change.passes? history name (.bind base batch)
      else none := by
  have hDefines : Change.defines f name (.bind base batch) = false := rfl
  rw [origin_append_singleton, hDefines, if_neg Bool.false_ne_true, Option.or_none]

theorem lt_frameCount_of_origin {history : List Change} {f : FrameId} {name : String} {o : Nat}
    (h : origin history f name = some o) : f < frameCount history := by
  refine Nat.lt_of_not_le fun hf => ?_
  rw [origin_of_maker?_eq_none (maker?_eq_none_iff.2 hf)] at h
  cases h

/-- An origin after one more change is an old one, or it is that change. -/
theorem origin_append_cases {history : List Change} {change : Change} {f : FrameId}
    {name : String} {o : Nat} (h : origin (history ++ [change]) f name = some o) :
    (∃ g, origin history g name = some o) ∨ o = history.length := by
  rw [origin_append_singleton] at h
  split at h
  · rcases Option.or_eq_some_iff.1 h with hOld | ⟨-, hNew⟩
    · exact .inl ⟨f, hOld⟩
    · split at hNew
      · exact .inr (Option.some_inj.1 hNew).symm
      · cases hNew
  · split at h
    · cases change with
      | bind base batch =>
          rw [Change.passes?] at h
          split at h
          · exact .inr (Option.some_inj.1 h).symm
          · exact .inl ⟨base, h⟩
      | _ => cases h
    · cases h

/-- Origins are places of the history. -/
theorem lt_length_of_origin {history : List Change} {f : FrameId} {name : String} {o : Nat}
    (h : origin history f name = some o) : o < history.length := by
  induction history using List.reverseRecOn generalizing f with
  | nil =>
      rw [origin_of_maker?_eq_none rfl] at h
      cases h
  | append_singleton history change ih =>
      rw [List.length_append, List.length_singleton]
      rcases origin_append_cases h with ⟨g, hOld⟩ | rfl
      · exact Nat.lt_succ_of_lt (ih hOld)
      · exact Nat.lt_succ_self _

/-- A change that passes nothing to a new frame, and defines no name that an
existing frame has no origin for, leaves all origins as they are. -/
theorem origin_append_of_quiet {history : List Change} {change : Change} {f : FrameId}
    {name : String} (hPasses : change.passes? history name = none)
    (hDefines : change.defines f name = true → f < frameCount history →
      origin history f name ≠ none) :
    origin (history ++ [change]) f name = origin history f name := by
  rw [origin_append_singleton]
  split
  · next hf =>
      cases hOrigin : origin history f name with
      | some o => rfl
      | none => rw [if_neg fun hDefined => hDefines hDefined hf hOrigin, Option.or_none]
  · next hf =>
      rw [origin_of_maker?_eq_none (maker?_eq_none_iff.2 (Nat.le_of_not_lt hf)), hPasses, ite_self]

theorem origin_append_of_not_defines {history : List Change} {change : Change} {f : FrameId}
    {name : String} (hPasses : change.passes? history name = none)
    (hDefines : change.defines f name = false) :
    origin (history ++ [change]) f name = origin history f name := by
  refine origin_append_of_quiet hPasses fun hTrue => ?_
  rw [hDefines] at hTrue
  cases hTrue

/-- **What has an origin keeps it.** -/
theorem origin_append_of_some {history : List Change} {f : FrameId} {name : String} {o : Nat}
    (h : origin history f name = some o) (later : List Change) :
    origin (history ++ later) f name = some o := by
  induction later using List.reverseRecOn with
  | nil => rw [List.append_nil, h]
  | append_singleton later change ih =>
      rw [← List.append_assoc, origin_append_of_lt (lt_frameCount_of_origin ih), ih,
        Option.some_or]

/-! ## The frame that a bind makes -/

/-- A name that is not in the batch has, in the frame that a bind makes, the
origin it had in the frame derived from, or it is defined later. -/
theorem origin_of_bind (earlier later : List Change) (base : FrameId)
    {batch : List (String × Value)} {name : String} (hName : name ∉ batch.map (·.1)) :
    origin (earlier ++ .bind base batch :: later) (frameCount earlier) name =
      (origin earlier base name).or
        ((later.findIdx? (·.defines (frameCount earlier) name)).map (earlier.length + 1 + ·)) := by
  have hDrop : (earlier ++ Change.bind base batch :: later).drop (earlier.length + 1) = later := by
    rw [List.drop_append, List.drop_of_length_le (Nat.le_succ _), List.nil_append,
      Nat.add_sub_cancel_left]
    rfl
  rw [origin_of_maker? (maker?_append_frameCount rfl later), List.take_left, Change.passes?,
    if_neg hName, definedAt?, hDrop]

/-! ## Writes after one more change -/

theorem writesAfter_append_singleton (earlier history : List Change) (name : String) (o : Nat)
    (change : Change) :
    writesAfter earlier name o (history ++ [change]) =
      writesAfter earlier name o history ++
        (written? (earlier ++ history) name o change).toList := by
  induction history generalizing earlier with
  | nil => simp [writesAfter]
  | cons first rest ih =>
      rw [List.cons_append, writesAfter, ih, writesAfter, List.append_assoc, List.append_assoc,
        List.singleton_append]

/-- **The latest write after one more change** is what this change writes, or
else the latest one before it. -/
theorem getLast?_writes_append (history : List Change) (name : String) (o : Nat)
    (change : Change) :
    (writes (history ++ [change]) name o).getLast? =
      (written? history name o change).or (writes history name o).getLast? := by
  rw [writes, writesAfter_append_singleton, List.getLast?_append, List.nil_append, writes]
  cases written? history name o change <;> rfl

end MiniScheme.Store
