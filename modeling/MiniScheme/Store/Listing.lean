import MiniScheme.Store.Basic
import MiniScheme.Value.Rendering

/-!
# Frames and cells as diagnostics show them

A frame is shown as its names with the diagnostic forms of their values,
in the order of listing.
-/

namespace MiniScheme.Store

/-- One name of a frame with its value. -/
def entryText (entry : String × Value) : Except Fault String := do
  return entry.1 ++ ": " ++ (← entry.2.inspected)

/-- A frame as a diagnostic shows it. -/
def frameText (s : Store) (f : FrameId) : Except Fault String := do
  let entries ← (s.listing f).mapM entryText
  return "\x7b" ++ ", ".intercalate entries ++ "\x7d"

/-- A frame as a diagnostic shows it among other things. -/
def taggedFrameText (s : Store) (f : FrameId) : Except Fault String := do
  return "<Environment " ++ (← s.frameText f) ++ ">"

/-- A cell with the value it holds, as a diagnostic shows it. -/
def cellText (v : Value) : Except Fault String := do
  return "Cell(" ++ (← v.inspected) ++ ")"

end MiniScheme.Store
