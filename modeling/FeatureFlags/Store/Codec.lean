/-
  DATA AS JSON — a full set of flags and segments, by their keys.
-/
import FeatureFlags.Flag.Codec
import FeatureFlags.Store

namespace FeatureFlags.Store

/-- Read the values of an object. -/
def entries? {α : Type} (read : Json → Option α) (j : Json) : Option (Entries α) := do
  (← Json.object? j).mapM fun entry => (read entry.2).map fun a => (entry.1, a)

/-- **Read a full set of data.**  Missing parts are empty. -/
def ofJson? (j : Json) : Option Store := do
  let fields ← Json.record? ["flags", "segments"] j
  let flags ← Json.orDefault fields "flags" [] (entries? Flag.ofJson?)
  let segments ← Json.orDefault fields "segments" [] (entries? Segment.ofJson?)
  pure (.ofData flags segments)

end FeatureFlags.Store
