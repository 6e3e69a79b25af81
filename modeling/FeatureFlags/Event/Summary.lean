/-
  SUMMARIES — counting evaluations instead of sending each.

  A `Tally` counts, per flag, how often each pair of variation and version came up, and remembers
  the first value of each pair, the first default, all kinds of contexts, and the time span.
-/
import FeatureFlags.Event.Output

namespace FeatureFlags

open Calendar (Instant)

namespace Summary

/-- What is counted about one flag. -/
structure FlagTally where
  default : Json
  kinds : Entries Unit
  /-- Sorted by variation, then version; none comes first. -/
  counters : List SummaryCounter

/-- What is counted since the last summary. -/
structure Tally where
  /-- The dates of the earliest and the latest event; none without events. -/
  span : Option (Instant × Instant)
  features : Entries FlagTally

def Tally.empty : Tally := ⟨none, []⟩

/-- The order of optional numbers: none comes first. -/
def optionLess : Option UInt64 → Option UInt64 → Bool
  | _, none => false
  | none, some _ => true
  | some a, some b => a < b

/-- The order of counters: by variation, then by version. -/
def counterLess (variation version : Option UInt64) (c : SummaryCounter) : Bool :=
  optionLess variation c.variation || (variation = c.variation && optionLess version c.version)

/-- Count one more evaluation. -/
def count (variation version : Option UInt64) (value : Json) :
    List SummaryCounter → List SummaryCounter
  | [] => [⟨variation, version, value, 1, version.isNone⟩]
  | c :: rest =>
    if variation = c.variation ∧ version = c.version then { c with count := c.count + 1 } :: rest
    else if counterLess variation version c then
      ⟨variation, version, value, 1, version.isNone⟩ :: c :: rest
    else c :: count variation version value rest

namespace Tally

def isEmpty (t : Tally) : Bool := t.features = []

/-- **Count an evaluation.** -/
def add (t : Tally) (e : FeatureEvent) : Tally :=
  let f := (Entries.get? e.key t.features).getD ⟨e.default.getD .null, [], []⟩
  let f : FlagTally := { f with
    kinds := e.context.kinds.foldl (fun kinds k => Entries.insert k.name () kinds) f.kinds
    counters := count e.variation e.version e.value f.counters }
  { span := some <| match t.span with
      | none => (e.creationDate, e.creationDate)
      | some (first, last) => (min first e.creationDate, max last e.creationDate)
    features := Entries.insert e.key f t.features }

/-- **The summary** of what was counted; none if nothing was. -/
def summary? (t : Tally) : Option SummaryOutput :=
  t.span.map fun (startDate, endDate) =>
    { startDate, endDate
      features := Entries.mapValues
        (fun f => ⟨f.default, Entries.names f.kinds, f.counters⟩) t.features }

end Tally

end Summary

end FeatureFlags
