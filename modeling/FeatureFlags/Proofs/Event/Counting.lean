/-
  COUNTING EVALUATIONS — what tallies and summaries say about one pair of variation and version.

  A counter has 64 bits, so what counters say stands for a number of evaluations (`Stands`): it
  agrees with that up to multiples of 2⁶⁴, and below 2⁶⁴ it is the number itself.

  1. **Readings** — `counted` reads the counters of a pair in a tally, in a summary and in an output
     event.
  2. **One more** — `stands_count`, `stands_add` and `stands_addEvent`: counting an event raises the
     reading of its own pair by one and no other.
  3. **Summaries** — a summary reads like the tally it was made of (`counted_summary?`).
-/
import FeatureFlags.Processor.Outputs
import FeatureFlags.Proofs.Counter
import FeatureFlags.Proofs.Entries

namespace FeatureFlags

/-! ## Readings -/

namespace Summary

/-- What a list of counters says about a pair of variation and version. -/
def countIn (variation : Option VariationIndex) (version : Option UInt64)
    (counters : List SummaryCounter) : Nat :=
  ((counters.filter fun c => c.variation = variation ∧ c.version = version).map
    fun c => c.count.toNat).sum

/-- What a tally says about a pair of a flag. -/
def Tally.counted (t : Tally) (key : String) (variation : Option VariationIndex)
    (version : Option UInt64) : Nat :=
  ((Entries.get? key t.features).map fun f => countIn variation version f.counters).getD 0

end Summary

/-- What a summary says about a pair of a flag. -/
def SummaryOutput.counted (s : SummaryOutput) (key : String) (variation : Option VariationIndex)
    (version : Option UInt64) : Nat :=
  ((Entries.get? key s.features).map fun f => Summary.countIn variation version f.counters).getD 0

/-- What an output event says about a pair of a flag: nothing, unless it is a summary. -/
def OutputEvent.counted (x : OutputEvent) (key : String) (variation : Option VariationIndex)
    (version : Option UInt64) : Nat :=
  match x with
  | .summary s => s.counted key variation version
  | _ => 0

/-- Whether an evaluation gave a pair of a flag. -/
def FeatureEvent.gave (e : FeatureEvent) (key : String) (variation : Option VariationIndex)
    (version : Option UInt64) : Bool :=
  e.key = key ∧ e.variation = variation ∧ e.version = version

/-- Whether an event is to be counted for a pair of a flag. -/
def InputEvent.countsFor (e : InputEvent) (key : String) (variation : Option VariationIndex)
    (version : Option UInt64) : Bool :=
  match e with
  | .feature f => !f.excludeFromSummaries && f.gave key variation version
  | _ => false

/-! ## One more -/

namespace Summary

variable {variation : Option VariationIndex} {version : Option UInt64}

/-- The counters of a variation and version are added up. -/
theorem countIn_cons (c : SummaryCounter) (rest : List SummaryCounter) :
    countIn variation version (c :: rest) =
      (if c.variation = variation ∧ c.version = version then c.count.toNat else 0) +
        countIn variation version rest := by
  unfold countIn
  rw [List.filter_cons]
  split <;> simp_all

/-- **Counting an evaluation** adds one for its own pair. -/
theorem stands_count (variation' : Option VariationIndex) (version' : Option UInt64) (value : Json)
    (counters : List SummaryCounter) :
    Stands (countIn variation version (count variation' version' value counters))
      (countIn variation version counters +
        if variation' = variation ∧ version' = version then 1 else 0) := by
  induction counters with
  | nil =>
    rw [count, countIn_cons]
    simp [countIn]
  | cons c rest ih =>
    rw [count, countIn_cons]
    split
    · next hsame =>
      -- the counter itself is raised by one, and may wrap around
      obtain ⟨hvariation, hversion⟩ := hsame
      rw [countIn_cons, hvariation, hversion]
      split
      · rw [Nat.add_right_comm]
        exact (Stands.toNat_succ c.count).add (.refl _)
      · exact .refl _
    · split
      · rw [countIn_cons, countIn_cons, Nat.add_comm]
        exact .refl _
      · rw [countIn_cons, Nat.add_assoc]
        exact (Stands.refl _).add ih

namespace Tally

variable {key : String}

@[simp] theorem counted_empty : Tally.empty.counted key variation version = 0 := rfl

/-- **One event** adds one to the counter it belongs to, unless that wraps around. -/
theorem stands_add (t : Tally) (e : FeatureEvent) :
    Stands ((t.add e).counted key variation version)
      (t.counted key variation version + (e.gave key variation version).toNat) := by
  unfold counted add
  rw [Entries.get?_insert]
  -- an event is counted for its own flag only
  by_cases hkey : e.key = key
  · subst hkey
    have hcount : Stands (countIn variation version _) (countIn variation version _ + _) :=
      stands_count e.variation e.version e.value
        ((Entries.get? e.key t.features).getD ⟨e.default.getD .null, [], []⟩).counters
    have hone : (e.gave e.key variation version).toNat =
        if e.variation = variation ∧ e.version = version then 1 else 0 := by
      by_cases hpair : e.variation = variation ∧ e.version = version <;>
        simp [FeatureEvent.gave, hpair]
    rw [hone]
    cases hflag : Entries.get? e.key t.features with
    | none => simpa [hflag, countIn] using hcount
    | some f => simpa [hflag] using hcount
  · simp [hkey, FeatureEvent.gave]

/-- **Taking an event into account** adds one where the event counts. -/
theorem stands_addEvent (t : Tally) (e : InputEvent) :
    Stands ((t.addEvent e).counted key variation version)
      (t.counted key variation version + (e.countsFor key variation version).toNat) := by
  cases e with
  | feature f =>
    cases hexcluded : f.excludeFromSummaries with
    | true => simp [addEvent, InputEvent.countsFor, hexcluded]
    | false => simpa [addEvent, InputEvent.countsFor, hexcluded] using stands_add t f
  | identify i => exact .refl _
  | custom c => exact .refl _
  | migration m => exact .refl _

/-! ## Summaries -/

/-- A tally without dates has counted nothing. -/
def Dated (t : Tally) : Prop := t.span = none → t.features = []

/-- An event that is counted brings its date along. -/
theorem Dated.addEvent {t : Tally} (h : t.Dated) (e : InputEvent) : (t.addEvent e).Dated := by
  cases e with
  | feature f =>
    unfold Tally.addEvent
    simp only
    split
    · exact h
    · exact nofun
  | identify i => exact h
  | custom c => exact h
  | migration m => exact h

/-- **A summary says what the tally said.** -/
theorem counted_summary? {t : Tally} (h : t.Dated) :
    ((t.summary?.toList.map OutputEvent.summary).map fun x =>
      x.counted key variation version).sum = t.counted key variation version := by
  unfold summary?
  cases hspan : t.span with
  | none =>
    unfold counted
    rw [h hspan]
    rfl
  | some dates =>
    show SummaryOutput.counted _ key variation version + 0 = _
    unfold SummaryOutput.counted counted
    simp only [Entries.get?_mapValues, Option.map_map]
    rfl

end Tally

end Summary

end FeatureFlags
