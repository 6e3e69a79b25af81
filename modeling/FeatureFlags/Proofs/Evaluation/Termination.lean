/-
  EVALUATIONS END, whatever the store holds: prerequisites and segments in circles, and items that
  stand under other keys than their own.

  The evaluator follows two recursions, and nothing but its own tests stops them: a flag that is on
  must not stand below `maxDepth` others, and a segment must not be one of those on the way down.

  1. **Bounded levels** — `segmentWithin` and `flagWithin` follow the recursions through a number of
     levels.  A call that would lie deeper, or whose way down is not as it should be, is answered by
     `beyond` instead: ANY computation, which may fail, wait for another fault, or change the state.
  2. **Main result** (`evaluate_eq_within`) — so many levels are always enough, and every way down
     is as it should be: what stands in for the calls beyond makes no difference, since none is
     made.  For flags it takes `maxDepth + 1` levels, for segments one more than the store has
     segment keys.
-/
import Mathlib.Data.List.Dedup
import FeatureFlags.Proofs.Evaluation.Level

namespace FeatureFlags

/-! ## Ways down -/

namespace Store

/-- The different keys that the segments of a store give themselves. -/
def segmentKeys (s : Store) : List String :=
  ((s.segments.filter fun entry => !entry.2.deleted).map fun entry => entry.2.key).dedup

theorem key_mem_segmentKeys {s : Store} {name : String} {x : Segment}
    (h : s.segment? name = some x) : x.key ∈ s.segmentKeys := by
  obtain ⟨hget, hlive⟩ := Option.filter_eq_some_iff.1 h
  exact List.mem_dedup.2 (List.mem_map.2
    ⟨(name, x), List.mem_filter.2 ⟨Entries.mem_of_get? hget, hlive⟩, rfl⟩)

/-- A way down through segments: different keys, all of which segments of the store give
    themselves. -/
def IsWayDown (s : Store) (met : List String) : Prop :=
  met.Nodup ∧ ∀ key ∈ met, key ∈ s.segmentKeys

instance (s : Store) (met : List String) : Decidable (s.IsWayDown met) :=
  inferInstanceAs (Decidable (_ ∧ _))

theorem isWayDown_nil (s : Store) : s.IsWayDown [] :=
  ⟨List.nodup_nil, fun _ h => absurd h List.not_mem_nil⟩

/-- A way down stays one when it enters a segment that is not on it. -/
theorem IsWayDown.cons {s : Store} {met : List String} (h : s.IsWayDown met) {name : String}
    {x : Segment} (hx : s.segment? name = some x) (hmet : x.key ∉ met) :
    s.IsWayDown (x.key :: met) := by
  refine ⟨List.nodup_cons.2 ⟨hmet, h.1⟩, fun key hkey => ?_⟩
  rcases List.mem_cons.1 hkey with rfl | hkey
  · exact key_mem_segmentKeys hx
  · exact h.2 key hkey

/-- A way down meets each segment once, so it is no longer than their number. -/
theorem IsWayDown.length_le {s : Store} {met : List String} (h : s.IsWayDown met) :
    met.length ≤ s.segmentKeys.length :=
  h.1.length_le_of_subset fun key hkey => h.2 key hkey

end Store

namespace Evaluator

/-! ## Bounded levels -/

/-- What stands in for the calls that lie beyond the bounds. -/
structure Beyond where
  segment : List String → String → Evaluation Bool
  flag : List String → Flag → Evaluation (Detail Json)

variable (e : Evaluator) (context : Context) (beyond : Beyond)

/-- A membership, followed through a number of levels. -/
def segmentWithin : Nat → List String → String → Evaluation Bool
  | 0, met, name => beyond.segment met name
  | levels + 1, met, name =>
    if e.store.IsWayDown met then e.segmentLevel context (segmentWithin levels) met name
    else beyond.segment met name

/-- A flag, followed through a number of levels, with as many levels for each membership as the
    store has segment keys, and one more. -/
def flagWithin : Nat → List String → Flag → Evaluation (Detail Json)
  | 0, met, f => beyond.flag met f
  | levels + 1, met, f =>
    if met.length ≤ maxDepth then
      e.flagLevel context (flagWithin levels)
        (e.segmentWithin context beyond (e.store.segmentKeys.length + 1) []) met f
    else beyond.flag met f

/-! ## Enough levels -/

variable {e context}

/-- A level of segments calls for memberships only below a segment that is not on the way down. -/
theorem segmentLevel_congr {nested nested' : List String → String → Evaluation Bool}
    {met : List String} {name : String}
    (h : ∀ s, e.store.segment? name = some s → s.key ∉ met →
      ∀ name', nested (s.key :: met) name' = nested' (s.key :: met) name') :
    e.segmentLevel context nested met name = e.segmentLevel context nested' met name := by
  rw [segmentLevel, segmentLevel]
  cases hs : e.store.segment? name with
  | none => rfl
  | some s =>
    by_cases hmet : s.key ∈ met
    · simp only [hmet, ↓reduceIte]
    · simp only [funext (h s hs hmet)]

/-- A level of flags calls for flags only below a flag that is on, where the way down has room. -/
theorem flagLevel_congr {nested nested' : List String → Flag → Evaluation (Detail Json)}
    {isMember : String → Evaluation Bool} {met : List String} {f : Flag}
    (h : met.length < maxDepth → ∀ q, nested (f.key :: met) q = nested' (f.key :: met) q) :
    e.flagLevel context nested isMember met f = e.flagLevel context nested' isMember met f := by
  rw [flagLevel, flagLevel]
  by_cases hroom : maxDepth ≤ met.length
  · simp only [hroom, ↓reduceIte]
  · simp only [funext (h (Nat.lt_of_not_le hroom))]

/-- As many levels as there are segments left to meet are enough, by induction on the levels: the
    bound is never what ends the evaluation. -/
theorem segmentWithin_eq (beyond : Beyond) :
    ∀ (levels : Nat) (met : List String) (name : String), e.store.IsWayDown met →
      levels + met.length = e.store.segmentKeys.length + 1 →
      e.segmentWithin context beyond levels met name = e.inSegment context met name := by
  intro levels
  induction levels with
  | zero =>
    -- a way down has no room for more segments than there are
    intro met name hway hlevels
    have hle := hway.length_le
    omega
  | succ levels ih =>
    intro met name hway hlevels
    rw [segmentWithin, if_pos hway, inSegment_eq]
    apply segmentLevel_congr
    intro s hs hmet name'
    have hlevels' : levels + (s.key :: met).length = e.store.segmentKeys.length + 1 := by
      rw [List.length_cons]
      omega
    exact ih (s.key :: met) name' (hway.cons hs hmet) hlevels'

/-- The levels that are left and the flags that were met make up the permitted depth together, by
    induction on the levels. -/
theorem flagWithin_eq (beyond : Beyond) :
    ∀ (levels : Nat) (met : List String) (f : Flag), levels + met.length = maxDepth + 1 →
      met.length ≤ maxDepth →
      e.flagWithin context beyond levels met f
        = e.check context (maxDepth - met.length) met f := by
  have hmember : e.segmentWithin context beyond (e.store.segmentKeys.length + 1) []
      = e.inSegment context [] :=
    funext fun name => segmentWithin_eq beyond _ [] name (Store.isWayDown_nil _) rfl
  intro levels
  induction levels with
  | zero =>
    -- the levels cannot be used up while the way down is within the depth
    intro met f hlevels hle
    omega
  | succ levels ih =>
    intro met f hlevels hle
    rw [flagWithin, if_pos hle, check_eq, hmember]
    apply flagLevel_congr
    intro hlt q
    have hlevels' : levels + (f.key :: met).length = maxDepth + 1 := by
      rw [List.length_cons]
      omega
    exact ih (f.key :: met) q hlevels' hlt

/-- **Evaluations end by the evaluator's own tests.**  Whatever stands in for the calls beyond the
    bounds, the evaluation is the same: flags go down `maxDepth + 1` levels at most, memberships one
    level more than there are segment keys, and the keys on the way down through segments are
    different keys of segments of the store.  Below `maxDepth` flags that are on, one more is a
    fault.  No other limit is set: `check` and `inSegment` satisfy the equations of their levels. -/
theorem evaluate_eq_within (e : Evaluator) (cache : BigSegments.Cache) (f : Flag)
    (context : Context) :
    (∀ beyond : Beyond,
      Outcome.ofRun ((e.flagWithin context beyond (maxDepth + 1) [] f).runFrom (.start cache))
        = e.evaluate cache f context) ∧
    (∀ nested isMember met (q : Flag) s, q.on = true → met.length = maxDepth →
      (e.flagLevel context nested isMember met q).runFrom s
        = (.error .malformedFlag, { s with log := s.log ++ [.prerequisiteDepth] })) ∧
    (∀ met q, e.check context (maxDepth - met.length) met q
      = e.flagLevel context (fun met q => e.check context (maxDepth - met.length) met q)
          (e.inSegment context []) met q) ∧
    (∀ met name, e.inSegment context met name
      = e.segmentLevel context (e.inSegment context) met name) := by
  refine ⟨fun beyond => ?_, fun nested isMember met q s hon hmet => ?_, check_eq e context,
    inSegment_eq e context⟩
  · rw [flagWithin_eq beyond (maxDepth + 1) [] f rfl (Nat.zero_le _)]
    rfl
  · have hfull : maxDepth ≤ met.length := Nat.le_of_eq hmet.symm
    simp only [flagLevel, hon, hfull, Bool.not_true, Bool.false_eq_true, ↓reduceIte,
      Evaluation.runFrom_stop]

end Evaluator

end FeatureFlags
