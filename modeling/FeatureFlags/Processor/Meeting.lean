/-
  MEETING CONTEXTS — which contexts are new to a processor.

  A context is announced when it is met, and not again until all contexts are forgotten or others
  have crowded it out.  What is remembered of a context is its canonical key.

  1. **Meeting (`meet`)** — one context, as a processor does it (`hasMet_eq_meet`,
     `met_record_eq_meet`).
  2. **Visits** — contexts that come one after the other, and times when all are forgotten: `window`
     is what is remembered after them, `recent` are the contexts that came since.
-/
import FeatureFlags.Processor.Basic

namespace FeatureFlags.Processor

/-! ## Meeting -/

/-- **Meet a context**: whether it is new, and what is remembered after that. -/
def meet (met : Recency Unit) (c : Context) : Bool × Recency Unit :=
  ((met.get? c.canonicalKey).isNone, met.put c.canonicalKey ())

theorem hasMet_eq_meet (p : Processor) (c : Context) : p.hasMet c = !(meet p.met c).1 := by
  rw [meet, hasMet, Option.not_isNone]

theorem met_record_eq_meet (p : Processor) (e : InputEvent) :
    (p.record e).met = if e.meetsContext then (meet p.met e.context).2 else p.met := rfl

/-! ## Visits -/

/-- A context that comes, or the time when all are forgotten. -/
inductive Visit where
  | meet (context : Context)
  | forget
deriving DecidableEq

/-- What is remembered after a visit. -/
def Visit.attend (met : Recency Unit) : Visit → Recency Unit
  | .meet c => (Processor.meet met c).2
  | .forget => met.clear

/-- **What is remembered after visits**, by who remembers so many contexts. -/
def window (capacity : Nat) (visits : List Visit) : Recency Unit :=
  visits.foldl Visit.attend (.ofCapacity capacity)

/-- The contexts that came since all were forgotten, after one more visit. -/
def Visit.join (contexts : List Context) : Visit → List Context
  | .meet c => contexts ++ [c]
  | .forget => []

/-- **The contexts that came since all were forgotten the last time.** -/
def recent (visits : List Visit) : List Context := visits.foldl Visit.join []

theorem window_concat (capacity : Nat) (visits : List Visit) (v : Visit) :
    window capacity (visits ++ [v]) = v.attend (window capacity visits) := by
  rw [window, List.foldl_append]
  rfl

theorem recent_concat (visits : List Visit) (v : Visit) :
    recent (visits ++ [v]) = v.join (recent visits) := by
  rw [recent, List.foldl_append]
  rfl

end FeatureFlags.Processor
