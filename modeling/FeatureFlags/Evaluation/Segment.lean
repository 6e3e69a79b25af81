/-
  MEMBERSHIP IN SEGMENTS.

  1. **Lists first** — a listed exclusion decides before a listed inclusion, and both before all
     else.
  2. **Then the outside store**, for unbounded segments: an entry for the segment's generation
     decides, and only a context without entry goes on to the rules.  One evaluation asks at most
     once for each context key.
  3. **Then the rules** — one matching rule is enough.  Rules may refer to further segments.  The
     keys of the segments on the way are remembered, and meeting one of them again is a fault.

  Every segment on the way comes from the store and has a key that was not met before, so the number
  of keys not met yet goes down: the recursion ends whatever the store holds.
-/
import FeatureFlags.Evaluation.Clause
import FeatureFlags.Evaluation.Selection
import FeatureFlags.Evaluation.State

namespace FeatureFlags

/-! ## Lists -/

namespace Segment

/-- Whether one of the lists of keys names the context. -/
def lists (targets : List SegmentTarget) (context : Context) : Bool :=
  targets.any fun t => (context.ofKind? t.contextKind).any fun i => t.values.contains i.key

/-- Whether a list of user keys names the context's user. -/
def listsUser (keys : KeySet) (context : Context) : Bool :=
  (context.ofKind? Kind.user).any fun i => keys.contains i.key

/-- **What the lists of a segment say about a context.** -/
def listed? (s : Segment) (context : Context) : Option Bool :=
  if listsUser s.excluded context || lists s.excludedContexts context then some false
  else if listsUser s.included context || lists s.includedContexts context then some true
  else none

end Segment

namespace Evaluator

/-! ## The outside store -/

/-- The membership of a context key, asked for once per evaluation. -/
def membership (e : Evaluator) (b : BigSegments) (key : String) :
    Evaluation (Option BigSegments.Membership) := do
  match Entries.get? key (← get).memberships with
  | some membership => pure membership
  | none =>
    let (membership, status) ← Evaluation.ask (b.membershipOf e.clock key)
    Evaluation.noteStatus status
    modify fun s => { s with memberships := Entries.insert key membership s.memberships }
    pure membership

/-- What the outside store says about a context in an unbounded segment; none if it has no entry. -/
def unboundedMember? (e : Evaluator) (context : Context) (s : Segment) :
    Evaluation (Option Bool) := do
  match context.ofKind? (s.unboundedContextKind.getD Kind.user) with
  | none => pure (some false)
  | some i =>
    match s.generation, e.bigSegments with
    | some generation, some b =>
      let membership ← e.membership b i.key
      pure (membership.bind (Entries.get? (BigSegments.generationName s.key generation)))
    | _, _ =>
      Evaluation.noteStatus .notConfigured
      pure (some false)

/-- What decides before the rules of a segment. -/
def memberBeforeRules? (e : Evaluator) (context : Context) (s : Segment) :
    Evaluation (Option Bool) :=
  match s.listed? context with
  | some member => pure (some member)
  | none => if s.unbounded then e.unboundedMember? context s else pure none

/-! ## Rules -/

/-- Whether a context satisfies a clause, given how membership in a segment is decided. -/
def clauseHolds (context : Context) (isMember : String → Evaluation Bool) (c : Clause) :
    Evaluation Bool :=
  if c.op = .segmentMatch then
    return c.turned (← (c.values.filterMap Document.text?).anyM isMember)
  else Evaluation.ofExcept (c.holds context)

/-- How a rule of a segment takes a part of the contexts. -/
def segmentBucketing (s : Segment) (r : SegmentRule) : Bucketing where
  contextKind := r.rolloutContextKind
  bucketBy := r.bucketBy
  experiment := false
  key := s.key
  salt := s.salt
  seed := none

/-- Whether a context is in the part that a rule takes. -/
def inShare (context : Context) (s : Segment) (r : SegmentRule) : Except Fault Bool :=
  match r.weight with
  | none => .ok true
  | some weight => do
    let bucket ← (segmentBucketing s r).bucket context
    pure (decide (bucket.position < share weight))

/-- Whether a context matches a rule of a segment. -/
def segmentRuleMatches (context : Context) (isMember : String → Evaluation Bool) (s : Segment)
    (r : SegmentRule) : Evaluation Bool := do
  if ← r.clauses.allM (clauseHolds context isMember) then
    Evaluation.ofExcept (inShare context s r)
  else pure false

/-! ## Membership -/

end Evaluator

/-- The keys that the segments of a store give themselves, without those already met. -/
def Store.unmet (s : Store) (met : List String) : List String :=
  (s.segments.map fun entry => entry.2.key).filter fun key => key ∉ met

theorem Store.mem_of_segment? {s : Store} {name : String} {x : Segment}
    (h : s.segment? name = some x) : (name, x) ∈ s.segments :=
  Entries.mem_of_get? (Option.filter_eq_some_iff.1 h).1

theorem Store.length_unmet_lt {s : Store} {name : String} {x : Segment} {met : List String}
    (h : s.segment? name = some x) (hmet : x.key ∉ met) :
    (s.unmet (x.key :: met)).length < (s.unmet met).length := by
  have hmem : x.key ∈ s.segments.map fun entry => entry.2.key :=
    List.mem_map.2 ⟨(name, x), Store.mem_of_segment? h, rfl⟩
  have hfilter : s.unmet (x.key :: met) = (s.unmet met).filter fun key => key ≠ x.key := by
    simp [Store.unmet, List.filter_filter, List.mem_cons, not_or]
  rw [hfilter]
  refine List.length_filter_lt_length_iff_exists.2 ⟨x.key, ?_, by simp⟩
  exact List.mem_filter.2 ⟨hmem, by simpa using hmet⟩

namespace Evaluator

/-- **Whether a context is in the segment of a name.**  `met` holds the keys of the segments whose
    rules are being looked at.  Nobody is in a segment that does not exist. -/
def inSegment (e : Evaluator) (context : Context) (met : List String) (name : String) :
    Evaluation Bool :=
  match h : e.store.segment? name with
  | none => pure false
  | some s =>
    if hmet : s.key ∈ met then Evaluation.stop .segmentCycle
    else do
      have := Store.length_unmet_lt h hmet
      match ← e.memberBeforeRules? context s with
      | some member => pure member
      | none => s.rules.anyM (segmentRuleMatches context (e.inSegment context (s.key :: met)) s)
termination_by (e.store.unmet met).length

end Evaluator

end FeatureFlags
