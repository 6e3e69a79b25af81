/-
  WHO IS IN A SEGMENT — what decides, and what comes before what.

  1. **Specification** — a segment `Excludes` and `Includes` contexts by any of their individuals;
     an unbounded one may be `Outside`, where an entry decides; a rule decides by its clauses and
     its share (`RuleJudges`), and the rules in turn (`ByRules`).  `Judges` puts them in their
     order.
  2. **Lists (`listed?_eq`)** — in a context whose individuals have different kinds, the lists that
     look up one individual of each kind name just the individuals that they should.
  3. **Store (`runFrom_unboundedMember?_of_outside`, `exists_outside`)** and **rules
     (`runFrom_segmentRuleMatches_iff`)** decide as specified.
  4. **Main result (`runFrom_inSegment_iff_judges`)** — so does a segment as a whole, whatever was
     gathered before.
-/
import FeatureFlags.Proofs.Context.Arising
import FeatureFlags.Proofs.Context.Several
import FeatureFlags.Proofs.Evaluation.Consultation
import FeatureFlags.Proofs.Evaluation.Level

namespace FeatureFlags

open BigSegments (Membership contextHash generationName)
open Evaluation (InTurn Pass State)

/-! ## Specification -/

namespace Segment

/-- **Lists name a context** if they name an individual of it: a user by the list of users, and
    anyone by the lists of their own kind. -/
def Names (users : KeySet) (targets : List SegmentTarget) (context : Context) : Prop :=
  ∃ i ∈ context.individuals, (i.kind = Kind.user ∧ i.key ∈ users.toList) ∨
    ∃ t ∈ targets, t.contextKind = i.kind ∧ i.key ∈ t.values.toList

def Excludes (s : Segment) : Context → Prop := Names s.excluded s.excludedContexts

def Includes (s : Segment) : Context → Prop := Names s.included s.includedContexts

end Segment

namespace Evaluator

variable (e : Evaluator) (context : Context)

/-- **The membership of a key is had**: it is at hand, and then nothing changes, or it is looked
    up. -/
inductive Had (b : BigSegments) (key : String) (u : State) : Option Membership × State → Prop
  | recalled {membership} : Entries.get? key u.memberships = some membership →
    Had b key u (membership, u)
  | lookedUp {found} : Entries.get? key u.memberships = none →
    (b.membershipOf e.clock key).run ⟨u.cache, []⟩ = found →
      Had b key u (found.1.1, u.afterLookUp key found)

/-- The membership of a key is not at hand, nor kept, and the store fails when it is asked. -/
def QueryFails (b : BigSegments) (key : String) (u : State) : Prop :=
  Entries.get? key u.memberships = none ∧ b.kept? e.clock key u.cache = none ∧
    ∃ failure, b.source.membership u.cache.asked (contextHash key) = .error failure

/-- **What decides outside**, for the individual of the kind that a segment is about.  Without such
    an individual, and without generation or store, nobody belongs.  Else an entry decides; a
    missing one, and a query that fails, leave it to the rules. -/
inductive Outside (s : Segment) (u : State) : Option Bool × State → Prop
  | otherKind : (∀ i ∈ context.individuals, i.kind ≠ s.unboundedContextKind.getD Kind.user) →
    Outside s u (some false, u)
  | unconfigured {i} : i ∈ context.individuals → i.kind = s.unboundedContextKind.getD Kind.user →
    s.generation = none ∨ e.bigSegments = none →
    Outside s u
      (some false, { u with status := some (BigSegmentsStatus.merge u.status .notConfigured) })
  | entry {i generation b membership t member} : i ∈ context.individuals →
    i.kind = s.unboundedContextKind.getD Kind.user → s.generation = some generation →
    e.bigSegments = some b →
    e.Had b i.key u (membership, t) →
    membership.bind (Entries.get? (generationName s.key generation)) = some member →
    Outside s u (some member, t)
  | noEntry {i generation b membership t} : i ∈ context.individuals →
    i.kind = s.unboundedContextKind.getD Kind.user → s.generation = some generation →
    e.bigSegments = some b →
    e.Had b i.key u (membership, t) →
    membership.bind (Entries.get? (generationName s.key generation)) = none →
    Outside s u (none, t)
  | queryFails {i generation b membership t} : i ∈ context.individuals →
    i.kind = s.unboundedContextKind.getD Kind.user → s.generation = some generation →
    e.bigSegments = some b →
    e.Had b i.key u (membership, t) → e.QueryFails b i.key u →
    Outside s u (none, t)

/-- What comes of a clause. -/
def ClauseGives (isMember : String → Evaluation Bool) (c : Clause) (u : State)
    (r : Except Fault Bool × State) : Prop :=
  (clauseHolds context isMember c).runFrom u = r

/-- **What decides about a rule.**  A clause that is not satisfied, or has a fault, does, if those
    before it are satisfied.  If all are, the rule takes everyone, or the share of contexts that its
    weight says. -/
inductive RuleJudges (isMember : String → Evaluation Bool) (s : Segment) (rule : SegmentRule)
    (u : State) : Except Fault Bool × State → Prop
  | clause {r} : InTurn (ClauseGives context isMember) true rule.clauses u r →
    r.1 ≠ .ok true → RuleJudges isMember s rule u r
  | everyone {t} : Pass (ClauseGives context isMember) true rule.clauses u t →
    rule.weight = none → RuleJudges isMember s rule u (.ok true, t)
  | share {t weight bucket} : Pass (ClauseGives context isMember) true rule.clauses u t →
    rule.weight = some weight → (segmentBucketing s rule).bucket context = .ok bucket →
    RuleJudges isMember s rule u (.ok (decide (bucket.position < weight.toFloat / 100000.0)), t)
  | unplaced {t weight fault} : Pass (ClauseGives context isMember) true rule.clauses u t →
    rule.weight = some weight → (segmentBucketing s rule).bucket context = .error fault →
    RuleJudges isMember s rule u (.error fault, t)

/-- **What decides by rules**: the first one that takes the context, or has a fault.  Every rule may
    ask for further segments, with the keys met on the way down and that of the segment. -/
def ByRules (met : List String) (s : Segment) : State → Except Fault Bool × State → Prop :=
  InTurn (RuleJudges context (e.inSegment context (s.key :: met)) s) false s.rules

/-- **What decides about membership** in a segment that is not met on the way down, from a state
    `u`. -/
inductive Judges (met : List String) (s : Segment) (u : State) : Except Fault Bool × State → Prop
  | excluded : s.Excludes context → Judges met s u (.ok false, u)
  | included : ¬ s.Excludes context → s.Includes context → Judges met s u (.ok true, u)
  | bounded {r} : ¬ s.Excludes context → ¬ s.Includes context → s.unbounded = false →
    e.ByRules context met s u r → Judges met s u r
  | outside {member t} : ¬ s.Excludes context → ¬ s.Includes context → s.unbounded = true →
    e.Outside context s u (some member, t) → Judges met s u (.ok member, t)
  | undecided {t r} : ¬ s.Excludes context → ¬ s.Includes context → s.unbounded = true →
    e.Outside context s u (none, t) → e.ByRules context met s t r → Judges met s u r

end Evaluator

/-! ## Lists -/

namespace Segment

variable {s : Segment} {context : Context}

/-- The lists of a segment name a context exactly where the program finds it listed. -/
theorem names_iff (hkinds : context.kinds.Nodup) {users : KeySet} {targets : List SegmentTarget} :
    Names users targets context ↔ (listsUser users context || lists targets context) = true := by
  -- one list: it names the context by the key that it has of that kind
  have hone : ∀ (k : Kind) (keys : KeySet),
      (context.ofKind? k).any (fun i => keys.contains i.key) = true ↔
      ∃ i ∈ context.individuals, i.kind = k ∧ i.key ∈ keys.toList := by
    intro k keys
    rw [Option.any_eq_true]
    simp only [Context.ofKind?_eq_some_iff hkinds, KeySet.contains, List.contains_iff_mem,
      and_assoc]
  rw [Bool.or_eq_true, listsUser, hone, lists, List.any_eq_true]
  simp only [hone]
  constructor
  · rintro ⟨i, hi, ⟨hkind, hkey⟩ | ⟨t, ht, hkind, hkey⟩⟩
    · exact .inl ⟨i, hi, hkind, hkey⟩
    · exact .inr ⟨t, ht, i, hi, hkind.symm, hkey⟩
  · rintro (⟨i, hi, hkind, hkey⟩ | ⟨t, ht, i, hi, hkind, hkey⟩)
    · exact ⟨i, hi, .inl ⟨hkind, hkey⟩⟩
    · exact ⟨i, hi, .inr ⟨t, ht, hkind.symm, hkey⟩⟩

/-- **Exclusion comes first, then inclusion**; else the lists say nothing. -/
theorem listed?_eq (hkinds : context.kinds.Nodup) :
    (s.Excludes context → s.listed? context = some false) ∧
    (¬ s.Excludes context → s.Includes context → s.listed? context = some true) ∧
    (¬ s.Excludes context → ¬ s.Includes context → s.listed? context = none) := by
  rw [Excludes, Includes, names_iff hkinds, names_iff hkinds, listed?]
  refine ⟨fun hexcluded => if_pos hexcluded, fun hnot hincluded => ?_, fun hnot hnot' => ?_⟩
  · rw [if_neg hnot, if_pos hincluded]
  · rw [if_neg hnot, if_neg hnot']

end Segment

namespace Evaluator

variable {e : Evaluator} {context : Context} {met : List String} {s : Segment} {u : State}

/-! ## Store -/

/-- What a lookup has is what the program's lookup gives. -/
theorem runFrom_membership_of_had {b : BigSegments} {key : String} {membership : Option Membership}
    {t : State} (h : e.Had b key u (membership, t)) :
    (e.membership b key).runFrom u = (.ok membership, t) := by
  cases h with
  | recalled hknown => exact Evaluation.runFrom_membership_of_some hknown
  | lookedUp hnew hfound =>
    subst hfound
    exact Evaluation.runFrom_membership_of_none hnew

/-- Every lookup has an outcome: remembered, found out, or none where the outside store failed. -/
theorem exists_had (e : Evaluator) (b : BigSegments) (key : String) (u : State) :
    ∃ membership t, e.Had b key u (membership, t) := by
  cases hget : Entries.get? key u.memberships with
  | some membership => exact ⟨membership, u, .recalled hget⟩
  | none => exact ⟨_, _, .lookedUp hget rfl⟩

/-- Where the query fails there is no membership. -/
theorem QueryFails.eq_none {b : BigSegments} {key : String} (h : e.QueryFails b key u)
    {membership : Option Membership} {t : State} (hhad : e.Had b key u (membership, t)) :
    membership = none := by
  obtain ⟨hnew, hkept, failure, hfails⟩ := h
  cases hhad with
  | recalled hknown =>
    rw [hnew] at hknown
    cases hknown
  | lookedUp _ hfound =>
    subst hfound
    simp only [BigSegments.membershipOf, BigSegments.askMembership, StateT.run_bind, StateT.run_get,
      pure_bind, hkept, StateT.run_modify, hfails]
    rfl

/-- The verdict from outside is the program's. -/
theorem runFrom_unboundedMember?_of_outside (hkinds : context.kinds.Nodup) {m : Option Bool}
    {t : State} (h : e.Outside context s u (m, t)) :
    (e.unboundedMember? context s).runFrom u = (.ok m, t) := by
  have hfound : ∀ {i}, i ∈ context.individuals → i.kind = s.unboundedContextKind.getD Kind.user →
      context.ofKind? (s.unboundedContextKind.getD Kind.user) = some i :=
    fun hi hkind => (Context.ofKind?_eq_some_iff hkinds).2 ⟨hi, hkind⟩
  -- with generation and store, what the membership says is the answer
  have hasked : ∀ {i generation b membership v}, i ∈ context.individuals →
      i.kind = s.unboundedContextKind.getD Kind.user → s.generation = some generation →
      e.bigSegments = some b →
      e.Had b i.key u (membership, v) → (e.unboundedMember? context s).runFrom u =
        (.ok (membership.bind (Entries.get? (generationName s.key generation))), v) := by
    intro i generation b membership v hi hkind hgeneration hstore hhad
    rw [unboundedMember?, hfound hi hkind]
    simp only [hgeneration, hstore]
    rw [Evaluation.runFrom_bind_of_ok (runFrom_membership_of_had hhad)]
    rfl
  cases h with
  | otherKind hnobody =>
    have hnone : context.ofKind? (s.unboundedContextKind.getD Kind.user) = none :=
      List.find?_eq_none.2 fun i hi hkind => hnobody i hi (of_decide_eq_true hkind)
    rw [unboundedMember?, hnone]
    rfl
  | unconfigured hi hkind hmissing =>
    rw [unboundedMember?, hfound hi hkind]
    rcases hmissing with hgeneration | hstore
    · simp only [hgeneration]
      rfl
    · simp only [hstore]
      cases s.generation <;> rfl
  | entry hi hkind hgeneration hstore hhad hentry =>
    rw [hasked hi hkind hgeneration hstore hhad, hentry]
  | noEntry hi hkind hgeneration hstore hhad hentry =>
    rw [hasked hi hkind hgeneration hstore hhad, hentry]
  | queryFails hi hkind hgeneration hstore hhad hfails =>
    rw [hasked hi hkind hgeneration hstore hhad, hfails.eq_none hhad]
    rfl

/-- **Outside, something always decides**, or leaves it to the rules. -/
theorem exists_outside (hkinds : context.kinds.Nodup) (e : Evaluator) (s : Segment) (u : State) :
    ∃ m t, e.Outside context s u (m, t) := by
  cases hkind : context.ofKind? (s.unboundedContextKind.getD Kind.user) with
  | none =>
    -- nobody of the kind that the segment is about
    refine ⟨some false, u, .otherKind fun i hi heq => ?_⟩
    have hother := List.find?_eq_none.1 hkind i hi
    exact hother (decide_eq_true heq)
  | some i =>
    obtain ⟨hi, hikind⟩ := (Context.ofKind?_eq_some_iff hkinds).1 hkind
    cases hgeneration : s.generation with
    -- no generation, or no store: the status says so
    | none => exact ⟨some false, _, .unconfigured hi hikind (.inl hgeneration)⟩
    | some generation =>
      cases hstore : e.bigSegments with
      | none => exact ⟨some false, _, .unconfigured hi hikind (.inr hstore)⟩
      | some b =>
        obtain ⟨membership, t, hhad⟩ := exists_had e b i.key u
        cases hentry : membership.bind (Entries.get? (generationName s.key generation)) with
        | none => exact ⟨none, t, .noEntry hi hikind hgeneration hstore hhad hentry⟩
        | some member => exact ⟨some member, t, .entry hi hikind hgeneration hstore hhad hentry⟩

/-! ## Rules -/

/-- **A rule decides** by its clauses in turn, and then by its share. -/
theorem runFrom_segmentRuleMatches_iff {isMember : String → Evaluation Bool} {rule : SegmentRule}
    {r : Except Fault Bool × State} :
    (segmentRuleMatches context isMember s rule).runFrom u = r ↔
      RuleJudges context isMember s rule u r := by
  have hclauses : ∀ {x}, (rule.clauses.allM (clauseHolds context isMember)).runFrom u = x ↔
      InTurn (ClauseGives context isMember) true rule.clauses u x :=
        Evaluation.runFrom_allM_iff fun _ _ _ => Iff.rfl
  -- a clause that does not hold is what comes of the rule
  have hclause : ∀ {x}, InTurn (ClauseGives context isMember) true rule.clauses u x →
      x.1 ≠ .ok true →
      (segmentRuleMatches context isMember s rule).runFrom u = x := by
    rintro ⟨x, t⟩ hturn hnot
    have hrun := hclauses.2 hturn
    rw [segmentRuleMatches]
    cases x with
    | error fault => rw [Evaluation.runFrom_bind_of_error hrun]
    | ok holds =>
      cases holds with
      | true => exact absurd rfl hnot
      | false =>
        rw [Evaluation.runFrom_bind_of_ok hrun]
        rfl
  -- and if all do, it is the share
  have hshare : ∀ {t}, Pass (ClauseGives context isMember) true rule.clauses u t →
      (segmentRuleMatches context isMember s rule).runFrom u = (inShare context s rule, t) := by
    intro t hpass
    have hrun : (rule.clauses.allM (clauseHolds context isMember)).runFrom u = (.ok true, t) :=
      hclauses.2 (.inl ⟨rfl, hpass⟩)
    rw [segmentRuleMatches, Evaluation.runFrom_bind_of_ok hrun]
    exact Evaluation.runFrom_ofExcept _ _
  constructor
  · rintro rfl
    rcases hclauses.1 rfl with ⟨-, hpass⟩ | hends
    · rw [hshare hpass, inShare]
      cases hweight : rule.weight with
      | none => exact .everyone hpass hweight
      | some weight =>
        cases hbucket : (segmentBucketing s rule).bucket context with
        | error fault => exact .unplaced hpass hweight hbucket
        | ok bucket => exact .share hpass hweight hbucket
    · obtain ⟨-, -, -, -, -, -, -, hnot⟩ := id hends
      rw [hclause (.inr hends) hnot]
      exact .clause (.inr hends) hnot
  · intro h
    cases h with
    | clause hturn hnot => exact hclause hturn hnot
    | everyone hpass hweight => rw [hshare hpass, inShare, hweight]
    | share hpass hweight hbucket =>
      rw [hshare hpass, inShare, hweight]
      simp only [hbucket]
      rfl
    | unplaced hpass hweight hbucket =>
      rw [hshare hpass, inShare, hweight]
      simp only [hbucket]
      rfl

/-- **The rules decide** in turn. -/
theorem runFrom_anyM_iff_byRules {r : Except Fault Bool × State} :
    (s.rules.anyM (segmentRuleMatches context (e.inSegment context (s.key :: met)) s)).runFrom u =
        r ↔
      e.ByRules context met s u r :=
  Evaluation.runFrom_anyM_iff fun _ _ _ => runFrom_segmentRuleMatches_iff

/-! ## Main result -/

/-- A segment that is not met on the way down decides before its rules, or by them. -/
theorem runFrom_inSegment_of_unmet {name : String} (hs : e.store.segment? name = some s)
    (hmet : s.key ∉ met) {m : Option Bool} {t : State}
    (hbefore : (e.memberBeforeRules? context s).runFrom u = (.ok m, t)) :
    (e.inSegment context met name).runFrom u =
      match m with
      | some member => (.ok member, t)
      | none =>
        (s.rules.anyM
          (segmentRuleMatches context (e.inSegment context (s.key :: met)) s)).runFrom t := by
  rw [inSegment_eq, segmentLevel, hs]
  simp only [if_neg hmet]
  rw [Evaluation.runFrom_bind_of_ok hbefore]
  cases m <;> rfl

/-- A listed context is decided without the outside store and with nothing found out. -/
theorem runFrom_memberBeforeRules?_of_listed {member : Bool} (h : s.listed? context = some member) :
    (e.memberBeforeRules? context s).runFrom u = (.ok (some member), u) := by
  rw [memberBeforeRules?, h]
  rfl

/-- In an unbounded segment that does not list the context, the verdict from outside decides, or
    leaves it to the rules. -/
theorem runFrom_memberBeforeRules?_of_outside (hkinds : context.kinds.Nodup)
    (hlisted : s.listed? context = none) (hunbounded : s.unbounded = true) {m : Option Bool}
    {t : State} (h : e.Outside context s u (m, t)) :
    (e.memberBeforeRules? context s).runFrom u = (.ok m, t) := by
  rw [memberBeforeRules?, hlisted, hunbounded]
  exact runFrom_unboundedMember?_of_outside hkinds h

/-- A verdict is the program's, one case for each way to come to it. -/
theorem runFrom_inSegment_of_judges {name : String} (hkinds : context.kinds.Nodup)
    (hs : e.store.segment? name = some s) (hmet : s.key ∉ met) {r : Except Fault Bool × State}
    (h : e.Judges context met s u r) : (e.inSegment context met name).runFrom u = r := by
  obtain ⟨hexcluded, hincluded, hunlisted⟩ := Segment.listed?_eq (s := s) hkinds
  cases h with
  | excluded hout =>
    have hbefore := runFrom_memberBeforeRules?_of_listed (e := e) (u := u) (hexcluded hout)
    rw [runFrom_inSegment_of_unmet hs hmet hbefore]
  | included hnot hin =>
    have hbefore := runFrom_memberBeforeRules?_of_listed (e := e) (u := u) (hincluded hnot hin)
    rw [runFrom_inSegment_of_unmet hs hmet hbefore]
  | bounded hnot hnot' hbounded hrules =>
    -- neither listed nor unbounded: the rules decide, with nothing found out before
    have hbefore : (e.memberBeforeRules? context s).runFrom u = (.ok none, u) := by
      rw [memberBeforeRules?, hunlisted hnot hnot', hbounded]
      rfl
    rw [runFrom_inSegment_of_unmet hs hmet hbefore]
    exact runFrom_anyM_iff_byRules.2 hrules
  | outside hnot hnot' hunbounded hdecided =>
    have hbefore :=
      runFrom_memberBeforeRules?_of_outside hkinds (hunlisted hnot hnot') hunbounded hdecided
    rw [runFrom_inSegment_of_unmet hs hmet hbefore]
  | undecided hnot hnot' hunbounded hopen hrules =>
    -- the outside store leaves it open, and the rules go on from what was found out
    have hbefore :=
      runFrom_memberBeforeRules?_of_outside hkinds (hunlisted hnot hnot') hunbounded hopen
    rw [runFrom_inSegment_of_unmet hs hmet hbefore]
    exact runFrom_anyM_iff_byRules.2 hrules

/-- There is always a verdict: the ways to come to one leave no case out. -/
theorem exists_judges (hkinds : context.kinds.Nodup) (e : Evaluator) (met : List String)
    (s : Segment) (u : State) :
    ∃ r, e.Judges context met s u r := by
  by_cases hout : s.Excludes context
  · exact ⟨_, .excluded hout⟩
  · by_cases hin : s.Includes context
    · exact ⟨_, .included hout hin⟩
    · cases hunbounded : s.unbounded with
      | false => exact ⟨_, .bounded hout hin hunbounded (runFrom_anyM_iff_byRules.1 rfl)⟩
      | true =>
        obtain ⟨m, t, houtside⟩ := exists_outside hkinds e s u
        cases m with
        | some member => exact ⟨_, .outside hout hin hunbounded houtside⟩
        | none =>
          exact ⟨_, .undecided hout hin hunbounded houtside (runFrom_anyM_iff_byRules.1 rfl)⟩

/-- **Who is in a segment.**  For every segment of a store, every context that can arise and every
    state: a segment that is met again on the way down is a fault, which the log explains.  Else an
    exclusion of any individual decides, then an inclusion of any, and neither changes the state, so
    that nothing is asked.  Then comes the outside store, if the segment is unbounded, and only what
    it leaves open comes to the rules: the first one that takes the context, or has a fault.
    Nothing else ever comes of it. -/
theorem runFrom_inSegment_iff_judges {name : String} (hcontext : context.Arises)
    (hs : e.store.segment? name = some s) (u : State) (r : Except Fault Bool × State) :
    (s.key ∈ met → (e.inSegment context met name).runFrom u =
      (.error .malformedFlag, { u with log := u.log ++ [.segmentCycle] })) ∧
    (s.key ∉ met →
      ((e.inSegment context met name).runFrom u = r ↔ e.Judges context met s u r)) := by
  have hkinds : context.kinds.Nodup := (Context.proper_iff.1 hcontext.proper).1.nodup_kinds
  refine ⟨fun hmet => ?_, fun hmet => ⟨fun hrun => ?_, runFrom_inSegment_of_judges hkinds hs hmet⟩⟩
  · rw [inSegment_eq, segmentLevel, hs]
    simp only [if_pos hmet]
    rfl
  · obtain ⟨r', hjudges⟩ := exists_judges hkinds e met s u
    have hsame : r = r' := hrun.symm.trans (runFrom_inSegment_of_judges hkinds hs hmet hjudges)
    exact hsame ▸ hjudges

/-- A segment that keeps one user out, takes one tenant in, and has a rule for all others. -/
def clubSegment : Segment :=
  { Segment.ofKey "club" with
    excluded := KeySet.ofList ["a"]
    includedContexts := [⟨Context.tenant, KeySet.ofList ["t"]⟩]
    rules := [⟨none, [], none, none, none⟩]
    unbounded := true
    generation := some 1 }

def clubEvaluator : Evaluator :=
  { loungeEvaluator with store := .ofData [] [("club", clubSegment)] }

/-- The user is kept out although the tenant is taken in; alone, the tenant belongs.  For another
    user the store fails, and the rule decides. -/
theorem runFrom_inSegment_iff_judges_club :
    let u := State.start (.ofSettings .standard)
    let owner := Context.bare Context.tenant "t"
    let guest (key : String) := Context.bare Kind.user key
    clubEvaluator.store.segment? "club" = some clubSegment ∧
    (Context.multi [owner, guest "a"]).Arises ∧
    (clubEvaluator.inSegment (.multi [owner, guest "a"]) [] "club").runFrom u = (.ok false, u) ∧
    (clubEvaluator.inSegment (.single owner) [] "club").runFrom u = (.ok true, u) ∧
    ((clubEvaluator.inSegment (.single (guest "b")) [] "club").runFrom u).1 = .ok true := by
  intro u owner guest
  have howner : owner.Proper := ⟨by decide +kernel, by decide, .nil, nofun⟩
  have hguest : ∀ key ≠ "", (guest key).Proper := fun key hkey =>
    ⟨show Kind.Valid Kind.user.name ∧ Kind.user.name ∉ ["kind", "multi"] by decide +kernel,
      hkey, .nil, nofun⟩
  have hboth : (Context.multi [owner, guest "a"]).Arises := by
    refine Context.arises_iff_proper.2 ⟨Nat.le_refl 2, fun i hi => ?_,
      List.pairwise_pair.2 (by decide +kernel)⟩
    rcases List.mem_pair.1 hi with rfl | rfl
    · exact howner
    · exact hguest "a" (by decide)
  have hs : clubEvaluator.store.segment? "club" = some clubSegment := rfl
  have hmet : clubSegment.key ∉ [] := List.not_mem_nil
  have hkinds : ∀ i, (Context.single i).kinds.Nodup := fun i => List.nodup_singleton i.kind
  -- the guest is in no list, so that the outside store is asked, which fails
  have hunlisted : ¬ clubSegment.Excludes (.single (guest "b")) ∧
      ¬ clubSegment.Includes (.single (guest "b")) := by
    rw [Segment.Excludes, Segment.Includes, Segment.names_iff (hkinds _),
      Segment.names_iff (hkinds _)]
    decide +kernel
  refine ⟨hs, hboth, ?_, ?_, ?_⟩
  · refine ((runFrom_inSegment_iff_judges hboth hs u _).2 hmet).2 (.excluded ?_)
    rw [Segment.Excludes, Segment.names_iff (by decide +kernel)]
    decide +kernel
  · refine ((runFrom_inSegment_iff_judges howner.arises hs u _).2 hmet).2 (.included ?_ ?_)
    · rw [Segment.Excludes, Segment.names_iff (hkinds _)]
      decide +kernel
    · rw [Segment.Includes, Segment.names_iff (hkinds _)]
      decide +kernel
  · have hfails : clubEvaluator.Outside (.single (guest "b")) clubSegment u (none, _) :=
      .queryFails (List.mem_singleton_self (guest "b")) rfl rfl rfl
        (.lookedUp rfl rfl) ⟨rfl, rfl, _, rfl⟩
    have hrules : ∀ t,
        clubEvaluator.ByRules (.single (guest "b")) [] clubSegment t (.ok true, t) := fun t =>
      .inr ⟨[], _, [], t, rfl, .nil, .everyone .nil rfl, nofun⟩
    have hrun := ((runFrom_inSegment_iff_judges (hguest "b" (by decide)).arises hs u _).2 hmet).2
      (.undecided hunlisted.1 hunlisted.2 rfl hfails (hrules _))
    exact congrArg Prod.fst hrun

end Evaluator

end FeatureFlags
