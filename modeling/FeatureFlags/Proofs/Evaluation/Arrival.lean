/-
  ARRIVALS — the segments that an evaluation comes to, one after the other.

  1. **Arrivals** — an `Arrival` is a segment whose membership is to be decided, with the state that
     the evaluation is in when it comes there.  `arrivals` lists those of the evaluation of a flag:
     through its prerequisites, its rules and their clauses, and the rules of the segments come to.
     Each step gives what the evaluator gives, so that a walk ends where the evaluation ends it.
  2. **Quiet steps** — a step that comes to no segment adds nothing to the `Findings` about big
     segments.
  3. **From arrival to arrival** — `e.Leads context s arrivals t`: between `s` and `t`, findings
     change at these arrivals only, and there as the segment changes them.
  4. **Main result** (`leads_check`) — evaluations lead along their arrivals.  Whatever an
     evaluation finds out about big segments can thus be told by going through a list, and the two
     recursions of the evaluator are not looked at again.
-/
import FeatureFlags.Proofs.Evaluation.Level

namespace FeatureFlags

open Evaluation (State toldInTurn toldAny toldAll)

/-! ## Arrivals -/

/-- **An arrival** at a segment whose membership is to be decided. -/
structure Arrival where
  segment : Segment
  /-- The state of the evaluation at that moment. -/
  state : State

namespace Evaluator

section Rules

variable (context : Context) (isMember : String → Evaluation Bool)
  (nested : String → State → List Arrival)

/-- The arrivals of a clause, given those of memberships. -/
def clauseArrivals (c : Clause) : State → List Arrival :=
  if c.op = .segmentMatch then toldAny isMember nested (c.values.filterMap Document.text?)
  else fun _ => []

/-- The arrivals of clauses that all have to hold. -/
def clausesArrivals : List Clause → State → List Arrival :=
  toldAll (clauseHolds context isMember) (clauseArrivals isMember nested)

/-- The arrivals of the rules of a segment. -/
def segmentRulesArrivals (s : Segment) : State → List Arrival :=
  toldAny (segmentRuleMatches context isMember s)
    (fun r => clausesArrivals context isMember nested r.clauses) s.rules

/-- The arrivals of the rules of a flag. -/
def flagRulesArrivals : List FlagRule → State → List Arrival :=
  toldAny (ruleMatches context isMember)
    fun r => clausesArrivals context isMember nested r.clauses

/-- The arrivals of a flag whose prerequisites are met. -/
def serveOnArrivals (f : Flag) : State → List Arrival :=
  match f.targeted? context with
  | some _ => fun _ => []
  | none => flagRulesArrivals context isMember nested f.rules

end Rules

variable (e : Evaluator) (context : Context)

/-- **The arrivals of a membership**: one at the segment itself, and those of its rules if these are
    asked.  A segment that does not exist is not come to, nor is one that is on the way down. -/
def segmentArrivals (met : List String) (name : String) : State → List Arrival :=
  match h : e.store.segment? name with
  | none => fun _ => []
  | some s =>
    if hmet : s.key ∈ met then fun _ => []
    else
      have := Store.length_unmet_lt h hmet
      toldInTurn (e.memberBeforeRules? context s) (fun t => [⟨s, t⟩]) fun decided =>
        match decided with
        | some _ => fun _ => []
        | none =>
          segmentRulesArrivals context (e.inSegment context (s.key :: met))
            (segmentArrivals (s.key :: met)) s
termination_by (e.store.unmet met).length

/-- The arrivals of a list of prerequisites, given how flags are evaluated and their arrivals. -/
def prerequisitesArrivals (check : Flag → Evaluation (Detail Json))
    (nested : Flag → State → List Arrival) (met : List String) (f : Flag) :
    List Prerequisite → State → List Arrival
  | [] => fun _ => []
  | p :: rest =>
    if p.key ∈ met then fun _ => []
    else match e.store.flag? p.key with
      | none => fun _ => []
      | some q => toldInTurn (check q) (nested q) fun d =>
        toldInTurn (e.notePrerequisite context f q d) (fun _ => []) fun _ =>
          match Prerequisite.metBy p q d with
          | true => prerequisitesArrivals check nested met f rest
          | false => fun _ => []

/-- **The arrivals of the evaluation of a flag**, those of its prerequisites first. -/
def arrivals : Nat → List String → Flag → State → List Arrival
  | 0, _, _ => fun _ => []
  | depth + 1, met, f =>
    if f.on then
      toldInTurn
        (e.firstUnmet? context (e.check context depth (f.key :: met)) (f.key :: met) f
          f.prerequisites)
        (e.prerequisitesArrivals context (e.check context depth (f.key :: met))
          (arrivals depth (f.key :: met)) (f.key :: met) f f.prerequisites)
        fun unmet =>
          match unmet with
          | some _ => fun _ => []
          | none =>
            serveOnArrivals context (e.inSegment context []) (e.segmentArrivals context []) f
    else fun _ => []

end Evaluator

/-! ## Quiet steps -/

namespace Evaluation

variable {α β : Type}

/-- What an evaluation has found out about big segments. -/
structure Findings where
  memberships : Entries (Option BigSegments.Membership)
  status : Option BigSegmentsStatus
  calls : List BigSegments.Call

def State.findings (s : State) : Findings := ⟨s.memberships, s.status, s.calls⟩

/-- A step that finds nothing out about big segments. -/
def Quiet (x : Evaluation α) : Prop := ∀ s, (x.runFrom s).2.findings = s.findings

theorem Quiet.bind {x : Evaluation α} {f : α → Evaluation β} (hx : Quiet x)
    (hf : ∀ a, Quiet (f a)) :
    Quiet (x >>= f) := by
  intro s
  have hfirst := hx s
  rcases hrun : x.runFrom s with ⟨fault | a, t⟩
  · rw [hrun] at hfirst
    rw [runFrom_bind_of_error hrun]
    exact hfirst
  · rw [hrun] at hfirst
    rw [runFrom_bind_of_ok hrun]
    exact (hf a t).trans hfirst

theorem quiet_stop (entry : LogEntry) : Quiet (stop entry : Evaluation α) := fun _ => rfl

theorem quiet_ofExcept (r : Except Fault α) : Quiet (ofExcept r) := fun s => by
  rw [runFrom_ofExcept]

/-- A variation is looked up in the flag: nobody outside is asked. -/
theorem quiet_serve (f : Flag) (index : VariationIndex) (cause : Reason.Cause) :
    Quiet (f.serve index cause) := by
  rw [Flag.serve]
  cases f.variation? index with
  | some value => exact fun _ => rfl
  | none => exact quiet_stop _

theorem quiet_serveOff (f : Flag) (cause : Reason.Cause) : Quiet (f.serveOff cause) := by
  rw [Flag.serveOff]
  cases f.offVariation with
  | some index => exact quiet_serve f index cause
  | none => exact fun _ => rfl

/-- The report on a prerequisite is about an answer that is already known. -/
theorem quiet_notePrerequisite (e : Evaluator) (context : Context) (f q : Flag) (d : Detail Json) :
    Quiet (e.notePrerequisite context f q d) := by
  rw [Evaluator.notePrerequisite]
  cases e.factory with
  | none => exact fun _ => rfl
  | some factory => exact fun _ => rfl

end Evaluation

/-! ## From arrival to arrival -/

/-- The state in which a segment leaves the evaluation before its rules are asked. -/
def Arrival.after (e : Evaluator) (context : Context) (a : Arrival) : State :=
  ((e.memberBeforeRules? context a.segment).runFrom a.state).2

namespace Evaluator

/-- **Findings change at arrivals only**, and there as the segment changes them. -/
inductive Leads (e : Evaluator) (context : Context) : State → List Arrival → State → Prop
  | done {s t : State} : t.findings = s.findings → Leads e context s [] t
  | arrive {s t : State} {a : Arrival} {rest : List Arrival} : a.state.findings = s.findings →
    Leads e context (a.after e context) rest t → Leads e context s (a :: rest) t

variable {e : Evaluator} {context : Context} {α β ι : Type}

/-- Where a walk starts matters by its findings only. -/
theorem Leads.of_findings {s s' t : State} {l : List Arrival} (h : e.Leads context s l t)
    (heq : s.findings = s'.findings) : e.Leads context s' l t := by
  cases h with
  | done hdone => exact .done (hdone.trans heq)
  | arrive hhere hrest => exact .arrive (hhere.trans heq) hrest

/-- Arrivals in a row make one walk. -/
theorem Leads.trans {s t u : State} {l m : List Arrival} (h : e.Leads context s l t)
    (h' : e.Leads context t m u) : e.Leads context s (l ++ m) u := by
  induction h with
  | done hdone => exact h'.of_findings hdone
  | arrive hhere _ ih => exact .arrive hhere (ih h')

/-- `x` leads along the arrivals that are told of it. -/
def Walks (e : Evaluator) (context : Context) (x : Evaluation α) (told : State → List Arrival) :
    Prop :=
  ∀ s, e.Leads context s (told s) (x.runFrom s).2

namespace Walks

variable {x : Evaluation α} {f : α → Evaluation β} {told : State → List Arrival}
  {next : α → State → List Arrival}

theorem of_quiet (h : Evaluation.Quiet x) : e.Walks context x fun _ => [] := fun s => .done (h s)

theorem bind (hx : e.Walks context x told) (hf : ∀ a, e.Walks context (f a) (next a)) :
    e.Walks context (x >>= f) (toldInTurn x told next) := by
  intro s
  have hfirst := hx s
  rw [toldInTurn]
  rcases hrun : x.runFrom s with ⟨fault | a, t⟩
  · rw [hrun] at hfirst
    rw [Evaluation.runFrom_bind_of_error hrun, List.append_nil]
    exact hfirst
  · rw [hrun] at hfirst
    rw [Evaluation.runFrom_bind_of_ok hrun]
    exact hfirst.trans (hf a t)

/-- A sequence that comes to no segment in its second step. -/
theorem bind_quiet (hx : e.Walks context x told) (hf : ∀ a, Evaluation.Quiet (f a)) :
    e.Walks context (x >>= f) told := by
  intro s
  have hquiet : ∀ a, e.Walks context (f a) fun _ => [] := fun a => of_quiet (hf a)
  have hboth := hx.bind hquiet s
  have htold : toldInTurn x told (fun _ _ => []) s = told s := by
    rw [toldInTurn]
    rcases x.runFrom s with ⟨fault | a, t⟩ <;> exact List.append_nil _
  rwa [htold] at hboth

/-- The elements up to the first that holds are visited, and their arrivals come in that order. -/
theorem anyM {p : ι → Evaluation Bool} {told : ι → State → List Arrival} :
    ∀ {l : List ι}, (∀ i ∈ l, e.Walks context (p i) (told i)) →
      e.Walks context (l.anyM p) (toldAny p told l)
  | [], _ => of_quiet fun _ => rfl
  | i :: l, h => by
    rw [List.anyM_cons, toldAny]
    refine (h i (List.mem_cons_self ..)).bind fun found => ?_
    cases found with
    | true => exact of_quiet fun _ => rfl
    | false => exact anyM fun j hj => h j (List.mem_cons_of_mem _ hj)

theorem allM {p : ι → Evaluation Bool} {told : ι → State → List Arrival} :
    ∀ {l : List ι}, (∀ i ∈ l, e.Walks context (p i) (told i)) →
      e.Walks context (l.allM p) (toldAll p told l)
  | [], _ => of_quiet fun _ => rfl
  | i :: l, h => by
    rw [List.allM_cons, toldAll]
    refine (h i (List.mem_cons_self ..)).bind fun holds => ?_
    cases holds with
    | true => exact allM fun j hj => h j (List.mem_cons_of_mem _ hj)
    | false => exact of_quiet fun _ => rfl

end Walks

/-! ## Main result -/

section Rules

variable {isMember : String → Evaluation Bool} {nested : String → State → List Arrival}
  (hmember : ∀ name, e.Walks context (isMember name) (nested name))
include hmember

/-- A clause on segments visits the segments that it names; any other clause visits none. -/
theorem walks_clauseHolds (c : Clause) :
    e.Walks context (clauseHolds context isMember c) (clauseArrivals isMember nested c) := by
  rw [clauseHolds, clauseArrivals]
  split
  · exact (Walks.anyM fun name _ => hmember name).bind_quiet fun _ _ => rfl
  · exact .of_quiet (Evaluation.quiet_ofExcept _)

theorem walks_segmentRules (s : Segment) :
    e.Walks context (s.rules.anyM (segmentRuleMatches context isMember s))
      (segmentRulesArrivals context isMember nested s) := by
  refine Walks.anyM fun r _ => ?_
  refine (Walks.allM fun c _ => walks_clauseHolds hmember c).bind_quiet fun holds => ?_
  cases holds with
  | true => exact Evaluation.quiet_ofExcept _
  | false => exact fun _ => rfl

/-- The rules of a flag are visited up to the one that matches, by induction on those that are
    left. -/
theorem walks_firstRule? : ∀ rules : List (FlagRule × Nat),
    e.Walks context (firstRule? context isMember rules)
      (flagRulesArrivals context isMember nested (rules.map (·.1)))
  | [] => .of_quiet fun _ => rfl
  | (r, i) :: rest => by
    have hrule : e.Walks context (ruleMatches context isMember r)
        (clausesArrivals context isMember nested r.clauses) :=
      Walks.allM fun c _ => walks_clauseHolds hmember c
    rw [firstRule?, List.map_cons, flagRulesArrivals, toldAny]
    refine hrule.bind fun found => ?_
    cases found with
    | true => exact .of_quiet fun _ => rfl
    | false => exact walks_firstRule? rest

/-- A flag that is on visits its rules, unless a target decides before them. -/
theorem walks_serveOn (f : Flag) :
    e.Walks context (serveOn context isMember f) (serveOnArrivals context isMember nested f) := by
  rw [serveOn, serveOnArrivals]
  cases f.targeted? context with
  | some index => exact .of_quiet (Evaluation.quiet_serve f index _)
  | none =>
    have hrules := walks_firstRule? hmember f.rules.zipIdx
    rw [List.zipIdx_map_fst] at hrules
    refine hrules.bind_quiet fun found => ?_
    cases found with
    | some rule => exact (Evaluation.quiet_ofExcept _).bind fun _ => Evaluation.quiet_serve f _ _
    | none => exact (Evaluation.quiet_ofExcept _).bind fun _ => Evaluation.quiet_serve f _ _

end Rules

/-- A segment is come to before anything is decided about it. -/
theorem walks_memberBeforeRules? (s : Segment) :
    e.Walks context (e.memberBeforeRules? context s) fun t => [⟨s, t⟩] :=
  fun _ => .arrive rfl (.done rfl)

/-- The arrivals of one level of segments, given those of the level below. -/
def segmentLevelArrivals (e : Evaluator) (context : Context)
    (nested : List String → String → State → List Arrival) (met : List String) (name : String) :
    State → List Arrival :=
  match e.store.segment? name with
  | none => fun _ => []
  | some s =>
    if s.key ∈ met then fun _ => []
    else
      toldInTurn (e.memberBeforeRules? context s) (fun t => [⟨s, t⟩]) fun decided =>
        match decided with
        | some _ => fun _ => []
        | none =>
          segmentRulesArrivals context (e.inSegment context (s.key :: met))
            (nested (s.key :: met)) s

/-- The arrivals of a segment are those of its level, with the arrivals below for the segments it
    names: the proof that the recursion ends does not show. -/
theorem segmentArrivals_eq (e : Evaluator) (context : Context) (met : List String) (name : String) :
    e.segmentArrivals context met name =
      e.segmentLevelArrivals context (e.segmentArrivals context) met name := by
  rw [segmentArrivals]
  split
  · next h => rw [segmentLevelArrivals, h]
  · next s h =>
    simp only [segmentLevelArrivals, h]
    by_cases hmet : s.key ∈ met
    · exact (dif_pos hmet).trans (if_pos hmet).symm
    · exact (dif_neg hmet).trans (if_neg hmet).symm

/-- **Memberships lead along their arrivals.** -/
theorem walks_inSegment (met : List String) (name : String) :
    e.Walks context (e.inSegment context met name) (e.segmentArrivals context met name) := by
  induction met, name using e.inSegment_induction with
  | level met name ih =>
    rw [inSegment_eq, segmentLevel, segmentArrivals_eq, segmentLevelArrivals]
    cases hs : e.store.segment? name with
    | none => exact .of_quiet fun _ => rfl
    | some s =>
      by_cases hmet : s.key ∈ met
      · -- a segment that is met again ends the evaluation with a fault
        simp only [hmet, ↓reduceIte]
        exact .of_quiet (Evaluation.quiet_stop _)
      · simp only [hmet, ↓reduceIte]
        -- else its arrival comes first, and its rules follow if it does not decide
        refine (walks_memberBeforeRules? s).bind fun decided => ?_
        cases decided with
        | some member => exact .of_quiet fun _ => rfl
        | none => exact walks_segmentRules (ih s hs hmet) s

/-- The prerequisites are checked in turn up to the first that is not met; each brings what its own
    check finds out, by induction on those that are left. -/
theorem walks_firstUnmet? {check : Flag → Evaluation (Detail Json)}
    {nested : Flag → State → List Arrival} (hcheck : ∀ q, e.Walks context (check q) (nested q))
    (met : List String) (f : Flag) : ∀ ps : List Prerequisite,
      e.Walks context (e.firstUnmet? context check met f ps)
        (e.prerequisitesArrivals context check nested met f ps)
  | [] => .of_quiet fun _ => rfl
  | p :: rest => by
    rw [firstUnmet?, prerequisitesArrivals]
    by_cases hkey : p.key ∈ met
    · rw [if_pos hkey, if_pos hkey]
      exact .of_quiet (Evaluation.quiet_stop _)
    · rw [if_neg hkey, if_neg hkey]
      cases e.store.flag? p.key with
      | none => exact .of_quiet (Evaluation.quiet_stop _)
      | some q =>
        have hnote : ∀ d, e.Walks context (e.notePrerequisite context f q d) fun _ => [] :=
          fun d => .of_quiet (Evaluation.quiet_notePrerequisite e context f q d)
        refine (hcheck q).bind fun d => (hnote d).bind fun _ => ?_
        cases Prerequisite.metBy p q d with
        | true => exact walks_firstUnmet? hcheck met f rest
        | false => exact .of_quiet fun _ => rfl

/-- **Evaluations lead along their arrivals**: all that they find out about big segments they find
    there. -/
theorem leads_check (depth : Nat) (met : List String) (f : Flag) (s : State) :
    e.Leads context s (e.arrivals context depth met f s)
      ((e.check context depth met f).runFrom s).2 := by
  have hwalks : e.Walks context (e.check context depth met f) (e.arrivals context depth met f) := by
    induction depth generalizing met f with
    | zero =>
      rw [check, arrivals]
      cases f.on with
      | false => exact .of_quiet (Evaluation.quiet_serveOff f .off)
      | true => exact .of_quiet (Evaluation.quiet_stop _)
    | succ depth ih =>
      -- first the prerequisites, each with all that it visits itself, and then the rules
      rw [check, arrivals]
      cases f.on with
      | false => exact .of_quiet (Evaluation.quiet_serveOff f .off)
      | true =>
        have hfirst :=
          walks_firstUnmet? (fun q => ih (f.key :: met) q) (f.key :: met) f f.prerequisites
        refine hfirst.bind fun unmet => ?_
        cases unmet with
        | some key => exact .of_quiet (Evaluation.quiet_serveOff f _)
        | none => exact walks_serveOn (fun name => walks_inSegment [] name) f
  exact hwalks s

end Evaluator

end FeatureFlags
