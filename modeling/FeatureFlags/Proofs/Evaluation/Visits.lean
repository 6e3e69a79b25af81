/-
  VISITS — the prerequisites that an evaluation goes through, and what is reported of them.

  1. **Visits** — a `Visit` is one evaluation of a prerequisite, with the visits that it made
     itself.  `visits` are those of the evaluation of a flag; their results are the evaluator's own.
  2. **The course of visits** (`GoesThrough`) — a flag's visits follow the list of its prerequisites
     up to the first one that is not met, or that leads to a fault.
  3. **Completions** — the visits that gave a detail, each one behind those that it made itself.
  4. **Reporting** — `Reporting x y told`: `y` does what `x` does, and reports `told` besides.  What
     is reported makes no difference to anything else, so an evaluator that reports does what the
     same evaluator does in silence, and reports its visits (`reporting_check`).
  5. **The course of an evaluation** — visits go through the prerequisites as the flags visited say
     (`goesThrough_check`), and so do the visits within them (`goesThrough_of_within`).
  6. **Main result** (`evaluate_postorder`).
-/
import FeatureFlags.Proofs.Evaluation.Lockstep
import FeatureFlags.Proofs.Evaluation.Prerequisite

namespace FeatureFlags

open Evaluation (State)

/-! ## Visits -/

/-- **A visit**: the evaluation of a prerequisite. -/
structure Visit where
  /-- The flag in whose list the prerequisite stands. -/
  owner : Flag
  entry : Prerequisite
  /-- The flag that the store has for it. -/
  flag : Flag
  /-- What the evaluation of that flag ended with. -/
  result : Except Fault (Detail Json)
  /-- The visits that this evaluation made. -/
  nested : List Visit

namespace Evaluator

variable (e : Evaluator) (context : Context)

/-- The same evaluator with another way to report prerequisites, or none. -/
def telling (factory : Option EventFactory) : Evaluator := { e with factory }

/-- The visits along a list of prerequisites, given how flags are evaluated and which visits that
    makes.  `met` holds the keys of the flags on the way down. -/
def visitsAlong (check : Flag → Evaluation (Detail Json)) (nested : Flag → State → List Visit)
    (met : List String) (f : Flag) : List Prerequisite → State → List Visit
  | [], _ => []
  | p :: rest, s =>
    if p.key ∈ met then []
    else match e.store.flag? p.key with
      | none => []
      | some q =>
        ⟨f, p, q, ((check q).runFrom s).1, nested q s⟩ ::
          match (check q).runFrom s with
          | (.ok d, t) =>
            if Prerequisite.metBy p q d then visitsAlong check nested met f rest t else []
          | (.error _, _) => []

/-- **The visits that the evaluation of a flag makes** from a state, if it reports nothing. -/
def visits : Nat → List String → Flag → State → List Visit
  | 0, _, _, _ => []
  | depth + 1, met, f, s =>
    if f.on then
      e.visitsAlong ((e.telling none).check context depth (f.key :: met))
        (visits depth (f.key :: met))
        (f.key :: met) f f.prerequisites s
    else []

variable {f : Flag} (met : List String) (s : State)

/-- A flag that is off asks nothing of other flags. -/
theorem visits_of_off (hoff : f.on = false) (depth : Nat) :
    e.visits context depth met f s = [] := by
  cases depth with
  | zero => rfl
  | succ depth => exact if_neg (Bool.eq_false_iff.1 hoff)

/-- A flag that is on visits its prerequisites, one level further down. -/
theorem visits_of_on (hon : f.on = true) (depth : Nat) :
    e.visits context (depth + 1) met f s =
      e.visitsAlong ((e.telling none).check context depth (f.key :: met))
        (e.visits context depth (f.key :: met)) (f.key :: met) f f.prerequisites s :=
  if_pos hon

end Evaluator

/-! ## The course of visits -/

namespace Visit

/-- A visit to the flag that the store has for a prerequisite of a flag. -/
def Of (s : Store) (f : Flag) (v : Visit) : Prop := v.owner = f ∧ s.flag? v.entry.key = some v.flag

/-- The flag visited is on and gave the variation it should. -/
def Satisfied (v : Visit) : Prop :=
  v.flag.on = true ∧ ∃ d, v.result = .ok d ∧ d.index = some v.entry.variation

/-- The flag visited is off, or gave another variation or none. -/
def Failed (v : Visit) : Prop :=
  ∃ d, v.result = .ok d ∧ (v.flag.on = false ∨ d.index ≠ some v.entry.variation)

end Visit

/-- **Visits along a list of prerequisites**, and what is found: no prerequisite that is not met,
    the key of the first one, or a fault. -/
inductive Course (s : Store) (f : Flag) :
    List Prerequisite → List Visit → Except Fault (Option String) → Prop
  | done : Course s f [] [] (.ok none)
  | satisfied {v : Visit} {rest : List Prerequisite} {vs : List Visit}
    {found : Except Fault (Option String)} : v.Of s f → v.Satisfied → Course s f rest vs found →
    Course s f (v.entry :: rest) (v :: vs) found
  | failed {v : Visit} {rest : List Prerequisite} : v.Of s f → v.Failed →
    Course s f (v.entry :: rest) [v] (.ok (some v.entry.key))
  | faulty {v : Visit} {rest : List Prerequisite} {fault : Fault} : v.Of s f →
    v.result = .error fault → Course s f (v.entry :: rest) [v] (.error fault)
  /-- The next prerequisite is on the way down already, or the store has no flag for it. -/
  | blocked {p : Prerequisite} {rest : List Prerequisite} :
    Course s f (p :: rest) [] (.error .malformedFlag)

/-- **How the evaluation of a flag goes through its prerequisites**, and what it ends with. -/
inductive GoesThrough (s : Store) (f : Flag) : Except Fault (Detail Json) → List Visit → Prop
  | off {r : Except Fault (Detail Json)} : f.on = false →
    (∀ d, r = .ok d → d.reason.cause = .off) → GoesThrough s f r []
  | tooDeep : f.on = true → GoesThrough s f (.error .malformedFlag) []
  | met {r : Except Fault (Detail Json)} {vs : List Visit} : f.on = true →
    Course s f f.prerequisites vs (.ok none) → (∀ d, r = .ok d → d.reason.cause.MeansOn) →
    GoesThrough s f r vs
  | unmet {r : Except Fault (Detail Json)} {vs : List Visit} {key : String} : f.on = true →
    Course s f f.prerequisites vs (.ok (some key)) →
    (∀ d, r = .ok d → d.reason.cause = .prerequisiteFailed key) → GoesThrough s f r vs
  | faulty {vs : List Visit} {fault : Fault} : f.on = true →
    Course s f f.prerequisites vs (.error fault) → GoesThrough s f (.error fault) vs

namespace Course

variable {s : Store} {f : Flag} {ps : List Prerequisite} {vs : List Visit}
  {found : Except Fault (Option String)}

/-- Visits follow the list from its beginning. -/
theorem entries_prefix (h : Course s f ps vs found) : vs.map (·.entry) <+: ps := by
  induction h with
  | done => exact List.nil_prefix
  | satisfied _ _ _ ih => exact (List.prefix_cons_inj _).2 ih
  | failed => exact ⟨_, rfl⟩
  | faulty => exact ⟨_, rfl⟩
  | blocked => exact List.nil_prefix

/-- Where all prerequisites are met, all are visited. -/
theorem of_none (h : Course s f ps vs (.ok none)) :
    vs.map (·.entry) = ps ∧ ∀ v ∈ vs, v.Satisfied := by
  generalize hfound : (.ok none : Except Fault (Option String)) = found at h
  induction h with
  | done => exact ⟨rfl, fun _ hv => absurd hv List.not_mem_nil⟩
  | satisfied _ hv _ ih =>
    obtain ⟨hentries, hall⟩ := ih hfound
    exact ⟨congrArg (_ :: ·) hentries, List.forall_mem_cons.2 ⟨hv, hall⟩⟩
  | failed => cases hfound
  | faulty => cases hfound
  | blocked => cases hfound

/-- A prerequisite that is found not to be met is the last one visited. -/
theorem of_some {key : String} (h : Course s f ps vs (.ok (some key))) :
    ∃ before v, vs = before ++ [v] ∧ v.entry.key = key ∧ v.Failed ∧ ∀ w ∈ before, w.Satisfied := by
  generalize hfound : (.ok (some key) : Except Fault (Option String)) = found at h
  induction h with
  | done => cases hfound
  | satisfied _ hv _ ih =>
    obtain ⟨before, w, rfl, hkey, hw, hall⟩ := ih hfound
    exact ⟨_ :: before, w, rfl, hkey, hw, List.forall_mem_cons.2 ⟨hv, hall⟩⟩
  | failed _ hv =>
    cases hfound
    exact ⟨[], _, rfl, rfl, hv, fun _ hw => absurd hw List.not_mem_nil⟩
  | faulty => cases hfound
  | blocked => cases hfound

end Course

namespace GoesThrough

variable {s : Store} {f : Flag} {r : Except Fault (Detail Json)} {vs : List Visit}

/-- The entries are visited from the first on, and none is left out before the last visited. -/
theorem entries_prefix (h : GoesThrough s f r vs) : vs.map (·.entry) <+: f.prerequisites := by
  cases h with
  | off => exact List.nil_prefix
  | tooDeep => exact List.nil_prefix
  | met _ hcourse => exact hcourse.entries_prefix
  | unmet _ hcourse => exact hcourse.entries_prefix
  | faulty _ hcourse => exact hcourse.entries_prefix

/-- What serves by its targets, rules or fallthrough has visited all of its prerequisites. -/
theorem of_meansOn {d : Detail Json} (h : GoesThrough s f (.ok d) vs)
    (hon : d.reason.cause.MeansOn) :
    vs.map (·.entry) = f.prerequisites ∧ ∀ v ∈ vs, v.Satisfied := by
  cases h with
  | off _ hcause => rw [hcause d rfl] at hon; exact hon.elim
  | met _ hcourse => exact hcourse.of_none
  | unmet _ _ hcause => rw [hcause d rfl] at hon; exact hon.elim

/-- What reports a prerequisite to have failed has visited it last. -/
theorem of_prerequisiteFailed {d : Detail Json} {key : String} (h : GoesThrough s f (.ok d) vs)
    (hfailed : d.reason.cause = .prerequisiteFailed key) :
    ∃ before v, vs = before ++ [v] ∧ v.entry.key = key ∧ v.Failed ∧ ∀ w ∈ before, w.Satisfied := by
  cases h with
  | off _ hcause => rw [hcause d rfl] at hfailed; cases hfailed
  | met _ _ hcause =>
    have hmeans := hcause d rfl
    rw [hfailed] at hmeans
    exact hmeans.elim
  | unmet _ hcourse hcause =>
    rw [hcause d rfl] at hfailed
    cases hfailed
    exact hcourse.of_some

end GoesThrough

/-- One of the visits, or one that they made. -/
inductive Visit.Within (v : Visit) : List Visit → Prop
  | here {vs : List Visit} : v ∈ vs → Visit.Within v vs
  | deeper {w : Visit} {vs : List Visit} : w ∈ vs → Visit.Within v w.nested → Visit.Within v vs

theorem Visit.Within.mono {v : Visit} {vs ws : List Visit} (h : v.Within vs) (hsub : vs ⊆ ws) :
    v.Within ws := by
  cases h with
  | here hv => exact .here (hsub hv)
  | deeper hw hv => exact .deeper (hsub hw) hv

/-! ## Completions -/

/-- A visit that gave a detail. -/
structure Completion where
  owner : Flag
  flag : Flag
  detail : Detail Json

mutual

/-- The completions of a visit: first those of the visits that it made, then its own. -/
def Visit.completions : Visit → List Completion
  | ⟨owner, _, flag, result, nested⟩ =>
    completionsOf nested ++
      match result with
      | .ok detail => [⟨owner, flag, detail⟩]
      | .error _ => []

/-- **The completions of visits**, in the order in which they are completed. -/
def completionsOf : List Visit → List Completion
  | [] => []
  | v :: rest => v.completions ++ completionsOf rest

end

mutual

/-- A completion comes from a visit, or from one within it. -/
theorem Visit.exists_of_mem_completions {c : Completion} : ∀ {v : Visit}, c ∈ v.completions →
    ∃ w : Visit, (w = v ∨ w.Within v.nested) ∧ w.owner = c.owner ∧ w.flag = c.flag ∧
      w.result = .ok c.detail
  | ⟨owner, entry, flag, .ok detail, nested⟩, h => by
    rw [Visit.completions] at h
    rcases List.mem_append.1 h with h | h
    · obtain ⟨w, hw, hgives⟩ := exists_within_of_mem_completionsOf h
      exact ⟨w, .inr hw, hgives⟩
    · obtain rfl := List.mem_singleton.1 h
      exact ⟨_, .inl rfl, rfl, rfl, rfl⟩
  | ⟨owner, entry, flag, .error fault, nested⟩, h => by
    rw [Visit.completions, List.append_nil] at h
    obtain ⟨w, hw, hgives⟩ := exists_within_of_mem_completionsOf h
    exact ⟨w, .inr hw, hgives⟩

/-- So do the completions of visits. -/
theorem exists_within_of_mem_completionsOf {c : Completion} : ∀ {vs : List Visit},
    c ∈ completionsOf vs → ∃ w : Visit, w.Within vs ∧ w.owner = c.owner ∧ w.flag = c.flag ∧
      w.result = .ok c.detail
  | [], h => absurd h List.not_mem_nil
  | v :: rest, h => by
    rw [completionsOf] at h
    rcases List.mem_append.1 h with h | h
    · obtain ⟨w, rfl | hw, hgives⟩ := v.exists_of_mem_completions h
      · exact ⟨w, .here (List.mem_cons_self ..), hgives⟩
      · exact ⟨w, .deeper (List.mem_cons_self ..) hw, hgives⟩
    · obtain ⟨w, hw, hgives⟩ := exists_within_of_mem_completionsOf h
      exact ⟨w, hw.mono fun _ => List.mem_cons_of_mem v, hgives⟩

end

/-- What is reported of a completion. -/
def Completion.report (factory : EventFactory) (context : Context) (c : Completion) :
    FeatureEvent where
  creationDate := factory.now
  context := context
  key := c.flag.key
  version := some c.flag.version
  variation := c.detail.index
  value := c.detail.value.getD .null
  default := none
  reason :=
    if factory.withReasons || c.flag.forcesTracking c.detail.reason then some c.detail.reason
    else none
  prereqOf := some c.owner.key
  trackEvents := c.flag.trackEvents || c.flag.forcesTracking c.detail.reason
  debugEventsUntilDate := c.flag.debugEventsUntilDate
  samplingRatio := c.flag.samplingRatio
  excludeFromSummaries := c.flag.excludeFromSummaries

theorem Completion.report_eq (c : Completion) (factory : EventFactory) (context : Context) :
    c.report factory context =
      factory.ofEvaluation c.flag context c.detail none (some c.owner.key) := by
  rw [report, EventFactory.ofEvaluation, Option.or_none]

/-- An event without its date and its reason. -/
def FeatureEvent.unexplained (e : FeatureEvent) : FeatureEvent := { e.undated with reason := none }

/-- What is reported of visits; nothing without a way to report. -/
def reportsOf (factory : Option EventFactory) (context : Context) (vs : List Visit) :
    List FeatureEvent :=
  match factory with
  | none => []
  | some factory => (completionsOf vs).map (Completion.report factory context)

/-! ## Reporting -/

section Reports

variable {factory : Option EventFactory} {context : Context}

theorem reportsOf_nil : reportsOf factory context [] = [] := by
  cases factory <;> rfl

/-- The reports of a visit come before those of the next. -/
theorem reportsOf_cons (v : Visit) (vs : List Visit) :
    reportsOf factory context (v :: vs) =
      reportsOf factory context [v] ++ reportsOf factory context vs := by
  cases factory with
  | none => rfl
  | some factory => simp [reportsOf, completionsOf]

/-- A visit that ended in a fault adds no report of its own, only those of the visits within. -/
theorem reportsOf_of_error {v : Visit} {fault : Fault} (h : v.result = .error fault) :
    reportsOf factory context [v] = reportsOf factory context v.nested := by
  obtain ⟨owner, entry, flag, result, nested⟩ := v
  obtain rfl : result = .error fault := h
  cases factory with
  | none => rfl
  | some factory => simp [reportsOf, completionsOf, Visit.completions]

/-- A visit that gave a detail is reported right after the visits that it made. -/
theorem reportsOf_of_ok {v : Visit} {d : Detail Json} (h : v.result = .ok d) :
    reportsOf factory context [v] = reportsOf factory context v.nested ++
      factory.toList.map fun factory =>
        factory.ofEvaluation v.flag context d none (some v.owner.key) := by
  obtain ⟨owner, entry, flag, result, nested⟩ := v
  obtain rfl : result = .ok d := h
  cases factory with
  | none => rfl
  | some factory =>
    simp [reportsOf, completionsOf, Visit.completions, Completion.report_eq]

end Reports

namespace Evaluation

variable {α β : Type}

/-- The same state with other events. -/
def State.withEvents (s : State) (events : List FeatureEvent) : State := { s with events }

/-- `Reporting x y told` — from a state with other events, `y` does what `x` does, and reports
    `told` besides. -/
def Reporting (x y : Evaluation α) (told : State → List FeatureEvent) : Prop :=
  ∀ s events, y.runFrom (s.withEvents events) =
    ((x.runFrom s).1, (x.runFrom s).2.withEvents (events ++ told s))

namespace Reporting

variable {x y : Evaluation α} {f g : α → Evaluation β} {told told' : State → List FeatureEvent}
  {next : α → State → List FeatureEvent}

theorem bind (hxy : Reporting x y told) (hfg : ∀ a, Reporting (f a) (g a) (next a)) :
    Reporting (x >>= f) (y >>= g) (toldInTurn x told next) := by
  intro s events
  rw [runFrom_bind, hxy s events, runFrom_bind, toldInTurn]
  rcases x.runFrom s with ⟨fault | a, t⟩
  · simp only [List.append_nil]
  · simp only
    rw [hfg a t, List.append_assoc]

theorem congr (h : Reporting x y told) (heq : ∀ s, told s = told' s) : Reporting x y told' := by
  intro s events
  rw [h s events, heq s]

/-- A step that reports nothing. -/
theorem quiet (h : ∀ s events, y.runFrom (s.withEvents events) =
    ((x.runFrom s).1, (x.runFrom s).2.withEvents events)) : Reporting x y fun _ => [] := by
  intro s events
  rw [h s events, List.append_nil]

/-- A sequence that reports nothing in its second step. -/
theorem bind_quiet (hxy : Reporting x y told) (hfg : ∀ a, Reporting (f a) (g a) fun _ => []) :
    Reporting (x >>= f) (y >>= g) told := by
  refine (hxy.bind hfg).congr fun s => ?_
  rw [toldInTurn]
  rcases x.runFrom s with ⟨fault | a, t⟩ <;> exact List.append_nil _

end Reporting

/-- Reporting nothing goes through the steps of evaluations. -/
theorem stepwise_quiet : Stepwise fun _ x y => Reporting x y fun _ => [] where
  pure _ := .quiet fun _ _ => rfl
  throw := .quiet fun _ _ => rfl
  note _ := .quiet fun _ _ => rfl
  noteStatus _ := .quiet fun _ _ => rfl
  bind hxy hfg := hxy.bind_quiet hfg

/-- A lookup reports nothing, and no report enters into it. -/
theorem quiet_membership {e e' : Evaluator} (hclock : e'.clock = e.clock) (b : BigSegments)
    (key : String) : Reporting (e.membership b key) (e'.membership b key) fun _ => [] := by
  refine .quiet fun s events => ?_
  cases hget : Entries.get? key s.memberships with
  | some membership =>
    have hget' : Entries.get? key (s.withEvents events).memberships = some membership := hget
    rw [runFrom_membership_of_some hget, runFrom_membership_of_some hget']
  | none =>
    have hget' : Entries.get? key (s.withEvents events).memberships = none := hget
    rw [runFrom_membership_of_none hget, runFrom_membership_of_none hget', hclock]
    rfl

end Evaluation

namespace Evaluator

open Evaluation (Reporting)

variable (e : Evaluator) (context : Context) (factory : Option EventFactory)

/-- Segments report nothing at any level. -/
theorem alike_quiet : Alike (fun _ x y => Reporting x y fun _ => []) .all (e.telling none)
    (e.telling factory) where
  store := .all e.store
  bigSegments := rfl
  membership b _ key := Evaluation.quiet_membership rfl b key

/-- Reporting one prerequisite. -/
theorem reporting_notePrerequisite (f q : Flag) (d : Detail Json) :
    Reporting ((e.telling none).notePrerequisite context f q d)
      ((e.telling factory).notePrerequisite context f q d) fun _ =>
        factory.toList.map fun factory => factory.ofEvaluation q context d none (some f.key) := by
  intro s events
  cases factory with
  | none => exact congrArg (fun told => (_, s.withEvents told)) (List.append_nil events).symm
  | some factory => rfl

variable {e context factory}

/-- **Going through a list of prerequisites reports the visits made there.** -/
theorem reporting_firstUnmet? {check check' : Flag → Evaluation (Detail Json)}
    {nested : Flag → State → List Visit}
    (hcheck : ∀ q, Reporting (check q) (check' q) fun s => reportsOf factory context (nested q s))
    (met : List String) (f : Flag) : ∀ ps : List Prerequisite,
      Reporting ((e.telling none).firstUnmet? context check met f ps)
        ((e.telling factory).firstUnmet? context check' met f ps) fun s =>
          reportsOf factory context (e.visitsAlong check nested met f ps s)
  | [] => (Evaluation.stepwise_quiet.pure none).congr fun s => by rw [visitsAlong, reportsOf_nil]
  | p :: rest => by
    have hstore : ∀ factory, (e.telling factory).store.flag? p.key = e.store.flag? p.key :=
      fun _ => rfl
    rw [firstUnmet?, firstUnmet?, hstore, hstore]
    by_cases hkey : p.key ∈ met
    · rw [if_pos hkey, if_pos hkey]
      refine (Evaluation.stepwise_quiet.stop _).congr fun s => ?_
      rw [visitsAlong, if_pos hkey, reportsOf_nil]
    · rw [if_neg hkey, if_neg hkey]
      cases hq : e.store.flag? p.key with
      | none =>
        refine (Evaluation.stepwise_quiet.stop _).congr fun s => ?_
        rw [visitsAlong, if_neg hkey, hq]
        exact reportsOf_nil.symm
      | some q =>
        -- what is reported once the visit to the prerequisite gave a detail
        let decided (d : Detail Json) (t : State) : List FeatureEvent :=
          if Prerequisite.metBy p q d then
            reportsOf factory context (e.visitsAlong check nested met f rest t)
          else []
        have hdecide : ∀ d, Reporting
            (if Prerequisite.metBy p q d then (e.telling none).firstUnmet? context check met f rest
              else pure (some p.key))
            (if Prerequisite.metBy p q d then
                (e.telling factory).firstUnmet? context check' met f rest
              else pure (some p.key)) (decided d) := by
          intro d
          cases hmet : Prerequisite.metBy p q d with
          | true =>
            exact (reporting_firstUnmet? hcheck met f rest).congr fun t => (if_pos hmet).symm
          | false =>
            exact (Evaluation.stepwise_quiet.pure (some p.key)).congr fun t =>
              (if_neg (Bool.eq_false_iff.1 hmet)).symm
        have hnext := fun d =>
          (reporting_notePrerequisite e context factory f q d).bind fun _ => hdecide d
        refine ((hcheck q).bind hnext).congr fun s => ?_
        rw [Evaluation.toldInTurn, visitsAlong, if_neg hkey, hq, reportsOf_cons]
        rcases (check q).runFrom s with ⟨fault | d, t⟩
        · rw [reportsOf_of_error rfl, reportsOf_nil]
        · rw [reportsOf_of_ok rfl, List.append_assoc]
          refine congrArg (reportsOf factory context (nested q s) ++ ·) ?_
          refine congrArg (_ ++ ·) ?_
          show decided d t = _
          simp only [decided, apply_ite (reportsOf factory context), reportsOf_nil]

/-- **Reporting makes no difference**: an evaluator that reports does what it does in silence, and
    reports the visits. -/
theorem reporting_check (e : Evaluator) (context : Context) (factory : Option EventFactory)
    (depth : Nat) (met : List String) (f : Flag) :
    Reporting ((e.telling none).check context depth met f)
      ((e.telling factory).check context depth met f) fun s =>
        reportsOf factory context (e.visits context depth met f s) := by
  cases hon : f.on with
  | false =>
    rw [check_of_off _ _ _ _ hon, check_of_off _ _ _ _ hon]
    refine (Evaluation.stepwise_quiet.serveOff f .off).congr fun s => ?_
    rw [visits_of_off e context met s hon, reportsOf_nil]
  | true =>
    cases depth with
    | zero =>
      -- too deep: a fault, and no visit
      rw [check, check, hon]
      exact (Evaluation.stepwise_quiet.stop _).congr fun s => reportsOf_nil.symm
    | succ depth =>
      -- what the prerequisites report comes from their own checks, one level down
      have hbelow := fun q => reporting_check e context factory depth (f.key :: met) q
      have hfirst := reporting_firstUnmet? (e := e) hbelow (f.key :: met) f f.prerequisites
      rw [check, check, hon]
      refine (hfirst.bind_quiet fun unmet => ?_).congr fun s => by rw [visits_of_on _ _ _ _ hon]
      cases unmet with
      | some key => exact Evaluation.stepwise_quiet.serveOff f _
      | none =>
        refine Evaluation.stepwise_quiet.serveOn (.refl f context) fun r hr c hc name hname => ?_
        exact Evaluation.stepwise_quiet.inSegment (alike_quiet e factory)
          (.refl _ _ context) [] name trivial

/-! ## The course of an evaluation -/

/-- Visits in silence, one prerequisite at a time. -/
theorem course_firstUnmet? (check : Flag → Evaluation (Detail Json))
    (nested : Flag → State → List Visit) (met : List String) (f : Flag) :
    ∀ (ps : List Prerequisite) (s : State),
      Course e.store f ps (e.visitsAlong check nested met f ps s)
        (((e.telling none).firstUnmet? context check met f ps).runFrom s).1
  | [], s => .done
  | p :: rest, s => by
    have hstore : (e.telling none).store.flag? p.key = e.store.flag? p.key := rfl
    rw [firstUnmet?, visitsAlong, hstore]
    by_cases hkey : p.key ∈ met
    · rw [if_pos hkey, if_pos hkey]
      exact .blocked
    · rw [if_neg hkey, if_neg hkey]
      cases hq : e.store.flag? p.key with
      | none => exact .blocked
      | some q =>
        have hof : ∀ result, Visit.Of e.store f ⟨f, p, q, result, nested q s⟩ := fun _ => ⟨rfl, hq⟩
        rcases hrun : (check q).runFrom s with ⟨fault | d, t⟩
        · simp only [Evaluation.runFrom_bind_of_error hrun, hrun]
          exact .faulty (hof (.error fault)) rfl
        · -- the visit gave a detail; in silence, nothing stands between it and the next
          -- prerequisite
          have hsilent : (e.telling none).notePrerequisite context f q d = pure () := rfl
          simp only [Evaluation.runFrom_bind_of_ok hrun, hrun, hsilent, pure_bind]
          cases hmet : Prerequisite.metBy p q d with
          | true =>
            obtain ⟨hon, hindex⟩ := metBy_eq_true_iff.1 hmet
            have hsatisfied : Visit.Satisfied ⟨f, p, q, .ok d, nested q s⟩ :=
              ⟨hon, d, rfl, hindex⟩
            exact .satisfied (hof (.ok d)) hsatisfied (course_firstUnmet? check nested met f rest t)
          | false =>
            have hfailed : Visit.Failed ⟨f, p, q, .ok d, nested q s⟩ :=
              ⟨d, rfl, metBy_eq_false_iff.1 hmet⟩
            exact .failed (hof (.ok d)) hfailed

/-- **How an evaluation goes through its prerequisites**, wherever it stands. -/
theorem goesThrough_check (depth : Nat) (met : List String) (f : Flag) (s : State) :
    GoesThrough e.store f (((e.telling none).check context depth met f).runFrom s).1
      (e.visits context depth met f s) := by
  cases hon : f.on with
  | false =>
    rw [check_of_off _ _ _ _ hon, visits_of_off e context met s hon]
    refine .off hon fun d hd => ?_
    obtain ⟨-, hreason, -⟩ := Flag.serveOff_eq_ok (Prod.ext hd rfl)
    rw [hreason]
    rfl
  | true =>
    cases depth with
    | zero =>
      rw [check, hon]
      exact .tooDeep hon
    | succ depth =>
      let silent := (e.telling none).check context depth (f.key :: met)
      have hcourse : Course e.store f f.prerequisites _
          (((e.telling none).firstUnmet? context silent
            (f.key :: met) f f.prerequisites).runFrom s).1 :=
        course_firstUnmet? silent (e.visits context depth (f.key :: met)) (f.key :: met) f
          f.prerequisites s
      rw [check, hon, visits_of_on _ _ _ _ hon]
      simp only [Bool.not_true, Bool.false_eq_true, ↓reduceIte]
      rw [Evaluation.runFrom_bind]
      -- what the search for an unmet prerequisite ended with decides how the check ends
      generalize ((e.telling none).firstUnmet? context _ _ f f.prerequisites).runFrom s = run
        at hcourse ⊢
      rcases run with ⟨fault | unmet, t⟩
      · exact .faulty hon hcourse
      · simp only
        cases unmet with
        | some key =>
          refine .unmet hon hcourse fun d hd => ?_
          obtain ⟨-, hreason, -⟩ := Flag.serveOff_eq_ok (Prod.ext hd rfl)
          rw [hreason]
          rfl
        | none =>
          -- all are met, so whatever is served is served by a flag that means on
          refine .met hon hcourse fun d hd => ?_
          obtain ⟨index, cause, hreason, -, hwhy⟩ := justifies_of_serveOn (Prod.ext hd rfl)
          rw [hreason]
          exact hwhy.meansOn

/-- Visits along a list are evaluations of the flags visited, each from some state. -/
theorem eq_of_mem_visitsAlong {check : Flag → Evaluation (Detail Json)}
    {nested : Flag → State → List Visit} {met : List String} {f : Flag} {v : Visit} :
    ∀ {ps : List Prerequisite} {s : State}, v ∈ e.visitsAlong check nested met f ps s →
      ∃ t, v.result = ((check v.flag).runFrom t).1 ∧ v.nested = nested v.flag t
  | [], _, h => absurd h List.not_mem_nil
  | p :: rest, s, h => by
    rw [visitsAlong] at h
    split at h
    · exact absurd h List.not_mem_nil
    · split at h
      · exact absurd h List.not_mem_nil
      · rcases List.mem_cons.1 h with rfl | h
        · exact ⟨s, rfl, rfl⟩
        · split at h
          · next t _ =>
            split at h
            · exact eq_of_mem_visitsAlong h
            · exact absurd h List.not_mem_nil
          · exact absurd h List.not_mem_nil

/-- **A visit** that the evaluation of a flag makes is an evaluation of the flag visited, and has
    made the visits of that. -/
theorem exists_of_mem_visits {v : Visit} {depth : Nat} {met : List String} {f : Flag} {s : State}
    (h : v ∈ e.visits context depth met f s) : ∃ depth' met' t,
      v.result = (((e.telling none).check context depth' met' v.flag).runFrom t).1 ∧
      v.nested = e.visits context depth' met' v.flag t := by
  cases depth with
  | zero => exact absurd h List.not_mem_nil
  | succ depth =>
    rw [visits] at h
    split at h
    · obtain ⟨t, hresult, hnested⟩ := eq_of_mem_visitsAlong h
      exact ⟨depth, f.key :: met, t, hresult, hnested⟩
    · exact absurd h List.not_mem_nil

/-- So it is with the visits within these, each of which goes through its own prerequisites. -/
theorem goesThrough_of_within {v : Visit} {vs : List Visit} (h : v.Within vs) {depth : Nat}
    {met : List String} {f : Flag} {s : State} (hvs : vs = e.visits context depth met f s) :
    ∃ depth' met' t,
      v.result = (((e.telling none).check context depth' met' v.flag).runFrom t).1 ∧
      v.nested = e.visits context depth' met' v.flag t ∧
      GoesThrough e.store v.flag v.result v.nested := by
  induction h generalizing depth met f s with
  | here hv =>
    subst hvs
    obtain ⟨depth', met', t, hresult, hnested⟩ := exists_of_mem_visits hv
    refine ⟨depth', met', t, hresult, hnested, ?_⟩
    rw [hresult, hnested]
    exact goesThrough_check depth' met' v.flag t
  | deeper hw _ ih =>
    subst hvs
    obtain ⟨_, _, _, -, hnested⟩ := exists_of_mem_visits hw
    exact ih hnested

/-! ## Main result -/

/-- An evaluator that reports ends as it does in silence, but for the reports. -/
theorem evaluate_telling (e : Evaluator) (factory : Option EventFactory)
    (cache : BigSegments.Cache) (f : Flag) (context : Context) :
    (e.telling factory).evaluate cache f context =
      { (e.telling none).evaluate cache f context with
        prerequisiteEvents :=
          reportsOf factory context (e.visits context maxDepth [] f (.start cache)) } := by
  have hrun := reporting_check e context factory maxDepth [] f (.start cache) []
  have hstart : (State.start cache).withEvents [] = .start cache := rfl
  rw [hstart, List.nil_append] at hrun
  rw [evaluate, evaluate, hrun]
  rcases ((e.telling none).check context maxDepth [] f).runFrom (.start cache) with ⟨fault | d, t⟩
  · rfl
  · rfl

/-- Ways to report differ in dates and reasons only. -/
theorem unexplained_telling (e : Evaluator) (cache : BigSegments.Cache) (f : Flag)
    (context : Context) (factory factory' : EventFactory) :
    ((e.telling (some factory')).evaluate cache f context).prerequisiteEvents.map
        FeatureEvent.unexplained =
      ((e.telling (some factory)).evaluate cache f context).prerequisiteEvents.map
        FeatureEvent.unexplained := by
  have hevents : ∀ factory,
      ((e.telling (some factory)).evaluate cache f context).prerequisiteEvents =
      (completionsOf (e.visits context maxDepth [] f (.start cache))).map
        (Completion.report factory context) := fun factory =>
    congrArg Outcome.prerequisiteEvents (evaluate_telling e (some factory) cache f context)
  rw [hevents, hevents, List.map_map, List.map_map]
  rfl

/-- **Reports stand in post-order.**  The outcome is the same with and without reports, these aside.
    Without a way to report there are none; with one, each visit that gave a detail is reported
    once, behind those that it made itself.  Visits are evaluations of the flags visited.  They
    follow the prerequisites of the flag that makes them up to the first one that is not met or
    leads to a fault: a flag that serves by its targets, rules or fallthrough has made them all, and
    one that reports a failed prerequisite has made that visit last.  Ways to report differ in dates
    and reasons only. -/
theorem evaluate_postorder (e : Evaluator) (cache : BigSegments.Cache) (f : Flag)
    (context : Context) :
    let visits := e.visits context maxDepth [] f (.start cache)
    let outcome := (e.telling none).evaluate cache f context
    outcome.prerequisiteEvents = [] ∧
    (∀ factory, (e.telling (some factory)).evaluate cache f context =
      { outcome with
        prerequisiteEvents := (completionsOf visits).map (Completion.report factory context) }) ∧
    (∀ v : Visit, v.Within visits → ∃ depth met s,
      v.result = (((e.telling none).check context depth met v.flag).runFrom s).1 ∧
      v.nested = e.visits context depth met v.flag s ∧
      GoesThrough e.store v.flag v.result v.nested) ∧
    GoesThrough e.store f
      (((e.telling none).check context maxDepth [] f).runFrom (.start cache)).1 visits ∧
    visits.map (·.entry) <+: f.prerequisites ∧
    (outcome.detail.reason.cause.MeansOn →
      visits.map (·.entry) = f.prerequisites ∧ ∀ v ∈ visits, v.Satisfied) ∧
    (∀ key, outcome.detail.reason.cause = .prerequisiteFailed key →
      ∃ before v, visits = before ++ [v] ∧ v.entry.key = key ∧ v.Failed ∧
        ∀ w ∈ before, w.Satisfied) ∧
    (∀ factory factory',
      ((e.telling (some factory')).evaluate cache f context).prerequisiteEvents.map
          FeatureEvent.unexplained =
        ((e.telling (some factory)).evaluate cache f context).prerequisiteEvents.map
          FeatureEvent.unexplained) := by
  intro visits outcome
  have hthrough : GoesThrough e.store f
      (((e.telling none).check context maxDepth [] f).runFrom (.start cache)).1 visits :=
    goesThrough_check maxDepth [] f (.start cache)
  refine ⟨congrArg Outcome.prerequisiteEvents (evaluate_telling e none cache f context),
    fun factory => evaluate_telling e (some factory) cache f context,
    fun v hv => goesThrough_of_within hv rfl, hthrough, hthrough.entries_prefix, ?_⟩
  have hreports := unexplained_telling e cache f context
  -- a reason other than a fault is that of the detail given
  rcases hrun : ((e.telling none).check context maxDepth [] f).runFrom (.start cache)
    with ⟨fault | d, t⟩
  · have hcause : outcome.detail.reason.cause = .error fault :=
      congrArg (·.reason.cause) (detail_evaluate_of_error hrun)
    rw [hcause]
    exact ⟨fun hon => hon.elim, (fun key hfailed => nomatch hfailed), hreports⟩
  · have hcause : outcome.detail.reason.cause = d.reason.cause :=
      congrArg (·.reason.cause) (detail_evaluate_of_ok hrun)
    rw [hrun] at hthrough
    rw [hcause]
    exact ⟨hthrough.of_meansOn, fun key => hthrough.of_prerequisiteFailed, hreports⟩

/-- A flag of two prerequisites, of which the second one requires the first one: both are visited,
    the first one twice, and below the second one before it. -/
theorem evaluate_postorder_stackedFlag :
    let context : Context := .single ⟨Kind.user, "a", none, false, none, [], []⟩
    let visits := stackedEvaluator.visits context maxDepth [] stackedFlag
      (.start (.ofSettings .standard))
    (visits.map (·.entry) = stackedFlag.prerequisites ∧ ∀ v ∈ visits, v.Satisfied) ∧
    (completionsOf visits).map (fun c => (c.flag.key, c.owner.key)) =
      [("base", "top"), ("base", "middle"), ("middle", "top")] := by
  intro context visits
  obtain ⟨-, -, -, -, -, hmeansOn, -⟩ :=
    evaluate_postorder stackedEvaluator (.ofSettings .standard) stackedFlag context
  exact ⟨hmeansOn trivial, rfl⟩

end Evaluator

end FeatureFlags
