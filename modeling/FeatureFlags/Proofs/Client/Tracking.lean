/-
  TRACKING — experiments reach the events.

  1. **Forcing (`Flag.Forces`)** — the reasons of a flag that must be reported in full: those in an
     experiment, and those that name a rule or a fallthrough which tracks its events.
  2. **What is tracked (`FeatureEvent.Tracks`)** — an event has the variation of the detail that it
     is made from, is sent in full if and only if the flag says so or the reason forces it, and
     carries a reason that forces it.  So do all events that are made from evaluations.
  3. **Main result** (`events_track_experiments`) — the events of prerequisites, and those of a
     client, track what they are made from; and whether that is in an experiment is explained by the
     evaluation.
-/
import FeatureFlags.Proofs.Client.Recording
import FeatureFlags.Proofs.Evaluation.Experiment

namespace FeatureFlags

/-! ## Forcing -/

/-- **The reasons of a flag that are reported in full**, whatever the flag says. -/
inductive Flag.Forces (f : Flag) (r : Reason) : Prop
  | experiment : r.inExperiment = true → Flag.Forces f r
  /-- The rule that is named tracks its events. -/
  | rule {i : UInt64} {id : Option String} {inExperiment : Bool} {rule : FlagRule} :
    r.cause = .ruleMatch i id inExperiment → f.rules[i.toNat]? = some rule →
    rule.trackEvents = true →
    Flag.Forces f r
  | fallthrough {inExperiment : Bool} : r.cause = .fallthrough inExperiment →
    f.trackEventsFallthrough = true → Flag.Forces f r

/-- The program's test for what an experiment or a tracked rule asks for. -/
theorem Flag.forcesTracking_eq_true_iff {f : Flag} {r : Reason} :
    f.forcesTracking r = true ↔ f.Forces r := by
  rw [forcesTracking, Bool.or_eq_true]
  constructor
  · rintro (hin | hcause)
    · exact .experiment hin
    · -- of the causes, only the fallthrough and a rule have a mark of their own
      split at hcause
      · next heq => exact .fallthrough heq hcause
      · next heq =>
        obtain ⟨rule, hrule, htracks⟩ := (Option.any_eq_true _ _).1 hcause
        exact .rule heq hrule htracks
      · cases hcause
  · rintro (hin | ⟨hcause, hrule, htracks⟩ | ⟨hcause, htracks⟩)
    · exact .inl hin
    · simp only [hcause, hrule, Option.any_some, htracks, or_true]
    · simp only [hcause, htracks, or_true]

/-! ## What is tracked -/

/-- **An event that tracks what a flag gave.** -/
structure FeatureEvent.Tracks (event : FeatureEvent) (f : Flag) (d : Detail Json) : Prop where
  key : event.key = f.key
  version : event.version = some f.version
  variation : event.variation = d.index
  inFull : event.trackEvents = true ↔ f.trackEvents = true ∨ f.Forces d.reason
  explained : f.Forces d.reason → event.reason = some d.reason

/-- Every factory reports what the flag and its detail ask for. -/
theorem EventFactory.tracks_ofEvaluation (factory : EventFactory) (f : Flag) (context : Context)
    (d : Detail Json) (default : Option Json) (prereqOf : Option String) :
    (factory.ofEvaluation f context d default prereqOf).Tracks f d where
  key := rfl
  version := rfl
  variation := rfl
  inFull := by rw [ofEvaluation, Bool.or_eq_true, Flag.forcesTracking_eq_true_iff]
  explained hforces := by
    have hforced := Flag.forcesTracking_eq_true_iff.2 hforces
    simp only [ofEvaluation, hforced, Bool.or_true, ↓reduceIte]

theorem Completion.tracks_report (c : Completion) (factory : EventFactory) (context : Context) :
    (c.report factory context).Tracks c.flag c.detail := by
  rw [report_eq]
  exact factory.tracks_ofEvaluation ..

/-! ## Main result -/

namespace Evaluator

/-- The events that an evaluation reports are made from completions. -/
theorem exists_completion_of_mem_prerequisiteEvents {e : Evaluator} {cache : BigSegments.Cache}
    {f : Flag} {context : Context} {event : FeatureEvent}
    (h : event ∈ (e.evaluate cache f context).prerequisiteEvents) :
    ∃ c ∈ completionsOf (e.visits context maxDepth [] f (.start cache)),
      event.Tracks c.flag c.detail := by
  have hevents := congrArg Outcome.prerequisiteEvents (evaluate_telling e e.factory cache f context)
  rw [show e.telling e.factory = e from rfl] at hevents
  rw [hevents] at h
  cases hfactory : e.factory with
  | none =>
    rw [hfactory] at h
    exact absurd h List.not_mem_nil
  | some factory =>
    rw [hfactory] at h
    obtain ⟨c, hc, rfl⟩ := List.mem_map.1 h
    exact ⟨c, hc, c.tracks_report factory context⟩

end Evaluator

namespace Client

/-- **How the answer about a flag is recorded**: the last event tracks what was answered, and that
    is explained by the evaluation, also where a default stands in its place. -/
theorem tracks_ask {c : Client} {r : Request} {f : Flag} (hready : c.Ready)
    (hf : c.store.flag? r.key = some f) :
    let e := c.evaluator (some (c.factoryFor r))
    ∃ before event, (c.ask r).1.events = before ++ [event] ∧
      (before = [] ∨ before = (c.outcomeOf r f).prerequisiteEvents) ∧
      event.Tracks f (c.ask r).1.detail ∧
      e.Explains r.context f (e.finalState c.cache f r.context) (c.ask r).1.detail := by
  intro e
  rw [fst_ask, answer_of_flag hready hf]
  cases hexpected : r.expects (servedValue r (c.outcomeOf r f).detail) with
  | false =>
    -- the event of a wrong type says of the experiment what the evaluation said
    obtain ⟨hdetail, hevents⟩ := answerFlag_of_unexpected hexpected
    rw [hdetail, hevents]
    exact ⟨[], _, rfl, .inl rfl, EventFactory.tracks_ofEvaluation .., .of_not_namesServing id⟩
  | true =>
    obtain ⟨hdetail, hevents⟩ := answerFlag_of_expected hexpected
    rw [hdetail, hevents]
    refine ⟨_, _, rfl, .inr rfl, EventFactory.tracks_ofEvaluation .., ?_⟩
    rw [settled_eq]
    exact (Evaluator.explains_evaluate e c.cache f r.context).congr rfl rfl

end Client

/-- **Experiments reach the events.**  The reason of an evaluation is in an experiment if and only
    if the rule or the fallthrough that decided enrolls the context with the index that was given.
    The events of prerequisites track what the prerequisites gave, of which the same is true; and
    the last event of an answer about a flag tracks the answer, behind the events of the
    prerequisites if there are any. -/
theorem events_track_experiments :
    (∀ (e : Evaluator) (cache : BigSegments.Cache) (f : Flag) (context : Context),
      e.Explains context f (e.finalState cache f context) (e.evaluate cache f context).detail ∧
      ∀ event ∈ (e.evaluate cache f context).prerequisiteEvents,
        ∃ c ∈ completionsOf (e.visits context maxDepth [] f (.start cache)),
          event.Tracks c.flag c.detail ∧ ∃ depth met s t,
            ((e.telling none).check context depth met c.flag).runFrom s = (.ok c.detail, t) ∧
            (e.telling none).Explains context c.flag t c.detail) ∧
    ∀ (c : Client) (r : Client.Request) (f : Flag), c.Ready → c.store.flag? r.key = some f →
      let e := c.evaluator (some (c.factoryFor r))
      ∃ before event, (c.ask r).1.events = before ++ [event] ∧
        (before = [] ∨ before = (c.outcomeOf r f).prerequisiteEvents) ∧
        event.Tracks f (c.ask r).1.detail ∧
        e.Explains r.context f (e.finalState c.cache f r.context) (c.ask r).1.detail := by
  refine ⟨fun e cache f context => ⟨Evaluator.explains_evaluate e cache f context,
    fun event hevent => ?_⟩,
    fun c r f hready hf => Client.tracks_ask hready hf⟩
  obtain ⟨c, hc, htracks⟩ := Evaluator.exists_completion_of_mem_prerequisiteEvents hevent
  exact ⟨c, hc, htracks, Evaluator.explains_of_mem_completionsOf hc⟩

/-- A flag whose fallthrough is an experiment with two variations. -/
def Client.experimentFlag : Flag :=
  { Flag.ofKey "color" with
    on := true
    fallthrough :=
      ⟨none, some ⟨.experiment, none, none, none, [⟨0, 50000, false⟩, ⟨1, 50000, false⟩]⟩⟩
    variations := [.bool false, .bool true] }

/-- A client that knows this flag. -/
def Client.experimentClient : Client :=
  { stackedClient with store := .ofData [("color", experimentFlag)] [] }

/-- A user is enrolled, and the event is sent in full with its reason, though nobody asked for
    reasons. -/
theorem events_track_experiments_color :
    let c := Client.experimentClient
    let f := Client.experimentFlag
    let context : Context := .single ⟨Kind.user, "a", none, false, none, [], []⟩
    let r := Client.requestOf .bool context "color" false false
    let a := (c.ask r).1
    c.Ready ∧ c.store.flag? r.key = some f ∧
    ∃ event index, a.events = [event] ∧ event.trackEvents = true ∧
      event.reason = some a.detail.reason ∧
      event.variation = some index ∧ f.fallthrough.Enrolls f context index := by
  intro c f context r a
  have hready : c.Ready := ⟨rfl, rfl⟩
  have hflag : c.store.flag? r.key = some f := rfl
  have hin : a.detail.reason.inExperiment = true := by decide +kernel
  have hnone : (c.outcomeOf r f).prerequisiteEvents = [] := by decide +kernel
  obtain ⟨before, event, hevents, hbefore, htracks, hexplains⟩ :
      ∃ before event, a.events = before ++ [event] ∧ _ ∧ event.Tracks f a.detail ∧
        Evaluator.Explains _ context f _ a.detail :=
    events_track_experiments.2 c r f hready hflag
  rw [hnone, or_self] at hbefore
  subst hbefore
  clear_value a
  have hforces : f.Forces a.detail.reason := .experiment hin
  obtain ⟨serving, cause, -, index, hdecides, -, hindex, henrolls⟩ := hexplains.inExperiment.1 hin
  refine ⟨hready, hflag, event, index, hevents, htracks.inFull.2 (.inr hforces),
    htracks.explained hforces, htracks.variation.trans hindex, ?_⟩
  cases hdecides with
  | rule _ hrules => exact absurd hrules (by simp [f, Client.experimentFlag, Flag.ofKey])
  | fallthrough => exact henrolls

end FeatureFlags
