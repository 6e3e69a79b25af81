/-
  MIGRATIONS — the stage that a client gives, and the record of the operation that it is asked for.

  The stage is the value of a flag as JSON, if that is the name of a stage.  The tracker begins with
  the evaluation that decided it, and ends in an event or in a fault by what is told to it
  (`Tracker.Reports`).

  1. **Stages by name** (`stageOf?_eq_some_iff`).
  2. **The flag behind an answer** (`flag_answer`).
  3. **Main result** (`migration_tracked`) — for every client, and any calls to the tracker.
-/
import FeatureFlags.Proofs.Client.Typed
import FeatureFlags.Proofs.Migration.Tracker

namespace FeatureFlags

open Migration (Stage Tracker Call)

/-! ## Stages by name -/

/-- Each stage has a name of its own. -/
theorem Migration.Stage.ofName_eq_ok_iff {name : String} {stage : Stage} :
    Stage.ofName name = .ok stage ↔ name = stage.name := by
  constructor
  · intro h
    rw [Stage.ofName] at h
    split at h
    · next found hfound =>
      cases h
      have hname := List.find?_some hfound
      exact (of_decide_eq_true hname).symm
    · cases h
  · rintro rfl
    exact Stage.ofName_name stage

namespace Client

/-- **The stage of a detail** is the one that its value names. -/
theorem stageOf?_eq_some_iff {d : Detail Json} {stage : Stage} :
    stageOf? d = some stage ↔ d.value = some (.text stage.name) := by
  have hname : ∀ name, (Stage.ofName name).toOption = some stage ↔
      name = stage.name := fun name => by
    rw [← Stage.ofName_eq_ok_iff]
    cases Stage.ofName name <;> simp [Except.toOption]
  rw [stageOf?, Option.bind_eq_some_iff]
  simp only [hname, exists_eq_right, Option.bind_eq_some_iff, Document.text?_eq_some]

/-! ## The flag behind an answer -/

/-- The flag that a client with data finds. -/
def known? (c : Client) (key : String) : Option Flag :=
  if c.offline || !c.store.initialized then none else c.store.flag? key

theorem flag_answer (c : Client) (r : Request) : (c.answer r).flag = c.known? r.key := by
  rw [answer, known?]
  cases c.offline with
  | true => rfl
  | false =>
    cases c.store.initialized with
    | false => rfl
    | true => cases c.store.flag? r.key <;> rfl

/-! ## Main result -/

/-- **A stage and a tracker that were given for a detail**: a value that is the name of a stage
    gives that stage, with the reason and the variation of the detail, and any other value the
    default, for being of the wrong type.  The rest of the tracker is from the flag, and nothing is
    recorded yet. -/
structure Staged (c : Client) (context : Context) (key : String) (default : Stage) (d : Detail Json)
    (stage : Stage) (tracker : Tracker) : Prop where
  /-- The detail is one that the request for the stage can get. -/
  reported : ∃ events, c.Reported (stageRequest context key default) d events
  value : d.value.isSome
  stage : tracker.stage = stage
  named : ∀ s, d.value = some (.text s.name) → tracker = .start context
    ⟨key, s, default, d.reason, d.index, (c.known? key).map (·.version)⟩
    ((c.known? key).bind fun f => f.migration.bind (·.checkRatio))
      ((c.known? key).bind (·.samplingRatio))
  unnamed : (∀ s : Stage, d.value ≠ some (.text s.name)) → tracker = .start context
    ⟨key, default, default, .ofFault .wrongType, none, (c.known? key).map (·.version)⟩
    ((c.known? key).bind fun f => f.migration.bind (·.checkRatio))
      ((c.known? key).bind (·.samplingRatio))

/-- The request for a stage gets what the request for its value as JSON gets. -/
theorem exists_stage_detail (c : Client) (context : Context) (key : String) (default : Stage) :
    ∃ j index reason, (c.answer (stageRequest context key default)).detail =
      ⟨some j, index, reason⟩ ∧
      (c.variationDetail .json context key (.text default.name)).1 = ⟨some j, index, reason⟩ := by
  obtain ⟨j, index, reason, -, hdetail⟩ := exists_detail c context key (.text default.name)
  exact ⟨j, index, reason, hdetail _ rfl rfl rfl rfl,
    typedDetail_of_reads (hdetail (requestOf .json context key _ true) rfl rfl rfl rfl) rfl⟩

/-- **The stage that is given, and the tracker that is given with it.** -/
theorem staged_migrationVariation (c : Client) (context : Context) (key : String)
    (default : Stage) :
    c.Staged context key default (c.variationDetail .json context key (.text default.name)).1
      (c.migrationVariation context key default).1.1
        (c.migrationVariation context key default).1.2 := by
  obtain ⟨j, index, reason, hdetail, hjson⟩ := exists_stage_detail c context key default
  have hflag : (c.answer (stageRequest context key default)).flag = c.known? key := flag_answer c _
  have hreported := (reported_answer c (stageRequest context key default)).1
  rw [hdetail] at hreported
  rw [migrationVariation_eq, fst_ask, hjson, trackerFor, hdetail, hflag]
  cases hstage : stageOf? (⟨some j, index, reason⟩ : Detail Json) with
  | some s =>
    -- the flag names a stage
    have hvalue := stageOf?_eq_some_iff.1 hstage
    refine ⟨⟨_, hreported⟩, rfl, rfl, fun other hother => ?_, fun hnone => absurd hvalue (hnone s)⟩
    cases hstage.symm.trans (stageOf?_eq_some_iff.2 hother)
    rfl
  | none =>
    -- it names none: the default it is
    refine ⟨⟨_, hreported⟩, rfl, rfl, fun s hvalue => ?_, fun _ => rfl⟩
    cases hstage.symm.trans (stageOf?_eq_some_iff.2 hvalue)

/-- A tracker that was given with a stage has nothing recorded before it takes calls. -/
theorem Staged.takeAll_eq {c : Client} {context : Context} {key : String} {default : Stage}
    {d : Detail Json} {stage : Stage} {tracker : Tracker}
    (h : c.Staged context key default d stage tracker) (calls : List Call) :
    tracker.takeAll calls = tracker.holding calls := by
  by_cases hnamed : ∃ s : Stage, d.value = some (.text s.name)
  · obtain ⟨s, hvalue⟩ := hnamed
    rw [h.named s hvalue]
    exact Tracker.takeAll_start ..
  · rw [h.unnamed fun s hvalue => hnamed ⟨s, hvalue⟩]
    exact Tracker.takeAll_start ..

/-- **Migrations, from the flag to the event.**  Whatever the state of a client, the stage that it
    gives is the value of the flag as JSON, if that names a stage, and else the default, for being
    of the wrong type; the tracker has that stage.  Any calls to the tracker give an event just if
    they make sense, which tells what they told, and else the fault that is wrong with them.  Where
    calls about the same matter are made in the same order, the others can be made in any. -/
theorem migration_tracked (c : Client) (context : Context) (key : String) (default : Stage) :
    let d := (c.variationDetail .json context key (.text default.name)).1
    let given := (c.migrationVariation context key default).1
    c.Staged context key default d given.1 given.2 ∧
    (∀ calls now, given.2.Reports calls now) ∧
    ∀ calls calls' : List Call,
      (∀ matter, calls.filter (·.matter = matter) = calls'.filter (·.matter = matter)) →
      ∀ now, (given.2.takeAll calls).build now = (given.2.takeAll calls').build now := by
  intro d given
  have hstaged : c.Staged context key default d given.1 given.2 :=
    staged_migrationVariation c context key default
  refine ⟨hstaged, fun calls now => Tracker.reports_of_takeAll (hstaged.takeAll_eq calls) now,
    fun calls calls' h now => ?_⟩
  rw [hstaged.takeAll_eq calls, hstaged.takeAll_eq calls', Tracker.holding_eq_of_matter h]

/-- A flag for a migration that is live. -/
def movingFlag : Flag :=
  { Evaluator.plainFlag "move" [] with
    variations := [.text "off", .text "live"]
    migration := some ⟨some 1⟩ }

/-- A client that knows the flag. -/
def movingClient : Client := { stackedClient with store := .ofData [("move", movingFlag)] [] }

/-- A read of both origins, told in two ways: the last latency counts. -/
theorem migration_tracked_movingClient :
    let context : Context := .single ⟨Kind.user, "a", none, false, none, [], []⟩
    let given := (movingClient.migrationVariation context "move" .shadow).1
    let first : List Call := [.operation .read, .invoked .old, .invoked .new, .latency .old ⟨0, 5⟩,
      .latency .old ⟨1, 0⟩, .consistency false true]
    let second : List Call := [.latency .old ⟨0, 5⟩, .consistency false true, .invoked .new,
      .latency .old ⟨1, 0⟩, .invoked .old, .operation .read]
    (∀ matter, first.filter (·.matter = matter) = second.filter (·.matter = matter)) ∧
    given.1 = .live ∧
    ∃ event, (given.2.takeAll first).build 0 = .ok event ∧
      (given.2.takeAll second).build 0 = .ok event ∧
      event.operation = .read ∧ event.evaluation.value = .live ∧ event.measurements.length = 3 := by
  intro context given first second
  obtain ⟨hstaged, hreports, horder⟩ := migration_tracked movingClient context "move" .shadow
  -- the second order moves calls about different matters only
  have hsame : ∀ matter, first.filter (·.matter = matter) = second.filter (·.matter = matter) := by
    rintro (_ | (_ | _) | (_ | _) | (_ | _) | _) <;> rfl
  have hlive : given.1 = .live := by decide +kernel
  have hratio : given.2.checkRatio = some 1 := by decide +kernel
  have hall : ∀ origin, Call.invoked origin ∈ first := by
    rintro (_ | _) <;> decide
  have hsound : Migration.Sound given.2.checkRatio first :=
    ⟨⟨.read, by decide⟩, ⟨.old, hall .old⟩, fun origin _ _ => hall origin,
      fun origin _ => hall origin, fun _ _ _ _ => hall⟩
  obtain ⟨event, hevent⟩ := (hreports first 0).succeeds.2 hsound
  have htells := (hreports first 0).tells event hevent
  have hoperation : some Migration.Operation.read = some event.operation := htells.operation
  refine ⟨hsame, hlive, event, hevent, (horder first second hsame 0).symm.trans hevent,
    (Option.some.inj hoperation).symm, ?_, ?_⟩
  · rw [htells.evaluation]
    exact hstaged.stage.trans hlive
  · rw [htells.measurements, hratio]
    rfl

end Client

end FeatureFlags
