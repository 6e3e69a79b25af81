/-
  HOOKS ARE ISOLATED — they run around an answer and change nothing about it, nor about one another.

  There is one way out.  A stage may give an error that crashes when it is asked for its text.  It
  is asked when the stage is over and nothing catches a crash any more, so the whole evaluation ends
  there.

  1. **Specification** — `firstRun` and `lastRun` are the two stages of a hook as they have to be
     run, and `CrashAt` says that a crash gets out of one.  `Reports` and `Stops` say what a request
     comes to.
  2. **Rounds** — both stages of all hooks are a `round`: one run for each hook, in the order of the
     hooks, of which each depends on its own hook alone.  The second round hands each hook what its
     own first stage gave (`afterRuns_eq`): however a stage ends, it leaves something in its place,
     so that nothing moves to another hook.
  3. **Crashes** — a round is `reached` as far as the first run that a crash gets out of.
  4. **Frames** — `c.framed hooks log runs` is the client with other hooks and another history.
     What a client does to answer and to report does not look at them (`Framed`).
  5. **Asking** — the two ways a request can go: an early end (`stops_of_crashAt`), or an answer and
     its report as without hooks (`reports_of_quiet`).
  6. **Other moments** — clients that answer alike report alike, but for the dates
     (`AnswersAlike.answer`).
  7. **Main result** (`askAmong_isolates`).
-/
import Mathlib.Data.List.Basic
import FeatureFlags.Proofs.Client.AllFlags

namespace FeatureFlags

/-! ## Specification -/

namespace Hook

variable {ε : Type}

/-- A crash gets out of a stage: it ends in an error that crashes when it is asked for its text. -/
def Outcome.GetsOut (tell : ε → Option String) (o : Outcome ε) : Prop :=
  ∃ error, o = .failed error ∧ tell error = none

/-- What a first stage leaves to the second one: the data that it gave, and none if it ended
    badly. -/
def Outcome.leaves : Outcome ε → SeriesData
  | given data => data
  | failed _ => []
  | crashed => []

/-- What hooks are told about a request. -/
def told (r : Client.Request) : Series := ⟨r.key, r.context, r.default, r.method⟩

/-- **The first stage** of the hook at a place: it begins with no data. -/
def firstRun (r : Client.Request) (place : Nat) (h : Hook ε) : Run ε where
  series := told r
  place := place
  stage := .before
  received := []
  detail := none
  outcome := (h.before (told r) []).1
  added := (h.before (told r) []).2

/-- **The second stage** of the hook at a place: it gets the answer, and what its own first stage
    left. -/
def lastRun (r : Client.Request) (d : Detail Json) (place : Nat) (h : Hook ε) : Run ε where
  series := told r
  place := place
  stage := .after
  received := (h.before (told r) []).1.leaves
  detail := some d
  outcome := (h.after (told r) (h.before (told r) []).1.leaves d).1
  added := (h.after (told r) (h.before (told r) []).1.leaves d).2

/-- A crash gets out of the run of the hook at a place. -/
def CrashAt (tell : ε → Option String) (run : Nat → Hook ε → Run ε) (hooks : List (Hook ε))
    (place : Nat) : Prop :=
  ∃ h, hooks[place]? = some h ∧ (run place h).outcome.GetsOut tell

end Hook

namespace Client

open Hook (CrashAt firstRun lastRun)

/-- The client without hooks. -/
def withoutHooks (c : Client) : Client := { c with hooks := [] }

/-- The client with other hooks and another history of what was logged and done by hooks. -/
def framed (c : Client) (hooks : List (Hook String)) (log : List LogEntry)
    (runs : List (Hook.Run String)) : Client :=
  { c with
    hooks
    log
    hookRuns := runs }

section Specification

variable {ε : Type} (tell : ε → Option String) (hooks : List (Hook ε)) (c : Client) (r : Request)

/-- **A request among hooks is answered and reported as without them.**  All first stages are run,
    and the second stages from the last hook down to the one at a place. -/
structure Reports (t : Attempt ε) (place : Nat) : Prop where
  /-- The same events go the same way. -/
  events : t.client.events = (c.withoutHooks.ask r).2.events
  /-- Only the log of the client is another, by what it says about hooks. -/
  client : ∃ logged, (c.withoutHooks.ask r).2.log = c.log ++ logged ∧
    t.client = (c.withoutHooks.ask r).2.framed c.hooks
      (c.log ++ Hook.runEntries tell hooks t.first ++ logged ++ Hook.runEntries tell hooks t.second)
      c.hookRuns
  /-- Each hook runs its first stage once, in the order of the hooks. -/
  first : ∀ i, t.first[i]? = hooks[i]?.map (firstRun r i)
  /-- Each hook from the place on runs its second stage once, in reverse. -/
  second : ∀ i, t.second.reverse[i]? =
    hooks[place + i]?.map (lastRun r (c.withoutHooks.ask r).1.detail (place + i))
  /-- Hooks that were added come last, and no run is one of theirs. -/
  hooks : t.hooks = hooks ++ t.first.flatMap (·.added) ++ t.second.flatMap (·.added)

/-- **A request among hooks ends at the first stage of the hook at a place.**  Nothing is evaluated,
    and nothing reported. -/
structure Stops (t : Attempt ε) (place : Nat) : Prop where
  answer : t.answer = none
  client : t.client = { c with log := c.log ++ Hook.runEntries tell hooks t.first }
  /-- The hooks after it do not run. -/
  first : ∀ i, t.first[i]? = if i ≤ place then hooks[i]?.map (firstRun r i) else none
  second : t.second = []
  hooks : t.hooks = hooks ++ t.first.flatMap (·.added)

/-- **What hooks may do to a request, and to one another**: nothing, as long as no crash gets
    out. -/
structure Isolates : Prop where
  /-- If no crash gets out, the program gets the answer of a client without hooks. -/
  passes : (∀ i, ¬ CrashAt tell (firstRun r) hooks i) →
    (∀ i, ¬ CrashAt tell (lastRun r (c.withoutHooks.ask r).1.detail) hooks i) →
    (c.askAmong tell hooks r).answer = some (c.withoutHooks.ask r).1 ∧
      c.Reports tell hooks r (c.askAmong tell hooks r) 0
  /-- The first crash that gets out of a first stage ends everything. -/
  stopsFirst : ∀ i, CrashAt tell (firstRun r) hooks i →
    (∀ j < i, ¬ CrashAt tell (firstRun r) hooks j) →
    c.Stops tell hooks r (c.askAmong tell hooks r) i
  /-- The first crash that gets out of a second stage comes after evaluation and report. -/
  stopsLast : ∀ i, CrashAt tell (lastRun r (c.withoutHooks.ask r).1.detail) hooks i →
    (∀ j, i < j → ¬ CrashAt tell (lastRun r (c.withoutHooks.ask r).1.detail) hooks j) →
    (∀ j, ¬ CrashAt tell (firstRun r) hooks j) →
    (c.askAmong tell hooks r).answer = none ∧
      c.Reports tell hooks r (c.askAmong tell hooks r) i
  /-- Nothing else keeps the program from getting an answer. -/
  unanswered : (c.askAmong tell hooks r).answer = none ↔
    ∃ i, CrashAt tell (firstRun r) hooks i ∨
      CrashAt tell (lastRun r (c.withoutHooks.ask r).1.detail) hooks i
  /-- Whatever the other hooks are and do, a hook at its place sees the same and does the same. -/
  others : ∀ hooks' : List (Hook ε), (c.askAmong tell hooks r).answer ≠ none →
    (c.askAmong tell hooks' r).answer ≠ none → ∀ i : Nat, hooks'[i]? = hooks[i]? →
    (c.askAmong tell hooks' r).first[i]? = (c.askAmong tell hooks r).first[i]? ∧
    (c.askAmong tell hooks' r).second.reverse[i]? = (c.askAmong tell hooks r).second.reverse[i]?

end Specification

end Client

/-! ## Rounds -/

namespace Hook

/-- **One run for each hook**, with its place among the hooks. -/
def round {ε : Type} (run : Nat → Hook ε → Run ε) (hooks : List (Hook ε)) : List (Run ε) :=
  hooks.zipIdx.map fun (h, place) => run place h

section Rounds

variable {ε : Type} {run : Nat → Hook ε → Run ε} {hooks : List (Hook ε)}

theorem getElem?_round (i : Nat) : (round run hooks)[i]? = hooks[i]?.map (run i) := by
  rw [round, List.getElem?_map, List.getElem?_zipIdx, Option.map_map]
  simp [Function.comp_def]

theorem beforeRuns_eq (r : Client.Request) (hooks : List (Hook ε)) :
    beforeRuns (Client.seriesFor r) hooks = round (firstRun r) hooks := rfl

/-- However a stage ends, the model leaves what the specification does. -/
theorem Outcome.leaves_eq (o : Outcome ε) : o.leaves = o.data := by cases o <;> rfl

/-- **Each hook is handed what its own first stage gave**, or nothing where that ended badly. -/
theorem afterRuns_eq (r : Client.Request) (d : Detail Json) (hooks : List (Hook ε)) :
    afterRuns (Client.seriesFor r) d hooks ((round (firstRun r) hooks).map (·.outcome.data)) =
      (round (lastRun r d) hooks).reverse := by
  have hrun : ∀ (h : Hook ε) (place : Nat),
      h.runAfter (Client.seriesFor r) d place (h.before (told r) []).1.data =
        lastRun r d place h := by
    intro h place
    rw [lastRun, Outcome.leaves_eq]
    rfl
  rw [afterRuns, round, List.map_map, ← List.map_prod_left_eq_zip, List.map_map, round]
  exact congrArg List.reverse (List.map_congr_left fun x _ => hrun x.1 x.2)

end Rounds

/-! ## Crashes -/

section Crashes

variable {ε : Type} {tell : ε → Option String}

/-- The program's test for a crash that gets out. -/
theorem Outcome.escapes_iff (o : Outcome ε) : o.escapes tell = true ↔ o.GetsOut tell := by
  cases o with
  | given data => exact iff_of_false (fun h => nomatch h) fun ⟨_, h, _⟩ => nomatch h
  | crashed => exact iff_of_false (fun h => nomatch h) fun ⟨_, h, _⟩ => nomatch h
  | failed error =>
    rw [escapes, Option.isNone_iff_eq_none]
    exact ⟨fun h => ⟨error, rfl, h⟩, fun ⟨_, he, h⟩ => Outcome.failed.inj he ▸ h⟩

/-- Runs that no crash gets out of are all reached, and so is what comes after them. -/
theorem reached_append {quiet : List (Run ε)} (h : ∀ x ∈ quiet, x.escapes tell = false)
    (rest : List (Run ε)) : reached tell (quiet ++ rest) = quiet ++ reached tell rest := by
  induction quiet with
  | nil => rfl
  | cons x quiet ih =>
    have hx : ¬ x.escapes tell = true := Bool.eq_false_iff.1 (h x List.mem_cons_self)
    rw [List.cons_append, reached, if_neg hx, ih fun y hy => h y (List.mem_cons_of_mem x hy),
      List.cons_append]

/-- Where no crash gets out, all runs are reached. -/
theorem reached_of_quiet {runs : List (Run ε)} (h : ∀ x ∈ runs, x.escapes tell = false) :
    reached tell runs = runs := by
  have hnil := reached_append h []
  rwa [reached, List.append_nil] at hnil

/-- A crash that gets out of a run is the last thing that is reached. -/
theorem reached_of_crash {quiet : List (Run ε)} (h : ∀ x ∈ quiet, x.escapes tell = false)
    {x : Run ε} (hx : x.escapes tell = true) (rest : List (Run ε)) :
    reached tell (quiet ++ x :: rest) = quiet ++ [x] := by
  rw [reached_append h, reached, if_pos hx]

/-- A crash that gets out is reached, unless another one is reached before. -/
theorem any_reached (runs : List (Run ε)) :
    (reached tell runs).any (·.escapes tell) = runs.any (·.escapes tell) := by
  induction runs with
  | nil => rfl
  | cons x rest ih =>
    rw [reached]
    split
    · next hx => simp [hx]
    · rw [List.any_cons, List.any_cons, ih]

variable {run : Nat → Hook ε → Run ε} {hooks : List (Hook ε)}

/-- A run of a round that a crash gets out of is that of a hook. -/
theorem any_round_iff :
    (round run hooks).any (·.escapes tell) = true ↔ ∃ i, CrashAt tell run hooks i := by
  rw [List.any_eq_true]
  constructor
  · rintro ⟨x, hx, hescapes⟩
    obtain ⟨i, hi⟩ := List.mem_iff_getElem?.1 hx
    rw [getElem?_round] at hi
    obtain ⟨h, hh, rfl⟩ := Option.map_eq_some_iff.1 hi
    exact ⟨i, h, hh, (Outcome.escapes_iff _).1 hescapes⟩
  · rintro ⟨i, h, hh, hout⟩
    refine ⟨run i h, List.mem_iff_getElem?.2 ⟨i, ?_⟩, (Outcome.escapes_iff _).2 hout⟩
    rw [getElem?_round, hh, Option.map_some]

theorem any_round_eq_false (h : ∀ i, ¬ CrashAt tell run hooks i) :
    (round run hooks).any (·.escapes tell) = false :=
  Bool.eq_false_iff.2 fun hany => (any_round_iff.1 hany).elim h

/-- Where no crash gets out, none gets out of any run. -/
theorem escapes_of_mem_round (h : ∀ i, ¬ CrashAt tell run hooks i) {x : Run ε}
    (hx : x ∈ round run hooks) : x.escapes tell = false := by
  simpa using List.any_eq_false.1 (any_round_eq_false h) x hx

/-- Where no crash gets out, a round is reached from the first hook to the last. -/
theorem reached_round_of_quiet (h : ∀ i, ¬ CrashAt tell run hooks i) :
    reached tell (round run hooks) = round run hooks :=
  reached_of_quiet fun _ hx => escapes_of_mem_round h hx

/-- Where no crash gets out, a round is reached from the last hook to the first. -/
theorem reached_reverse_round_of_quiet (h : ∀ i, ¬ CrashAt tell run hooks i) :
    reached tell (round run hooks).reverse = (round run hooks).reverse :=
  reached_of_quiet fun _ hx => escapes_of_mem_round h (List.mem_reverse.1 hx)

/-- No crash gets out of a run, if none gets out at its place. -/
theorem escapes_getElem_round {i : Nat} (hi : i < (round run hooks).length)
    (h : ¬ CrashAt tell run hooks i) : (round run hooks)[i].escapes tell = false := by
  refine Bool.eq_false_iff.2 fun hescapes => h ?_
  have hget := List.getElem?_eq_getElem hi
  rw [getElem?_round] at hget
  obtain ⟨k, hk, hrun⟩ := Option.map_eq_some_iff.1 hget
  exact ⟨k, hk, (Outcome.escapes_iff _).1 (hrun ▸ hescapes)⟩

/-- A crash gets out of the run at its place. -/
theorem exists_escapes_getElem_round {i : Nat} (h : CrashAt tell run hooks i) :
    ∃ hi : i < (round run hooks).length, (round run hooks)[i].escapes tell = true := by
  obtain ⟨k, hk, hout⟩ := h
  have hget : (round run hooks)[i]? = some (run i k) := by rw [getElem?_round, hk, Option.map_some]
  obtain ⟨hi, hx⟩ := List.getElem?_eq_some_iff.1 hget
  exact ⟨hi, hx ▸ (Outcome.escapes_iff _).2 hout⟩

/-- **From the first hook on**, a round is reached up to the first crash that gets out. -/
theorem reached_round {i : Nat} (h : CrashAt tell run hooks i)
    (hbefore : ∀ j < i, ¬ CrashAt tell run hooks j) :
    reached tell (round run hooks) = (round run hooks).take (i + 1) := by
  obtain ⟨hi, hescapes⟩ := exists_escapes_getElem_round h
  have hquiet : ∀ x ∈ (round run hooks).take i, x.escapes tell = false := by
    intro x hx
    obtain ⟨j, hj, rfl⟩ := List.mem_take_iff_getElem.1 hx
    exact escapes_getElem_round _ (hbefore j (by omega))
  have hsplit := List.take_append_drop i (round run hooks)
  rw [List.drop_eq_getElem_cons hi] at hsplit
  have hreached := reached_of_crash hquiet hescapes ((round run hooks).drop (i + 1))
  rwa [hsplit, List.take_append_getElem] at hreached

/-- **From the last hook back**, a round is reached down to the last crash that gets out. -/
theorem reached_reverse_round {i : Nat} (h : CrashAt tell run hooks i)
    (hafter : ∀ j, i < j → ¬ CrashAt tell run hooks j) :
    reached tell (round run hooks).reverse = ((round run hooks).drop i).reverse := by
  obtain ⟨hi, hescapes⟩ := exists_escapes_getElem_round h
  have hquiet : ∀ x ∈ ((round run hooks).drop (i + 1)).reverse, x.escapes tell = false := by
    intro x hx
    obtain ⟨j, hj, rfl⟩ := List.mem_drop_iff_getElem.1 (List.mem_reverse.1 hx)
    exact escapes_getElem_round _ (hafter _ (by omega))
  have hsplit : (round run hooks).reverse = ((round run hooks).drop (i + 1)).reverse ++
      (round run hooks)[i] :: ((round run hooks).take i).reverse := by
    conv_lhs => rw [← List.take_append_drop i (round run hooks), List.drop_eq_getElem_cons hi]
    rw [List.reverse_append, List.reverse_cons, List.append_assoc, List.singleton_append]
  rw [hsplit, reached_of_crash hquiet hescapes, List.drop_eq_getElem_cons hi, List.reverse_cons]

end Crashes

end Hook

namespace Client

open Hook (CrashAt firstRun lastRun)

/-! ## Frames -/

/-- **A step that does not look at hooks or at history**, but may add to the log. -/
def Framed (step : Client → Client) : Prop :=
  ∀ c, ∃ added, ∀ hooks log runs,
    step (c.framed hooks log runs) = (step c).framed hooks (log ++ added) runs

theorem Framed.comp {step next : Client → Client} (hnext : Framed next) (hstep : Framed step) :
    Framed fun c => next (step c) := by
  intro c
  obtain ⟨first, hfirst⟩ := hstep c
  obtain ⟨second, hsecond⟩ := hnext (step c)
  refine ⟨first ++ second, fun hooks log runs => ?_⟩
  show next (step (c.framed hooks log runs)) = _
  rw [hfirst, hsecond, List.append_assoc]

theorem framed_send (e : InputEvent) : Framed fun c => c.send e := by
  intro c
  cases hevents : c.events with
  | none =>
    refine ⟨[], fun hooks log runs => ?_⟩
    simp only [send, act, framed, hevents, List.append_nil]
  | some t =>
    refine ⟨(t.act (·.send e)).processor.log.drop t.processor.log.length, fun hooks log runs => ?_⟩
    simp only [send, act, framed, hevents]

theorem framed_sendAll : ∀ events : List FeatureEvent,
    Framed fun c => events.foldl (fun c e => c.send (.feature e)) c
  | [] => fun c => ⟨[], fun hooks log runs => by rw [List.append_nil]; rfl⟩
  | e :: rest => (framed_sendAll rest).comp (framed_send (.feature e))

/-- Taking an answer in does not look at hooks or at history. -/
theorem framed_record (a : Answer) : Framed fun c => c.record a := by
  have hkeep : Framed fun c =>
      { c with cache := a.cache, calls := c.calls ++ a.calls, log := c.log ++ a.log } :=
    fun c => ⟨a.log, fun hooks log runs => rfl⟩
  exact (framed_sendAll a.events).comp hkeep

/-! ## Asking -/

/-- Without hooks, a request is answered and reported; so it is after some hooks have run. -/
theorem exists_record_eq (c : Client) (r : Request) :
    ∃ logged, (c.withoutHooks.ask r).2.log = c.log ++ logged ∧ ∀ hooks log runs,
      (c.framed hooks log runs).record (c.answer r) =
        (c.withoutHooks.ask r).2.framed hooks (log ++ logged) runs := by
  obtain ⟨logged, hrecord⟩ := framed_record (c.answer r) c
  -- without hooks, the report of an answer is all that asking adds
  have halone : (c.withoutHooks.ask r).2 =
      (c.record (c.answer r)).framed [] (c.log ++ logged) c.hookRuns := by
    have hrecorded := congrArg (fun next => next.recordRuns [] [])
      (hrecord [] (c.log ++ []) (c.hookRuns ++ []))
    have hnothing : ((c.record (c.answer r)).framed [] (c.log ++ [] ++ logged)
        (c.hookRuns ++ [])).recordRuns [] [] =
          (c.record (c.answer r)).framed [] (c.log ++ logged) c.hookRuns := by
      simp [recordRuns, framed, Hook.addedBy, Hook.runEntries]
    exact hrecorded.trans hnothing
  refine ⟨logged, ?_, fun hooks log runs => ?_⟩
  · rw [halone]
    rfl
  · rw [halone]
    exact hrecord hooks log runs

section Asking

variable {ε : Type} {tell : ε → Option String} {hooks : List (Hook ε)} {c : Client} {r : Request}

/-- **A crash that gets out of a first stage** ends the request. -/
theorem stops_of_crashAt {i : Nat} (h : CrashAt tell (firstRun r) hooks i)
    (hbefore : ∀ j < i, ¬ CrashAt tell (firstRun r) hooks j) :
    c.Stops tell hooks r (c.askAmong tell hooks r) i := by
  have hany : (Hook.reached tell (Hook.beforeRuns (seriesFor r) hooks)).any
      (·.escapes tell) = true := by
    rw [Hook.any_reached, Hook.beforeRuns_eq]
    exact Hook.any_round_iff.2 ⟨i, h⟩
  rw [askAmong, if_pos hany]
  refine ⟨rfl, rfl, fun j => ?_, rfl, rfl⟩
  show (Hook.reached tell (Hook.round (firstRun r) hooks))[j]? = _
  rw [Hook.reached_round h hbefore, List.getElem?_take, Hook.getElem?_round]
  simp only [Nat.lt_succ_iff]

/-- What a request comes to if no crash gets out of a first stage. -/
theorem askAmong_of_quiet (h : ∀ i, ¬ CrashAt tell (firstRun r) hooks i) :
    c.askAmong tell hooks r =
      let before := Hook.round (firstRun r) hooks
      let last := (Hook.round (lastRun r (c.answer r).detail) hooks).reverse
      let next := (c.framed c.hooks (c.log ++ Hook.runEntries tell hooks before)
        c.hookRuns).record (c.answer r)
      let after := Hook.reached tell last
      { answer := if last.any (·.escapes tell) then none else some (c.answer r)
        client := { next with log := next.log ++ Hook.runEntries tell hooks after }
        first := before
        second := after
        hooks := hooks ++ Hook.addedBy before ++ Hook.addedBy after } := by
  -- no crash gets out of the first round, so the answer is worked out
  have hnone := Hook.any_round_eq_false h
  have hbefore : Hook.reached tell (Hook.beforeRuns (seriesFor r) hooks) =
      Hook.round (firstRun r) hooks := Hook.reached_round_of_quiet h
  rw [askAmong, hbefore, if_neg (Bool.eq_false_iff.1 hnone)]
  simp only [Hook.afterRuns_eq, Hook.any_reached]
  rfl

/-- **If no crash gets out of a first stage**, the request is answered and reported, and the second
    stages are run as far as they are reached. -/
theorem reports_of_quiet (h : ∀ i, ¬ CrashAt tell (firstRun r) hooks i) {place : Nat}
    (hreached : Hook.reached tell (Hook.round (lastRun r (c.answer r).detail) hooks).reverse =
      ((Hook.round (lastRun r (c.answer r).detail) hooks).drop place).reverse) :
    c.Reports tell hooks r (c.askAmong tell hooks r) place := by
  obtain ⟨logged, hlog, hrecord⟩ := exists_record_eq c r
  rw [askAmong_of_quiet h]
  simp only [hrecord, hreached]
  refine ⟨rfl, ⟨logged, hlog, rfl⟩, Hook.getElem?_round, fun i => ?_, rfl⟩
  rw [List.reverse_reverse, List.getElem?_drop, Hook.getElem?_round]
  rfl

/-- All second stages are run if no crash gets out of one. -/
theorem passes_of_quiet (h : ∀ i, ¬ CrashAt tell (firstRun r) hooks i)
    (hlast : ∀ i, ¬ CrashAt tell (lastRun r (c.withoutHooks.ask r).1.detail) hooks i) :
    (c.askAmong tell hooks r).answer = some (c.withoutHooks.ask r).1 ∧
      c.Reports tell hooks r (c.askAmong tell hooks r) 0 := by
  refine ⟨?_, reports_of_quiet h (Hook.reached_reverse_round_of_quiet hlast)⟩
  rw [askAmong_of_quiet h]
  simp only [List.any_reverse]
  exact if_neg (Bool.eq_false_iff.1 (Hook.any_round_eq_false hlast))

/-- **A crash that gets out of a second stage** comes after evaluation and report. -/
theorem stopsLast_of_crashAt {i : Nat}
    (hcrash : CrashAt tell (lastRun r (c.withoutHooks.ask r).1.detail) hooks i)
    (hafter : ∀ j, i < j → ¬ CrashAt tell (lastRun r (c.withoutHooks.ask r).1.detail) hooks j)
    (h : ∀ j, ¬ CrashAt tell (firstRun r) hooks j) :
    (c.askAmong tell hooks r).answer = none ∧
      c.Reports tell hooks r (c.askAmong tell hooks r) i := by
  refine ⟨?_, reports_of_quiet h (Hook.reached_reverse_round hcrash hafter)⟩
  rw [askAmong_of_quiet h]
  simp only [List.any_reverse]
  exact if_pos (Hook.any_round_iff.2 ⟨i, hcrash⟩)

/-- The program gets no answer just where a crash gets out. -/
theorem answer_askAmong_eq_none_iff : (c.askAmong tell hooks r).answer = none ↔
    ∃ i, CrashAt tell (firstRun r) hooks i ∨
      CrashAt tell (lastRun r (c.withoutHooks.ask r).1.detail) hooks i := by
  by_cases hfirst : ∃ i, CrashAt tell (firstRun r) hooks i
  · obtain ⟨i, hi⟩ := hfirst
    refine iff_of_true ?_ ⟨i, .inl hi⟩
    rw [askAmong, Hook.any_reached, Hook.beforeRuns_eq,
      if_pos (Hook.any_round_iff.2 ⟨i, hi⟩)]
  · have hquiet : ∀ i, ¬ CrashAt tell (firstRun r) hooks i := not_exists.1 hfirst
    rw [askAmong_of_quiet hquiet]
    simp only [List.any_reverse, hquiet, false_or]
    rw [← Hook.any_round_iff]
    split
    · next hany => exact iff_of_true rfl hany
    · next hany => exact iff_of_false (fun h => nomatch h) hany

end Asking

/-- **All hooks of a client can tell their errors**, so that asking it is asking among them. -/
theorem ask_eq_askAmong (c : Client) (r : Request) :
    (c.askAmong some c.hooks r).answer = some (c.ask r).1 ∧
      (c.ask r).2 = { (c.askAmong some c.hooks r).client with
        hooks := (c.askAmong some c.hooks r).hooks
        hookRuns := c.hookRuns ++ (c.askAmong some c.hooks r).first ++
          (c.askAmong some c.hooks r).second } := by
  -- the errors of these hooks are texts, which tell themselves
  have hquiet : ∀ (run : Nat → Hook String → Hook.Run String) (i : Nat),
      ¬ CrashAt some run c.hooks i := fun run i ⟨_, _, _, _, htold⟩ => nomatch htold
  refine ⟨(passes_of_quiet (hquiet _) (hquiet _)).1, ?_⟩
  obtain ⟨logged, -, hrecord⟩ := exists_record_eq c r
  have hall := Hook.reached_reverse_round_of_quiet (hquiet (lastRun r (c.answer r).detail))
  have hrecorded := hrecord (c.hooks ++ Hook.addedBy (Hook.round (firstRun r) c.hooks))
    (c.log ++ Hook.runEntries some c.hooks (Hook.round (firstRun r) c.hooks))
    (c.hookRuns ++ Hook.round (firstRun r) c.hooks)
  have hask := congrArg (fun next => next.recordRuns c.hooks
    (Hook.round (lastRun r (c.answer r).detail) c.hooks).reverse) hrecorded
  rw [askAmong_of_quiet (hquiet _)]
  simp only [hrecord, hall]
  rw [← Hook.afterRuns_eq] at hask ⊢
  exact hask

/-- Asking for the state of all flags leaves hooks alone. -/
theorem hookRuns_allFlagsState (c : Client) (context : Context) (options : FlagsState.Options) :
    (c.allFlagsState context options).2.hookRuns = c.hookRuns := by
  have hwalk : ∀ (flags : List Flag) (sc : FlagsState × Client),
      (flags.foldl (addToState options context) sc).2.hookRuns = sc.2.hookRuns := by
    intro flags
    induction flags with
    | nil => exact fun sc => rfl
    | cons f rest ih => exact fun sc => (ih _).trans rfl
  unfold allFlagsState
  split
  · rfl
  · split
    · rfl
    · exact hwalk _ _

/-! ## Other moments -/

variable {c c' : Client}

/-- The evaluation of a flag is answered alike; its reports have the dates of the client. -/
theorem AnswersAlike.outcomeOf (h : c.AnswersAlike c') (r : Request) (f : Flag) :
    (c'.outcomeOf r f).detail = (c.outcomeOf r f).detail ∧
    (c'.outcomeOf r f).prerequisiteEvents.map FeatureEvent.undated =
      (c.outcomeOf r f).prerequisiteEvents.map FeatureEvent.undated := by
  have halike : (c.evaluator (some (c.factoryFor r))).AnsweredAlike c.cache
      (c'.evaluator (some (c'.factoryFor r))) c'.cache :=
    ⟨h.answered.bigSegments, h.answered.constant, h.answered.reachable, h.answered.status⟩
  obtain ⟨hdetail, hevents, -⟩ := halike.evaluate_same h.store rfl f r.context
  exact ⟨hdetail, hevents⟩

theorem AnswersAlike.answerFlag (h : c.AnswersAlike c') (r : Request) (f : Flag) :
    (c'.answerFlag r f).detail = (c.answerFlag r f).detail ∧
    (c'.answerFlag r f).events.map FeatureEvent.undated =
      (c.answerFlag r f).events.map FeatureEvent.undated := by
  obtain ⟨houtcome, hbefore⟩ := h.outcomeOf r f
  cases hexpected : r.expects (servedValue r (c.outcomeOf r f).detail) with
  | true =>
    -- of the type that was asked for: the reports on prerequisites are alike but for the dates
    obtain ⟨hdetail, hevents⟩ := answerFlag_of_expected hexpected
    rw [← houtcome] at hexpected
    obtain ⟨hdetail', hevents'⟩ := answerFlag_of_expected hexpected
    rw [hdetail, hdetail', hevents, hevents', houtcome, List.map_append, List.map_append, hbefore]
    exact ⟨rfl, rfl⟩
  | false =>
    obtain ⟨hdetail, hevents⟩ := answerFlag_of_unexpected hexpected
    rw [← houtcome] at hexpected
    obtain ⟨hdetail', hevents'⟩ := answerFlag_of_unexpected hexpected
    rw [hdetail, hdetail', hevents, hevents']
    exact ⟨rfl, rfl⟩

/-- **Clients that answer alike report alike**, but for the dates of their reports. -/
theorem AnswersAlike.answer (h : c.AnswersAlike c') (r : Request) :
    (c'.answer r).detail = (c.answer r).detail ∧
    (c'.answer r).events.map FeatureEvent.undated =
      (c.answer r).events.map FeatureEvent.undated := by
  -- both are ready, or neither is
  have hready : c'.Ready ↔ c.Ready := by rw [Ready, Ready, h.offline, h.store]
  by_cases hnow : c.Ready
  · cases hf : c.store.flag? r.key with
    | none =>
      have hf' : c'.store.flag? r.key = none := by rw [h.store, hf]
      obtain ⟨hdetail, hevents⟩ := answer_of_unknownFlag hnow hf
      obtain ⟨hdetail', hevents'⟩ := answer_of_unknownFlag (hready.2 hnow) hf'
      rw [hdetail, hdetail', hevents, hevents']
      exact ⟨rfl, rfl⟩
    | some f =>
      have hf' : c'.store.flag? r.key = some f := by rw [h.store, hf]
      rw [answer_of_flag hnow hf, answer_of_flag (hready.2 hnow) hf']
      exact h.answerFlag r f
  · obtain ⟨hdetail, hevents⟩ := (reported_answer c r).1.of_notReady hnow
    obtain ⟨hdetail', hevents'⟩ := (reported_answer c' r).1.of_notReady (hready.not.2 hnow)
    rw [hdetail, hdetail', hevents, hevents']
    exact ⟨rfl, rfl⟩

/-! ## Main result -/

theorem isolates {ε : Type} (tell : ε → Option String) (hooks : List (Hook ε)) (c : Client)
    (r : Request) : c.Isolates tell hooks r where
  passes := passes_of_quiet
  stopsFirst _ := stops_of_crashAt
  stopsLast _ := stopsLast_of_crashAt
  unanswered := answer_askAmong_eq_none_iff
  others hooks' hanswer hanswer' i hi := by
    -- both requests are answered, so all stages of all hooks are run in both
    have hreports : ∀ hooks : List (Hook ε), (c.askAmong tell hooks r).answer ≠ none →
        c.Reports tell hooks r (c.askAmong tell hooks r) 0 := by
      intro hooks hanswer
      have hquiet := not_exists.1 (mt answer_askAmong_eq_none_iff.2 hanswer)
      exact (passes_of_quiet (fun j => (not_or.1 (hquiet j)).1) fun j => (not_or.1 (hquiet j)).2).2
    have h := hreports hooks hanswer
    have h' := hreports hooks' hanswer'
    rw [h.first, h'.first, h.second, h'.second, Nat.zero_add, hi]
    exact ⟨rfl, rfl⟩

/-- **Hooks are isolated**, unless a crash gets out of one.  For every client, every list of hooks
    whatever they give, whether they fail, crash or add hooks, whatever their errors are, and for
    every request:

    - as long as no hook gives an error that crashes when it is asked for its text, the answer and
      the report are those of a client without hooks, and every hook runs both stages, on what is
      its own;
    - the first error of the other kind ends the request where it is met, and this is all that can.

    A client holds hooks whose errors are texts, so that all ways to ask it give what they give
    without hooks; at another moment, a client that answers alike gives the same and reports the
    same but for the dates.  When all flags are asked for, no hook runs. -/
theorem askAmong_isolates (c : Client) :
    (∀ (ε : Type) (tell : ε → Option String) (hooks : List (Hook ε)) (r : Request),
      c.Isolates tell hooks r) ∧
    (∀ r, (c.askAmong some c.hooks r).answer = some (c.ask r).1 ∧
      (c.ask r).2 = { (c.askAmong some c.hooks r).client with
        hooks := (c.askAmong some c.hooks r).hooks
        hookRuns := c.hookRuns ++ (c.askAmong some c.hooks r).first ++
          (c.askAmong some c.hooks r).second }) ∧
    (∀ r c', c.AnswersAlike c' → (c'.ask r).1.detail = (c.ask r).1.detail ∧
      (c'.ask r).1.events.map FeatureEvent.undated =
        (c.ask r).1.events.map FeatureEvent.undated) ∧
    (∀ context key,
      (∀ (α : Type) (type : ValueType α) (default : α),
        (c.variation type context key default).1 =
          (c.withoutHooks.variation type context key default).1 ∧
        (c.variationDetail type context key default).1 =
          (c.withoutHooks.variationDetail type context key default).1) ∧
      ∀ default, (c.migrationVariation context key default).1 =
        (c.withoutHooks.migrationVariation context key default).1) ∧
    ∀ context options, (c.allFlagsState context options).2.hookRuns = c.hookRuns := by
  refine ⟨fun ε tell hooks r => isolates tell hooks c r, ask_eq_askAmong c,
    fun r c' halike => halike.answer r, fun context key => ⟨fun α type default => ⟨rfl, rfl⟩, ?_⟩,
    hookRuns_allFlagsState c⟩
  intro default
  rw [migrationVariation_eq, migrationVariation_eq]
  rfl

/-- A hook that hands itself a note. -/
def notingHook {ε : Type} : Hook ε :=
  { Hook.passive "noting" with
    before := fun _ data => (.given (data ++ [("note", .bool true)]), []) }

/-- A hook that crashes whatever it is asked. -/
def crashingHook {ε : Type} : Hook ε where
  name := none
  before := fun _ _ => (.crashed, [])
  after := fun _ _ _ => (.crashed, [])

/-- A hook that adds another one and fails. -/
def growingHook : Hook (Option String) :=
  { Hook.passive "growing" with before := fun _ _ => (.failed (some "no"), [notingHook]) }

/-- A hook that fails, with an error that crashes when it is asked for its text. -/
def mutedHook : Hook (Option String) :=
  { Hook.passive "muted" with before := fun _ _ => (.failed none, []) }

/-- Of three hooks, the first one is handed its note although the others fail; the hook that is
    added does not run.  A hook between them whose error crashes ends the request, before anything
    is evaluated. -/
theorem askAmong_isolates_threeHooks :
    let r := requestOf .bool (.single ⟨Kind.user, "a", none, false, none, [], []⟩) "top" false true
    let alone := (stackedClient.withoutHooks.ask r).1
    let t := stackedClient.askAmong id [notingHook, crashingHook, growingHook] r
    let t' := stackedClient.askAmong id [notingHook, crashingHook, mutedHook, growingHook] r
    (t.answer = some alone ∧ t.second.map (·.place) = [2, 1, 0] ∧
      t.second.reverse[0]?.map (fun run => (run.received, run.detail)) =
        some ([("note", .bool true)], some alone.detail) ∧
      t.hooks.length = 4) ∧
    t'.answer = none ∧ t'.first.map (·.place) = [0, 1, 2] ∧ t'.second = [] ∧
      t'.client.calls = stackedClient.calls := by
  intro r alone t t'
  obtain ⟨hisolates, -⟩ := askAmong_isolates stackedClient
  constructor
  · -- none of the three gives an error that crashes, in either stage
    have hquiet : ∀ run : Nat → Hook (Option String) → Hook.Run (Option String),
        (Hook.round run [notingHook, crashingHook, growingHook]).any (·.escapes id) = false →
        ∀ i, ¬ CrashAt id run [notingHook, crashingHook, growingHook] i :=
      fun run h => not_exists.1 (mt Hook.any_round_iff.2 (Bool.eq_false_iff.1 h))
    obtain ⟨hanswer, hreports⟩ := (hisolates (Option String) id _ r).passes
      (hquiet (firstRun r) rfl) (hquiet (lastRun r alone.detail) rfl)
    refine ⟨hanswer, rfl, ?_, rfl⟩
    rw [hreports.second]
    rfl
  · have hstops := (hisolates (Option String) id [notingHook, crashingHook, mutedHook, growingHook]
      r).stopsFirst 2 ⟨mutedHook, rfl, none, rfl, rfl⟩ fun j hj ⟨h, hh, error, herror, _⟩ => by
        match j, hj with
        | 0, _ => cases hh; cases herror
        | 1, _ => cases hh; cases herror
    exact ⟨hstops.answer, rfl, hstops.second, (congrArg Client.calls hstops.client).trans rfl⟩

/-- One hook is enough to keep an answer from the program that it would get without hooks, and the
    report from the events; and no hook is asked about the flags of a state. -/
theorem askAmong_mutedHook :
    let context : Context := .single ⟨Kind.user, "a", none, false, none, [], []⟩
    let r := requestOf .bool context "top" false true
    let t := stackedClient.askAmong id [mutedHook] r
    let alone := (stackedClient.withoutHooks.ask r).1
    let state := stackedClient.allFlagsState context ⟨false, false, false⟩
    (t.answer = none ∧ t.second = [] ∧
      alone.detail.value = some (.bool true) ∧
      alone.events.map (·.key) = ["base", "base", "middle", "top"]) ∧
    stackedClient.hooks.length = 1 ∧ state.1.values.map (·.1) = ["base", "middle", "top"] ∧
      state.2.hookRuns = [] :=
  ⟨⟨rfl, rfl, rfl, rfl⟩, rfl, rfl, rfl⟩

end Client

end FeatureFlags
