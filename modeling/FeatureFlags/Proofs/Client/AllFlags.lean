/-
  ALL FLAGS AND SINGLE ONES — the state of all flags tells of each what asking for it gives.

  1. **Clients that answer alike** (`AnswersAlike`) — clients of the same data and the same constant
     store of big segments, at moments at which this is found in the same status.  Their evaluations
     give the same details, with or without reports, and leave such clients.
  2. **The walk** — adding flag after flag to a state comes down to adding what the first client
     gives for each of them (`foldl_addToState`), and this to two maps of lists (`foldl_add`).
  3. **The flags of a state** — in a store in which all flags stand under their own keys, each flag
     comes once, so that the order of the walk does not matter.
  4. **One flag** (`answer_any`) — what a request for any value is answered, and what is reported of
     it.
  5. **Main result** (`allFlagsState_agrees`).
-/
import FeatureFlags.Client.AllFlags
import FeatureFlags.Proofs.Client.Recording
import FeatureFlags.Proofs.Evaluation.Locality
import FeatureFlags.Proofs.Evaluation.Visits

namespace FeatureFlags

open Entries (get? Ordered ofList)

/-! ## Clients that answer alike -/

namespace Evaluator

variable {e e' : Evaluator} {cache cache' : BigSegments.Cache}

/-- With a constant source, an evaluator is answered like itself from any cache that calls leave. -/
theorem AnsweredAlike.refl (hconstant : ∀ b, e.bigSegments = some b → b.source.Constant)
    (hreachable : ∀ b, e.bigSegments = some b → b.Reachable cache) :
    e.AnsweredAlike cache e cache where
  bigSegments := rfl
  constant := hconstant
  reachable b hb := ⟨hreachable b hb, hreachable b hb⟩
  status _ _ := rfl

theorem AnsweredAlike.steady (h : e.AnsweredAlike cache e' cache') : e'.Steady cache' := by
  intro b hb
  rw [h.bigSegments] at hb
  exact ⟨(h.constant b hb).steady, (h.reachable b hb).2⟩

/-- Evaluators of one store evaluate alike. -/
theorem AnsweredAlike.evaluate_same (h : e.AnsweredAlike cache e' cache')
    (hstore : e'.store = e.store)
    (hfactory : e'.factory.map (·.withReasons) = e.factory.map (·.withReasons)) (f : Flag)
    (context : Context) :
    (e'.evaluate cache' f context).detail = (e.evaluate cache f context).detail ∧
    (e'.evaluate cache' f context).prerequisiteEvents.map FeatureEvent.undated =
      (e.evaluate cache f context).prerequisiteEvents.map FeatureEvent.undated ∧
    ∀ b, e.bigSegments = some b →
      b.statusAt e.clock (e.evaluate cache f context).cache = b.statusAt e.clock cache := by
  have hshown : ∀ kind key, e.store.Reaches (.flag f) kind key →
      e'.store.shown? kind key = e.store.shown? kind key := fun _ _ _ => by rw [hstore]
  exact h.evaluate_shown hfactory hshown context

/-- They still do when one of them has gone on to evaluate. -/
theorem AnsweredAlike.after (h : e.AnsweredAlike cache e' cache') (f : Flag) (context : Context) :
    e.AnsweredAlike cache e' (e'.evaluate cache' f context).cache where
  bigSegments := h.bigSegments
  constant := h.constant
  reachable b hb :=
    ⟨(h.reachable b hb).1, (h.steady.evaluate f context b (h.bigSegments.trans hb)).2⟩
  status b hb := by
    have hself : e'.AnsweredAlike cache' e' cache' :=
      .refl (fun b hb => h.constant b (h.bigSegments.symm.trans hb))
        fun b hb => (h.reachable b (h.bigSegments.symm.trans hb)).2
    have hkept := (hself.evaluate_same rfl rfl f context).2.2 b (h.bigSegments.trans hb)
    rw [hkept, h.status b hb]

end Evaluator

namespace Client

/-- **Clients that answer alike.** -/
structure AnswersAlike (c c' : Client) : Prop where
  offline : c'.offline = c.offline
  store : c'.store = c.store
  answered : (c.evaluator none).AnsweredAlike c.cache (c'.evaluator none) c'.cache

/-- What the evaluation of a flag gives. -/
def told (c : Client) (context : Context) (f : Flag) : Detail Json :=
  ((c.evaluator none).evaluate c.cache f context).detail

variable {c c' : Client} {context : Context} {options : FlagsState.Options}

theorem AnswersAlike.told (h : c.AnswersAlike c') (context : Context) (f : Flag) :
    c'.told context f = c.told context f :=
  (h.answered.evaluate_same h.store rfl f context).1

/-- Reporting makes no difference to what is given. -/
theorem detail_outcomeOf (c : Client) (r : Request) (f : Flag) :
    (c.outcomeOf r f).detail = c.told r.context f := by
  have htelling : c.outcomeOf r f = _ :=
    Evaluator.evaluate_telling (c.evaluator none) (some (c.factoryFor r)) c.cache f r.context
  rw [htelling]
  rfl

/-- Without variation there is no value. -/
theorem value_told {f : Flag} (h : (c.told context f).index = none) :
    (c.told context f).value = none := by
  rcases Evaluator.reports_evaluate (c.evaluator none) c.cache f context
    with ⟨_, _, hempty⟩ | hreports
  · exact hempty.1
  · rcases hreports.serves_or_isEmpty with ⟨index, hserves⟩ | ⟨-, hempty, -⟩
    · rw [told, hserves.1] at h
      cases h
    · exact hempty.1

/-! ## The walk -/

/-- A flag that is added may leave its memberships in the cache, and the answers stay alike. -/
theorem AnswersAlike.addToState (h : c.AnswersAlike c') (options : FlagsState.Options)
    (context : Context) (s : FlagsState) (f : Flag) :
    c.AnswersAlike (addToState options context (s, c') f).2 where
  offline := h.offline
  store := h.store
  answered := h.answered.after f context

/-- **The walk of one client over flags** adds what the client it began with gives for each. -/
theorem foldl_addToState (options : FlagsState.Options) (context : Context) (h : c.AnswersAlike c')
    (hnow : c'.now = c.now) (flags : List Flag) (s : FlagsState) :
    (flags.foldl (addToState options context) (s, c')).1 =
        flags.foldl (fun s f => s.add options c.now f (c.told context f)) s ∧
      c.AnswersAlike (flags.foldl (addToState options context) (s, c')).2 := by
  induction flags generalizing s c' with
  | nil => exact ⟨rfl, h⟩
  | cons f rest ih =>
    have hadd : (addToState options context (s, c') f).1 =
        s.add options c.now f (c.told context f) := by
      rw [← h.told context f, ← hnow]
      rfl
    rw [List.foldl_cons, List.foldl_cons, ← hadd]
    exact ih (h.addToState options context s f) hnow _

/-- The state that tells of flags what a client gives for them. -/
def stateFor (c : Client) (context : Context) (options : FlagsState.Options) (flags : List Flag) :
    FlagsState :=
  ⟨true, ofList (flags.map fun f => (f.key, (c.told context f).value.getD .null)),
    ofList (flags.map fun f => (f.key, FlagsState.stateOf options c.now f (c.told context f)))⟩

/-- By induction on the flags, the last one last: each adds what the client tells of it. -/
theorem foldl_add (c : Client) (context : Context) (options : FlagsState.Options)
    (flags : List Flag) :
    flags.foldl (fun s f => s.add options c.now f (c.told context f)) .empty =
      c.stateFor context options flags := by
  induction flags using List.reverseRecOn with
  | nil => rfl
  | append_singleton rest f ih =>
    rw [List.foldl_append, ih, stateFor, stateFor, List.map_append, List.map_append,
      List.map_singleton, List.map_singleton, Entries.ofList_concat, Entries.ofList_concat]
    rfl

/-- **All flags in any order** give the state of them, and leave a client that answers alike. -/
theorem foldl_addToState_empty (options : FlagsState.Options) (context : Context)
    (h : c.AnswersAlike c) (flags : List Flag) :
    (flags.foldl (addToState options context) (.empty, c)).1 = c.stateFor context options flags ∧
      c.AnswersAlike (flags.foldl (addToState options context) (.empty, c)).2 := by
  obtain ⟨hstate, hafter⟩ := foldl_addToState options context h rfl flags .empty
  exact ⟨hstate.trans (foldl_add c context options flags), hafter⟩

/-- A ready client adds its flags one by one. -/
theorem allFlagsState_eq (hready : c.Ready) : c.allFlagsState context options =
    (c.flagsFor options).foldl (addToState options context) (.empty, c) := by
  rw [allFlagsState, hready.1, hready.2]
  rfl

end Client

/-! ## The flags of a state -/

/-- A store whose flags are a map, in which each flag stands under its own key. -/
structure Store.Keyed (s : Store) : Prop where
  mapped : s.Mapped
  own : ∀ key f, s.flag? key = some f → f.key = key

/-- Live flags are those that readers find under their keys. -/
theorem Store.Keyed.flag?_of_mem {s : Store} (h : s.Keyed) {entry : String × Flag}
    (hmem : entry ∈ s.allFlags) : s.flag? entry.1 = some entry.2 := by
  rw [← Store.get?_allFlags h.mapped]
  exact Entries.get?_of_mem (List.Pairwise.filter _ h.mapped.flags) hmem

/-- A state of these options holds the flag. -/
def FlagsState.Options.Shows (options : FlagsState.Options) (f : Flag) : Prop :=
  options.clientSideOnly = true → f.isClientSide = true

namespace Client

variable {c : Client} {context : Context} {options : FlagsState.Options}

/-- The flags are those of the store that the options show. -/
theorem mem_flagsFor (h : c.store.Keyed) {f : Flag} :
    f ∈ c.flagsFor options ↔ c.store.flag? f.key = some f ∧ options.Shows f := by
  have hshows : (!options.clientSideOnly || f.isClientSide) = true ↔ options.Shows f := by
    rw [FlagsState.Options.Shows]
    cases options.clientSideOnly <;> simp
  have hlive : f ∈ c.store.allFlags.map (·.2) ↔ c.store.flag? f.key = some f := by
    constructor
    · intro hf
      obtain ⟨entry, hmem, rfl⟩ := List.mem_map.1 hf
      have hfound := h.flag?_of_mem hmem
      rwa [h.own _ _ hfound]
    · intro hf
      rw [← Store.get?_allFlags h.mapped] at hf
      exact List.mem_map.2 ⟨_, Entries.mem_of_get? hf, rfl⟩
  rw [flagsFor, List.mem_filter, hlive, hshows]

/-- The flags come in the order of their keys, so none comes twice. -/
theorem pairwise_flagsFor (h : c.store.Keyed) :
    (c.flagsFor options).Pairwise fun f g => f.key < g.key := by
  have hkey : ∀ entry ∈ c.store.allFlags, entry.2.key = entry.1 :=
    fun entry hmem => h.own _ _ (h.flag?_of_mem hmem)
  have hordered : Ordered c.store.allFlags := List.Pairwise.filter _ h.mapped.flags
  refine List.Pairwise.filter _ (List.pairwise_map.2 (hordered.imp_of_mem fun ha hb hlt => ?_))
  rw [hkey _ ha, hkey _ hb]
  exact hlt

/-- A map of the flags has the keys of the live flags that are shown. -/
theorem get?_ofList_flagsFor (h : c.store.Keyed) {β : Type} {tell : Flag → β} {key : String}
    {value : β} :
    get? key (ofList ((c.flagsFor options).map fun f => (f.key, tell f))) = some value ↔
      ∃ f, c.store.flag? key = some f ∧ options.Shows f ∧ tell f = value := by
  have hordered : Ordered ((c.flagsFor options).map fun f => (f.key, tell f)) :=
    List.pairwise_map.2 (pairwise_flagsFor h)
  rw [Entries.ofList_of_ordered hordered]
  constructor
  · intro hget
    obtain ⟨f, hf, heq⟩ := List.mem_map.1 (Entries.mem_of_get? hget)
    obtain ⟨rfl, rfl⟩ := Prod.mk.inj heq
    obtain ⟨hfound, hshows⟩ := (mem_flagsFor h).1 hf
    exact ⟨f, hfound, hshows, rfl⟩
  · rintro ⟨f, hfound, hshows, rfl⟩
    obtain rfl := h.own key f hfound
    exact Entries.get?_of_mem hordered
      (List.mem_map.2 ⟨f, (mem_flagsFor h).2 ⟨hfound, hshows⟩, rfl⟩)

/-- Under a key stands the flag of that key, if it is shown. -/
theorem contains_ofList_flagsFor (h : c.store.Keyed) {β : Type} (tell : Flag → β) (key : String) :
    Entries.contains key (ofList ((c.flagsFor options).map fun f => (f.key, tell f))) = true ↔
      ∃ f, c.store.flag? key = some f ∧ options.Shows f := by
  rw [Entries.contains, Option.isSome_iff_exists]
  constructor
  · rintro ⟨value, hvalue⟩
    obtain ⟨f, hf, hshows, -⟩ := (get?_ofList_flagsFor h).1 hvalue
    exact ⟨f, hf, hshows⟩
  · rintro ⟨f, hf, hshows⟩
    exact ⟨tell f, (get?_ofList_flagsFor h).2 ⟨f, hf, hshows, rfl⟩⟩

/-- The order in which the flags come does not matter. -/
theorem stateFor_perm (h : c.store.Keyed) {flags : List Flag}
    (hperm : flags.Perm (c.flagsFor options)) :
    c.stateFor context options flags = c.stateFor context options (c.flagsFor options) := by
  have hkeys : (flags.map (·.key)).Nodup := by
    rw [(hperm.map (·.key)).nodup_iff]
    refine List.pairwise_map.2 ((pairwise_flagsFor h).imp fun hlt heq => ?_)
    exact String.lt_irrefl _ (heq ▸ hlt)
  have hnodup : ∀ {β : Type} (tell : Flag → β),
      ((flags.map fun f => (f.key, tell f)).map (·.1)).Nodup := by
    intro β tell
    rw [List.map_map]
    exact hkeys
  rw [stateFor, stateFor, Entries.ofList_perm (hperm.map _) (hnodup _),
    Entries.ofList_perm (hperm.map _) (hnodup _)]

/-! ## One flag -/

variable {c' : Client} {key : String} {f : Flag}

/-- **A request for any value** is answered with what the evaluation gives, and the event of the
    answer is tracked where the flag or the reason says so. -/
theorem answer_any (context : Context) (hready : c.Ready) (hf : c.store.flag? key = some f) :
    (c.answer (requestOf .any context key .null true)).detail =
        ⟨some ((c.told context f).value.getD .null), (c.told context f).index,
          (c.told context f).reason⟩ ∧
      ∃ e, (c.answer (requestOf .any context key .null true)).events.getLast? = some e ∧
        e.trackEvents = (f.trackEvents || f.forcesTracking (c.told context f).reason) := by
  let r := requestOf .any context key .null true
  have hgiven : (c.outcomeOf r f).detail = c.told context f := detail_outcomeOf c r f
  have hvalue : servedValue r (c.told context f) = (c.told context f).value.getD .null := by
    rw [servedValue]
    cases hindex : (c.told context f).index with
    | some index => rfl
    | none => rw [value_told hindex]; rfl
  obtain ⟨hdetail, hevents⟩ := answerFlag_of_expected (c := c) (r := r) (f := f) rfl
  rw [hgiven, settled_eq, hvalue] at hdetail hevents
  rw [answer_of_flag hready hf, hdetail, hevents]
  exact ⟨rfl, _, List.getLast?_concat .., rfl⟩

end Client

/-- What a state tells of a flag agrees with a detail and with the event that records it.  A reason
    that must be reported is there. -/
structure FlagState.Agrees (state : FlagState) (d : Detail Json) (e : FeatureEvent) : Prop where
  variation : state.variation = d.index
  reason : ∀ reason, state.reason = some reason → reason = d.reason
  trackEvents : state.trackEvents = e.trackEvents
  trackReason : state.trackReason = true → state.reason = some d.reason

theorem FlagsState.agrees_stateOf (options : FlagsState.Options) (now : Calendar.Instant) {f : Flag}
    {d : Detail Json} {e : FeatureEvent}
    (he : e.trackEvents = (f.trackEvents || f.forcesTracking d.reason)) (value : Option Json) :
    (stateOf options now f d).Agrees ⟨value, d.index, d.reason⟩ e where
  variation := rfl
  reason reason hreason := by
    rw [stateOf] at hreason
    dsimp only at hreason
    split at hreason
    · exact (Option.some.inj hreason).symm
    · cases hreason
  trackEvents := he.symm
  trackReason hforced := by
    have hforced : f.forcesTracking d.reason = true := hforced
    rw [stateOf]
    dsimp only
    rw [hforced, Bool.true_or, if_pos rfl]

namespace Client

variable {c c' : Client} {context : Context} {options : FlagsState.Options}
    {key : String} {f : Flag}

/-- A flag that is asked for alone agrees with the state. -/
theorem stateFor_agrees (hready : c.Ready) (h : c.store.Keyed) (halike : c.AnswersAlike c')
    (hf : c.store.flag? key = some f) (hshows : options.Shows f) :
    let s := c.stateFor context options (c.flagsFor options)
    ∃ d c'' events e state, c'.variationDetail .any context key .null = (d, c'') ∧
      c'.Recorded (requestOf .any context key .null true) d events c'' ∧
      events.getLast? = some e ∧
      get? key s.values = d.value ∧ get? key s.states = some state ∧ state.Agrees d e := by
  have hready' : c'.Ready := ⟨halike.offline.trans hready.1, halike.store ▸ hready.2⟩
  have hf' : c'.store.flag? key = some f := (congrArg (·.flag? key) halike.store).trans hf
  obtain ⟨hdetail, e, hlast, htracked⟩ := answer_any context hready' hf'
  rw [halike.told] at hdetail htracked
  let r := requestOf .any context key .null true
  -- a value of any kind is converted to itself
  have htyped : c'.variationDetail .any context key .null =
      ((c'.ask r).1.detail, (c'.ask r).2) := by
    refine Prod.ext ?_ rfl
    show ((c'.answer r).detail.convert some).withDefault Document.null = (c'.answer r).detail
    rw [hdetail]
    rfl
  have hrecorded := recorded_ask c' r
  rw [htyped]
  rw [fst_ask, hdetail] at hrecorded ⊢
  exact ⟨_, _, _, e, _, rfl, hrecorded, hlast,
    (get?_ofList_flagsFor h).2 ⟨f, hf, hshows, rfl⟩,
      (get?_ofList_flagsFor h).2 ⟨f, hf, hshows, rfl⟩,
    FlagsState.agrees_stateOf options c.now htracked _⟩

/-! ## Main result -/

/-- **The state of all flags agrees with single flags.**  A client that has data, in which flags
    stand under their own keys, and whose store of big segments is constant, if there is one, gives
    a state with one entry for each live flag that the options show, and no other, in whatever order
    it comes to them.  Of each flag the state tells what asking for it gives and records: be it
    asked of this client, of the one that the walk leaves, or of any that answers alike. -/
theorem allFlagsState_agrees (c : Client) (context : Context) (options : FlagsState.Options)
    (hready : c.Ready) (hkeyed : c.store.Keyed)
    (hconstant : ∀ b, c.bigSegments = some b → b.source.Constant ∧ b.Reachable c.cache) :
    let s := (c.allFlagsState context options).1
    s.valid = true ∧ Ordered s.values ∧ Ordered s.states ∧
    (∀ key, Entries.contains key s.values = true ↔
      ∃ f, c.store.flag? key = some f ∧ options.Shows f) ∧
    (∀ key, Entries.contains key s.states = true ↔
      ∃ f, c.store.flag? key = some f ∧ options.Shows f) ∧
    (∀ flags : List Flag, flags.Perm (c.flagsFor options) →
      (flags.foldl (addToState options context) (.empty, c)).1 = s) ∧
    c.AnswersAlike c ∧ c.AnswersAlike (c.allFlagsState context options).2 ∧
    ∀ c', c.AnswersAlike c' → ∀ key f, c.store.flag? key = some f → options.Shows f →
      ∃ d c'' events e state, c'.variationDetail .any context key .null = (d, c'') ∧
        c'.Recorded (requestOf .any context key .null true) d events c'' ∧
        events.getLast? = some e ∧
        get? key s.values = d.value ∧ get? key s.states = some state ∧ state.Agrees d e := by
  have hself : c.AnswersAlike c :=
    ⟨rfl, rfl, .refl (fun b hb => (hconstant b hb).1) fun b hb => (hconstant b hb).2⟩
  -- whatever was added before, the client still answers alike, so the order does not matter
  have hwalk := foldl_addToState_empty options context hself
  rw [allFlagsState_eq hready, (hwalk _).1]
  exact ⟨rfl, Entries.ordered_ofList _, Entries.ordered_ofList _,
    contains_ofList_flagsFor hkeyed _, contains_ofList_flagsFor hkeyed _,
    fun flags hflags => (hwalk flags).1.trans (stateFor_perm hkeyed hflags), hself, (hwalk _).2,
    fun c' halike key f hf hshows => stateFor_agrees hready hkeyed halike hf hshows⟩

theorem keyed_stackedClient : stackedClient.store.Keyed where
  mapped :=
    ⟨(Entries.ordered_nil.insert "middle" _).insert "base" _ |>.insert "top" _, Entries.ordered_nil⟩
  own key f hf := by
    obtain ⟨hfound, -⟩ := Option.filter_eq_some_iff.1 hf
    have hkeys : ∀ entry ∈ stackedClient.store.flags, entry.2.key = entry.1 := by decide
    exact hkeys _ (Entries.mem_of_get? hfound)

theorem allFlagsState_agrees_stackedClient :
    let context : Context := .single ⟨Kind.user, "a", none, false, none, [], []⟩
    let s := (stackedClient.allFlagsState context ⟨true, false, false⟩).1
    stackedClient.Ready ∧ stackedClient.store.Keyed ∧
    (∀ b, stackedClient.bigSegments = some b →
      b.source.Constant ∧ b.Reachable stackedClient.cache) ∧
    get? "top" s.values = (stackedClient.variationDetail .any context "top" .null).1.value := by
  intro context s
  have hready : stackedClient.Ready := ⟨rfl, rfl⟩
  have hconstant : ∀ b, stackedClient.bigSegments = some b →
      b.source.Constant ∧ b.Reachable stackedClient.cache := by
    intro b hb
    cases hb
    exact ⟨BigSegments.Source.constant_ofTable _ _ _, .start⟩
  obtain ⟨-, -, -, -, -, -, hself, -, hagrees⟩ :=
    allFlagsState_agrees stackedClient context ⟨true, false, false⟩ hready keyed_stackedClient
      hconstant
  obtain ⟨d, c'', events, e, state, hdetail, -, -, hvalue, -⟩ :=
    hagrees stackedClient hself "top" Evaluator.stackedFlag rfl (fun h => nomatch h)
  refine ⟨hready, keyed_stackedClient, hconstant, ?_⟩
  rw [hdetail]
  exact hvalue

end Client

end FeatureFlags
