/-
  THE CACHE CANNOT BE SEEN — looking memberships up gives what the source itself answers.

  What is kept, too old or forgotten depends on sizes and times that a caller does not know.  With a
  constant source none of it shows:

  1. **Steps of a lookup** — what its three steps keep, a lookup keeps (`membershipOf_keeps`).
  2. **Availability** — whether a status that is kept calls the source available is what the source
     says now (`Informed`), however old the status is.
  3. **Failures** — a lookup that fails leaves the window of memberships exactly as it was: the key
     that it failed for cannot be in there, so that not even the order of its items changes.
  4. **Sequences** — `lookUpAll`, any keys at any times.
  5. **Main result** (`lookUpAll_transparent`).
-/
import Mathlib.Data.List.Forall2
import FeatureFlags.Proofs.BigSegments.Constant

namespace FeatureFlags.BigSegments

variable {b : BigSegments} {clock : Clock} {key : String}

/-! ## Steps of a lookup -/

/-- **What the steps of a lookup keep, it keeps**: it touches the key, asks for the membership if it
    has to, and finds the status if there is an answer. -/
theorem membershipOf_keeps {P : Session → Prop}
    (htouch : ∀ s : Session, P s →
      P { s with cache := { s.cache with memberships := s.cache.memberships.touch key } })
    (hask : ∀ s, P s → P ((askMembership b clock key).run s).2)
    (hstatus : ∀ s, P s → P ((currentStatus b clock).run s).2) {s : Session} (h : P s) :
    P ((membershipOf b clock key).run s).2 := by
  have htouched := htouch s h
  simp only [membershipOf, StateT.run_bind, StateT.run_get, pure_bind]
  cases kept? b clock key s.cache with
  -- found in the window: only the status is looked at
  | some membership => exact hstatus _ htouched
  | none =>
    have hasked := hask _ htouched
    simp only [StateT.run_modify, pure_bind, StateT.run_bind]
    generalize (askMembership b clock key).run _ = asked at hasked ⊢
    obtain ⟨answer, t⟩ := asked
    cases answer with
    | ok membership => exact hstatus t hasked
    -- a query that fails is told at once, without a look at the status
    | error failure => exact hasked

/-! ## Availability -/

/-- The source fails for this key. -/
def Fails (b : BigSegments) (key : String) : Prop := ∃ failure, b.answer key = .error failure

/-- The source fails when it is asked about itself. -/
def Source.Silent (source : Source) : Prop := ∃ failure, source.lastUpToDate 0 = .error failure

/-- A status that is kept calls the source unavailable exactly if the source is silent. -/
def Informed (b : BigSegments) (c : Cache) : Prop :=
  ∀ status since, c.status = some (status, since) → (status.available = false ↔ b.source.Silent)

/-- The source is unavailable exactly if it is silent. -/
theorem available_askedStatus (b : BigSegments) (clock : Clock) :
    (b.askedStatus clock).available = false ↔ b.source.Silent := by
  rw [askedStatus, Source.Silent]
  cases b.source.lastUpToDate 0 with
  | ok last => simp
  | error failure => simp

/-- Of an informed cache it does not matter whether the status is asked for or kept. -/
theorem Informed.available_statusAt {c : Cache} (h : Informed b c) (clock : Clock) :
    (b.statusAt clock c).available = false ↔ b.source.Silent := by
  rw [statusAt]
  split
  · next status since hstatus =>
    split
    · exact h status since hstatus
    · exact available_askedStatus b clock
  · exact available_askedStatus b clock

theorem Informed.of_status_eq {c c' : Cache} (h : Informed b c) (heq : c'.status = c.status) :
    Informed b c' := by
  intro status since hstatus
  exact h status since (heq ▸ hstatus)

/-- A status that is asked for is kept, so the cache stays informed. -/
theorem Informed.currentStatus (hb : b.source.Constant) (clock : Clock) {s : Session}
    (h : Informed b s.cache) : Informed b ((currentStatus b clock).run s).2.cache := by
  have hasked : Informed b ((askStatus b clock).run s).2.cache := by
    intro status since hstatus
    rw [(run_askStatus hb clock s).2] at hstatus
    cases hstatus
    exact available_askedStatus b clock
  simp only [BigSegments.currentStatus, StateT.run_bind, StateT.run_get, pure_bind]
  split
  · split
    · exact h
    · exact hasked
  · exact hasked

/-- A lookup asks for the status on its way. -/
theorem Informed.membershipOf (hb : b.source.Constant) {s : Session} (h : Informed b s.cache) :
    Informed b ((membershipOf b clock key).run s).2.cache :=
  membershipOf_keeps (P := fun s => Informed b s.cache) (fun _ h => h)
    (fun s h => h.of_status_eq (status_askMembership b clock key s))
    (fun _ h => h.currentStatus hb clock) h

/-- With a constant source, no call can leave a cache that is not informed. -/
theorem Reachable.informed (hb : b.source.Constant) {c : Cache} (h : b.Reachable c) :
    Informed b c := by
  induction h with
  | start => exact fun _ _ hstatus => nomatch hstatus
  | membership clock key calls _ ih => exact ih.membershipOf hb
  | status clock calls _ ih => exact ih.currentStatus hb clock

/-- **One lookup**, whatever calls came before it: the membership that the source answers, and a
    store error exactly if the source fails for the key or is silent. -/
theorem membershipOf_of_reachable (hb : b.source.Constant) (clock : Clock) (key : String)
    {s : Session} (h : b.Reachable s.cache) :
    ((membershipOf b clock key).run s).1.1 = b.known key ∧
    (((membershipOf b clock key).run s).1.2 = .storeError ↔ b.Fails key ∨ b.source.Silent) := by
  have hfaithful := h.faithful hb.steady
  refine ⟨(run_membershipOf hb.steady clock key hfaithful).1, ?_⟩
  have havailable := (h.informed hb).available_statusAt clock
  rw [(status_membershipOf hb clock key hfaithful).1, toldStatus, Fails]
  cases b.answer key with
  | ok membership => simpa [StoreStatus.toBigSegmentsStatus_eq_storeError_iff] using havailable
  | error failure => simp

/-! ## Failures -/

/-- A key that the source fails for is not kept. -/
theorem Faithful.get?_of_fails {c : Cache} (h : b.Faithful c) (hfails : b.Fails key) :
    c.memberships.get? key = none := by
  obtain ⟨failure, hfailure⟩ := hfails
  cases hget : c.memberships.get? key with
  | none => rfl
  | some item =>
    have hanswer := h key item.1 item.2 hget
    rw [hfailure] at hanswer
    cases hanswer

/-- **A lookup that fails keeps nothing and drops nothing.** -/
theorem memberships_membershipOf_of_fails (hb : b.source.Steady) (clock : Clock) {s : Session}
    (h : b.Faithful s.cache) (hfails : b.Fails key) :
    ((membershipOf b clock key).run s).2.cache.memberships = s.cache.memberships := by
  have hget := h.get?_of_fails hfails
  have hkept : kept? b clock key s.cache = none := by rw [kept?, hget]
  obtain ⟨failure, hfailure⟩ := hfails
  have hanswer : b.source.membership s.cache.asked (contextHash key) = .error failure :=
    (hb _ _ _).trans hfailure
  simp only [membershipOf, askMembership, StateT.run_bind, StateT.run_get, pure_bind, hkept,
    StateT.run_modify, hanswer]
  exact Recency.touch_of_get?_eq_none hget

/-! ## Sequences -/

/-- **Look context keys up**, one after the other, each at its time. -/
def lookUpAll (b : BigSegments) (lookUps : List (Clock × String)) :
    Asking (List (Option Membership × BigSegmentsStatus)) :=
  lookUps.mapM fun l => membershipOf b l.1 l.2

/-- What a lookup should tell: what the source answers for its key, and a store error exactly if the
    source fails for it or is silent. -/
def TellsSource (b : BigSegments) (lookUp : Clock × String)
    (told : Option Membership × BigSegmentsStatus) : Prop :=
  told.1 = b.known lookUp.2 ∧ (told.2 = .storeError ↔ b.Fails lookUp.2 ∨ b.source.Silent)

theorem memberships_of_tellsSource {lookUps : List (Clock × String)}
    {told : List (Option Membership × BigSegmentsStatus)}
    (h : List.Forall₂ b.TellsSource lookUps told) :
    told.map (·.1) = lookUps.map fun l => b.known l.2 := by
  induction h with
  | nil => rfl
  | cons hfirst _ ih => rw [List.map_cons, List.map_cons, hfirst.1, ih]

/-- The first lookup, and the others from the cache that it leaves. -/
theorem run_lookUpAll_cons (b : BigSegments) (l : Clock × String) (rest : List (Clock × String))
    (s : Session) :
    (lookUpAll b (l :: rest)).run s =
      let first := (membershipOf b l.1 l.2).run s
      (first.1 :: ((lookUpAll b rest).run first.2).1, ((lookUpAll b rest).run first.2).2) := by
  rw [lookUpAll, List.mapM_cons]
  rfl

/-- Every lookup of a sequence tells the source, and so will those that come after it. -/
theorem tellsSource_lookUpAll (hb : b.source.Constant) :
    ∀ (lookUps : List (Clock × String)) (s : Session), b.Reachable s.cache →
      List.Forall₂ b.TellsSource lookUps ((lookUpAll b lookUps).run s).1 ∧
        b.Reachable ((lookUpAll b lookUps).run s).2.cache
  | [], _, h => ⟨.nil, h⟩
  | l :: rest, s, h => by
    have hfirst := membershipOf_of_reachable hb l.1 l.2 h
    have hnext : b.Reachable ((membershipOf b l.1 l.2).run s).2.cache :=
      .membership l.1 l.2 s.calls h
    obtain ⟨hrest, hreachable⟩ := tellsSource_lookUpAll hb rest _ hnext
    rw [run_lookUpAll_cons]
    exact ⟨.cons hfirst hrest, hreachable⟩

/-! ## Main result -/

/-- **The cache cannot be seen.**  The source is constant; sizes and times are arbitrary, and so are
    the keys looked up and the calls that came before, from an empty cache on.  Every lookup tells
    what the source answers for its key, and a store error exactly if the source fails for that key
    or about itself.  What is kept under a key is the source's answer for that very key; nothing is
    kept under a key that the source fails for, and looking it up leaves all that is kept as it
    is. -/
theorem lookUpAll_transparent {b : BigSegments} (hb : b.source.Constant) :
    b.Reachable (.ofSettings b.settings) ∧
    ∀ c, b.Reachable c →
      (∀ lookUps calls,
        List.Forall₂ b.TellsSource lookUps ((lookUpAll b lookUps).run ⟨c, calls⟩).1 ∧
        b.Reachable ((lookUpAll b lookUps).run ⟨c, calls⟩).2.cache) ∧
      (∀ key membership since, c.memberships.get? key = some (membership, since) →
        b.answer key = .ok membership) ∧
      ∀ key, b.Fails key → c.memberships.get? key = none ∧
        ∀ clock calls,
          ((membershipOf b clock key).run ⟨c, calls⟩).2.cache.memberships = c.memberships := by
  refine ⟨.start, fun c hc => ?_⟩
  have hfaithful := hc.faithful hb.steady
  exact ⟨fun lookUps calls => tellsSource_lookUpAll hb lookUps ⟨c, calls⟩ hc, hfaithful,
    fun key hfails => ⟨hfaithful.get?_of_fails hfails, fun clock _ =>
      memberships_membershipOf_of_fails hb.steady clock hfaithful hfails⟩⟩

/-- A window of one item, a source that fails for one of two keys: the other key keeps its
    membership, and has it again once its item is too old. -/
theorem lookUpAll_transparent_smallWindow :
    let b : BigSegments :=
      ⟨.ofTable [("a", [("s.g1", true)])] ["b"] (.ok none), ⟨0, 5000, 5000, 120000⟩⟩
    let told := ((lookUpAll b [(⟨0, 0⟩, "a"), (⟨0, 10⟩, "b"), (⟨0, 9000⟩, "a")]).run
      ⟨.ofSettings b.settings, []⟩).1
    b.source.Constant ∧ b.Fails "b" ∧ b.known "a" = some [("s.g1", true)] ∧
      told.map (·.1) = [b.known "a", none, b.known "a"] := by
  intro b told
  have hb : b.source.Constant := Source.constant_ofTable _ _ _
  have hfails : b.Fails "b" := ⟨.bigSegmentStore "unavailable", by simp [b, answer, Source.ofTable]⟩
  have hhash : contextHash "b" ≠ contextHash "a" := by decide +kernel
  have hknown : b.known "a" = some [("s.g1", true)] := by
    simp [b, known, answer, Source.ofTable, hhash]
  obtain ⟨hstart, htransparent⟩ := lookUpAll_transparent hb
  obtain ⟨hlookUps, -⟩ := htransparent _ hstart
  -- the window holds one membership, and the time to live is over between the two lookups of `a`
  have htells : List.Forall₂ b.TellsSource [(⟨0, 0⟩, "a"), (⟨0, 10⟩, "b"), (⟨0, 9000⟩, "a")] told :=
    (hlookUps _ []).1
  refine ⟨hb, hfails, hknown, ?_⟩
  have hnothing : b.known "b" = none := by
    obtain ⟨failure, hfailure⟩ := hfails
    rw [known, hfailure]
  have htold : told.map (·.1) = [b.known "a", b.known "b", b.known "a"] :=
    memberships_of_tellsSource htells
  rw [htold, hnothing]

end FeatureFlags.BigSegments
