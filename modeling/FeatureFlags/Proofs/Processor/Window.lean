/-
  WHAT IS REMEMBERED OF CONTEXTS — exactly those that came lately.

  A context counts as met if one of its canonical key came since all were forgotten, and not too
  many others came after it.  How many that may be is all that the capacity decides.

  1. **Lately (`Lately n visits c`)** — said of the visits alone: a context of that canonical key
     came, since then nothing was forgotten, and fewer than `n` other canonical keys came.
  2. **The window as a beginning (`names_window`)** — a window holds the latest canonical keys, as
     many as it has room for.  Every visit keeps this.
  3. **Main result (`meet_window_eq_false_iff`)** — whether a context counts as met, after any
     visits.
-/
import FeatureFlags.Proofs.Processor.Meeting

namespace FeatureFlags.Processor

/-! ## Lately -/

/-- **A context came lately**: one of the canonical key of `c` came, and after it fewer than `n`
    other canonical keys, while nothing was forgotten. -/
def Lately (n : Nat) (visits : List Visit) (c : Context) : Prop :=
  ∃ earlier d later, visits = earlier ++ Visit.meet d :: later.map Visit.meet ∧
    d.canonicalKey = c.canonicalKey ∧ (∀ x ∈ later, x.canonicalKey ≠ c.canonicalKey) ∧
      distinctKeys later < n

/-- Visits by contexts are recent as long as nothing is forgotten after them. -/
theorem recent_append_map (visits : List Visit) (contexts : List Context) :
    recent (visits ++ contexts.map Visit.meet) = recent visits ++ contexts := by
  induction contexts using List.reverseRecOn with
  | nil => simp
  | append_singleton contexts c ih =>
    rw [List.map_append, ← List.append_assoc]
    show recent (_ ++ [Visit.meet c]) = _
    rw [recent_concat, ih, Visit.join, List.append_assoc]

/-- The recent contexts are the last visits. -/
theorem exists_append_recent (visits : List Visit) :
    ∃ earlier, visits = earlier ++ (recent visits).map Visit.meet := by
  induction visits using List.reverseRecOn with
  | nil => exact ⟨[], rfl⟩
  | append_singleton visits v ih =>
    rw [recent_concat]
    cases v with
    | meet c =>
      obtain ⟨earlier, hvisits⟩ := ih
      refine ⟨earlier, ?_⟩
      rw [Visit.join, List.map_append, ← List.append_assoc, ← hvisits]
      rfl
    | forget => exact ⟨visits ++ [.forget], (List.append_nil _).symm⟩

/-- What came lately, read from the recent contexts. -/
theorem lately_iff {n : Nat} {visits : List Visit} {c : Context} :
    Lately n visits c ↔ ∃ before d after, recent visits = before ++ d :: after ∧
      d.canonicalKey = c.canonicalKey ∧ (∀ x ∈ after, x.canonicalKey ≠ c.canonicalKey) ∧
      distinctKeys after < n := by
  constructor
  · rintro ⟨earlier, d, later, rfl, hkey, hothers, hfew⟩
    refine ⟨recent earlier, d, later, ?_, hkey, hothers, hfew⟩
    exact recent_append_map earlier (d :: later)
  · rintro ⟨before, d, after, hrecent, hkey, hothers, hfew⟩
    obtain ⟨earlier, hvisits⟩ := exists_append_recent visits
    refine ⟨earlier ++ before.map Visit.meet, d, after, ?_, hkey, hothers, hfew⟩
    rw [hrecent, List.map_append, List.map_cons, ← List.append_assoc] at hvisits
    exact hvisits

/-! ## The window as a beginning -/

/-- **A window holds the latest canonical keys**, as many as it has room for. -/
theorem names_window (capacity : Nat) (visits : List Visit) :
    (window capacity visits).names =
      (Recency.latest ((recent visits).map Context.canonicalKey)).take (max capacity 1) := by
  induction visits using List.reverseRecOn with
  | nil => exact List.take_nil.symm
  | append_singleton visits v ih =>
    -- one more visit: a context comes to stand first, and forgetting leaves no names
    rw [window_concat, recent_concat]
    cases v with
    | meet c =>
      have hroom : (window capacity visits).capacity = max capacity 1 :=
        capacity_window capacity visits
      rw [← hroom] at ih
      have hput := Recency.latest_put ih c.canonicalKey ()
      rw [hroom] at hput
      rw [Visit.join, List.map_append]
      exact hput
    | forget => exact List.take_nil.symm

/-- A canonical key is in the window exactly if a context of that key came lately. -/
theorem mem_names_window_iff {capacity : Nat} {visits : List Visit} {c : Context} :
    c.canonicalKey ∈ (window capacity visits).names ↔ Lately (max capacity 1) visits c := by
  -- both sides split the visits at the last one by this canonical key: here the keys, there the
  -- contexts
  rw [names_window, Recency.mem_take_latest_iff, lately_iff]
  constructor
  · rintro ⟨before, after, hsplit, hothers, hfew⟩
    obtain ⟨first, rest, hrecent, rfl, hrest⟩ := List.map_eq_append_iff.1 hsplit
    obtain ⟨d, later, rfl, hkey, rfl⟩ := List.map_eq_cons_iff.1 hrest
    refine ⟨first, d, later, hrecent, hkey, fun x hx heq => ?_, hfew⟩
    exact hothers (List.mem_map.2 ⟨x, hx, heq⟩)
  · rintro ⟨before, d, after, hrecent, hkey, hothers, hfew⟩
    refine ⟨before.map Context.canonicalKey, after.map Context.canonicalKey, ?_,
      fun hmem => ?_, hfew⟩
    · rw [hrecent, List.map_append, List.map_cons, hkey]
    · obtain ⟨x, hx, heq⟩ := List.mem_map.1 hmem
      exact hothers x hx heq

theorem meet_eq_false_iff {met : Recency Unit} {c : Context} :
    (meet met c).1 = false ↔ c.canonicalKey ∈ met.names := by
  show (met.get? c.canonicalKey).isNone = false ↔ _
  rw [Option.isNone_eq_false_iff, Recency.isSome_get?_iff]

/-! ## Processors -/

/-- **A run remembers what came lately**: what counts as met is decided by visits in which the
    contexts come of the events that were taken in, and times when all were forgotten. -/
theorem hasMet_run (settings : Settings) (diagnostics : Option Diagnostics)
    (actions : List Action) :
    let p := (start settings diagnostics).run actions
    ∃ visits, visits.filterMap Visit.context? =
      (p.processed.filter (·.meetsContext)).map (·.context) ∧
      ∀ c, p.hasMet c = true ↔ Lately (max settings.contextKeysCapacity 1) visits c := by
  intro p
  obtain ⟨visits, hmet, hcontexts⟩ := exists_visits_run settings diagnostics actions
  refine ⟨visits, hcontexts, fun c => ?_⟩
  have hnew : p.hasMet c = true ↔ (meet p.met c).1 = false := by
    rw [hasMet_eq_meet, Bool.not_eq_true']
  rw [hnew, meet_eq_false_iff, hmet, mem_names_window_iff]

/-! ## Main result -/

/-- **A window remembers what came lately, and nothing else.**  For every capacity and after any
    visits, a context counts as met exactly if one of its canonical key came since all were
    forgotten, and fewer others than there is room for came after it; there is always room for one.
    The window never holds more keys than that, and each only once; and who has just come is not new
    again, whatever came before. -/
theorem meet_window_eq_false_iff (capacity : Nat) (visits : List Visit) (c : Context) :
    ((meet (window capacity visits) c).1 = false ↔ Lately (max capacity 1) visits c) ∧
    (window capacity visits).names.Nodup ∧
    (window capacity visits).items.length ≤ max capacity 1 ∧
    ∀ d : Context, d.canonicalKey = c.canonicalKey →
      (meet (window capacity (visits ++ [.meet c])) d).1 = false := by
  have hnames := names_window capacity visits
  refine ⟨?_, ?_, ?_, fun d hkey => ?_⟩
  · -- a key that was just put is found again
    rw [meet_eq_false_iff, mem_names_window_iff]
  · rw [hnames]
    exact (Recency.nodup_latest _).sublist (List.take_sublist _ _)
  · have hlength := congrArg List.length hnames
    rw [Recency.names, List.length_map] at hlength
    rw [hlength]
    exact List.length_take_le _ _
  · rw [meet_eq_false_iff, mem_names_window_iff]
    -- nothing came after it, and there is room for at least one
    refine ⟨visits, c, [], rfl, hkey.symm, fun x hx => absurd hx List.not_mem_nil, ?_⟩
    show 0 < max capacity 1
    omega

/-- With room for two: `a` comes again and so stays, `b` is crowded out by `c`. -/
theorem meet_window_eq_false_iff_roomForTwo :
    let visits : List Visit :=
      [.meet (userContext "a"), .meet (userContext "b"), .meet (userContext "a"),
        .meet (userContext "c")]
    Lately 2 visits (userContext "a") ∧ ¬ Lately 2 visits (userContext "b") ∧
    (meet (window 2 (visits ++ [.meet (userContext "b")])) (userContext "b")).1 = false := by
  intro visits
  have hknown : (meet (window 2 visits) (userContext "a")).1 = false := by decide +kernel
  have hnew : (meet (window 2 visits) (userContext "b")).1 = true := by decide +kernel
  obtain ⟨hiff, -⟩ := meet_window_eq_false_iff 2 visits (userContext "a")
  obtain ⟨hiff', -, -, hagain⟩ := meet_window_eq_false_iff 2 visits (userContext "b")
  refine ⟨hiff.1 hknown, fun hlately => ?_, hagain (userContext "b") rfl⟩
  have hold := hiff'.2 hlately
  rw [hnew] at hold
  cases hold

end FeatureFlags.Processor
