/-
  CONTEXTS ARE NOT TAKEN FOR EACH OTHER — which contexts count as met, and through which others.

  A window remembers canonical keys.  While it has room for all that came since the last time it was
  cleared, a context counts as met exactly if one of the same canonical key came; and canonical keys
  tell contexts apart by their kinds and keys, but for a user who stands alone and borrows the
  canonical key of another context.

  1. **Remembering (`Remembers.meet`)** — with room for one more context, meeting it adds its key,
     and nothing is crowded out.
  2. **Visits (`remembers_window`)** — so a window that is large enough knows the keys of all recent
     contexts.
  3. **Processors (`exists_visits_run`)** — what a processor remembers is what a window does after
     the contexts of the events that it took in.
  4. **Main result** — a context counts as met if one of the same kinds and keys came, or one whose
     canonical key it borrows, or one that borrows its own.  A user with a colon in the key shows
     that the latter happens.
-/
import FeatureFlags.Processor.Meeting
import FeatureFlags.Proofs.Context.CanonicalKey
import FeatureFlags.Proofs.Processor.Announcement
import Mathlib.Data.List.Dedup

namespace FeatureFlags.Processor

variable {met : Recency Unit} {contexts : List Context} {c : Context}

/-! ## Remembering -/

/-- How many canonical keys contexts have. -/
def distinctKeys (contexts : List Context) : Nat := (contexts.map Context.canonicalKey).dedup.length

/-- `Remembers met contexts` — a window knows the canonical keys of these contexts and no others. -/
structure Remembers (met : Recency Unit) (contexts : List Context) : Prop where
  nodup : met.names.Nodup
  known : ∀ key, key ∈ met.names ↔ key ∈ contexts.map Context.canonicalKey

/-- One more context has a new canonical key or an old one. -/
theorem distinctKeys_le_concat (contexts : List Context) (c : Context) :
    distinctKeys contexts ≤ distinctKeys (contexts ++ [c]) := by
  have hsubset : (contexts.map Context.canonicalKey).dedup ⊆
      ((contexts ++ [c]).map Context.canonicalKey).dedup := by
    intro key hkey
    rw [List.mem_dedup] at hkey ⊢
    rw [List.map_append]
    exact List.mem_append_left _ hkey
  exact (List.nodup_dedup _).length_le_of_subset hsubset

/-- **Meeting a context adds its key**, if there is room, and crowds nothing out. -/
theorem Remembers.meet (h : Remembers met contexts) (c : Context)
    (room : distinctKeys (contexts ++ [c]) ≤ met.capacity) :
    Remembers (meet met c).2 (contexts ++ [c]) := by
  let names := c.canonicalKey :: met.names.filter (· ≠ c.canonicalKey)
  have hnodup : names.Nodup := by
    refine List.nodup_cons.2 ⟨fun hmem => ?_, h.nodup.filter _⟩
    exact of_decide_eq_true (List.mem_filter.1 hmem).2 rfl
  have hknown : ∀ key, key ∈ names ↔ key ∈ (contexts ++ [c]).map Context.canonicalKey := by
    intro key
    rw [List.map_append, List.mem_append, ← h.known]
    show key ∈ c.canonicalKey :: _ ↔ _ ∨ key ∈ [c.canonicalKey]
    rw [List.mem_cons, List.mem_filter, List.mem_singleton]
    by_cases hkey : key = c.canonicalKey <;> simp [hkey]
  -- there is room for all names, since they are among those of the contexts that came
  have hlength : names.length ≤ met.capacity := by
    have hsubset : names ⊆ ((contexts ++ [c]).map Context.canonicalKey).dedup := fun key hkey =>
      List.mem_dedup.2 ((hknown key).1 hkey)
    exact Nat.le_trans (hnodup.length_le_of_subset hsubset) room
  have hnames : (Processor.meet met c).2.names = names := by
    show (met.put c.canonicalKey ()).names = _
    rw [Recency.names_put, List.take_of_length_le hlength]
  exact ⟨hnames ▸ hnodup, fun key => hnames ▸ hknown key⟩

/-! ## Visits -/

/-- A window has room for at least one context, and neither visits nor the timer change that. -/
theorem capacity_window (capacity : Nat) (visits : List Visit) :
    (window capacity visits).capacity = max capacity 1 := by
  refine List.foldlRecOn (motive := fun met : Recency Unit => met.capacity = max capacity 1)
    visits _ rfl ?_
  intro met hmet v _
  cases v <;> exact hmet

/-- **A window that is large enough knows all recent contexts.** -/
theorem remembers_window (capacity : Nat) (visits : List Visit)
    (room : distinctKeys (recent visits) ≤ max capacity 1) :
    Remembers (window capacity visits) (recent visits) := by
  induction visits using List.reverseRecOn with
  | nil => exact ⟨.nil, fun _ => Iff.rfl⟩
  | append_singleton rest v ih =>
    rw [window_concat, recent_concat]
    rw [recent_concat] at room
    cases v with
    | meet c =>
      have hbefore := ih (Nat.le_trans (distinctKeys_le_concat _ c) room)
      exact hbefore.meet c (capacity_window capacity rest ▸ room)
    | forget => exact ⟨.nil, fun _ => Iff.rfl⟩

/-- A context counts as met if one of the same canonical key is known. -/
theorem Remembers.meet_eq_false_iff (h : Remembers met contexts) (c : Context) :
    (Processor.meet met c).1 = false ↔ ∃ d ∈ contexts, d.canonicalKey = c.canonicalKey := by
  show (met.get? c.canonicalKey).isNone = false ↔ _
  rw [Option.isNone_eq_false_iff, Recency.isSome_get?_iff, h.known, List.mem_map]

/-! ## Processors -/

/-- The context that a visit brings. -/
def Visit.context? : Visit → Option Context
  | .meet c => some c
  | .forget => none

/-- **What a processor remembers** is what a window of its capacity does after visits, in which the
    contexts come of the events that the processor took in. -/
theorem exists_visits_run (settings : Settings) (diagnostics : Option Diagnostics)
    (actions : List Action) :
    let p := (start settings diagnostics).run actions
    ∃ visits, p.met = window settings.contextKeysCapacity visits ∧
      visits.filterMap Visit.context? = (p.processed.filter (·.meetsContext)).map (·.context) := by
  let attended (b : Books) : Prop := ∃ visits, b.met = window settings.contextKeysCapacity visits ∧
    visits.filterMap Visit.context? = (b.processed.filter (·.meetsContext)).map (·.context)
  have hstep : ∀ a ∈ actions, ∀ b c, Books.Step a b c → attended b → attended c := by
    rintro a - b c hstep ⟨visits, hmet, hcontexts⟩
    cases hstep with
    | takesIn _ e =>
      -- an event whose context counts as met is a visit, any other is none
      show ∃ visits, (if e.meetsContext then b.met.put e.context.canonicalKey () else b.met) = _ ∧
        _ = ((b.processed ++ [e]).filter (·.meetsContext)).map (·.context)
      cases hmeets : e.meetsContext with
      | true =>
        refine ⟨visits ++ [.meet e.context], ?_, ?_⟩
        · rw [window_concat, ← hmet]
          rfl
        · rw [List.filterMap_append, hcontexts, List.filter_append, List.map_append,
            List.filter_singleton, hmeets]
          rfl
      | false =>
        refine ⟨visits, hmet, ?_⟩
        rw [hcontexts, List.filter_append, List.filter_singleton, hmeets]
        simp
    | forgets =>
      -- the timer is a visit of its own
      refine ⟨visits ++ [.forget], ?_, ?_⟩
      · rw [window_concat, ← hmet]
        rfl
      · rw [List.filterMap_append, hcontexts]
        exact List.append_nil _
    | _ => exact ⟨visits, hmet, hcontexts⟩
  have hrun : attended ((start settings diagnostics).run actions).books :=
    books_run hstep ⟨[], rfl, rfl⟩
  exact hrun

/-! ## Main result -/

/-- **Whom a context is taken for**: with room for all recent contexts, a context counts as met
    exactly if one of the same kinds and keys came, or one of the two borrows the canonical key of
    the other; canonical keys are the same in these cases and no others, and who borrows one is a
    user with a colon in the key. -/
theorem meet_window (capacity : Nat) (visits : List Visit)
    (room : distinctKeys (recent visits) ≤ max capacity 1)
    (hrecent : ∀ d ∈ recent visits, d.WellFormed) (hc : c.WellFormed) :
    ((meet (window capacity visits) c).1 = false ↔
      ∃ d ∈ recent visits, d.keys = c.keys ∨ d.Borrows c ∨ c.Borrows d) ∧
    (∀ d : Context, d.WellFormed →
      (d.canonicalKey = c.canonicalKey ↔ d.keys = c.keys ∨ d.Borrows c ∨ c.Borrows d)) ∧
    ∀ d : Context, d.WellFormed → d.Borrows c ∨ c.Borrows d →
      ∃ i, (d = .single i ∨ c = .single i) ∧ i.kind = .user ∧ ':' ∈ i.key.toList := by
  refine ⟨?_, fun d hd => Context.canonicalKey_eq_iff hd hc, fun d hd hborrows => ?_⟩
  · rw [(remembers_window capacity visits room).meet_eq_false_iff c]
    refine exists_congr fun d => and_congr_right fun hd => ?_
    exact Context.canonicalKey_eq_iff (hrecent d hd) hc
  · rcases hborrows with hborrows | hborrows
    · obtain ⟨i, hi, huser, hcolon⟩ := hborrows.colon_mem hc.individuals_ne_nil
      exact ⟨i, .inl hi, huser, hcolon⟩
    · obtain ⟨i, hi, huser, hcolon⟩ := hborrows.colon_mem hd.individuals_ne_nil
      exact ⟨i, .inr hi, huser, hcolon⟩

/-- A user and an organization of the same key are told apart, also after all contexts were
    forgotten. -/
theorem meet_window_sameKey :
    let visits : List Visit := [.meet (userContext "a"), .forget, .meet (bareContext orgKind "a")]
    distinctKeys (recent visits) ≤ max 10 1 ∧ (∀ d ∈ recent visits, d.WellFormed) ∧
    (userContext "a").WellFormed ∧ (meet (window 10 visits) (userContext "a")).1 = true ∧
    ∀ d ∈ recent visits, ¬(d.keys = (userContext "a").keys ∨ d.Borrows (userContext "a") ∨
      (userContext "a").Borrows d) := by
  intro visits
  have hrecent : recent visits = [bareContext orgKind "a"] := rfl
  have hroom : distinctKeys (recent visits) ≤ max 10 1 := by decide +kernel
  have huser : (userContext "a").WellFormed := bareContext_wellFormed (by decide) (by decide)
  have hwellFormed : ∀ d ∈ recent visits, d.WellFormed := by
    rw [hrecent]
    exact List.forall_mem_singleton.2 (bareContext_wellFormed (by decide) (by decide))
  have hnew : (meet (window 10 visits) (userContext "a")).1 = true := by decide +kernel
  obtain ⟨hmet, -⟩ := meet_window 10 visits hroom hwellFormed huser
  refine ⟨hroom, hwellFormed, huser, hnew, fun d hd htaken => ?_⟩
  have hold := hmet.2 ⟨d, hd, htaken⟩
  rw [hnew] at hold
  cases hold

/-- **A user may be taken for others**: one whose key reads like the canonical key of an
    organization, or of an organization and a user together, has different kinds and keys, and yet
    those count as met after it. -/
theorem meet_window_borrowed :
    let borrower := userContext "org:acme:user:amy"
    let pair := Context.multi [⟨orgKind, "acme", none, false, none, [], []⟩,
      ⟨.user, "amy", none, false, none, [], []⟩]
    borrower.WellFormed ∧ pair.WellFormed ∧ borrower.keys ≠ pair.keys ∧
    borrower.canonicalKey = pair.canonicalKey ∧
    (meet (window 10 [.meet borrower]) pair).1 = false ∧
    (meet (window 10 [.meet (userContext "org:x")]) (bareContext orgKind "x")).1 = false := by
  intro borrower pair
  have hpair : pair.WellFormed := by
    refine ⟨Nat.le_refl 2, List.forall_mem_cons.2 ⟨⟨by decide, by decide, .nil⟩, ?_⟩,
      List.pairwise_pair.2 (by decide +kernel)⟩
    exact List.forall_mem_singleton.2 ⟨by decide, by decide, .nil⟩
  have hborrower : borrower.WellFormed := bareContext_wellFormed (by decide) (by decide)
  exact ⟨hborrower, hpair,
    by decide +kernel, by decide +kernel, by decide +kernel, by decide +kernel⟩

end FeatureFlags.Processor
