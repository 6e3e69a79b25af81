/-
  WHAT A SUMMARY TELLS of the evaluations that were counted.

  1. **Specification (`SummaryOutput.Tells`)** — said of the events alone: the earliest and the
     latest date, one summary for each flag and no other, and of each flag the kinds of all
     contexts, the first default, and one counter for each pair of variation and version
     (`counterOf`).
  2. **Counters (`counter?_count`)** — what counting does to the counter of each pair.  This needs
     the counters in order, since the search for a pair ends at the first one that stands behind it.
  3. **Dates (`Outermost`)** — the first and the last date are outermost in opposite orders, so one
     argument does for both.
  4. **Flags (`get?_features_ofEvents`)** — of a flag, a tally holds what its own events make;
     adding one more keeps what is told of them (`FlagTally.Tells.add`).
  5. **Main results** — the summary of events tells of them (`tells_summary?`), and of events in
     another order it tells the same, defaults and values apart (`Tells.withoutValues_eq`).
-/
import FeatureFlags.Event.Summary
import FeatureFlags.Proofs.Entries
import Mathlib.Data.List.Sort

namespace FeatureFlags

open Calendar (Instant)

/-! ## Specification -/

namespace Summary

/-- **The counter that the events of a flag make for a pair**: their number, in 64 bits, and the
    first value. -/
def counterOf (variation version : Option UInt64)
    (events : List FeatureEvent) : Option SummaryCounter :=
  match events.filter fun e => e.variation = variation ∧ e.version = version with
  | [] => none
  | first :: rest =>
    some ⟨variation, version, first.value, UInt64.ofNat (rest.length + 1), version.isNone⟩

/-- A counter stands before another: by variation, then by version; none comes first. -/
def Before (c d : SummaryCounter) : Prop := counterLess c.variation c.version d = true

/-- **A date is the outermost one** of events, in the order from there inwards: one of them has it,
    and none a date beyond. -/
def Outermost (inwards : Instant → Instant → Prop) (events : List FeatureEvent)
    (date : Instant) : Prop :=
  (∃ e ∈ events, e.creationDate = date) ∧ ∀ e ∈ events, inwards date e.creationDate

/-- What was counted after events, one after the other. -/
def Tally.ofEvents (events : List FeatureEvent) : Tally := events.foldl add .empty

end Summary

/-- **What a summary tells of the events of one flag.** -/
structure FlagSummary.Tells (s : FlagSummary) (events : List FeatureEvent) : Prop where
  default : ∃ first rest, events = first :: rest ∧ s.default = first.default.getD .null
  kinds_sorted : s.contextKinds.Pairwise (· < ·)
  kinds : ∀ name, name ∈ s.contextKinds ↔ ∃ e ∈ events, ∃ k ∈ e.context.kinds, k.name = name
  counters_sorted : s.counters.Pairwise Summary.Before
  counters : ∀ c, c ∈ s.counters ↔ Summary.counterOf c.variation c.version events = some c

/-- **What a summary tells of events.** -/
structure SummaryOutput.Tells (s : SummaryOutput) (events : List FeatureEvent) : Prop where
  startDate : Summary.Outermost (· ≤ ·) events s.startDate
  endDate : Summary.Outermost (· ≥ ·) events s.endDate
  features_ordered : Entries.Ordered s.features
  keys : ∀ key, key ∈ Entries.names s.features ↔ ∃ e ∈ events, e.key = key
  features : ∀ key f, (key, f) ∈ s.features → f.Tells (events.filter (·.key = key))

/-! ## Values left out -/

/-- A counter without its value. -/
def SummaryCounter.withoutValue (c : SummaryCounter) : SummaryCounter := { c with value := .null }

/-- What is summed up about a flag, but for the default and the values. -/
def FlagSummary.withoutValues (f : FlagSummary) : FlagSummary :=
  { f with
    default := .null
    counters := f.counters.map (·.withoutValue) }

/-- A summary, but for the defaults and the values. -/
def SummaryOutput.withoutValues (s : SummaryOutput) : SummaryOutput :=
  { s with features := Entries.mapValues FlagSummary.withoutValues s.features }

namespace Summary

variable {variation version variation' version' : Option UInt64} {counters : List SummaryCounter}
  {events : List FeatureEvent} {c d : SummaryCounter}

/-! ## The order of counters -/

theorem optionLess_irrefl (a : Option UInt64) : optionLess a a = false := by
  cases a <;> simp [optionLess]

theorem optionLess_trans {a b c : Option UInt64} (hab : optionLess a b = true)
    (hbc : optionLess b c = true) :
    optionLess a c = true := by
  cases a <;> cases b <;> cases c <;> simp_all [optionLess]
  exact UInt64.lt_trans hab hbc

/-- A missing number comes before all numbers, so any two are comparable. -/
theorem optionLess_total (a b : Option UInt64) :
    optionLess a b = true ∨ a = b ∨ optionLess b a = true := by
  cases a with
  | none => cases b <;> simp [optionLess]
  | some a =>
    cases b with
    | none => simp [optionLess]
    | some b =>
      simp only [optionLess, decide_eq_true_eq, UInt64.lt_iff_toNat_lt, Option.some.injEq,
        ← UInt64.toNat_inj]
      exact Nat.lt_trichotomy ..

/-- Counters stand by variation first, and by version among those of one variation. -/
theorem counterLess_iff : counterLess variation version c = true ↔
    optionLess variation c.variation = true ∨
      (variation = c.variation ∧ optionLess version c.version = true) := by
  rw [counterLess, Bool.or_eq_true, Bool.and_eq_true, decide_eq_true_eq]

theorem Before.trans {b : SummaryCounter} (hcd : Before c d) (hdb : Before d b) : Before c b := by
  rw [Before, counterLess_iff] at hcd hdb ⊢
  rcases hcd with hcd | ⟨heq, hcd⟩
  · rcases hdb with hdb | ⟨heq', -⟩
    · exact .inl (optionLess_trans hcd hdb)
    · exact .inl (heq' ▸ hcd)
  · rcases hdb with hdb | ⟨heq', hdb⟩
    · exact .inl (heq ▸ hdb)
    · exact .inr ⟨heq.trans heq', optionLess_trans hcd hdb⟩

/-- Counters of one pair do not stand before each other. -/
theorem Before.ne (h : Before c d) : ¬ (c.variation = d.variation ∧ c.version = d.version) := by
  rintro ⟨hvariation, hversion⟩
  rw [Before, counterLess_iff, hvariation, hversion, optionLess_irrefl, optionLess_irrefl] at h
  rcases h with h | ⟨-, h⟩ <;> cases h

instance : Std.Irrefl Before := ⟨fun _ h => h.ne ⟨rfl, rfl⟩⟩

instance : Std.Antisymm Before := ⟨fun _ _ h h' => absurd ⟨rfl, rfl⟩ (h.trans h').ne⟩

/-- A pair that is not a counter's and does not stand before it stands behind it. -/
theorem before_of_not (hne : ¬ (variation = c.variation ∧ version = c.version))
    (hnot : ¬ counterLess variation version c = true)
    (hd : d.variation = variation ∧ d.version = version) :
    Before c d := by
  rw [counterLess_iff, not_or] at hnot
  rw [Before, counterLess_iff, hd.1, hd.2]
  rcases optionLess_total variation c.variation with hless | heq | hless
  · exact absurd hless hnot.1
  · rcases optionLess_total version c.version with hless' | heq' | hless'
    · exact absurd ⟨heq, hless'⟩ hnot.2
    · exact absurd ⟨heq, heq'⟩ hne
    · exact .inr ⟨heq.symm, hless'⟩
  · exact .inl hless

/-! ## Counters -/

/-- The counter of a pair. -/
def counter? (variation version : Option UInt64)
    (counters : List SummaryCounter) : Option SummaryCounter :=
  counters.find? fun c => c.variation = variation ∧ c.version = version

/-- The first counter for a variation and version is the one that counts. -/
theorem counter?_cons (c : SummaryCounter) (rest : List SummaryCounter) :
    counter? variation version (c :: rest) =
      if c.variation = variation ∧ c.version = version then some c
      else counter? variation version rest := by
  rw [counter?, List.find?_cons]
  by_cases hpair : c.variation = variation ∧ c.version = version
  · rw [if_pos hpair, decide_eq_true hpair]
  · rw [if_neg hpair, decide_eq_false hpair]
    rfl

/-- Counting adds no pair but its own. -/
theorem pair_of_mem_count {value : Json} (h : d ∈ count variation version value counters) :
    (d.variation = variation ∧ d.version = version) ∨ d ∈ counters := by
  induction counters with
  | nil =>
    rw [count, List.mem_singleton] at h
    subst h
    exact .inl ⟨rfl, rfl⟩
  | cons c rest ih =>
    rw [count] at h
    split at h
    · next hsame =>
      -- the counter is there: it is raised in its place
      rcases List.mem_cons.1 h with rfl | h
      · exact .inl ⟨hsame.1.symm, hsame.2.symm⟩
      · exact .inr (List.mem_cons_of_mem c h)
    · split at h
      · rcases List.mem_cons.1 h with rfl | h
        · exact .inl ⟨rfl, rfl⟩
        · exact .inr h
      · rcases List.mem_cons.1 h with rfl | h
        · exact .inr (List.mem_cons_self ..)
        · exact (ih h).imp_right (List.mem_cons_of_mem c)

/-- **Counting keeps counters in order.** -/
theorem pairwise_count (h : counters.Pairwise Before) (variation version : Option UInt64)
    (value : Json) :
    (count variation version value counters).Pairwise Before := by
  induction counters with
  | nil => exact List.pairwise_singleton ..
  | cons c rest ih =>
    obtain ⟨hfirst, hrest⟩ := List.pairwise_cons.1 h
    rw [count]
    split
    · exact List.pairwise_cons.2 ⟨hfirst, hrest⟩
    · next hne =>
      split
      · next hless =>
        -- a new counter, before the first one that comes after it
        refine List.pairwise_cons.2 ⟨fun d hd => ?_, h⟩
        have hc : Before ⟨variation, version, value, 1, version.isNone⟩ c := hless
        rcases List.mem_cons.1 hd with rfl | hd
        · exact hc
        · exact hc.trans (hfirst d hd)
      · next hnot =>
        -- or further down the list
        refine List.pairwise_cons.2 ⟨fun d hd => ?_, ih hrest⟩
        rcases pair_of_mem_count hd with hpair | hd
        · exact before_of_not hne hnot hpair
        · exact hfirst d hd

/-- Behind a counter there is none of a pair before it, nor of its own. -/
theorem counter?_eq_none (h : ∀ d ∈ counters, Before c d)
    (hpair : c.variation = variation ∧ c.version = version) :
    counter? variation version counters = none := by
  refine List.find?_eq_none.2 fun d hd hsame => ?_
  obtain ⟨hvariation, hversion⟩ := of_decide_eq_true hsame
  exact (h d hd).ne ⟨hpair.1.trans hvariation.symm, hpair.2.trans hversion.symm⟩

/-- One more on a counter, or a new one. -/
def countOne (variation version : Option UInt64)
    (value : Json) : Option SummaryCounter → SummaryCounter
  | none => ⟨variation, version, value, 1, version.isNone⟩
  | some c => { c with count := c.count + 1 }

/-- **Counting changes the counter of its own pair** and no other. -/
theorem counter?_count (h : counters.Pairwise Before) (value : Json) :
    counter? variation' version' (count variation version value counters) =
      if variation = variation' ∧ version = version' then
        some (countOne variation version value (counter? variation version counters))
      else counter? variation' version' counters := by
  induction counters with
  | nil =>
    rw [count, counter?_cons]
    rfl
  | cons c rest ih =>
    obtain ⟨hfirst, hrest⟩ := List.pairwise_cons.1 h
    rw [count]
    split
    · next hsame =>
      obtain ⟨rfl, rfl⟩ := hsame
      simp only [counter?_cons, and_self, ↓reduceIte, countOne]
      split <;> rfl
    · next hne =>
      split
      · next hless =>
        -- the new counter stands before all others, so there was none of its pair
        let new : SummaryCounter := ⟨variation, version, value, 1, version.isNone⟩
        have hnew : Before new c := hless
        have hnone : counter? variation version (c :: rest) = none := by
          refine counter?_eq_none (c := new) (fun d hd => ?_) ⟨rfl, rfl⟩
          rcases List.mem_cons.1 hd with rfl | hd
          · exact hnew
          · exact hnew.trans (hfirst d hd)
        rw [hnone, counter?_cons]
        rfl
      · have hother : ¬ (c.variation = variation ∧ c.version = version) := fun hsame =>
          hne ⟨hsame.1.symm, hsame.2.symm⟩
        rw [counter?_cons, ih hrest, counter?_cons, counter?_cons, if_neg hother]
        by_cases hpair : c.variation = variation' ∧ c.version = version'
        · have hnot : ¬ (variation = variation' ∧ version = version') := fun hsame =>
            hne ⟨hsame.1.trans hpair.1.symm, hsame.2.trans hpair.2.symm⟩
          rw [if_pos hpair, if_neg hnot, if_pos hpair]
        · rw [if_neg hpair, if_neg hpair]

theorem count_ne (variation version : Option UInt64) (value : Json)
    (counters : List SummaryCounter) :
    count variation version value counters ≠ counters := by
  induction counters with
  | nil => exact List.cons_ne_nil _ _
  | cons c rest ih =>
    rw [count]
    split
    · intro h
      have hcount : c.count + 1 = c.count := congrArg SummaryCounter.count (List.cons.inj h).1
      simp at hcount
    · split
      · exact List.cons_ne_self _ _
      · intro h
        exact ih (List.cons.inj h).2

/-- In order, a counter is listed exactly if it is that of its pair. -/
theorem mem_iff_counter? (h : counters.Pairwise Before) :
    c ∈ counters ↔ counter? c.variation c.version counters = some c := by
  constructor
  · intro hc
    induction counters with
    | nil => cases hc
    | cons d rest ih =>
      obtain ⟨hfirst, hrest⟩ := List.pairwise_cons.1 h
      rw [counter?_cons]
      rcases List.mem_cons.1 hc with rfl | hc
      · exact if_pos ⟨rfl, rfl⟩
      · rw [if_neg (hfirst c hc).ne]
        exact ih hrest hc
  · exact List.mem_of_find?_eq_some

/-- One more event makes one more for its own pair. -/
theorem counterOf_concat (events : List FeatureEvent) (e : FeatureEvent) :
    counterOf variation version (events ++ [e]) =
      if e.variation = variation ∧ e.version = version then
        some (countOne variation version e.value (counterOf variation version events))
      else counterOf variation version events := by
  by_cases hpair : e.variation = variation ∧ e.version = version
  · rw [counterOf, counterOf, if_pos hpair, List.filter_append,
      List.filter_cons_of_pos (by simpa using hpair)]
    cases events.filter fun e => e.variation = variation ∧ e.version = version with
    -- the first event of its kind begins the counter
    | nil => rfl
    | cons first rest =>
      -- a later one raises it, and leaves the value of the first
      have hone : UInt64.ofNat ((rest ++ [e]).length + 1) = UInt64.ofNat (rest.length + 1) + 1 := by
        rw [List.length_append, List.length_singleton, UInt64.ofNat_add (rest.length + 1)]
        rfl
      show some (SummaryCounter.mk variation version first.value
          (.ofNat ((rest ++ [e]).length + 1)) _) = _
      rw [hone]
      rfl
  · rw [counterOf, counterOf, if_neg hpair, List.filter_append,
      List.filter_cons_of_neg (by simpa using hpair), List.filter_nil, List.append_nil]

/-! ## Dates -/

namespace Outermost

variable {inwards : Instant → Instant → Prop} {date new : Instant}

/-- The outermost date after one more event is the one before or that of the event. -/
theorem concat (h : Outermost inwards events date) {e : FeatureEvent}
    (htrans : ∀ {a b c}, inwards a b → inwards b c → inwards a c)
    (hrefl : inwards e.creationDate e.creationDate)
    (hnew : (new = date ∧ inwards date e.creationDate) ∨
      (new = e.creationDate ∧ inwards e.creationDate date)) :
    Outermost inwards (events ++ [e]) new := by
  obtain ⟨⟨d, hd, hdate⟩, hall⟩ := h
  rcases hnew with ⟨rfl, hin⟩ | ⟨rfl, hin⟩
  · refine ⟨⟨d, List.mem_append_left _ hd, hdate⟩, fun x hx => ?_⟩
    rcases List.mem_append.1 hx with hx | hx
    · exact hall x hx
    · rw [List.mem_singleton.1 hx]
      exact hin
  · refine ⟨⟨e, List.mem_append_right _ (List.mem_singleton_self e), rfl⟩, fun x hx => ?_⟩
    rcases List.mem_append.1 hx with hx | hx
    · exact htrans hin (hall x hx)
    · rw [List.mem_singleton.1 hx]
      exact hrefl

/-- The same events in another order have the same outermost date. -/
theorem unique {others : List FeatureEvent} (h : Outermost inwards events date)
    (h' : Outermost inwards others new)
    (hantisymm : inwards date new → inwards new date → date = new) (hperm : events.Perm others) :
    date = new := by
  obtain ⟨⟨d, hd, hdate⟩, hall⟩ := h
  obtain ⟨⟨d', hd', hdate'⟩, hall'⟩ := h'
  have hin : inwards date new := hdate' ▸ hall d' (hperm.mem_iff.2 hd')
  have hout : inwards new date := hdate ▸ hall' d (hperm.mem_iff.1 hd)
  exact hantisymm hin hout

end Outermost

/-! ## Flags -/

namespace FlagTally

/-- What is counted about a flag before its first event. -/
def fresh (e : FeatureEvent) : FlagTally := ⟨e.default.getD .null, [], []⟩

/-- What is counted about a flag after one more of its events. -/
def add (f : FlagTally) (e : FeatureEvent) : FlagTally :=
  { f with
    kinds := e.context.kinds.foldl (fun kinds k => Entries.insert k.name () kinds) f.kinds
    counters := count e.variation e.version e.value f.counters }

/-- **What is counted about a flag tells of its events**, as a summary will. -/
structure Tells (f : FlagTally) (events : List FeatureEvent) : Prop where
  default : ∀ first rest, events = first :: rest → f.default = first.default.getD .null
  kinds_ordered : Entries.Ordered f.kinds
  kinds : ∀ name, name ∈ Entries.names f.kinds ↔ ∃ e ∈ events, ∃ k ∈ e.context.kinds, k.name = name
  counters_sorted : f.counters.Pairwise Before
  counters : ∀ variation version, counter? variation version f.counters =
    counterOf variation version events

/-- A summary that was just begun tells of no event. -/
theorem Tells.fresh (e : FeatureEvent) : (fresh e).Tells [] where
  default first rest h := absurd h.symm (List.cons_ne_nil first rest)
  kinds_ordered := Entries.ordered_nil
  kinds name := by simp [FlagTally.fresh, Entries.names]
  counters_sorted := .nil
  counters _ _ := rfl

variable {f : FlagTally}

/-- **One more event** is told of too. -/
theorem Tells.add (h : f.Tells events) {e : FeatureEvent}
    (hfirst : events = [] → f.default = e.default.getD .null) :
    (f.add e).Tells (events ++ [e]) where
  default first rest hsplit := by
    cases events with
    | nil =>
      -- the default is that of the first event
      obtain ⟨rfl, -⟩ := List.cons.inj hsplit
      exact hfirst rfl
    | cons head tail =>
      obtain ⟨rfl, -⟩ := List.cons.inj hsplit
      exact h.default head tail rfl
  kinds_ordered := by
    refine List.foldlRecOn (motive := Entries.Ordered) e.context.kinds _ h.kinds_ordered ?_
    exact fun kinds hkinds k _ => hkinds.insert k.name ()
  kinds name := by
    show name ∈ Entries.names (e.context.kinds.foldl _ f.kinds) ↔ _
    rw [Entries.mem_names_foldl_insert, h.kinds]
    simp only [List.mem_append, List.mem_singleton, or_and_right, exists_or, exists_eq_left]
  counters_sorted := pairwise_count h.counters_sorted ..
  counters variation version := by
    show counter? variation version (count ..) = _
    rw [counter?_count h.counters_sorted, counterOf_concat, h.counters, h.counters]
    by_cases hpair : e.variation = variation ∧ e.version = version
    · obtain ⟨rfl, rfl⟩ := hpair
      rfl
    · rw [if_neg hpair, if_neg hpair]

/-- What is summed up about a flag. -/
def summary (f : FlagTally) : FlagSummary := ⟨f.default, Entries.names f.kinds, f.counters⟩

/-- What is summed up about a flag tells of its events. -/
theorem Tells.summary (h : f.Tells events) (hsome : events ≠ []) : f.summary.Tells events where
  default := by
    obtain ⟨first, rest, hsplit⟩ := List.exists_cons_of_ne_nil hsome
    exact ⟨first, rest, hsplit, h.default first rest hsplit⟩
  kinds_sorted := List.pairwise_map.2 h.kinds_ordered
  kinds := h.kinds
  counters_sorted := h.counters_sorted
  counters c := by
    show c ∈ f.counters ↔ _
    rw [mem_iff_counter? h.counters_sorted, h.counters]

end FlagTally

/-! ## Tallies -/

namespace Tally

theorem ofEvents_concat (events : List FeatureEvent) (e : FeatureEvent) :
    ofEvents (events ++ [e]) = (ofEvents events).add e := by
  rw [ofEvents, List.foldl_append]
  rfl

/-- An event is added to the summary of its own flag, which is begun if it is not there. -/
theorem get?_features_add (t : Tally) (e : FeatureEvent) (key : String) :
    Entries.get? key (t.add e).features =
      if e.key = key then some (((Entries.get? e.key t.features).getD (.fresh e)).add e)
      else Entries.get? key t.features :=
  Entries.get?_insert ..

/-- Every event makes a difference. -/
theorem add_ne (t : Tally) (e : FeatureEvent) : t.add e ≠ t := by
  intro h
  have hflag := get?_features_add t e e.key
  rw [h, if_pos rfl] at hflag
  have hsame := Option.some.inj ((congrArg (fun f => some (f.getD (.fresh e))) hflag).trans rfl)
  exact count_ne _ _ _ _ (congrArg FlagTally.counters hsame).symm

/-- **What a tally holds of a flag** is told of the flag's own events. -/
theorem get?_features_ofEvents (events : List FeatureEvent) (key : String) :
    match Entries.get? key (ofEvents events).features with
    | none => events.filter (·.key = key) = []
    | some f => events.filter (·.key = key) ≠ [] ∧ f.Tells (events.filter (·.key = key)) := by
  induction events using List.reverseRecOn with
  | nil => rfl
  | append_singleton events e ih =>
    rw [ofEvents_concat, get?_features_add]
    -- the event is added to the summary of its own flag, begun by it if there is none
    by_cases hkey : e.key = key
    · subst hkey
      rw [if_pos rfl, List.filter_append, List.filter_cons_of_pos (by simp), List.filter_nil]
      refine ⟨List.append_ne_nil_of_right_ne_nil _ (List.cons_ne_nil e []), ?_⟩
      cases hflag : Entries.get? e.key (ofEvents events).features with
      | none =>
        rw [hflag] at ih
        rw [ih]
        exact (FlagTally.Tells.fresh e).add fun _ => rfl
      | some f =>
        rw [hflag] at ih
        exact ih.2.add fun hnone => absurd hnone ih.1
    · rw [if_neg hkey, List.filter_append, List.filter_cons_of_neg (by simpa using hkey),
        List.filter_nil, List.append_nil]
      exact ih

theorem ordered_ofEvents (events : List FeatureEvent) :
    Entries.Ordered (ofEvents events).features := by
  refine List.foldlRecOn (motive := fun t : Tally => Entries.Ordered t.features)
    events _ Entries.ordered_nil ?_
  exact fun t ht e _ => ht.insert e.key _

/-- The dates between which events were created. -/
def Spans (events : List FeatureEvent) : Option (Instant × Instant) → Prop
  | none => events = []
  | some (first, last) => Outermost (· ≤ ·) events first ∧ Outermost (· ≥ ·) events last

/-- The span of the events goes from the first date among them to the last. -/
theorem spans_ofEvents (events : List FeatureEvent) : Spans events (ofEvents events).span := by
  induction events using List.reverseRecOn with
  | nil => rfl
  | append_singleton events e ih =>
    rw [ofEvents_concat]
    cases hspan : (ofEvents events).span with
    | none =>
      -- the first event is both ends
      rw [hspan] at ih
      have hevents : events = [] := ih
      have hadd : ((ofEvents events).add e).span = some (e.creationDate, e.creationDate) := by
        rw [add, hspan]
      rw [hadd, hevents]
      simp [Spans, Outermost]
    | some dates =>
      -- a later event moves the end that it is beyond
      obtain ⟨first, last⟩ := dates
      rw [hspan] at ih
      obtain ⟨hfirst, hlast⟩ := ih
      have hadd : ((ofEvents events).add e).span =
          some (min first e.creationDate, max last e.creationDate) := by
        rw [add, hspan]
      rw [hadd]
      constructor
      · refine hfirst.concat (fun hab hbc => Int.le_trans hab hbc) (Int.le_refl _) ?_
        rcases Int.le_total first e.creationDate with hle | hle
        · exact .inl ⟨Int.min_eq_left hle, hle⟩
        · exact .inr ⟨Int.min_eq_right hle, hle⟩
      · refine hlast.concat (fun hab hbc => Int.le_trans hbc hab) (Int.le_refl _) ?_
        rcases Int.le_total e.creationDate last with hle | hle
        · exact .inl ⟨Int.max_eq_left hle, hle⟩
        · exact .inr ⟨Int.max_eq_right hle, hle⟩

/-! ## Main results -/

/-- There is nothing to send where no event was counted. -/
theorem summary?_eq_none_iff : (ofEvents events).summary? = none ↔ events = [] := by
  have hspans := spans_ofEvents events
  rw [summary?, Option.map_eq_none_iff]
  constructor
  · intro hnone
    rw [hnone] at hspans
    exact hspans
  · rintro rfl
    rfl

/-- **The summary of events tells of them.** -/
theorem tells_summary? {s : SummaryOutput} (h : (ofEvents events).summary? = some s) :
    s.Tells events := by
  obtain ⟨⟨first, last⟩, hspan, hs⟩ := Option.map_eq_some_iff.1 h
  have hsummary : s =
      ⟨first, last, Entries.mapValues FlagTally.summary (ofEvents events).features⟩ := hs.symm
  subst hsummary
  have hspans := spans_ofEvents events
  rw [hspan] at hspans
  have hfeatures := get?_features_ofEvents events
  have hordered : Entries.Ordered (ofEvents events).features := ordered_ofEvents events
  refine ⟨hspans.1, hspans.2, hordered.mapValues _, fun key => ?_, fun key f hmem => ?_⟩
  · -- a flag has a summary exactly if it has an event
    have hsome : key ∈ Entries.names (ofEvents events).features ↔
        events.filter (·.key = key) ≠ [] := by
      rw [Entries.mem_names_iff]
      have hflag := hfeatures key
      cases hget : Entries.get? key (ofEvents events).features with
      | none =>
        rw [hget] at hflag
        simpa using hflag
      | some f =>
        rw [hget] at hflag
        simpa using hflag.1
    rw [Entries.names_mapValues, hsome, ne_eq, List.filter_eq_nil_iff]
    simp
  · have hget := Entries.get?_of_mem (hordered.mapValues _) hmem
    rw [Entries.get?_mapValues] at hget
    obtain ⟨g, hg, rfl⟩ := Option.map_eq_some_iff.1 hget
    have hflag := hfeatures key
    rw [hg] at hflag
    exact hflag.2.summary hflag.1

end Tally

/-! ## Other orders -/

/-- How many events gave a pair is all that a counter without value tells. -/
theorem counterOf_withoutValue (events : List FeatureEvent) :
    (counterOf variation version events).map SummaryCounter.withoutValue =
      match events.countP fun e => e.variation = variation ∧ e.version = version with
      | 0 => none
      | n + 1 => some ⟨variation, version, .null, UInt64.ofNat (n + 1), version.isNone⟩ := by
  rw [counterOf, List.countP_eq_length_filter]
  cases events.filter fun e => e.variation = variation ∧ e.version = version with
  | nil => rfl
  | cons first rest => rfl

/-- The same events in another order make the same counters, values apart. -/
theorem counterOf_perm {others : List FeatureEvent} (h : events.Perm others) :
    (counterOf variation version events).map SummaryCounter.withoutValue =
      (counterOf variation version others).map SummaryCounter.withoutValue := by
  rw [counterOf_withoutValue, counterOf_withoutValue, h.countP_eq]

end Summary

namespace FlagSummary

open Summary

variable {s s' : FlagSummary} {events others : List FeatureEvent}

/-- Values left out, a counter is listed exactly if the events of its pair make it. -/
theorem Tells.mem_withoutValues (h : s.Tells events) {c : SummaryCounter} :
    c ∈ s.withoutValues.counters ↔
      (counterOf c.variation c.version events).map SummaryCounter.withoutValue = some c := by
  rw [Option.map_eq_some_iff]
  show c ∈ s.counters.map SummaryCounter.withoutValue ↔ _
  rw [List.mem_map]
  constructor
  · rintro ⟨d, hd, rfl⟩
    exact ⟨d, (h.counters d).1 hd, rfl⟩
  · rintro ⟨d, hd, rfl⟩
    exact ⟨d, (h.counters d).2 hd, rfl⟩

/-- A summary is told by the events it counts, in any order, but for the values that it
    remembers. -/
theorem Tells.withoutValues_eq (h : s.Tells events) (h' : s'.Tells others)
    (hperm : events.Perm others) :
    s.withoutValues = s'.withoutValues := by
  have hkinds : s.contextKinds = s'.contextKinds := by
    refine h.kinds_sorted.eq_of_mem_iff h'.kinds_sorted fun name => ?_
    rw [h.kinds, h'.kinds]
    simp only [hperm.mem_iff]
  have hcounters : s.withoutValues.counters = s'.withoutValues.counters := by
    have hsorted : s.withoutValues.counters.Pairwise Before := List.pairwise_map.2 h.counters_sorted
    have hsorted' : s'.withoutValues.counters.Pairwise Before :=
      List.pairwise_map.2 h'.counters_sorted
    refine hsorted.eq_of_mem_iff hsorted' fun c => ?_
    rw [h.mem_withoutValues, h'.mem_withoutValues, counterOf_perm hperm]
  show FlagSummary.mk .null s.contextKinds s.withoutValues.counters =
    .mk .null s'.contextKinds s'.withoutValues.counters
  rw [hkinds, hcounters]

end FlagSummary

namespace SummaryOutput

variable {s s' : SummaryOutput} {events others : List FeatureEvent}

/-- **Summaries of the same events in another order are the same**, but for the defaults and the
    values. -/
theorem Tells.withoutValues_eq (h : s.Tells events) (h' : s'.Tells others)
    (hperm : events.Perm others) :
    s.withoutValues = s'.withoutValues := by
  have hstart : s.startDate = s'.startDate := h.startDate.unique h'.startDate Int.le_antisymm hperm
  have hend : s.endDate = s'.endDate :=
    h.endDate.unique h'.endDate (fun hle hge => Int.le_antisymm hge hle) hperm
  have hfeatures : s.withoutValues.features = s'.withoutValues.features := by
    refine Entries.ext_of_get? (h.features_ordered.mapValues _)
      (h'.features_ordered.mapValues _) fun key => ?_
    show Entries.get? key (Entries.mapValues FlagSummary.withoutValues s.features) =
      Entries.get? key (Entries.mapValues FlagSummary.withoutValues s'.features)
    rw [Entries.get?_mapValues, Entries.get?_mapValues]
    -- both tell of the same flags, and of each flag the events are a permutation
    have hkeys : key ∈ Entries.names s.features ↔ key ∈ Entries.names s'.features := by
      rw [h.keys, h'.keys]
      simp only [hperm.mem_iff]
    rw [Entries.mem_names_iff, Entries.mem_names_iff] at hkeys
    cases hget : Entries.get? key s.features with
    | none =>
      have hget' : Entries.get? key s'.features = none := by
        by_contra hsome
        exact hkeys.2 hsome hget
      rw [hget']
    | some f =>
      obtain ⟨f', hget'⟩ := Option.ne_none_iff_exists'.1 (hkeys.1 (hget ▸ Option.some_ne_none f))
      have hf := h.features key f (Entries.mem_of_get? hget)
      have hf' := h'.features key f' (Entries.mem_of_get? hget')
      rw [hget', Option.map_some, Option.map_some, hf.withoutValues_eq hf' (hperm.filter _)]
  show SummaryOutput.mk s.startDate s.endDate s.withoutValues.features =
    .mk s'.startDate s'.endDate s'.withoutValues.features
  rw [hstart, hend, hfeatures]

end SummaryOutput

end FeatureFlags
