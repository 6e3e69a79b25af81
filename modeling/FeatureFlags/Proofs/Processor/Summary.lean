/-
  EVERY EVALUATION IS COUNTED ONCE.

  Summaries are taken out at flushes, which come at any time, and share their payloads with a queue
  that may be full.  Counting comes before all that: an event taken in is counted whether its
  outputs find room, are sampled away, or name a context met before.

  1. **Total (`Books.counted`)** — what the summaries taken out and the tally say together.
  2. **Entries (`Books.Counted.step`)** — an event taken in adds one to the total of its own pair; a
     payload taken out moves the tally into a summary; nothing else touches the total.
  3. **Main result** — the total of every run.
-/
import FeatureFlags.Proofs.Event.Counting
import FeatureFlags.Proofs.Processor.Delivery

namespace FeatureFlags.Processor

variable {key : String} {variation : Option VariationIndex} {version : Option UInt64}

/-- What payloads say about a pair of a flag. -/
def countedIn (key : String) (variation : Option VariationIndex) (version : Option UInt64)
    (events : List OutputEvent) : Nat :=
  (events.map fun x => x.counted key variation version).sum

theorem countedIn_append (first second : List OutputEvent) :
    countedIn key variation version (first ++ second) =
      countedIn key variation version first + countedIn key variation version second := by
  unfold countedIn
  rw [List.map_append, List.sum_append]

/-- Without a summary there is nothing to read. -/
theorem countedIn_of_plain {events : List OutputEvent} (h : ∀ x ∈ events, x.isSummary = false) :
    countedIn key variation version events = 0 := by
  induction events with
  | nil => rfl
  | cons x rest ih =>
    have hx : x.counted key variation version = 0 := by
      cases x with
      | summary s => exact absurd (h _ (List.mem_cons_self ..)) nofun
      | _ => rfl
    have hrest := ih fun y hy => h y (List.mem_cons_of_mem x hy)
    unfold countedIn at hrest ⊢
    rw [List.map_cons, List.sum_cons, hx, hrest]

/-- The total of a pair of a flag: in the payloads taken out, and in the tally. -/
def Books.counted (key : String) (variation : Option VariationIndex) (version : Option UInt64)
    (b : Books) : Nat :=
  countedIn key variation version b.taken.flatten + b.tally.counted key variation version

/-- The balance with its counts: the total of the pair stands for the events that count for it. -/
structure Books.Counted (key : String) (variation : Option VariationIndex) (version : Option UInt64)
    (b : Books) : Prop where
  balanced : b.Balanced
  dated : b.tally.Dated
  total : Stands (b.counted key variation version)
    (b.processed.countP fun e => e.countsFor key variation version)

/-- Taking a payload out moves what was counted into it. -/
theorem Books.Counted.counted_withdraw {b : Books} (h : b.Counted key variation version)
    (purpose : Purpose) :
    (b.withdraw purpose).counted key variation version = b.counted key variation version := by
  have hpayload : countedIn key variation version b.payload =
      b.tally.counted key variation version := by
    rw [Books.payload, countedIn_append, countedIn_of_plain fun x => h.balanced.plain_queue,
      Nat.zero_add]
    exact Summary.Tally.counted_summary? h.dated
  show countedIn key variation version (b.taken ++ [b.payload]).flatten + 0 = _
  rw [List.flatten_append, List.flatten_singleton, countedIn_append, hpayload]
  rfl

/-- **Every entry keeps the count.** -/
theorem Books.Counted.step {a : Action} {b c : Books} (h : b.Counted key variation version)
    (hstep : b.Step a c) : c.Counted key variation version := by
  have hbalanced := h.balanced.step hstep
  cases hstep with
  | takesIn running e debugged drawn =>
    refine ⟨hbalanced, h.dated.addEvent e, ?_⟩
    -- the tally counts before the outputs are offered, so room and sampling play no part
    have hone : Stands ((b.tally.addEvent e).counted key variation version) _ :=
      Summary.Tally.stands_addEvent b.tally e
    have hprocessed : (b.processed ++ [e]).countP (fun e => e.countsFor key variation version) =
        b.processed.countP (fun e => e.countsFor key variation version) +
          (e.countsFor key variation version).toNat := by
      rw [List.countP_append, List.countP_singleton]
      cases e.countsFor key variation version <;> rfl
    show Stands (countedIn key variation version b.taken.flatten + _)
        ((b.processed ++ [e]).countP _)
    rw [hprocessed]
    refine ((Stands.refl _).add hone).trans ?_
    rw [← Nat.add_assoc]
    exact h.total.add (.refl _)
  | takesOut running live purpose nonempty =>
    refine ⟨hbalanced, fun _ => rfl, ?_⟩
    rw [h.counted_withdraw]
    exact h.total
  | dropsOut => exact ⟨hbalanced, h.dated, h.total⟩
  | reports => exact ⟨hbalanced, h.dated, h.total⟩
  | forgets => exact ⟨hbalanced, h.dated, h.total⟩
  | begins => exact ⟨hbalanced, h.dated, h.total⟩
  | refuses => exact ⟨hbalanced, h.dated, h.total⟩
  | shutsDown => exact ⟨hbalanced, h.dated, h.total⟩
  | ends => exact ⟨hbalanced, h.dated, h.total⟩
  | stops => exact ⟨hbalanced, h.dated, h.total⟩

/-- **Every evaluation is counted once.**  At every moment of every run, whatever the capacity of
    the queue, the sampling and the answers of the sender: for every flag and every pair of
    variation and version, what the summaries taken out so far and the tally say together stands for
    the number of evaluations of that pair that were taken in and are not excluded from summaries.
    Both agree up to multiples of 2⁶⁴, the size of a counter, and below 2⁶⁴ they are equal. -/
theorem run_counts_evaluations (settings : Settings) (diagnostics : Option Diagnostics)
    (actions : List Action) (key : String) (variation : Option VariationIndex)
    (version : Option UInt64) :
    let p := (start settings diagnostics).run actions
    let counted := (p.taken.flatten.map fun x => x.counted key variation version).sum +
      p.tally.counted key variation version
    let evaluations := p.processed.countP fun e => e.countsFor key variation version
    counted % 2 ^ 64 = evaluations % 2 ^ 64 ∧
      counted ≤ evaluations ∧ (evaluations < 2 ^ 64 → counted = evaluations) := by
  intro p counted evaluations
  have hstart : (start settings diagnostics).books.Counted key variation version :=
    ⟨.start settings diagnostics, fun _ => rfl, .refl _⟩
  have h : p.books.Counted key variation version :=
    books_run (fun _ _ _ _ hstep hb => hb.step hstep) hstart
  exact ⟨h.total.modEq, h.total.le, h.total.eq_of_lt⟩

end FeatureFlags.Processor
