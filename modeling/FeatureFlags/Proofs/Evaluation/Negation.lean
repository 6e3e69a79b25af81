/-
  NEGATION — a clause and the same clause with its negation turned.

  Negation turns an answer about a value, and nothing else.  A clause that names no attribute is
  malformed whether it is negated or not, and a context without the value satisfies neither of the
  two.

  1. **What is known (`matched?`)** — whether a clause fits is known without its negation, and is
     known unless the clause `Lacks` a value to look at (`matched?_eq_none_iff`).
  2. **Turning (`opposite_turned`)** — what is known is told the other way round.
  3. **Segments (`exists_search`)** — negation comes after the search for a segment, so it changes
     neither the faults of the search nor what the search gathers.
  4. **Main result (`negation_exact`).**
-/
import FeatureFlags.Proofs.Evaluation.Run

namespace FeatureFlags

open Evaluation (State)

namespace Clause

variable {c : Clause} {context : Context}

/-- The clause with its negation turned. -/
def flipped (c : Clause) : Clause := { c with negate := !c.negate }

/-- **`c.Lacks context`** — the context has no individual of the clause's kind, or that one has no
    value, or null, where the clause looks. -/
def Lacks (c : Clause) (context : Context) : Prop :=
  ∀ i, context.ofKind? c.kind = some i → i.value? c.reference = none

/-- **Of two answers, exactly one is that it holds**; and both are answers. -/
def Opposite (first second : Except Fault Bool) : Prop :=
  ∃ answer, first = .ok answer ∧ second = .ok !answer

/-! ## What is known -/

/-- Whether a clause fits, its negation aside; none if there is nothing to look at. -/
def matched? (c : Clause) (context : Context) : Option Bool :=
  if c.reference.names = ["kind"] then some (context.kinds.any fun k => c.fits (.text k.name))
  else (c.subject? context).map c.fitsAny

/-- An invalid reference is malformed data, whatever the operator and the context. -/
theorem holds_of_invalid (h : c.reference.isValid = false) :
    c.holds context = .error .malformedFlag := by
  rw [holds, h]
  rfl

/-- **What a clause answers**: what is known, turned if the clause is negated. -/
theorem holds_of_valid (h : c.reference.isValid = true) :
    c.holds context = .ok ((c.matched? context).elim false c.turned) := by
  rw [holds, matched?, h]
  by_cases hkind : c.reference.names = ["kind"]
  · simp [hkind]
  · cases c.subject? context <;> simp [hkind]

/-- What is known does not depend on the negation. -/
theorem matched?_flipped (c : Clause) (context : Context) :
    c.flipped.matched? context = c.matched? context := rfl

/-- A clause has no match to turn around where the context lacks what it reads. -/
theorem matched?_eq_none_iff :
    c.matched? context = none ↔ c.reference.names ≠ ["kind"] ∧ c.Lacks context := by
  rw [matched?]
  by_cases hkind : c.reference.names = ["kind"]
  · simp [hkind]
  · rw [if_neg hkind, Option.map_eq_none_iff, subject?, Option.bind_eq_none_iff]
    exact (and_iff_right hkind).symm

/-! ## Turning -/

/-- Negation turns a known match around. -/
theorem opposite_turned (c : Clause) (known : Bool) :
    Opposite (.ok (c.turned known)) (.ok (c.flipped.turned known)) := by
  refine ⟨c.turned known, rfl, ?_⟩
  rw [turned, turned, flipped]
  cases c.negate <;> cases known <;> rfl

/-- No answer is the opposite of itself. -/
theorem not_opposite_self {answer : Except Fault Bool} : ¬ Opposite answer answer := by
  rintro ⟨known, hfirst, hsecond⟩
  rw [hfirst] at hsecond
  cases known <;> exact absurd hsecond nofun

end Clause

/-! ## Segments -/

namespace Evaluator

variable {c : Clause} {context : Context} {isMember : String → Evaluation Bool} {s : State}

/-- A clause about anything but segments needs no search. -/
theorem runFrom_clauseHolds_of_ne (h : c.op ≠ .segmentMatch) :
    (clauseHolds context isMember c).runFrom s = (c.holds context, s) := by
  rw [clauseHolds, if_neg h, Evaluation.runFrom_ofExcept]

/-- A clause about segments turns what the search gives. -/
theorem runFrom_clauseHolds_of_segmentMatch (h : c.op = .segmentMatch) :
    (clauseHolds context isMember c).runFrom s =
      let search := ((c.values.filterMap Document.text?).anyM isMember).runFrom s
      (search.1.map c.turned, search.2) := by
  rw [clauseHolds, if_pos h, Evaluation.runFrom_bind]
  rcases ((c.values.filterMap Document.text?).anyM isMember).runFrom s with ⟨fault | found, t⟩
  · rfl
  · rfl

/-- **The search knows nothing of the negation**, and so what it gives is turned or not. -/
theorem exists_search (h : c.op = .segmentMatch) : ∃ (found : Except Fault Bool) (t : State),
    (clauseHolds context isMember c).runFrom s = (found.map c.turned, t) ∧
    (clauseHolds context isMember c.flipped).runFrom s = (found.map c.flipped.turned, t) :=
  have hflipped : c.flipped.op = .segmentMatch := h
  ⟨_, _, runFrom_clauseHolds_of_segmentMatch h, runFrom_clauseHolds_of_segmentMatch hflipped⟩

end Evaluator

/-! ## Main result -/

namespace Clause

/-- The two answers of a clause that is not about segments. -/
theorem answers_flipped (c : Clause) (context : Context) :
    (c.reference.isValid = false ∧ c.holds context = .error .malformedFlag ∧
      c.flipped.holds context = .error .malformedFlag) ∨
    (c.reference.isValid = true ∧ (c.reference.names ≠ ["kind"] ∧ c.Lacks context) ∧
      c.holds context = .ok false ∧ c.flipped.holds context = .ok false) ∨
    (c.reference.isValid = true ∧ ¬ (c.reference.names ≠ ["kind"] ∧ c.Lacks context) ∧
      Opposite (c.holds context) (c.flipped.holds context)) := by
  have hreference : c.flipped.reference = c.reference := rfl
  cases hvalid : c.reference.isValid with
  | false => exact .inl ⟨rfl, holds_of_invalid hvalid, holds_of_invalid (hreference ▸ hvalid)⟩
  | true =>
    rw [holds_of_valid hvalid, holds_of_valid (hreference ▸ hvalid), matched?_flipped,
      ← matched?_eq_none_iff]
    cases c.matched? context with
    | none => exact .inr (.inl ⟨rfl, rfl, rfl, rfl⟩)
    | some known => exact .inr (.inr ⟨rfl, nofun, opposite_turned c known⟩)

/-- Which of the three it is, told by the reference and the context. -/
theorem answers_flipped_iff (c : Clause) (context : Context) :
    (c.holds context = .error .malformedFlag ∧ c.flipped.holds context = .error .malformedFlag ↔
      c.reference.isValid = false) ∧
    (c.holds context = .ok false ∧ c.flipped.holds context = .ok false ↔
      c.reference.isValid = true ∧ c.reference.names ≠ ["kind"] ∧ c.Lacks context) ∧
    (Opposite (c.holds context) (c.flipped.holds context) ↔
      c.reference.isValid = true ∧ ¬ (c.reference.names ≠ ["kind"] ∧ c.Lacks context)) := by
  rcases answers_flipped c context with ⟨hvalid, hfirst, hsecond⟩ |
    ⟨hvalid, hlacks, hfirst, hsecond⟩ |
    ⟨hvalid, happlies, hopposite⟩
  · rw [hfirst, hsecond, hvalid]
    exact ⟨iff_of_true ⟨rfl, rfl⟩ rfl, iff_of_false nofun nofun,
      iff_of_false not_opposite_self nofun⟩
  · rw [hfirst, hsecond, hvalid]
    exact ⟨iff_of_false nofun nofun, iff_of_true ⟨rfl, rfl⟩ ⟨rfl, hlacks⟩,
      iff_of_false not_opposite_self fun h => h.2 hlacks⟩
  · refine ⟨iff_of_false (fun h => ?_) (hvalid ▸ nofun),
      iff_of_false (fun h => ?_) fun h => happlies h.2,
      iff_of_true hopposite ⟨hvalid, happlies⟩⟩
    all_goals
      rw [h.1, h.2] at hopposite
      exact not_opposite_self hopposite

/-- **Negation is exact where a clause applies, and absent where it does not.**  Compare a clause
    with the same clause with its negation turned.

    - Of a clause that is not about segments, both are malformed just if the reference is invalid;
      both do not hold just if the reference is valid, is not exactly `kind`, and finds no value;
      and in all other cases exactly one of the two holds.  Evaluations take these answers, and
      gather nothing.
    - Of a clause about segments, from one and the same state, both end with one and the same fault,
      or exactly one of them holds, and both leave the same state. -/
theorem negation_exact (c : Clause) :
    (c.op ≠ .segmentMatch → ∀ context : Context,
      (c.holds context = .error .malformedFlag ∧ c.flipped.holds context = .error .malformedFlag ↔
        c.reference.isValid = false) ∧
      (c.holds context = .ok false ∧ c.flipped.holds context = .ok false ↔
        c.reference.isValid = true ∧ c.reference.names ≠ ["kind"] ∧ c.Lacks context) ∧
      (Opposite (c.holds context) (c.flipped.holds context) ↔
        c.reference.isValid = true ∧ ¬ (c.reference.names ≠ ["kind"] ∧ c.Lacks context)) ∧
      ∀ (e : Evaluator) (met : List String) (s : State),
        (Evaluator.clauseHolds context (e.inSegment context met) c).runFrom s =
          (c.holds context, s) ∧
        (Evaluator.clauseHolds context (e.inSegment context met) c.flipped).runFrom s =
          (c.flipped.holds context, s)) ∧
    (c.op = .segmentMatch → ∀ (e : Evaluator) (context : Context) (met : List String) (s : State),
      let first := (Evaluator.clauseHolds context (e.inSegment context met) c).runFrom s
      let second := (Evaluator.clauseHolds context (e.inSegment context met) c.flipped).runFrom s
      ((∃ fault, first.1 = .error fault ∧ second.1 = .error fault) ∨ Opposite first.1 second.1) ∧
      first.2 = second.2) := by
  refine ⟨fun hop context => ?_, fun hop e context met s => ?_⟩
  · obtain ⟨hmalformed, hneither, hopposite⟩ := answers_flipped_iff c context
    exact ⟨hmalformed, hneither, hopposite, fun _ _ _ =>
      ⟨Evaluator.runFrom_clauseHolds_of_ne hop, Evaluator.runFrom_clauseHolds_of_ne hop⟩⟩
  · obtain ⟨found, t, hfirst, hsecond⟩ := Evaluator.exists_search hop
    rw [hfirst, hsecond]
    cases found with
    | error fault => exact ⟨.inl ⟨fault, rfl, rfl⟩, rfl⟩
    | ok found => exact ⟨.inr (opposite_turned c found), rfl⟩

/-- A user of the core team, whose country is not known. -/
def colleague : Context := .single ⟨.user, "a", none, false, none, [("team", .text "core")], []⟩

/-- Clauses about a team and about a country, and one about a segment. -/
theorem negation_exact_colleague :
    let team : Clause := ⟨some .user, "team", .isIn, [.text "core"], false⟩
    let country : Clause := { team with attributeName := "country" }
    let club : Clause := { team with op := .segmentMatch, values := [.text "club"] }
    team.op ≠ .segmentMatch ∧ Opposite (team.holds colleague) (team.flipped.holds colleague) ∧
    country.op ≠ .segmentMatch ∧
    (country.holds colleague = .ok false ∧ country.flipped.holds colleague = .ok false) ∧
    club.op = .segmentMatch ∧ ∀ (e : Evaluator) (met : List String) (s : State),
      ((Evaluator.clauseHolds colleague (e.inSegment colleague met) club).runFrom s).2 =
        ((Evaluator.clauseHolds colleague
          (e.inSegment colleague met) club.flipped).runFrom s).2 := by
  intro team country club
  have hteam : team.op ≠ .segmentMatch := by decide
  have hcountry : country.op ≠ .segmentMatch := by decide
  have hlacks : country.Lacks colleague := by
    intro i hi
    cases hi
    decide +kernel
  have happlies : ¬ (team.reference.names ≠ ["kind"] ∧ team.Lacks colleague) := by
    rintro ⟨-, hnone⟩
    exact absurd (hnone _ rfl) (by decide +kernel)
  refine ⟨hteam,
    ((negation_exact team).1 hteam colleague).2.2.1.2 ⟨by decide +kernel, happlies⟩, hcountry,
    ((negation_exact country).1 hcountry colleague).2.1.2
      ⟨by decide +kernel, by decide +kernel, hlacks⟩, rfl, ?_⟩
  exact fun e met s => ((negation_exact club).2 rfl e colleague met s).2

end Clause

end FeatureFlags
