/-
  RUNS OF EVALUATIONS — what an evaluation gives from a state, and the state it leaves.

  1. **Equations** — how `runFrom` goes through the steps of an evaluation.
  2. **Inversion** — a sequence that gives a result has given one at each of its two steps
     (`runFrom_bind_eq_ok`).
  3. **Results without fault** — `Gives x Q`: from EVERY state, `x` ends without fault and its
     result satisfies `Q`.  It goes through sequences and through walks over lists, so that a whole
     evaluation gives a result as soon as its steps do.
  4. **Telling** — what is told of an evaluation on its way: a list that depends on the state in
     which it starts.  A sequence tells what its steps tell, as far as it gets (`toldInTurn`), and
     so does a walk over a list (`toldAny`, `toldAll`).
  5. **In turn** — a walk over a list goes on while the items give one answer, and ends at the first
     one that gives the other or a fault (`runFrom_anyM_iff`, `runFrom_allM_iff`).
-/
import FeatureFlags.Evaluation.Flag

namespace FeatureFlags.Evaluation

variable {α β ι : Type}

/-! ## Equations -/

@[simp] theorem runFrom_pure (a : α) (s : State) :
    (pure a : Evaluation α).runFrom s = (.ok a, s) := rfl

@[simp] theorem runFrom_throw (fault : Fault) (s : State) :
    (throw fault : Evaluation α).runFrom s = (.error fault, s) := rfl

@[simp] theorem runFrom_stop (entry : LogEntry) (s : State) :
    (stop entry : Evaluation α).runFrom s
      = (.error .malformedFlag, { s with log := s.log ++ [entry] }) := rfl

@[simp] theorem runFrom_get (s : State) : (get : Evaluation State).runFrom s = (.ok s, s) := rfl

@[simp] theorem runFrom_note (entry : LogEntry) (s : State) :
    (note entry).runFrom s = (.ok (), { s with log := s.log ++ [entry] }) := rfl

@[simp] theorem runFrom_noteStatus (status : BigSegmentsStatus) (s : State) :
    (noteStatus status).runFrom s
      = (.ok (), { s with status := some (BigSegmentsStatus.merge s.status status) }) := rfl

@[simp] theorem runFrom_noteEvent (event : FeatureEvent) (s : State) :
    (noteEvent event).runFrom s = (.ok (), { s with events := s.events ++ [event] }) := rfl

/-- A pure outcome leaves the state as it is. -/
@[simp] theorem runFrom_ofExcept (r : Except Fault α) (s : State) :
    (ofExcept r).runFrom s = (r, s) := by
  cases r <;> rfl

/-- A run of two steps is the run of the first and, from the state it leaves, the run of the second;
    after a fault the second is not run. -/
theorem runFrom_bind (x : Evaluation α) (f : α → Evaluation β) (s : State) :
    (x >>= f).runFrom s =
      match x.runFrom s with
      | (.ok a, t) => (f a).runFrom t
      | (.error fault, t) => (.error fault, t) := by
  show StateT.run (ExceptT.run (x >>= f)) s = _
  rw [ExceptT.run_bind, StateT.run_bind]
  unfold runFrom
  rcases StateT.run (ExceptT.run x) s with ⟨a | fault, t⟩ <;> rfl

theorem runFrom_bind_of_ok {x : Evaluation α} {f : α → Evaluation β} {s t : State} {a : α}
    (h : x.runFrom s = (.ok a, t)) : (x >>= f).runFrom s = (f a).runFrom t := by
  rw [runFrom_bind, h]

theorem runFrom_bind_of_error {x : Evaluation α} {f : α → Evaluation β} {s t : State}
    {fault : Fault} (h : x.runFrom s = (.error fault, t)) :
    (x >>= f).runFrom s = (.error fault, t) := by
  rw [runFrom_bind, h]

/-- A membership that was looked up before is at hand. -/
theorem runFrom_membership_of_some {e : Evaluator} {b : BigSegments} {key : String} {s : State}
    {membership : Option BigSegments.Membership}
    (h : Entries.get? key s.memberships = some membership) :
    (e.membership b key).runFrom s = (.ok membership, s) := by
  rw [Evaluator.membership, runFrom_bind_of_ok (runFrom_get s), h]
  rfl

/-- The state after a membership was looked up in the outside store. -/
def State.afterLookUp (s : State) (key : String)
    (found : (Option BigSegments.Membership × BigSegmentsStatus) × BigSegments.Session) : State :=
  { s with
    memberships := Entries.insert key found.1.1 s.memberships
    status := some (BigSegmentsStatus.merge s.status found.1.2)
    cache := found.2.cache
    calls := s.calls ++ found.2.calls
    log := s.log ++ found.2.calls.flatMap callEntries }

/-- Any other membership is looked up, and then is at hand. -/
theorem runFrom_membership_of_none {e : Evaluator} {b : BigSegments} {key : String} {s : State}
    (h : Entries.get? key s.memberships = none) :
    (e.membership b key).runFrom s =
      (.ok ((b.membershipOf e.clock key).run ⟨s.cache, []⟩).1.1,
        s.afterLookUp key ((b.membershipOf e.clock key).run ⟨s.cache, []⟩)) := by
  rw [Evaluator.membership, runFrom_bind_of_ok (runFrom_get s), h]
  rfl

/-! ## Inversion -/

/-- **A sequence gives a result exactly if both of its steps do.** -/
theorem runFrom_bind_eq_ok {x : Evaluation α} {f : α → Evaluation β} {s t : State} {b : β} :
    (x >>= f).runFrom s = (.ok b, t) ↔
      ∃ a u, x.runFrom s = (.ok a, u) ∧ (f a).runFrom u = (.ok b, t) := by
  rw [runFrom_bind]
  rcases x.runFrom s with ⟨fault | a, u⟩
  · simp
  · constructor
    · intro h
      exact ⟨a, u, rfl, h⟩
    · rintro ⟨a', u', hx, h⟩
      cases hx
      exact h

/-! ## Results without fault -/

/-- `Gives x Q` — from every state, `x` ends without fault, and its result satisfies `Q`. -/
def Gives (x : Evaluation α) (Q : α → Prop) : Prop :=
  ∀ s, ∃ a t, x.runFrom s = (.ok a, t) ∧ Q a

namespace Gives

variable {x : Evaluation α} {Q : α → Prop}

theorem pure {a : α} (h : Q a) : Gives (Pure.pure a) Q := fun s => ⟨a, s, rfl, h⟩

theorem bind {f : α → Evaluation β} {Q' : β → Prop} (hx : Gives x Q)
    (hf : ∀ a, Q a → Gives (f a) Q') : Gives (x >>= f) Q' := by
  intro s
  obtain ⟨a, t, hrun, ha⟩ := hx s
  rw [runFrom_bind_of_ok hrun]
  exact hf a ha t

theorem mono {Q' : α → Prop} (hx : Gives x Q) (h : ∀ a, Q a → Q' a) : Gives x Q' := by
  intro s
  obtain ⟨a, t, hrun, ha⟩ := hx s
  exact ⟨a, t, hrun, h a ha⟩

theorem ofExcept {r : Except Fault α} (h : ∃ a, r = .ok a ∧ Q a) :
    Gives (Evaluation.ofExcept r) Q := by
  intro s
  obtain ⟨a, rfl, ha⟩ := h
  exact ⟨a, s, rfl, ha⟩

/-- A search by steps that give an answer gives an answer, by induction on the list. -/
theorem anyM {p : ι → Evaluation Bool} :
    ∀ {l : List ι}, (∀ i ∈ l, Gives (p i) fun _ => True) → Gives (l.anyM p) fun _ => True
  | [], _ => Gives.pure trivial
  | i :: l, h => by
    rw [List.anyM_cons]
    refine Gives.bind (h i (List.mem_cons_self ..)) fun found _ => ?_
    cases found with
    | true => exact Gives.pure trivial
    | false => exact Gives.anyM fun j hj => h j (List.mem_cons_of_mem _ hj)

theorem allM {p : ι → Evaluation Bool} :
    ∀ {l : List ι}, (∀ i ∈ l, Gives (p i) fun _ => True) → Gives (l.allM p) fun _ => True
  | [], _ => Gives.pure trivial
  | i :: l, h => by
    rw [List.allM_cons]
    refine Gives.bind (h i (List.mem_cons_self ..)) fun holds _ => ?_
    cases holds with
    | true => exact Gives.allM fun j hj => h j (List.mem_cons_of_mem _ hj)
    | false => exact Gives.pure trivial

end Gives

/-! ## Telling -/

section Telling

variable {τ : Type}

/-- What a sequence tells: what its first step does, and what the second does if it is reached. -/
def toldInTurn (x : Evaluation α) (told : State → List τ) (next : α → State → List τ) (s : State) :
    List τ :=
  told s ++
    match x.runFrom s with
    | (.ok a, t) => next a t
    | (.error _, _) => []

/-- What a walk tells that ends at the first item found. -/
def toldAny (p : ι → Evaluation Bool) (told : ι → State → List τ) : List ι → State → List τ
  | [] => fun _ => []
  | i :: l => toldInTurn (p i) (told i) fun found =>
    match found with
    | true => fun _ => []
    | false => toldAny p told l

/-- What a walk tells that ends at the first item that does not hold. -/
def toldAll (p : ι → Evaluation Bool) (told : ι → State → List τ) : List ι → State → List τ
  | [] => fun _ => []
  | i :: l => toldInTurn (p i) (told i) fun holds =>
    match holds with
    | true => toldAll p told l
    | false => fun _ => []

end Telling

/-! ## In turn -/

section InTurn

variable {R : ι → State → Except Fault Bool × State → Prop} {answer : Bool}

/-- **Items pass**: each of them gives the same answer, from the state that the one before it has
    left.  `R` says of every item what comes of it from a state. -/
inductive Pass (R : ι → State → Except Fault Bool × State → Prop)
    (answer : Bool) : List ι → State → State → Prop
  | nil {s} : Pass R answer [] s s
  | cons {i l s t u} : R i s (.ok answer, t) → Pass R answer l t u → Pass R answer (i :: l) s u

/-- **What comes of items in turn**: they all pass, or those pass that stand before the first one of
    which comes something else. -/
def InTurn (R : ι → State → Except Fault Bool × State → Prop) (answer : Bool) (l : List ι)
    (s : State) (r : Except Fault Bool × State) : Prop :=
  (r.1 = .ok answer ∧ Pass R answer l s r.2) ∨
    ∃ before i after t, l = before ++ i :: after ∧ Pass R answer before s t ∧
      R i t r ∧ r.1 ≠ .ok answer

theorem inTurn_nil_iff {s : State} {r : Except Fault Bool × State} :
    InTurn R answer [] s r ↔ (.ok answer, s) = r := by
  constructor
  · rintro (⟨hr, hpass⟩ | ⟨before, i, after, t, hsplit, -⟩)
    · cases hpass
      exact Prod.ext hr.symm rfl
    · exact absurd hsplit.symm (List.append_ne_nil_of_right_ne_nil _ (List.cons_ne_nil _ _))
  · rintro rfl
    exact .inl ⟨rfl, .nil⟩

/-- The first item passes and the others are next, or it is the one that ends the walk. -/
theorem inTurn_cons_iff {i : ι} {l : List ι} {s : State} {r : Except Fault Bool × State} :
    InTurn R answer (i :: l) s r ↔
      (∃ t, R i s (.ok answer, t) ∧ InTurn R answer l t r) ∨ (R i s r ∧ r.1 ≠ .ok answer) := by
  constructor
  · -- whether all pass or one stops, it shows at the first element
    rintro (⟨hr, hpass⟩ | ⟨before, j, after, t, hsplit, hpass, hj, hne⟩)
    · cases hpass with
      | cons hi hrest => exact .inl ⟨_, hi, .inl ⟨hr, hrest⟩⟩
    · cases hpass with
      | nil =>
        obtain ⟨rfl, -⟩ := List.cons.inj hsplit
        exact .inr ⟨hj, hne⟩
      | cons hi hrest =>
        obtain ⟨rfl, hl⟩ := List.cons.inj hsplit
        exact .inl ⟨_, hi, .inr ⟨_, j, after, t, hl, hrest, hj, hne⟩⟩
  · rintro (⟨t, hi, ⟨hr, hpass⟩ | ⟨before, j, after, u, rfl, hpass, hj, hne⟩⟩ | ⟨hi, hne⟩)
    · exact .inl ⟨hr, .cons hi hpass⟩
    · exact .inr ⟨i :: before, j, after, u, rfl, .cons hi hpass, hj, hne⟩
    · exact .inr ⟨[], i, l, s, rfl, .nil, hi, hne⟩

/-- One step of a walk. -/
theorem runFrom_goOn_iff {x rest : Evaluation Bool} {i : ι} {l : List ι} {s : State}
    (hx : ∀ s r, x.runFrom s = r ↔ R i s r)
    (hrest : ∀ s r, rest.runFrom s = r ↔ InTurn R answer l s r) (r : Except Fault Bool × State) :
    (x >>= fun b => if b = answer then rest else pure b).runFrom s = r ↔
      InTurn R answer (i :: l) s r := by
  rw [inTurn_cons_iff, ← hx]
  simp only [← hx, ← hrest]
  rcases hrun : x.runFrom s with ⟨fault | b, t⟩
  · -- a fault ends the search
    rw [runFrom_bind_of_error hrun]
    constructor
    · rintro rfl
      exact .inr ⟨rfl, nofun⟩
    · rintro (⟨u, hu, -⟩ | ⟨rfl, -⟩)
      · cases hu
      · rfl
  · rw [runFrom_bind_of_ok hrun]
    by_cases hb : b = answer
    · -- the answer that goes on
      subst hb
      rw [if_pos rfl]
      constructor
      · exact fun hr => .inl ⟨t, rfl, hr⟩
      · rintro (⟨u, hu, hr⟩ | ⟨rfl, hne⟩)
        · cases hu
          exact hr
        · exact absurd rfl hne
    · -- the answer that ends the search
      rw [if_neg hb]
      constructor
      · rintro rfl
        exact .inr ⟨rfl, fun h => hb (Except.ok.inj h)⟩
      · rintro (⟨u, hu, -⟩ | ⟨rfl, -⟩)
        · cases hu
          exact absurd rfl hb
        · rfl

variable {p : ι → Evaluation Bool} (hp : ∀ i s r, (p i).runFrom s = r ↔ R i s r)

include hp

/-- **A search ends at the first item found**, or at a fault. -/
theorem runFrom_anyM_iff {l : List ι} {s : State} {r : Except Fault Bool × State} :
    (l.anyM p).runFrom s = r ↔ InTurn R false l s r := by
  induction l generalizing s r with
  | nil => exact inTurn_nil_iff.symm
  | cons i l ih =>
    have hstep : (i :: l).anyM p = p i >>= fun b => if b = false then l.anyM p else pure b := by
      rw [List.anyM_cons]
      congr 1
      funext b
      cases b <;> rfl
    rw [hstep]
    exact runFrom_goOn_iff (hp i) (fun _ _ => ih) r

/-- **A check ends at the first item that does not hold**, or at a fault. -/
theorem runFrom_allM_iff {l : List ι} {s : State} {r : Except Fault Bool × State} :
    (l.allM p).runFrom s = r ↔ InTurn R true l s r := by
  induction l generalizing s r with
  | nil => exact inTurn_nil_iff.symm
  | cons i l ih =>
    have hstep : (i :: l).allM p = p i >>= fun b => if b = true then l.allM p else pure b := by
      rw [List.allM_cons]
      congr 1
      funext b
      cases b <;> rfl
    rw [hstep]
    exact runFrom_goOn_iff (hp i) (fun _ _ => ih) r

end InTurn

end FeatureFlags.Evaluation
