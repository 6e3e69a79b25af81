/-
  RECALLING — an evaluation repeated.

  An evaluation looks a membership up at most once; from then on the answer is at hand.  So an
  evaluation that is carried out AGAIN, from a state that remembers what it found the first time,
  gives the same result and finds nothing new (`Recalls`), however often the outside store has
  changed its mind meanwhile.  What an evaluation found out on its way can therefore be asked of the
  state in which it ends.
-/
import FeatureFlags.Proofs.Evaluation.Stepwise

namespace FeatureFlags.Evaluation

/-- `t.Remembers s` — every membership at hand in `s` is at hand in `t`. -/
def State.Remembers (t s : State) : Prop :=
  ∀ key membership, Entries.get? key s.memberships = some membership →
    Entries.get? key t.memberships = some membership

namespace State.Remembers

theorem refl (s : State) : s.Remembers s := fun _ _ h => h

theorem trans {s t u : State} (hut : u.Remembers t) (hts : t.Remembers s) : u.Remembers s :=
  fun key membership h => hut key membership (hts key membership h)

theorem of_eq {s t : State} (h : t.memberships = s.memberships) : t.Remembers s :=
  fun _ _ hget => h ▸ hget

end State.Remembers

/-- `Recalls x` — `x` forgets no membership, and repeating it from a state that remembers all that
    it found gives the same result without finding anything new. -/
def Recalls {α : Type} (x : Evaluation α) : Prop :=
  ∀ s, (x.runFrom s).2.Remembers s ∧
    ∀ t : State, t.Remembers (x.runFrom s).2 →
      (x.runFrom t).1 = (x.runFrom s).1 ∧ (x.runFrom t).2.memberships = t.memberships

/-- What leaves all memberships alone, with a result that does not depend on the state, recalls. -/
theorem Recalls.of_steady {α : Type} {x : Evaluation α} (result : Except Fault α)
    (h : ∀ s, (x.runFrom s).1 = result ∧ (x.runFrom s).2.memberships = s.memberships) :
    Recalls x := by
  intro s
  refine ⟨State.Remembers.of_eq (h s).2, fun t _ => ⟨?_, (h t).2⟩⟩
  rw [(h t).1, (h s).1]

theorem Recalls.bind {α β : Type} {x : Evaluation α} {f : α → Evaluation β} (hx : Recalls x)
    (hf : ∀ a, Recalls (f a)) : Recalls (x >>= f) := by
  intro s
  obtain ⟨hkeep, hagain⟩ := hx s
  rcases hrun : x.runFrom s with ⟨fault | a, u⟩
  · rw [hrun] at hkeep hagain
    rw [runFrom_bind_of_error hrun]
    refine ⟨hkeep, fun t ht => ?_⟩
    have hrepeat := hagain t ht
    rcases hrun' : x.runFrom t with ⟨result, t'⟩
    rw [hrun'] at hrepeat
    obtain ⟨rfl, hmemberships⟩ := hrepeat
    rw [runFrom_bind_of_error hrun']
    exact ⟨rfl, hmemberships⟩
  · rw [hrun] at hkeep hagain
    rw [runFrom_bind_of_ok hrun]
    obtain ⟨hkeep', hagain'⟩ := hf a u
    refine ⟨hkeep'.trans hkeep, fun t ht => ?_⟩
    have hrepeat := hagain t (ht.trans hkeep')
    rcases hrun' : x.runFrom t with ⟨result, t'⟩
    rw [hrun'] at hrepeat
    obtain ⟨rfl, hmemberships⟩ := hrepeat
    rw [runFrom_bind_of_ok hrun']
    -- the first step of the repetition finds nothing new, so the second one starts as well informed
    have hremembers : t'.Remembers ((f a).runFrom u).2 :=
      (State.Remembers.of_eq hmemberships).trans ht
    obtain ⟨hresult', hmemberships'⟩ := hagain' t' hremembers
    exact ⟨hresult', hmemberships'.trans hmemberships⟩

/-- A membership is looked up among those that were read, and added to them only if it is
    missing. -/
theorem recalls_membership (e : Evaluator) (b : BigSegments) (key : String) :
    Recalls (e.membership b key) := by
  intro s
  cases hs : Entries.get? key s.memberships with
  | some membership =>
    -- a membership at hand is used again, by whoever still has it
    rw [runFrom_membership_of_some hs]
    refine ⟨State.Remembers.refl s, fun t ht => ?_⟩
    rw [runFrom_membership_of_some (ht key membership hs)]
    exact ⟨rfl, rfl⟩
  | none =>
    rw [runFrom_membership_of_none hs]
    constructor
    · -- what is added is a membership of a new key, so the others are still there
      intro other membership hother
      have hne : key ≠ other := by
        rintro rfl
        rw [hs] at hother
        cases hother
      exact (Entries.get?_insert key other _ _).trans ((if_neg hne).trans hother)
    · intro t ht
      have hfound := ht key _ ((Entries.get?_insert key key _ _).trans (if_pos rfl))
      rw [runFrom_membership_of_some hfound]
      exact ⟨rfl, rfl⟩

/-- Recalling goes through the steps of evaluations. -/
theorem stepwise_recalls : Stepwise fun _ x _ => Recalls x where
  pure a := Recalls.of_steady (.ok a) fun _ => ⟨rfl, rfl⟩
  throw := Recalls.of_steady (.error .malformedFlag) fun _ => ⟨rfl, rfl⟩
  note _ := Recalls.of_steady (.ok ()) fun _ => ⟨rfl, rfl⟩
  noteStatus _ := Recalls.of_steady (.ok ()) fun _ => ⟨rfl, rfl⟩
  bind hx hf := hx.bind hf

/-- Segments and flags are evaluated by such steps at every level. -/
theorem alike_recalls (e : Evaluator) : Evaluator.Alike (fun _ x _ => Recalls x) .all e e where
  store := .all e.store
  bigSegments := rfl
  membership b _ key := recalls_membership e b key

/-- **Memberships in segments are recalled.** -/
theorem recalls_inSegment (e : Evaluator) (context : Context) (met : List String)
    (name : String) : Recalls (e.inSegment context met name) :=
  stepwise_recalls.inSegment (alike_recalls e) (.refl _ _ context) met name trivial

theorem recalls_ruleMatches (e : Evaluator) (context : Context) (r : FlagRule) :
    Recalls (Evaluator.ruleMatches context (e.inSegment context []) r) := by
  have hmember : ∀ c ∈ r.clauses, ∀ name ∈ c.segmentNames, Recalls (e.inSegment context [] name) :=
    fun _ _ name _ => recalls_inSegment e context [] name
  have hsame : ∀ c ∈ r.clauses, c.SeesAlike context context := fun c _ => .refl c context
  exact @Stepwise.ruleMatches _ stepwise_recalls context context _
    (e.inSegment context []) r hsame hmember

end FeatureFlags.Evaluation
