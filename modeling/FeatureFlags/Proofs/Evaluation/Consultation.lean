/-
  CONSULTATIONS — what an evaluation asks about big segments, and what it is told.

  1. **Consultation** — an arrival at an unbounded segment whose lists do not decide, for a context
     that has the segment's kind.  Its membership is at hand (`recalled`), or is `asked` for, or
     cannot be asked for (`unconfigured`).  A consultation says what the segment decides and what is
     found out.
  2. **Coherence** — a list of consultations is `Coherent` if it recalls exactly what was asked
     before.  Then no key is asked for twice, and one membership is seen for each key.
  3. **The crux (`Leads.coherent`)** — the consultations along the arrivals of an evaluation are
     coherent, and what it has found out in the end is due to them alone.
  4. **Main result** (`evaluate_asks_once`) — the calls of an evaluation are those of its
     consultations, and no two of them ask for the memberships of one key.
-/
import FeatureFlags.Proofs.BigSegments.Calls
import FeatureFlags.Proofs.Evaluation.Arrival

namespace FeatureFlags

open BigSegments (Membership Call contextHash generationName)
open Evaluation (State Findings)

/-! ## Consultations -/

namespace Segment

/-- **The key that a segment is consulted for**: that of the context's individual of the segment's
    kind, if the segment is unbounded and its lists do not decide. -/
def consultedKey? (s : Segment) (context : Context) : Option String :=
  match s.listed? context with
  | some _ => none
  | none =>
    if s.unbounded then
      (context.ofKind? (s.unboundedContextKind.getD Kind.user)).map (·.key)
    else none

/-- What a membership says about the segment; none if it has no entry for its generation. -/
def entry? (s : Segment) (membership : Option Membership) : Option Bool :=
  s.generation.bind fun generation =>
    membership.bind (Entries.get? (generationName s.key generation))

end Segment

/-- **A consultation** of an unbounded segment. -/
inductive Consultation where
  /-- There is no generation to look for, or no store to look in. -/
  | unconfigured
  /-- The membership of the key is at hand. -/
  | recalled (key : String) (membership : Option Membership)
  /-- The membership of the key is looked up. -/
  | asked (key : String) (membership : Option Membership) (status : BigSegmentsStatus)
      (calls : List Call)

namespace Consultation

/-- The key whose membership a segment is decided by. -/
def key? : Consultation → Option String
  | unconfigured => none
  | recalled key _ => some key
  | asked key .. => some key

/-- The key whose membership is looked up. -/
def askedKey? : Consultation → Option String
  | asked key .. => some key
  | _ => none

def membership : Consultation → Option Membership
  | unconfigured => none
  | recalled _ membership => membership
  | asked _ membership .. => membership

def calls : Consultation → List Call
  | asked _ _ _ calls => calls
  | _ => []

/-- The status that a consultation adds to those met. -/
def noted? : Consultation → Option BigSegmentsStatus
  | unconfigured => some .notConfigured
  | recalled .. => none
  | asked _ _ status _ => some status

/-- What a segment decides when it is consulted; none if it goes on to its rules. -/
def verdict (s : Segment) : Consultation → Option Bool
  | unconfigured => some false
  | recalled _ membership => s.entry? membership
  | asked _ membership .. => s.entry? membership

theorem key?_of_askedKey? {c : Consultation} {key : String} (h : c.askedKey? = some key) :
    c.key? = some key := by
  cases c with
  | asked => exact h
  | _ => cases h

/-- What is found out after a consultation. -/
def extend (found : Findings) : Consultation → Findings
  | unconfigured =>
    { found with status := some (BigSegmentsStatus.merge found.status .notConfigured) }
  | recalled .. => found
  | asked key membership status calls =>
    { memberships := Entries.insert key membership found.memberships
      status := some (BigSegmentsStatus.merge found.status status)
      calls := found.calls ++ calls }

end Consultation

namespace Evaluator

variable (e : Evaluator) (context : Context)

/-- The consultation of a membership that can be asked for. -/
def consult (b : BigSegments) (key : String) (s : State) : Consultation :=
  match Entries.get? key s.memberships with
  | some membership => .recalled key membership
  | none =>
    let found := (b.membershipOf e.clock key).run ⟨s.cache, []⟩
    .asked key found.1.1 found.1.2 found.2.calls

/-- **The consultation at an arrival**, if the segment is consulted there. -/
def consultation? (a : Arrival) : Option Consultation :=
  (a.segment.consultedKey? context).map fun key =>
    match a.segment.generation, e.bigSegments with
    | some _, some b => e.consult b key a.state
    | _, _ => .unconfigured

variable {e context} {a : Arrival} {c : Consultation} {s t : State}

theorem key?_consult (e : Evaluator) (b : BigSegments) (key : String) (s : State) :
    (e.consult b key s).key? = some key := by
  rw [consult]
  cases Entries.get? key s.memberships <;> rfl

/-- A membership that can be had is what the segment is decided by. -/
theorem verdict_consult (e : Evaluator) (b : BigSegments) (key : String) (s : State) (x : Segment) :
    (e.consult b key s).verdict x = x.entry? (e.consult b key s).membership := by
  rw [consult]
  cases Entries.get? key s.memberships <;> rfl

/-- **One lookup**: its membership and what it adds to the findings are told by the consultation. -/
theorem run_membership (e : Evaluator) (b : BigSegments) (key : String) (s : State) :
    ((e.membership b key).runFrom s).1 = .ok (e.consult b key s).membership ∧
      ((e.membership b key).runFrom s).2.findings = (e.consult b key s).extend s.findings := by
  rw [consult]
  cases hget : Entries.get? key s.memberships with
  | some membership =>
    rw [Evaluation.runFrom_membership_of_some hget]
    exact ⟨rfl, rfl⟩
  | none =>
    rw [Evaluation.runFrom_membership_of_none hget]
    exact ⟨rfl, rfl⟩

/-- A segment that is not consulted finds nothing out. -/
theorem quiet_memberBeforeRules? {s : Segment} (h : s.consultedKey? context = none) :
    Evaluation.Quiet (e.memberBeforeRules? context s) := by
  rw [Segment.consultedKey?] at h
  rw [memberBeforeRules?]
  cases hlisted : s.listed? context with
  | some member => exact fun _ => rfl
  | none =>
    cases hunbounded : s.unbounded with
    | false => exact fun _ => rfl
    | true =>
      simp only [hlisted, hunbounded, ↓reduceIte, Option.map_eq_none_iff] at h
      simp only [↓reduceIte, unboundedMember?, h]
      exact fun _ => rfl

/-- A segment that is consulted is decided by the membership of that key, or by none. -/
theorem memberBeforeRules?_of_consultedKey? {s : Segment} {key : String}
    (h : s.consultedKey? context = some key) :
    e.memberBeforeRules? context s =
      match s.generation, e.bigSegments with
      | some _, some b => s.entry? <$> e.membership b key
      | _, _ => (fun _ => some false) <$> Evaluation.noteStatus .notConfigured := by
  rw [Segment.consultedKey?] at h
  rw [memberBeforeRules?]
  cases hlisted : s.listed? context with
  | some member =>
    -- a listed context consults nobody
    rw [hlisted] at h
    cases h
  | none =>
    cases hunbounded : s.unbounded with
    | false =>
      simp only [hlisted, hunbounded] at h
      cases h
    | true =>
      simp only [hlisted, hunbounded, ↓reduceIte, Option.map_eq_some_iff] at h
      obtain ⟨i, hkind, rfl⟩ := h
      simp only [↓reduceIte, unboundedMember?, hkind]
      cases hgeneration : s.generation with
      | none => rfl
      | some generation =>
        cases e.bigSegments with
        | none => rfl
        | some b =>
          simp only [map_eq_pure_bind, Segment.entry?, hgeneration, Option.bind_some]

/-- An arrival consults nobody where the lists or the rules of the segment decide alone. -/
theorem consultation?_eq_none_iff :
    e.consultation? context a = none ↔ a.segment.consultedKey? context = none :=
  Option.map_eq_none_iff

/-- **Where a segment is consulted**, it decides as the consultation says, and that is found out. -/
theorem run_memberBeforeRules? (h : e.consultation? context a = some c) :
    ((e.memberBeforeRules? context a.segment).runFrom a.state).1 = .ok (c.verdict a.segment) ∧
      (a.after e context).findings = c.extend a.state.findings := by
  obtain ⟨key, hkey, rfl⟩ := Option.map_eq_some_iff.1 h
  rw [Arrival.after, memberBeforeRules?_of_consultedKey? hkey]
  cases a.segment.generation with
  | none => exact ⟨rfl, rfl⟩
  | some generation =>
    -- a lookup and nothing after it: its findings are those of the whole step
    cases e.bigSegments with
    | none => exact ⟨rfl, rfl⟩
    | some b =>
      obtain ⟨hresult, hfound⟩ := run_membership e b key a.state
      have hrun : (e.membership b key).runFrom a.state =
          (.ok (e.consult b key a.state).membership, ((e.membership b key).runFrom a.state).2) :=
        Prod.ext hresult rfl
      simp only
      rw [map_eq_pure_bind, Evaluation.runFrom_bind_of_ok hrun, verdict_consult]
      exact ⟨rfl, hfound⟩

end Evaluator

/-! ## Coherence -/

/-- **What is recalled was asked before**, and what was asked, or known from the start, is
    recalled. -/
inductive Coherent : Entries (Option Membership) → List Consultation → Prop
  | nil {known} : Coherent known []
  | unconfigured {known rest} : Coherent known rest → Coherent known (.unconfigured :: rest)
  | recalled {known rest key membership} : Entries.get? key known = some membership →
    Coherent known rest → Coherent known (.recalled key membership :: rest)
  | asked {known rest key membership status calls} : Entries.get? key known = none →
    Coherent (Entries.insert key membership known) rest →
    Coherent known (.asked key membership status calls :: rest)

/-- All consultations of a key go back to one that asked for its membership. -/
def Settles (l : List Consultation) (key : String) : Prop :=
  (∀ c ∈ l, c.key? ≠ some key) ∨
  ∃ membership status calls, .asked key membership status calls ∈ l ∧
    ∀ c ∈ l, c.key? = some key →
      c = .asked key membership status calls ∨ c = .recalled key membership

/-- A consultation of another key does not matter. -/
theorem Settles.cons {l : List Consultation} {key : String} {c : Consultation} (h : Settles l key)
    (hc : c.key? ≠ some key) : Settles (c :: l) key := by
  rcases h with hnone | ⟨membership, status, calls, hasked, hall⟩
  · exact .inl (List.forall_mem_cons.2 ⟨hc, hnone⟩)
  · refine .inr ⟨membership, status, calls, List.mem_cons_of_mem _ hasked, ?_⟩
    exact List.forall_mem_cons.2 ⟨fun hkey => absurd hkey hc, hall⟩

/-- **One membership is seen for each key.** -/
theorem Settles.exists_membership {l : List Consultation} {key : String} (h : Settles l key) :
    ∃ membership, ∀ c ∈ l, c.key? = some key → c.membership = membership := by
  rcases h with hnone | ⟨membership, status, calls, -, hall⟩
  · exact ⟨none, fun c hc hkey => absurd hkey (hnone c hc)⟩
  · refine ⟨membership, fun c hc hkey => ?_⟩
    rcases hall c hc hkey with rfl | rfl
    · rfl
    · rfl

namespace Coherent

variable {known : Entries (Option Membership)} {l : List Consultation} {key : String}
  {membership : Option Membership}

/-- The membership of a key that is known is recalled ever after. -/
theorem eq_recalled (h : Coherent known l) (hknown : Entries.get? key known = some membership) :
    ∀ c ∈ l, c.key? = some key → c = .recalled key membership := by
  induction h with
  | nil => exact fun c hc => absurd hc List.not_mem_nil
  | unconfigured _ ih => exact List.forall_mem_cons.2 ⟨nofun, ih hknown⟩
  | recalled hget _ ih =>
    refine List.forall_mem_cons.2 ⟨fun hkey => ?_, ih hknown⟩
    cases hkey
    rw [hget] at hknown
    rw [Option.some.inj hknown]
  | @asked known _ other _ _ _ hnew _ ih =>
    -- a key that is asked for was not known, so it is another one
    have hne : other ≠ key := by
      rintro rfl
      rw [hnew] at hknown
      cases hknown
    refine List.forall_mem_cons.2 ⟨fun hkey => absurd (Option.some.inj hkey) hne, ih ?_⟩
    rw [Entries.get?_insert, if_neg hne, hknown]

/-- The membership of a key that was asked for is recalled ever after. -/
theorem eq_recalled_of_insert (h : Coherent (Entries.insert key membership known) l) :
    ∀ c ∈ l, c.key? = some key → c = .recalled key membership :=
  h.eq_recalled ((Entries.get?_insert key key membership known).trans (if_pos rfl))

/-- **No key is asked for twice.** -/
theorem nodup_askedKeys (h : Coherent known l) : (l.filterMap (·.askedKey?)).Nodup := by
  induction h with
  | nil => exact List.nodup_nil
  | unconfigured _ ih => exact ih
  | recalled _ _ ih => exact ih
  | asked _ hrest ih =>
    refine List.nodup_cons.2 ⟨fun hagain => ?_, ih⟩
    obtain ⟨c, hc, hasked⟩ := List.mem_filterMap.1 hagain
    rw [hrest.eq_recalled_of_insert c hc (Consultation.key?_of_askedKey? hasked)] at hasked
    cases hasked

/-- **The first consultation of a key asks for its membership**, and all others recall it. -/
theorem settles (h : Coherent known l) (hknown : Entries.get? key known = none) :
    Settles l key := by
  induction h with
  | nil => exact .inl fun c hc => absurd hc List.not_mem_nil
  | unconfigured _ ih => exact (ih hknown).cons nofun
  | @recalled _ _ other _ hget _ ih =>
    have hne : other ≠ key := by
      rintro rfl
      rw [hget] at hknown
      cases hknown
    exact (ih hknown).cons fun hkey => hne (Option.some.inj hkey)
  | @asked known _ other membership status calls _ hrest ih =>
    -- the key itself is asked for, and recalled from then on; or another key is, which leaves it
    -- open
    by_cases hother : other = key
    · subst hother
      refine .inr ⟨membership, status, calls, List.mem_cons_self .., ?_⟩
      refine List.forall_mem_cons.2 ⟨fun _ => .inl rfl, fun c hc hkey => .inr ?_⟩
      exact hrest.eq_recalled_of_insert c hc hkey
    · have hstill : Entries.get? key (Entries.insert other membership known) = none := by
        rw [Entries.get?_insert, if_neg hother, hknown]
      exact (ih hstill).cons fun hkey => hother (Option.some.inj hkey)

end Coherent

/-! ## Consultations along arrivals -/

namespace Evaluator

variable {e : Evaluator} {context : Context} {a : Arrival} {c : Consultation} {s t : State}
  {l : List Arrival}

/-- A consultation is one that cannot be asked for, or one of the segment's key. -/
theorem consultation?_eq_some (h : e.consultation? context a = some c) :
    (c = .unconfigured ∧ (a.segment.generation = none ∨ e.bigSegments = none)) ∨
    ∃ key b, a.segment.consultedKey? context = some key ∧ a.segment.generation ≠ none ∧
      e.bigSegments = some b ∧ c = e.consult b key a.state := by
  obtain ⟨key, hkey, rfl⟩ := Option.map_eq_some_iff.1 h
  cases hgeneration : a.segment.generation with
  | none => exact .inl ⟨rfl, .inl rfl⟩
  | some generation =>
    cases hstore : e.bigSegments with
    | none => exact .inl ⟨rfl, .inr rfl⟩
    | some b => exact .inr ⟨key, b, hkey, nofun, rfl, rfl⟩

/-- A segment with generation is consulted in the store, if there is one. -/
theorem consultation?_of_consultedKey? {key : String} {b : BigSegments}
    (hkey : a.segment.consultedKey? context = some key) (hgeneration : a.segment.generation ≠ none)
    (hstore : e.bigSegments = some b) :
    e.consultation? context a = some (e.consult b key a.state) := by
  obtain ⟨generation, hsome⟩ := Option.ne_none_iff_exists'.1 hgeneration
  rw [consultation?, hkey, hsome, hstore]
  rfl

/-- What is asked for is the membership of that key, with the cache as it is. -/
theorem consult_eq_asked {b : BigSegments} {key other : String} {membership : Option Membership}
    {status : BigSegmentsStatus} {calls : List Call}
    (h : e.consult b key s = .asked other membership status calls) :
    (membership, status) = ((b.membershipOf e.clock key).run ⟨s.cache, []⟩).1 := by
  rw [consult] at h
  cases hget : Entries.get? key s.memberships with
  | some known =>
    rw [hget] at h
    cases h
  | none =>
    rw [hget] at h
    cases h
    rfl

/-- **The calls of a consultation**: at most one for a membership, that of the key.  If it fails,
    none is seen.  The status is that of a store error exactly if a call fails, or the store was
    found unavailable a moment ago. -/
theorem calls_consult (e : Evaluator) (b : BigSegments) (key : String) (s : State) :
    ((e.consult b key s).calls.filterMap Call.hash?).Sublist
        ((e.consult b key s).askedKey?.toList.map contextHash) ∧
      (∀ call ∈ (e.consult b key s).calls, call.hash? ≠ none → call.failure ≠ none →
        (e.consult b key s).membership = none) ∧
      ∀ status, (e.consult b key s).noted? = some status →
        (status = .storeError ↔ BigSegments.SomeFails (e.consult b key s).calls ∨
          b.KeptUnavailable e.clock s.cache) := by
  rw [consult]
  cases Entries.get? key s.memberships with
  | some membership => exact ⟨List.Sublist.refl [], fun _ h => absurd h List.not_mem_nil, nofun⟩
  | none =>
    obtain ⟨made, hcalls, hhashes, hstatus, hfails⟩ :=
      BigSegments.calls_membershipOf b e.clock key ⟨s.cache, []⟩
    rw [List.nil_append] at hcalls
    simp only [Consultation.calls, Consultation.askedKey?, Consultation.membership,
      Consultation.noted?, hcalls]
    refine ⟨hhashes, hfails, ?_⟩
    rintro _ ⟨⟩
    exact hstatus

/-- **A segment that has a key to be consulted for is consulted**, for that key if it can be looked
    up. -/
theorem exists_consultation {key : String} (hkey : a.segment.consultedKey? context = some key) :
    ∃ c, e.consultation? context a = some c ∧
      (c = .unconfigured ↔ a.segment.generation = none ∨ e.bigSegments = none) ∧
      ∀ b, e.bigSegments = some b → ∀ membership status calls,
        c = .asked key membership status calls →
        (membership, status) = ((b.membershipOf e.clock key).run ⟨a.state.cache, []⟩).1 ∧
        (status = .storeError ↔
          BigSegments.SomeFails calls ∨ b.KeptUnavailable e.clock a.state.cache) := by
  by_cases hmissing : a.segment.generation = none ∨ e.bigSegments = none
  · -- no generation or no store: nobody is asked
    refine ⟨.unconfigured, ?_, iff_of_true rfl hmissing, fun _ _ _ _ _ h => nomatch h⟩
    rw [consultation?, hkey]
    rcases hmissing with hgeneration | hstore
    · rw [hgeneration]
      rfl
    · rw [hstore]
      cases a.segment.generation <;> rfl
  · -- else the key is looked up, and a consultation about a key is not the one without
    obtain ⟨hgeneration, hstore⟩ := not_or.1 hmissing
    obtain ⟨b, hb⟩ := Option.ne_none_iff_exists'.1 hstore
    refine ⟨_, consultation?_of_consultedKey? hkey hgeneration hb, ?_, ?_⟩
    · refine iff_of_false (fun hunconfigured => ?_) hmissing
      have hasKey := key?_consult e b key a.state
      rw [hunconfigured] at hasKey
      cases hasKey
    · rintro b' hb' membership status calls hasked
      obtain rfl : b = b' := Option.some.inj (hb.symm.trans hb')
      have hstatus := (calls_consult e b key a.state).2.2 status
      rw [hasked] at hstatus
      exact ⟨consult_eq_asked hasked, hstatus rfl⟩

/-- Coherence goes on where the consultation leads. -/
theorem coherent_cons (h : e.consultation? context a = some c) {rest : List Consultation}
    (hrest : Coherent (c.extend a.state.findings).memberships rest) :
    Coherent a.state.memberships (c :: rest) := by
  rcases consultation?_eq_some h with ⟨rfl, -⟩ | ⟨key, b, -, -, -, rfl⟩
  · exact .unconfigured hrest
  · rw [consult] at hrest ⊢
    cases hget : Entries.get? key a.state.memberships with
    | some membership =>
      rw [hget] at hrest
      exact .recalled hget hrest
    | none =>
      rw [hget] at hrest
      exact .asked hget hrest

/-- **Consultations along arrivals are coherent**, and the findings in the end are due to them
    alone. -/
theorem Leads.coherent (h : e.Leads context s l t) :
    Coherent s.memberships (l.filterMap (e.consultation? context)) ∧
      t.findings =
        (l.filterMap (e.consultation? context)).foldl Consultation.extend s.findings := by
  induction h with
  | done hdone => exact ⟨.nil, hdone⟩
  | @arrive s t a rest hhere _ ih =>
    have hmemberships : a.state.memberships = s.memberships := congrArg Findings.memberships hhere
    cases hconsultation : e.consultation? context a with
    | none =>
      -- an arrival without a consultation finds nothing out
      have hafter : (a.after e context).findings = s.findings :=
        (quiet_memberBeforeRules? (consultation?_eq_none_iff.1 hconsultation) a.state).trans hhere
      have hknown : (a.after e context).memberships = s.memberships :=
        congrArg Findings.memberships hafter
      rw [hafter, hknown] at ih
      rw [List.filterMap_cons_none hconsultation]
      exact ih
    | some c =>
      -- any other extends the findings by its consultation, which what follows knows
      have hafter := (run_memberBeforeRules? hconsultation).2
      have hknown : (a.after e context).memberships = (c.extend a.state.findings).memberships :=
        congrArg Findings.memberships hafter
      rw [hafter, hhere] at ih
      rw [hknown] at ih
      rw [List.filterMap_cons_some hconsultation, List.foldl_cons, ← hmemberships]
      exact ⟨coherent_cons hconsultation ih.1, ih.2⟩

end Evaluator

namespace Consultation

/-- Consultations make their calls one after the other. -/
theorem calls_foldl_extend (l : List Consultation) (found : Findings) :
    (l.foldl extend found).calls = found.calls ++ l.flatMap (·.calls) := by
  induction l generalizing found with
  | nil => exact (List.append_nil _).symm
  | cons c rest ih =>
    have hfirst : (c.extend found).calls = found.calls ++ c.calls := by
      cases c with
      | asked => rfl
      | _ => exact (List.append_nil _).symm
    rw [List.foldl_cons, ih, hfirst, List.append_assoc, List.flatMap_cons]

/-- Memberships are asked for in the order in which their keys are. -/
theorem sublist_askedKeys {l : List Consultation}
    (h : ∀ c ∈ l, (c.calls.filterMap Call.hash?).Sublist (c.askedKey?.toList.map contextHash)) :
    ((l.flatMap (·.calls)).filterMap Call.hash?).Sublist
      ((l.filterMap (·.askedKey?)).map contextHash) := by
  induction l with
  | nil => exact List.Sublist.refl []
  | cons c rest ih =>
    obtain ⟨hfirst, hrest⟩ := List.forall_mem_cons.1 h
    have hkeys : (c :: rest).filterMap (·.askedKey?) =
        c.askedKey?.toList ++ rest.filterMap (·.askedKey?) := by
      rw [List.filterMap_cons]
      cases c.askedKey? <;> rfl
    rw [List.flatMap_cons, List.filterMap_append, hkeys, List.map_append]
    exact hfirst.append (ih hrest)

end Consultation

/-! ## An instance -/

namespace Evaluator

/-- A segment whose members are listed outside. -/
def unboundedSegment (key : String) (generation : Option UInt64) : Segment :=
  { Segment.ofKey key with
    unbounded := true
    generation }

/-- A flag that asks for membership in three segments. -/
def loungeFlag : Flag :=
  { Flag.ofKey "lounge" with
    on := true
    rules :=
      [⟨none, [⟨none, "", .segmentMatch, [.text "gold", .text "silver", .text "bronze"], false⟩],
      ⟨some 1, none⟩, false⟩]
    fallthrough := ⟨some 0, none⟩
    variations := [.bool false, .bool true] }

/-- The segments that `loungeFlag` asks for, of which one has no generation, and a store that
    fails. -/
def loungeEvaluator : Evaluator where
  store := .ofData [] [("bronze", unboundedSegment "bronze" none),
    ("gold", unboundedSegment "gold" (some 1)), ("silver", unboundedSegment "silver" (some 2))]
  bigSegments := some ⟨⟨fun _ _ => .error (.bigSegmentStore "unavailable"), fun _ => .ok none⟩,
    .standard⟩
  clock := ⟨0, 0⟩
  factory := none

def loungeGuest : Context := .single ⟨Kind.user, "a", none, false, none, [], []⟩

/-- Three arrivals in turn: the store is asked and fails, the failure is remembered for the same
    key, and without a generation nobody is asked. -/
theorem loungeConsultations :
    (loungeEvaluator.arrivals loungeGuest maxDepth [] loungeFlag
        (.start (.ofSettings .standard))).filterMap (loungeEvaluator.consultation? loungeGuest) =
      [.asked "a" none .storeError
          [⟨.membership (contextHash "a"), some (.bigSegmentStore "unavailable")⟩],
        .recalled "a" none, .unconfigured] := by
  -- what recurses over the segments of a store does not compute by itself, but its equations do
  have hmember : loungeEvaluator.inSegment loungeGuest [] =
      loungeEvaluator.segmentLevel loungeGuest (loungeEvaluator.inSegment loungeGuest) [] :=
    funext fun name => inSegment_eq loungeEvaluator loungeGuest [] name
  have harrivals : loungeEvaluator.segmentArrivals loungeGuest [] =
      loungeEvaluator.segmentLevelArrivals loungeGuest
        (loungeEvaluator.segmentArrivals loungeGuest) [] :=
    funext fun name => segmentArrivals_eq loungeEvaluator loungeGuest [] name
  rw [maxDepth, arrivals, hmember, harrivals]
  rfl

end Evaluator

/-! ## Main result -/

namespace Evaluator

variable (e : Evaluator) (cache : BigSegments.Cache) (f : Flag) (context : Context)

theorem calls_evaluate :
    (e.evaluate cache f context).calls =
      ((e.check context maxDepth [] f).runFrom (.start cache)).2.calls := by
  rw [evaluate]
  rcases (e.check context maxDepth [] f).runFrom (.start cache) with ⟨fault | d, t⟩ <;> rfl

/-- **Memberships are asked for at most once.**  The calls of an evaluation are those of its
    consultations.  Those for memberships are made for distinct keys, each of them one that a
    segment is consulted for.  All segments that are consulted for a key decide by the same
    membership, be it looked up or at hand; where the call for it failed, by none. -/
theorem evaluate_asks_once :
    let arrivals := e.arrivals context maxDepth [] f (.start cache)
    let consultations := arrivals.filterMap (e.consultation? context)
    let outcome := e.evaluate cache f context
    outcome.calls = consultations.flatMap (·.calls) ∧
    (∃ keys : List String, keys.Nodup ∧
      outcome.calls.filterMap Call.hash? = keys.map contextHash ∧
      ∀ key ∈ keys, ∃ a ∈ arrivals, a.segment.consultedKey? context = some key) ∧
    ∀ key, ∃ membership, ∀ a ∈ arrivals, a.segment.consultedKey? context = some key →
      a.segment.generation ≠ none → e.bigSegments ≠ none →
      ((e.memberBeforeRules? context a.segment).runFrom a.state).1 =
          .ok (a.segment.entry? membership) ∧
        ∃ c, e.consultation? context a = some c ∧ c.membership = membership ∧
          ∀ call ∈ c.calls, call.hash? ≠ none → call.failure ≠ none → membership = none := by
  intro arrivals consultations outcome
  have hleads : e.Leads context (.start cache) arrivals _ := leads_check maxDepth [] f _
  obtain ⟨hcoherent, hfindings⟩ := hleads.coherent
  have hcalls : outcome.calls = consultations.flatMap (·.calls) := by
    rw [show outcome.calls = _ from calls_evaluate e cache f context]
    exact (congrArg Findings.calls hfindings).trans (Consultation.calls_foldl_extend ..)
  -- each consultation calls for its own key at most once, and only if it was asked
  have hsublist := Consultation.sublist_askedKeys (l := consultations) fun c hc => by
    obtain ⟨a, -, hconsultation⟩ := List.mem_filterMap.1 hc
    rcases consultation?_eq_some hconsultation with ⟨rfl, -⟩ | ⟨key, b, -, -, -, rfl⟩
    · exact List.Sublist.refl []
    · exact (calls_consult e b key a.state).1
  obtain ⟨keys, hkeys, hhashes⟩ := List.sublist_map_iff.1 hsublist
  refine ⟨hcalls,
    ⟨keys, hcoherent.nodup_askedKeys.sublist hkeys, hcalls ▸ hhashes, ?_⟩, fun key => ?_⟩
  · intro key hkey
    obtain ⟨c, hc, hasked⟩ := List.mem_filterMap.1 (hkeys.subset hkey)
    obtain ⟨a, ha, hconsultation⟩ := List.mem_filterMap.1 hc
    rcases consultation?_eq_some hconsultation with ⟨rfl, -⟩ | ⟨other, b, hother, -, -, rfl⟩
    · cases hasked
    · have hsame :=
        (key?_consult e b other a.state).symm.trans (Consultation.key?_of_askedKey? hasked)
      exact ⟨a, ha, hother.trans hsame⟩
  · -- of one key, the first consultation found out what all later ones recall
    have hsettles : Settles consultations key := hcoherent.settles rfl
    obtain ⟨membership, hmembership⟩ := hsettles.exists_membership
    refine ⟨membership, fun a ha hkey hgeneration hstore => ?_⟩
    obtain ⟨b, hb⟩ := Option.ne_none_iff_exists'.1 hstore
    have hconsultation := consultation?_of_consultedKey? hkey hgeneration hb
    have hseen := hmembership _ (List.mem_filterMap.2 ⟨a, ha, hconsultation⟩)
      (key?_consult e b key a.state)
    have hverdict := (run_memberBeforeRules? hconsultation).1
    rw [verdict_consult, hseen] at hverdict
    refine ⟨hverdict, _, hconsultation, hseen, fun call hcall hhash hfails => ?_⟩
    exact hseen.symm.trans ((calls_consult e b key a.state).2.1 call hcall hhash hfails)

/-- The outside store fails, and is asked only once. -/
theorem evaluate_asks_once_lounge :
    (loungeEvaluator.evaluate (.ofSettings .standard) loungeFlag loungeGuest).calls =
      [⟨.membership (contextHash "a"), some (.bigSegmentStore "unavailable")⟩] := by
  have hcalls :=
    (evaluate_asks_once loungeEvaluator (.ofSettings .standard) loungeFlag loungeGuest).1
  rw [loungeConsultations] at hcalls
  exact hcalls

end Evaluator

end FeatureFlags
