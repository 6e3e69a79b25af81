/-
  THE WORST STATUS — what an evaluation reports of the big segments that it consulted.

  1. **The worst status** — `IsWorst met reported`: achieved by a status that is met, and dominating
     all of them.  Merging one more status into the worst keeps it the worst.
  2. **Statuses of consultations** — a consultation that looks a membership up has the status that
     it is told.  One that recalls a membership adds no status, but has that of the consultation
     which asked for it; so no status is lost (`exists_hasStatus_iff`).
  3. **Main result** (`evaluate_reports_worst`) — the reason of an evaluation carries the worst
     status of its consultations, and none exactly if there were none.
-/
import Mathlib.Logic.ExistsUnique
import FeatureFlags.Proofs.Evaluation.Consultation

namespace FeatureFlags

open Evaluation (State Findings)

/-! ## The worst status -/

namespace BigSegmentsStatus

/-- **The worst status met**: one that is met, and as severe as any other; none if none is met. -/
def IsWorst (met : BigSegmentsStatus → Prop) : Option BigSegmentsStatus → Prop
  | none => ∀ status, ¬ met status
  | some worst => met worst ∧ ∀ status, met status → status.severity ≤ worst.severity

/-- The worse of two statuses is one of them. -/
theorem worse_eq_or (a b : BigSegmentsStatus) : a.worse b = a ∨ a.worse b = b := by
  rw [worse]
  split
  · exact .inr rfl
  · exact .inl rfl

/-- One more status: the worse of it and the one reported so far is the worst of all. -/
theorem IsWorst.merge {met : BigSegmentsStatus → Prop} {reported : Option BigSegmentsStatus}
    (h : IsWorst met reported) (status : BigSegmentsStatus) :
    IsWorst (fun other => met other ∨ other = status)
      (some (BigSegmentsStatus.merge reported status)) := by
  cases reported with
  | none =>
    -- nothing was met before
    refine ⟨.inr rfl, fun other hother => ?_⟩
    rcases hother with hmet | rfl
    · exact absurd hmet (h other)
    · exact Nat.le_refl _
  | some worst =>
    -- the worse of the two is one of the two, and at least as severe as both
    have hmerge : BigSegmentsStatus.merge (some worst) status = worst.worse status := rfl
    have hseverity := severity_worse worst status
    rw [hmerge]
    refine ⟨?_, fun other hother => ?_⟩
    · rcases worse_eq_or worst status with heq | heq
      · exact .inl (heq.symm ▸ h.1)
      · exact .inr heq
    · rcases hother with hmet | rfl
      · have := h.2 other hmet
        omega
      · omega

/-- The severities are apart, so that there is one worst status only. -/
theorem eq_of_severity_eq {a b : BigSegmentsStatus} (h : a.severity = b.severity) : a = b := by
  cases a <;> cases b <;> first | rfl | cases h

/-- There is only one worst status. -/
theorem IsWorst.eq_some {met : BigSegmentsStatus → Prop} {reported : Option BigSegmentsStatus}
    (h : IsWorst met reported) {worst : BigSegmentsStatus} (hmet : met worst)
    (hall : ∀ status, met status → status.severity ≤ worst.severity) : reported = some worst := by
  cases reported with
  | none => exact absurd hmet (h worst)
  | some other =>
    have hle : other.severity ≤ worst.severity := hall other h.1
    have hge : worst.severity ≤ other.severity := h.2 worst hmet
    rw [eq_of_severity_eq (Nat.le_antisymm hle hge)]

end BigSegmentsStatus

open BigSegmentsStatus (IsWorst)

namespace Consultation

/-- Consultations leave the worst of the statuses met before and of those that they add. -/
theorem isWorst_foldl_extend {met : BigSegmentsStatus → Prop} (l : List Consultation)
    {found : Findings} (h : IsWorst met found.status) :
    IsWorst (fun status => met status ∨ ∃ c ∈ l, c.noted? = some status)
      (l.foldl extend found).status := by
  induction l generalizing met found with
  | nil => simpa using h
  | cons c rest ih =>
    have hfirst : IsWorst (fun status => met status ∨ c.noted? = some status)
        (c.extend found).status := by
      cases c with
      | unconfigured => simpa [noted?, eq_comm, extend] using h.merge .notConfigured
      | recalled => simpa [noted?, extend] using h
      | asked _ _ own _ => simpa [noted?, eq_comm (a := own), extend] using h.merge own
    simpa [or_assoc] using ih hfirst

/-- **The status of a consultation** among others: a membership that is recalled has the status with
    which it was asked for. -/
def HasStatus (l : List Consultation) (status : BigSegmentsStatus) : Consultation → Prop
  | unconfigured => status = .notConfigured
  | recalled key membership => ∃ calls, .asked key membership status calls ∈ l
  | asked _ _ own _ => status = own

/-- Statuses are added where they are not recalled, and these are all statuses there are. -/
theorem exists_hasStatus_iff {l : List Consultation} {status : BigSegmentsStatus} :
    (∃ c ∈ l, c.HasStatus l status) ↔ ∃ c ∈ l, c.noted? = some status := by
  constructor
  · rintro ⟨c, hc, hstatus⟩
    cases c with
    | unconfigured => exact ⟨_, hc, congrArg some hstatus.symm⟩
    | recalled key membership =>
      obtain ⟨calls, hasked⟩ := hstatus
      exact ⟨_, hasked, rfl⟩
    | asked => exact ⟨_, hc, congrArg some hstatus.symm⟩
  · rintro ⟨c, hc, hnoted⟩
    cases c with
    | unconfigured => exact ⟨_, hc, (Option.some.inj hnoted).symm⟩
    | recalled => cases hnoted
    | asked => exact ⟨_, hc, (Option.some.inj hnoted).symm⟩

/-- **Each consultation has one status.** -/
theorem existsUnique_hasStatus {l : List Consultation} (h : Coherent [] l) {c : Consultation}
    (hc : c ∈ l) : ∃! status, c.HasStatus l status := by
  cases c with
  | unconfigured => exact ⟨.notConfigured, rfl, fun _ h => h⟩
  | asked key membership status calls => exact ⟨status, rfl, fun _ h => h⟩
  | recalled key membership =>
    -- what is recalled was asked for once, and has the status of that
    have hsettles : Settles l key := h.settles rfl
    rcases hsettles with hnone | ⟨other, status, calls, hasked, hall⟩
    · exact absurd rfl (hnone _ hc)
    · rcases hall _ hc rfl with heq | heq
      · cases heq
      · cases heq
        refine ⟨status, ⟨calls, hasked⟩, ?_⟩
        rintro status' ⟨calls', hasked'⟩
        rcases hall _ hasked' rfl with heq' | heq'
        · cases heq'
          rfl
        · cases heq'

end Consultation

/-! ## Main result -/

namespace Evaluator

variable (e : Evaluator) (cache : BigSegments.Cache) (f : Flag) (context : Context)

/-- A fault does not keep an evaluation from reporting the status that it met. -/
theorem bigSegments_evaluate :
    (e.evaluate cache f context).detail.reason.bigSegments =
      ((e.check context maxDepth [] f).runFrom (.start cache)).2.status := by
  rcases hrun : (e.check context maxDepth [] f).runFrom (.start cache) with ⟨fault | d, t⟩
  · rw [detail_evaluate_of_error hrun]
  · rw [detail_evaluate_of_ok hrun]

/-- **The worst status is reported**, whatever the evaluation ends with.  No status is reported
    exactly if no segment was consulted.  Each consultation has one status: a segment that cannot be
    looked up, for want of a generation or of a store, is not configured; a membership that is
    looked up has the status that is told with it, a store error exactly if a call for it fails or
    the store was found unavailable a moment ago; and a membership that is at hand has the status
    with which it was looked up. -/
theorem evaluate_reports_worst :
    let arrivals := e.arrivals context maxDepth [] f (.start cache)
    let consultations := arrivals.filterMap (e.consultation? context)
    let reported := (e.evaluate cache f context).detail.reason.bigSegments
    (reported = none ↔ ∀ a ∈ arrivals, a.segment.consultedKey? context = none) ∧
    IsWorst (fun status => ∃ c ∈ consultations, c.HasStatus consultations status) reported ∧
    (∀ c ∈ consultations, ∃! status, c.HasStatus consultations status) ∧
    ∀ a ∈ arrivals, ∀ key, a.segment.consultedKey? context = some key →
      ∃ c, e.consultation? context a = some c ∧
        (c = .unconfigured ↔ a.segment.generation = none ∨ e.bigSegments = none) ∧
        ∀ b, e.bigSegments = some b → ∀ membership status calls,
          c = .asked key membership status calls →
          (membership, status) = ((b.membershipOf e.clock key).run ⟨a.state.cache, []⟩).1 ∧
          (status = .storeError ↔
            BigSegments.SomeFails calls ∨ b.KeptUnavailable e.clock a.state.cache) := by
  intro arrivals consultations reported
  have hleads : e.Leads context (.start cache) arrivals _ := leads_check maxDepth [] f _
  obtain ⟨hcoherent, hfindings⟩ := hleads.coherent
  have hunique : ∀ c ∈ consultations, ∃! status, c.HasStatus consultations status :=
    fun c hc => Consultation.existsUnique_hasStatus hcoherent hc
  have hworst : IsWorst (fun status => ∃ c ∈ consultations, c.HasStatus consultations status)
      reported := by
    have hstatus : reported =
        (consultations.foldl Consultation.extend (State.start cache).findings).status :=
      (bigSegments_evaluate e cache f context).trans (congrArg Findings.status hfindings)
    have hstart : IsWorst (fun _ => False) (State.start cache).findings.status := fun _ h => h
    have hnoted := Consultation.isWorst_foldl_extend consultations hstart
    rw [← hstatus] at hnoted
    simpa only [Consultation.exists_hasStatus_iff, false_or] using hnoted
  refine ⟨⟨fun hnone a ha => ?_, fun hquiet => ?_⟩, hworst, hunique,
    fun a _ key hkey => exists_consultation hkey⟩
  · -- nothing reported, nothing consulted: every consultation has a status
    rw [hnone] at hworst
    rw [← consultation?_eq_none_iff (e := e), Option.eq_none_iff_forall_ne_some]
    intro c hconsultation
    have hc : c ∈ consultations := List.mem_filterMap.2 ⟨a, ha, hconsultation⟩
    obtain ⟨status, hstatus, -⟩ := hunique c hc
    exact hworst status ⟨c, hc, hstatus⟩
  · -- a status that is reported comes from a consultation
    rcases hreported : reported with _ | worst
    · rfl
    · rw [hreported] at hworst
      obtain ⟨⟨c, hc, -⟩, -⟩ := hworst
      obtain ⟨a, ha, hconsultation⟩ := List.mem_filterMap.1 hc
      rw [consultation?_eq_none_iff.2 (hquiet a ha)] at hconsultation
      cases hconsultation

/-- One segment without generation is worse than a store that fails. -/
theorem evaluate_reports_worst_lounge :
    (loungeEvaluator.evaluate (.ofSettings .standard) loungeFlag
      loungeGuest).detail.reason.bigSegments = some .notConfigured := by
  obtain ⟨-, hworst, -⟩ :=
    evaluate_reports_worst loungeEvaluator (.ofSettings .standard) loungeFlag loungeGuest
  rw [loungeConsultations] at hworst
  refine hworst.eq_some ⟨.unconfigured, by simp, rfl⟩ fun status _ => ?_
  cases status <;> decide

end Evaluator

end FeatureFlags
