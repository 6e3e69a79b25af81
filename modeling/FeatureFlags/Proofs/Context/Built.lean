/-
  WHAT BUILDERS MAKE — the contexts that a program can have.

  1. **Building (`Builder.Made`, `Context.Built`)** — all that the two builders can be told, step by
     step, with finite numbers and with references that were read or are literals.
  2. **Soundness (`Built.sound`)** — what is built is well-formed; no attribute of it is null, all
     numbers are finite, and all private references were made.
-/
import FeatureFlags.Proofs.Context.Reference
import FeatureFlags.Proofs.Context.WellFormed
import FeatureFlags.Proofs.Document
import FeatureFlags.Proofs.Entries

namespace FeatureFlags

open Entries

/-! ## Building -/

/-- **`b.Made`** — a builder that was made step by step, from finite numbers and from references
    that were read or are literals. -/
inductive Builder.Made : Builder → Prop where
  | ofKey (key : String) : Made (.ofKey key)
  | kind {b : Builder} (made : b.Made) (kind : String) : Made { b with kind }
  | key {b : Builder} (made : b.Made) (key : String) : Made { b with key }
  | name {b : Builder} (made : b.Made) (name : String) : Made { b with name := some name }
  | anonymous {b : Builder} (made : b.Made) (anonymous : Bool) : Made { b with anonymous }
  | secondary {b : Builder} (made : b.Made) (secondary : String) :
      Made { b with secondary := some secondary }
  | setValue {b : Builder} (made : b.Made) (name : String) {value : Attribute}
    (finite : value.Finite) :
      Made (b.setValue name value)
  | addPrivate {b : Builder} (made : b.Made) {r : Reference} (read : r.Made) : Made (b.addPrivate r)

/-- **`c.Built`** — a context that the builders make: of one individual, or of several contexts. -/
inductive Context.Built : Context → Prop where
  | single {b : Builder} {i : Individual} (made : b.Made)
    (build : b.build = .ok i) : Built (.single i)
  | multi {contexts : List Context} {c : Context} (built : ∀ d ∈ contexts, Built d)
      (combine : Context.combine contexts = .ok c) : Built c

/-! ## Soundness -/

/-- Attributes that have a value, with finite numbers. -/
def SoundAttributes (attributes : Entries Attribute) : Prop :=
  ∀ field ∈ attributes, field.2 ≠ .null ∧ field.2.Finite

/-- What holds of every individual that is built. -/
structure Individual.Sound (i : Individual) : Prop where
  wellFormed : i.WellFormed
  attributes : SoundAttributes i.attributes
  references : ∀ r ∈ i.privateAttributes, r.Made

namespace Builder

variable {b : Builder}

theorem setValue_sound (h : SoundAttributes b.attributes) (name : String) {value : Attribute}
    (finite : value.Finite) : SoundAttributes (b.setValue name value).attributes := by
  unfold setValue
  split
  case h_11 => exact fun field hfield => h field (List.mem_filter.1 hfield).1
  case h_12 hnull _ _ _ _ _ =>
    intro field hfield
    rcases mem_insert hfield with rfl | hold
    · exact ⟨hnull, finite⟩
    · exact h field hold
  all_goals exact h

theorem setValue_privateAttributes (name : String) (value : Attribute) :
    (b.setValue name value).privateAttributes = b.privateAttributes := by
  unfold setValue
  split <;> rfl

theorem setValue_secondary (name : String) (value : Attribute) :
    (b.setValue name value).secondary = b.secondary := by
  unfold setValue
  split <;> rfl

/-- What holds of a builder that was made step by step. -/
theorem Made.sound (h : b.Made) :
    WellFormedAttributes b.attributes ∧ SoundAttributes b.attributes ∧
      ∀ r ∈ b.privateAttributes, r.Made := by
  induction h with
  | ofKey key =>
    exact ⟨.nil, fun _ hfield => absurd hfield List.not_mem_nil,
      fun _ hr => absurd hr List.not_mem_nil⟩
  | @setValue b made name value finite ih =>
    -- values are finite by assumption, and reach no private attribute
    obtain ⟨hwellFormed, hsound, hreferences⟩ := ih
    refine ⟨setValue_wellFormed hwellFormed name value, setValue_sound hsound name finite, ?_⟩
    rwa [setValue_privateAttributes]
  | @addPrivate b made r read ih =>
    -- a reference that is added was read from a text
    obtain ⟨hwellFormed, hsound, hreferences⟩ := ih
    refine ⟨hwellFormed, hsound, fun x hx => ?_⟩
    rcases List.mem_append.1 hx with hold | hnew
    · exact hreferences x hold
    · exact List.mem_singleton.1 hnew ▸ read
  | _ => assumption

/-- What is built has what the builder was given. -/
theorem build_sound (h : b.Made) {i : Individual} (hbuild : b.build = .ok i) : i.Sound := by
  obtain ⟨hwellFormed, hsound, hreferences⟩ := h.sound
  obtain ⟨rfl, hkind, hkey⟩ := build_eq_ok_iff.1 hbuild
  exact ⟨⟨hkind, hkey, hwellFormed⟩, hsound, hreferences⟩

end Builder

namespace Context

/-- Nothing is lost when contexts are put together, and nothing is added. -/
theorem individuals_combine {contexts : List Context} {c : Context}
    (hcombine : combine contexts = .ok c) : c.individuals.Perm (contexts.flatMap individuals) := by
  unfold combine at hcombine
  split at hcombine
  · cases hcombine
  · next j hone =>
    cases hcombine
    rw [hone]
    exact .refl _
  · simp only at hcombine
    split at hcombine
    · cases hcombine
    · cases hcombine
      exact List.mergeSort_perm _ _

/-- Combining makes up nobody: every individual comes from one of the contexts. -/
theorem mem_individuals_of_combine {contexts : List Context} {c : Context}
    (hcombine : combine contexts = .ok c) {i : Individual} (hi : i ∈ c.individuals) :
    ∃ d ∈ contexts, i ∈ d.individuals :=
  List.mem_flatMap.1 ((individuals_combine hcombine).mem_iff.1 hi)

/-- **What is built is well-formed, and its individuals are sound.** -/
theorem Built.sound {c : Context} (h : c.Built) : c.WellFormed ∧ ∀ i ∈ c.individuals, i.Sound := by
  induction h with
  | single made build =>
    have hi := Builder.build_sound made build
    exact ⟨hi.wellFormed, fun _ hj => List.mem_singleton.1 hj ▸ hi⟩
  | multi built combine ih =>
    refine ⟨combine_wellFormed (fun d hd => (ih d hd).1) combine, fun i hi => ?_⟩
    obtain ⟨d, hd, hid⟩ := mem_individuals_of_combine combine hi
    exact (ih d hd).2 i hid

end Context

end FeatureFlags
