/-
  TAKING OUT WHAT REFERENCES NAME.

  References are followed one after the other, each into what the ones before have left: a reference
  may name what is already gone, a part of what an earlier one took out, or an object that has lost
  a member.

  1. **One path (`Erased`)** — what stands at a path and below it is gone, the objects that the path
     leads through are still objects, and everything else is untouched.
  2. **All paths (`Stripped`)** — after any list of references, nothing is left at or below any of
     them, and everything apart from them is untouched.
  3. **Record (`Recorded`)** — which references are noted as those that took something out.
-/
import FeatureFlags.Event.Redaction
import FeatureFlags.Proofs.Surface
import Mathlib.Data.List.Nodup

namespace FeatureFlags.Redaction

open Document (at? at?_below_none at?_object)
open Entries

/-! ## One path -/

/-- **`Erased q before after`** — exactly what stands at the path `q` was taken out. -/
structure Erased (q : List String) (before after : Entries Json) : Prop where
  found : at? q (.object before) ≠ none
  gone : ∀ p, q <+: p → at? p (.object after) = none
  apart : ∀ p, ¬ q <+: p → ¬ p <+: q → at? p (.object after) = at? p (.object before)
  /-- What the path leads through are objects, before and after. -/
  above : ∀ p, p <+: q → p ≠ q →
    ∃ first second, at? p (.object before) = some (.object first) ∧
      at? p (.object after) = some (.object second) ∧ (Ordered first → Ordered second)

/-- A name is taken out. -/
theorem erased_erase {name : String} {fields : Entries Json} {value : Json}
    (h : get? name fields = some value) : Erased [name] fields (erase name fields) := by
  refine ⟨?_, ?_, ?_, ?_⟩
  · rw [at?_object, h]
    exact nofun
  · rintro p ⟨rest, rfl⟩
    rw [List.singleton_append, at?_object, get?_erase, if_pos rfl]
    rfl
  · -- apart: under another name
    intro p hbelow habove
    cases p with
    | nil => exact absurd List.nil_prefix habove
    | cons first rest =>
      have hne : name ≠ first := by
        rintro rfl
        exact hbelow ⟨rest, rfl⟩
      rw [at?_object, at?_object, get?_erase, if_neg hne]
  · -- above: only the object itself
    intro p hp hne
    cases p with
    | nil => exact ⟨_, _, rfl, rfl, fun h => h.erase name⟩
    | cons first rest =>
      obtain ⟨rfl, hrest⟩ := List.cons_prefix_cons.1 hp
      rw [List.prefix_nil.1 hrest] at hne
      exact absurd rfl hne

/-- A member has lost what stands at a path. -/
theorem erased_insert {name : String} {path : List String} {fields inner rest : Entries Json}
    (h : get? name fields = some (.object inner)) (herased : Erased path inner rest) :
    Erased (name :: path) fields (insert name (.object rest) fields) := by
  refine ⟨?_, ?_, ?_, ?_⟩
  · rw [at?_object, h]
    exact herased.found
  · rintro p hp
    obtain ⟨below, rfl⟩ := hp
    rw [List.cons_append, at?_object, get?_insert, if_pos rfl]
    exact herased.gone _ (List.prefix_append path below)
  · -- apart: under another name, or below this one and apart from the rest of the path
    intro p hbelow habove
    cases p with
    | nil => exact absurd List.nil_prefix habove
    | cons first others =>
      rw [at?_object, at?_object, get?_insert]
      by_cases hname : name = first
      · subst hname
        rw [if_pos rfl, h]
        exact herased.apart others (fun hp => hbelow (List.cons_prefix_cons.2 ⟨rfl, hp⟩))
          (fun hp => habove (List.cons_prefix_cons.2 ⟨rfl, hp⟩))
      · rw [if_neg hname]
  · -- above: the object itself, or what is above within it
    intro p hp hne
    cases p with
    | nil => exact ⟨_, _, rfl, rfl, fun h => h.insert name _⟩
    | cons first others =>
      obtain ⟨rfl, hothers⟩ := List.cons_prefix_cons.1 hp
      rw [at?_object, at?_object, get?_insert, if_pos rfl, h]
      exact herased.above others hothers fun heq => hne (heq ▸ rfl)

/-- **What is taken out at a path.** -/
theorem erased_of_erase? : ∀ {q : List String} {before after : Entries Json},
    erase? q before = some after → Erased q before after
  | [], _, _, h => by cases h
  | name :: path, before, after, h => by
    unfold erase? at h
    split at h
    · cases h
    · next value hfound =>
      cases h
      exact erased_erase hfound
    · next inner _ hfound =>
      obtain ⟨rest, hrest, rfl⟩ := Option.map_eq_some_iff.1 h
      exact erased_insert hfound (erased_of_erase? hrest)
    · cases h

/-- **Nothing is taken out where nothing stands.** -/
theorem at?_of_erase?_none : ∀ {q : List String} {fields : Entries Json}, erase? q fields = none →
    q ≠ [] → at? q (.object fields) = none
  | [], _, _, hne => absurd rfl hne
  | name :: path, fields, h, _ => by
    rw [at?_object]
    cases hfound : get? name fields with
    | none => rfl
    | some value =>
      unfold erase? at h
      rw [hfound] at h
      cases path with
      | nil => cases h
      | cons next others =>
        cases value with
        | object inner =>
          have hrest : erase? (next :: others) inner = none := Option.map_eq_none_iff.1 h
          exact at?_of_erase?_none hrest (List.cons_ne_nil next others)
        | _ => rfl

/-- What was missing stays missing. -/
theorem Erased.missing {q p : List String} {before after : Entries Json} (h : Erased q before after)
    (hp : at? p (.object before) = none) : at? p (.object after) = none := by
  by_cases hbelow : q <+: p
  · exact h.gone p hbelow
  · by_cases habove : p <+: q
    · exact absurd (at?_below_none habove hp) h.found
    · rw [h.apart p hbelow habove, hp]

/-! ## All paths -/

/-- **`Stripped references before after`** — of what the references name, nothing is left, and
    everything apart from it is. -/
structure Stripped (references : List Reference) (before after : Entries Json) : Prop where
  gone : ∀ reference ∈ references, reference.names ≠ [] → ∀ p, reference.names <+: p →
    at? p (.object after) = none
  apart : ∀ p, (∀ reference ∈ references, reference.names ≠ [] →
    ¬ reference.names <+: p ∧ ¬ p <+: reference.names) →
      at? p (.object after) = at? p (.object before)
  missing : ∀ p, at? p (.object before) = none → at? p (.object after) = none

/-- One reference strips its own path, or nothing where it leads nowhere. -/
theorem stripped_step (result : Result) (reference : Reference) :
    Stripped [reference] result.attributes (step result reference).attributes := by
  unfold step
  cases herase : erase? reference.names result.attributes with
  | none =>
    -- the path leads nowhere, so there is nothing to strip
    refine ⟨?_, fun _ _ => rfl, fun _ hp => hp⟩
    intro r hr hnames p hp
    obtain rfl := List.mem_singleton.1 hr
    exact at?_below_none hp (at?_of_erase?_none herase hnames)
  | some attributes =>
    have herased := erased_of_erase? herase
    refine ⟨?_, ?_, fun p => herased.missing⟩
    · intro r hr hnames p hp
      obtain rfl := List.mem_singleton.1 hr
      exact herased.gone p hp
    · intro p hp
      have hnames : reference.names ≠ [] := by
        intro hempty
        rw [hempty] at herase
        cases herase
      obtain ⟨hbelow, habove⟩ := hp reference (List.mem_singleton_self reference) hnames
      exact herased.apart p hbelow habove

/-- What one list of references strips and another one after it, both together strip. -/
theorem Stripped.trans {first second : List Reference} {a b c : Entries Json}
    (hab : Stripped first a b) (hbc : Stripped second b c) : Stripped (first ++ second) a c := by
  refine ⟨?_, ?_, fun p hp => hbc.missing p (hab.missing p hp)⟩
  · intro r hr hnames p hp
    rcases List.mem_append.1 hr with hfirst | hsecond
    · exact hbc.missing p (hab.gone r hfirst hnames p hp)
    · exact hbc.gone r hsecond hnames p hp
  · intro p hp
    rw [hbc.apart p fun r hr => hp r (List.mem_append_right first hr),
      hab.apart p fun r hr => hp r (List.mem_append_left second hr)]

/-- **Following references one after the other.** -/
theorem stripped_foldl (references : List Reference) (result : Result) :
    Stripped references result.attributes (references.foldl step result).attributes := by
  induction references generalizing result with
  | nil =>
    exact ⟨fun _ hr => absurd hr List.not_mem_nil, fun _ _ => rfl, fun _ hp => hp⟩
  | cons reference rest ih => exact (stripped_step result reference).trans (ih _)

/-! ## Record -/

/-- **`Recorded references before after`** — the references that took something out are noted, once
    each. -/
structure Recorded (references : List Reference) (before after : Result) : Prop where
  nodup : before.redacted.Nodup → after.redacted.Nodup
  origin : ∀ text ∈ after.redacted, text ∈ before.redacted ∨
    ∃ reference ∈ references, reference.isValid = true ∧ reference.text = text
  /-- Without a note nothing was taken out. -/
  silent : after.redacted = [] → before.redacted = [] ∧ after.attributes = before.attributes
  /-- With a note something was taken out. -/
  found : after.redacted ≠ [] → before.redacted ≠ [] ∨
    ∃ reference ∈ references, reference.names ≠ [] ∧
      at? reference.names (.object before.attributes) ≠ none

theorem isValid_of_names_ne_nil {reference : Reference} (h : reference.names ≠ []) :
    reference.isValid = true := by
  cases reference with
  | valid text names => rfl
  | invalid text error => exact absurd rfl h

/-- One reference is recorded if it took something out. -/
theorem recorded_step (result : Result) (reference : Reference) :
    Recorded [reference] result (step result reference) := by
  unfold step
  cases herase : erase? reference.names result.attributes with
  | none => exact ⟨id, fun _ => .inl, fun h => ⟨h, rfl⟩, .inl⟩
  | some attributes =>
    have hnames : reference.names ≠ [] := by
      intro hempty
      rw [hempty] at herase
      cases herase
    have hfound : reference ∈ [reference] ∧ reference.names ≠ [] ∧ _ :=
      ⟨List.mem_singleton_self reference, hnames, (erased_of_erase? herase).found⟩
    simp only
    split
    · next hold =>
      -- the text is recorded already: another reference with this text was there
      exact ⟨id, fun _ => .inl, fun h => absurd (h ▸ hold) List.not_mem_nil,
        fun _ => .inr ⟨reference, hfound⟩⟩
    · next hnew =>
      -- recorded now, at the end
      refine ⟨fun hnodup => ?_, ?_, fun h => ?_, fun _ => .inr ⟨reference, hfound⟩⟩
      · exact List.nodup_append.2 ⟨hnodup, List.nodup_singleton _, fun a ha b hb heq =>
          hnew (List.mem_singleton.1 hb ▸ heq ▸ ha)⟩
      · intro text htext
        rcases List.mem_append.1 htext with hold | hlast
        · exact .inl hold
        · exact .inr ⟨reference, hfound.1, isValid_of_names_ne_nil hnames,
            (List.mem_singleton.1 hlast).symm⟩
      · exact absurd h (by simp)

/-- The record of one list goes on with the record of the next: what the first took out, the second
    does not find. -/
theorem Recorded.trans {first second : List Reference} {a b c : Result} (hab : Recorded first a b)
    (hbc : Recorded second b c) (hstripped : Stripped first a.attributes b.attributes) :
    Recorded (first ++ second) a c := by
  refine ⟨fun h => hbc.nodup (hab.nodup h), ?_, ?_, ?_⟩
  · intro text htext
    rcases hbc.origin text htext with hb | ⟨r, hr, hvalid⟩
    · rcases hab.origin text hb with ha | ⟨r, hr, hvalid⟩
      · exact .inl ha
      · exact .inr ⟨r, List.mem_append_left second hr, hvalid⟩
    · exact .inr ⟨r, List.mem_append_right first hr, hvalid⟩
  · intro h
    obtain ⟨hb, hsame⟩ := hbc.silent h
    obtain ⟨ha, hfirst⟩ := hab.silent hb
    exact ⟨ha, hsame.trans hfirst⟩
  · intro h
    rcases hbc.found h with hb | ⟨r, hr, hnames, hfound⟩
    · rcases hab.found hb with ha | ⟨r, hr, hfound⟩
      · exact .inl ha
      · exact .inr ⟨r, List.mem_append_left second hr, hfound⟩
    · -- what is found later was there before
      exact .inr ⟨r, List.mem_append_right first hr, hnames,
        fun h => hfound (hstripped.missing _ h)⟩

/-- By induction on the references, each recorded against what those before it left. -/
theorem recorded_foldl (references : List Reference) (result : Result) :
    Recorded references result (references.foldl step result) := by
  induction references generalizing result with
  | nil => exact ⟨id, fun _ => .inl, fun h => ⟨h, rfl⟩, .inl⟩
  | cons reference rest ih =>
    exact (recorded_step result reference).trans (ih _) (stripped_step result reference)

/-- What took something out is noted. -/
theorem text_mem_redacted {result : Result} {reference : Reference} (hnames : reference.names ≠ [])
    (hfound : at? reference.names (.object result.attributes) ≠ none) :
    reference.text ∈ (step result reference).redacted := by
  unfold step
  cases herase : erase? reference.names result.attributes with
  | none => exact absurd (at?_of_erase?_none herase hnames) hfound
  | some attributes =>
    simp only
    split
    · assumption
    · exact List.mem_append_right _ (List.mem_singleton_self _)

/-- What is noted stays noted. -/
theorem redacted_subset_foldl (references : List Reference) (result : Result) :
    result.redacted ⊆ (references.foldl step result).redacted := by
  refine List.foldlRecOn (motive := fun after : Result => result.redacted ⊆ after.redacted) _ _
    (List.Subset.refl _) ?_
  intro after hafter reference _
  refine List.Subset.trans hafter ?_
  unfold step
  cases erase? reference.names after.attributes with
  | none => exact List.Subset.refl _
  | some attributes =>
    simp only
    split
    · exact List.Subset.refl _
    · exact List.subset_append_left _ _

end FeatureFlags.Redaction
