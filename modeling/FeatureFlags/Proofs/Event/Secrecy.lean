/-
  WHAT IS PRIVATE DOES NOT SHOW — two contexts that differ in private values only look the same in
  events.

  1. **The same but for private values** — `Individual.SameBut` and, built on it, the relations of
     contexts and of events.
  2. **The crux (`Alike.step`)** — following one reference keeps two results alike: it finds
     something in both or in neither, and takes it out of both.  After all references nothing
     private is left, so that results that are alike are equal (`apply_eq`).
  3. **Outputs** — so both contexts are shown alike, and have the same kinds, keys and canonical
     key, and both events ask for the same output events.
-/
import FeatureFlags.Processor.Outputs
import FeatureFlags.Proofs.Document
import FeatureFlags.Proofs.Event.Erasure
import Mathlib.Data.List.Forall2

namespace FeatureFlags

open Document (at? at?_below_none Mapped SameOutside)
open Entries

/-! ## The same but for private values -/

/-- The name and the attributes of an individual, as one value. -/
def Individual.details (i : Individual) : Attribute :=
  .object (ofList ((i.name.elim [] fun text => [("name", .text text)]) ++ i.attributes))

/-- **The secret paths of an individual**: where the private references lead.  An invalid reference
    has no names. -/
def Redaction.secretPaths (r : Redaction) (i : Individual) : List (List String) :=
  ((r.references ++ i.privateAttributes).map Reference.names).filter (· ≠ [])

/-- **`i.SameBut r j`** — the individuals differ at most in their secondary keys and in what is
    private. -/
structure Individual.SameBut (r : Redaction) (i j : Individual) : Prop where
  kind : i.kind = j.kind
  key : i.key = j.key
  anonymous : i.anonymous = j.anonymous
  privateAttributes : i.privateAttributes = j.privateAttributes
  /-- Objects are maps; the order in which members are listed says nothing. -/
  maps : i.details.Mapped ∧ j.details.Mapped
  /-- Only values at secret paths may differ. -/
  values : r.everything = false → SameOutside (r.secretPaths i) i.details j.details
  /-- If everything is private, all values may differ. -/
  names : r.everything = true →
    names i.attributes = names j.attributes ∧ i.name.isSome = j.name.isSome

/-- `c.SameBut r d` — contexts of such individuals. -/
inductive Context.SameBut (r : Redaction) : Context → Context → Prop where
  | single {i j : Individual} (same : i.SameBut r j) : SameBut r (.single i) (.single j)
  | multi {first second : List Individual}
    (same : List.Forall₂ (Individual.SameBut r) first second) :
      SameBut r (.multi first) (.multi second)

/-- **`e.SameBut r e'`** — events that differ at most in their contexts, and there in what is
    private. -/
inductive InputEvent.SameBut (r : Redaction) : InputEvent → InputEvent → Prop where
  | feature (e : FeatureEvent) {context : Context} (same : e.context.SameBut r context) :
      SameBut r (.feature e) (.feature { e with context })
  | identify (e : IdentifyEvent) {context : Context} (same : e.context.SameBut r context) :
      SameBut r (.identify e) (.identify { e with context })
  | custom (e : CustomEvent) {context : Context} (same : e.context.SameBut r context) :
      SameBut r (.custom e) (.custom { e with context })
  | migration (e : MigrationEvent) {context : Context} (same : e.context.SameBut r context) :
      SameBut r (.migration e) (.migration { e with context })

namespace Redaction

theorem Result.eq_of_parts {a b : Result} (hattributes : a.attributes = b.attributes)
    (hredacted : a.redacted = b.redacted) : a = b := by
  cases a
  cases b
  cases hattributes
  cases hredacted
  rfl

/-! ## Following references -/

/-- Erasing a path leaves maps maps. -/
theorem mapped_of_erased {q : List String} {before after : Entries Json} (h : Erased q before after)
    (hbefore : Mapped (.object before)) : Mapped (.object after) := by
  intro p fields hp
  by_cases hbelow : q <+: p
  · rw [h.gone p hbelow] at hp
    cases hp
  · by_cases habove : p <+: q
    · have hne : p ≠ q := fun heq => hbelow (heq ▸ List.prefix_rfl)
      obtain ⟨first, second, hfirst, hsecond, hordered⟩ := h.above p habove hne
      rw [hsecond] at hp
      cases hp
      exact hordered (hbefore p first hfirst)
    · rw [h.apart p hbelow habove] at hp
      exact hbefore p fields hp

/-- What is taken out of both leaves the same outside. -/
theorem sameOutside_of_erased {hidden : List (List String)} {q : List String} (hq : q ∈ hidden)
    {a b a' b' : Entries Json} (h : SameOutside hidden (.object a) (.object b)) (ha : Erased q a a')
    (hb : Erased q b b') : SameOutside hidden (.object a') (.object b') := by
  -- of a path that is not below `q`, both keep what they had, or an object that has lost a member
  have hkept : ∀ p, ¬ q <+: p →
      (at? p (.object a') = at? p (.object a) ∧ at? p (.object b') = at? p (.object b)) ∨
      ∃ first second, at? p (.object a') = some (.object first) ∧
        at? p (.object b') = some (.object second) := by
    intro p hbelow
    by_cases habove : p <+: q
    · have hne : p ≠ q := fun heq => hbelow (heq ▸ List.prefix_rfl)
      obtain ⟨-, first, -, hfirst, -⟩ := ha.above p habove hne
      obtain ⟨-, second, -, hsecond, -⟩ := hb.above p habove hne
      exact .inr ⟨first, second, hfirst, hsecond⟩
    · exact .inl ⟨ha.apart p hbelow habove, hb.apart p hbelow habove⟩
  refine ⟨fun p hp => ?_, fun p hp => ?_⟩
  · by_cases hbelow : q <+: p
    · rw [ha.gone p hbelow, hb.gone p hbelow]
    · rcases hkept p hbelow with ⟨hsame, hsame'⟩ | ⟨first, second, hfirst, hsecond⟩
      · rw [hsame, hsame', h.presence p hp]
      · rw [hfirst, hsecond]
        rfl
  · rcases hkept p (hp q hq) with ⟨hsame, hsame'⟩ | ⟨first, second, hfirst, hsecond⟩
    · rw [hsame, hsame', h.surface p hp]
    · rw [hfirst, hsecond]
      rfl

/-- `Alike hidden a b` — two results that differ at most in what stands at or below hidden paths. -/
structure Alike (hidden : List (List String)) (a b : Result) : Prop where
  outside : SameOutside hidden (.object a.attributes) (.object b.attributes)
  maps : Mapped (.object a.attributes) ∧ Mapped (.object b.attributes)
  redacted : a.redacted = b.redacted

/-- **Following a reference to a hidden path keeps results alike.** -/
theorem Alike.step {hidden : List (List String)} {a b : Result} (h : Alike hidden a b)
    {reference : Reference} (hhidden : reference.names ≠ [] → reference.names ∈ hidden) :
    Alike hidden (Redaction.step a reference) (Redaction.step b reference) := by
  unfold Redaction.step
  have hnonempty : ∀ {before after : Entries Json}, erase? reference.names before = some after →
      reference.names ≠ [] := by
    intro before after herase hempty
    rw [hempty] at herase
    cases herase
  -- what one of them finds, the other one finds too
  have hboth : reference.names ≠ [] → (at? reference.names (.object a.attributes)).isSome =
      (at? reference.names (.object b.attributes)).isSome :=
        fun hne => h.outside.presence _ (hhidden hne)
  cases ha : erase? reference.names a.attributes with
  | none =>
    cases hb : erase? reference.names b.attributes with
    | none => exact h
    | some second =>
      have hne := hnonempty hb
      have hmissing := hboth hne
      rw [at?_of_erase?_none ha hne] at hmissing
      exact absurd (Option.not_isSome_iff_eq_none.1 (hmissing ▸ Bool.false_ne_true))
        (erased_of_erase? hb).found
  | some first =>
    have hne := hnonempty ha
    cases hb : erase? reference.names b.attributes with
    | none =>
      have hmissing := hboth hne
      rw [at?_of_erase?_none hb hne] at hmissing
      exact absurd (Option.not_isSome_iff_eq_none.1 (hmissing ▸ Bool.false_ne_true))
        (erased_of_erase? ha).found
    | some second =>
      have hfirst := erased_of_erase? ha
      have hsecond := erased_of_erase? hb
      refine ⟨sameOutside_of_erased (hhidden hne) h.outside hfirst hsecond,
        ⟨mapped_of_erased hfirst h.maps.1, mapped_of_erased hsecond h.maps.2⟩, ?_⟩
      simp only [h.redacted]

/-- References that lead to hidden paths keep two results alike, by induction on them. -/
theorem Alike.foldl {hidden : List (List String)} (references : List Reference) {a b : Result}
    (h : Alike hidden a b)
    (hhidden : ∀ reference ∈ references, reference.names ≠ [] → reference.names ∈ hidden) :
    Alike hidden (references.foldl Redaction.step a) (references.foldl Redaction.step b) := by
  induction references generalizing a b with
  | nil => exact h
  | cons reference rest ih =>
    have hfirst := h.step (hhidden reference (List.mem_cons_self ..))
    exact ih hfirst fun other hother => hhidden other (List.mem_cons_of_mem reference hother)

/-- **After all references, results that are alike are equal**, if only what they name was
    hidden. -/
theorem Alike.foldl_eq {hidden : List (List String)} {references : List Reference} {a b : Result}
    (h : Alike hidden a b)
    (hhidden : ∀ reference ∈ references, reference.names ≠ [] → reference.names ∈ hidden)
    (honly : ∀ q ∈ hidden, ∃ reference ∈ references, reference.names ≠ [] ∧ reference.names = q) :
    references.foldl Redaction.step a = references.foldl Redaction.step b := by
  have hafter := h.foldl references hhidden
  have ha := stripped_foldl references a
  have hb := stripped_foldl references b
  have hattributes : (references.foldl Redaction.step a).attributes =
      (references.foldl Redaction.step b).attributes := by
    have hequal := Document.ext_of_at? _ _ hafter.maps.1 hafter.maps.2 fun p => ?_
    · injection hequal
    · by_cases hp : ∀ q ∈ hidden, ¬ q <+: p
      · exact hafter.outside.surface p hp
      · -- a hidden path leads here or above, and nothing is left there
        simp only [not_forall, not_not] at hp
        obtain ⟨q, hq, hbelow⟩ := hp
        obtain ⟨reference, hmem, hne, rfl⟩ := honly q hq
        rw [ha.gone reference hmem hne p hbelow, hb.gone reference hmem hne p hbelow]
  exact Result.eq_of_parts hattributes hafter.redacted

/-! ## Individuals -/

/-- What is to be shown is the name and the attributes, written as JSON. -/
theorem object_shown (i : Individual) : (.object (shown i) : Json) = i.details.toJson := by
  have hparts : shown i = mapValues Attribute.toJson
      (ofList ((i.name.elim [] fun text => [("name", .text text)]) ++ i.attributes)) := by
    rw [mapValues_ofList, List.map_append, shown]
    cases i.name <;> rfl
  rw [hparts]
  exact congrArg Document.object (Document.bindFields_eq_map _ _).symm

variable {r : Redaction} {i j : Individual}

/-- The names of what is to be shown. -/
theorem names_shown (i : Individual) :
    names (shown i) = names (ofList ((if i.name.isSome then [("name", ())] else []) ++
      (names i.attributes).map fun name => (name, ()))) := by
  have hunit : ∀ {β : Type} (entries : Entries β),
      names (mapValues (fun _ => ()) entries) = names entries := by
    intro β entries
    rw [names, mapValues, List.map_map]
    rfl
  rw [← hunit (shown i), shown, mapValues_ofList, List.map_append]
  congr 3
  · cases i.name <;> rfl
  · rw [names, mapValues, List.map_map, List.map_map]
    rfl

/-- **The same is taken out of both, and the same is left.** -/
theorem apply_eq (h : i.SameBut r j) : r.apply i = r.apply j := by
  unfold apply
  cases heverything : r.everything with
  | true =>
    -- all attributes are private: only their names show, and these are the same
    obtain ⟨hnames, hname⟩ := h.names heverything
    simp only [if_true, names_shown, hnames, hname]
  | false =>
    -- values may differ at secret paths only, and the references lead to all of these
    simp only [Bool.false_eq_true, if_false]
    rw [← h.privateAttributes]
    have halike : Alike (r.secretPaths i) ⟨shown i, []⟩ ⟨shown j, []⟩ := by
      refine ⟨?_, ⟨?_, ?_⟩, rfl⟩
      · rw [object_shown, object_shown]
        exact (h.values heverything).bind Attribute.toJson_number_ne_object
      · rw [object_shown]
        exact h.maps.1.bind Attribute.toJson_number_ne_object
      · rw [object_shown]
        exact h.maps.2.bind Attribute.toJson_number_ne_object
    have hsecret : ∀ q, q ∈ r.secretPaths i ↔
        ∃ reference ∈ r.references ++ i.privateAttributes, reference.names ≠ [] ∧
          reference.names = q := by
      intro q
      simp only [secretPaths, List.mem_filter, List.mem_map, decide_eq_true_eq]
      constructor
      · rintro ⟨⟨reference, hmem, rfl⟩, hne⟩
        exact ⟨reference, hmem, hne, rfl⟩
      · rintro ⟨reference, hmem, hne, rfl⟩
        exact ⟨⟨reference, hmem, rfl⟩, hne⟩
    exact halike.foldl_eq (fun reference hmem hne => (hsecret _).2 ⟨reference, hmem, hne, rfl⟩)
      fun q hq => (hsecret q).1 hq

/-- Individuals that differ in what is private only are shown with the same members. -/
theorem members_eq (h : i.SameBut r j) (withKind : Bool) :
    r.members i withKind = r.members j withKind := by
  unfold members
  rw [apply_eq h, h.kind, h.key, h.anonymous]

end Redaction

/-! ## Contexts -/

/-- What is the same of all individuals is the same of their lists. -/
theorem map_eq_of_forall₂ {α β : Type} {R : α → α → Prop} {f : α → β}
    (hf : ∀ a b, R a b → f a = f b) {first second : List α} (h : List.Forall₂ R first second) :
    first.map f = second.map f := by
  induction h with
  | nil => rfl
  | cons hab _ ih => rw [List.map_cons, List.map_cons, hf _ _ hab, ih]

namespace Context.SameBut

variable {r : Redaction} {c d : Context}

/-- **Both contexts are shown alike.** -/
theorem filter_eq (h : c.SameBut r d) : r.filter c = r.filter d := by
  cases h with
  | single same => exact congrArg Document.object (Redaction.members_eq same true)
  | multi same =>
    refine congrArg (fun parts => Json.ofMembers (("kind", .text "multi") :: parts)) ?_
    refine map_eq_of_forall₂ (fun i j hij => ?_) same
    rw [hij.kind, Redaction.members_eq hij]

theorem individuals (h : c.SameBut r d) :
    List.Forall₂ (Individual.SameBut r) c.individuals d.individuals := by
  cases h with
  | single same => exact .cons same .nil
  | multi same => exact same

theorem keys_eq (h : c.SameBut r d) : c.keys = d.keys := by
  refine congrArg ofList (map_eq_of_forall₂ (fun i j hij => ?_) h.individuals)
  rw [hij.kind, hij.key]

theorem kinds_eq (h : c.SameBut r d) : c.kinds = d.kinds :=
  map_eq_of_forall₂ (fun _ _ hij => hij.kind) h.individuals

/-- Kinds and keys are never private, so the canonical key is the same. -/
theorem canonicalKey_eq (h : c.SameBut r d) : c.canonicalKey = d.canonicalKey := by
  have hqualified : ∀ i j : Individual, i.SameBut r j → i.qualifiedKey = j.qualifiedKey := by
    intro i j hij
    rw [Individual.qualifiedKey, Individual.qualifiedKey, hij.kind, hij.key]
  cases h with
  | @single i j same =>
    show (if i.kind.isUser then i.key else i.qualifiedKey) =
      if j.kind.isUser then j.key else j.qualifiedKey
    rw [hqualified i j same, same.kind, same.key]
  | multi same =>
    exact congrArg (String.intercalate ":") (map_eq_of_forall₂ hqualified same)

end Context.SameBut

/-! ## Events -/

namespace InputEvent.SameBut

variable {r : Redaction} {e e' : InputEvent}

theorem context (h : e.SameBut r e') : e.context.SameBut r e'.context := by
  cases h with
  | feature e same => exact same
  | identify e same => exact same
  | custom e same => exact same
  | migration e same => exact same

/-- **Both events ask for the same output events.** -/
theorem outputs_eq (h : e.SameBut r e') (isNew debugged sampled : Bool) :
    e.outputs r isNew debugged sampled = e'.outputs r isNew debugged sampled := by
  cases h with
  | feature e same =>
    simp only [outputs, announcement, itself, FeatureEvent.output, InputEvent.context, creationDate,
      same.filter_eq, same.keys_eq]
  | identify e same => simp only [outputs, announcement, itself, same.filter_eq]
  | custom e same =>
    simp only [outputs, announcement, itself, CustomEvent.output, InputEvent.context, creationDate,
      same.filter_eq, same.keys_eq]
  | migration e same =>
    simp only [outputs, announcement, itself, MigrationEvent.output, same.keys_eq]

/-- Both events are counted alike. -/
theorem addEvent_eq (h : e.SameBut r e') (t : Summary.Tally) : t.addEvent e = t.addEvent e' := by
  cases h with
  | feature e same =>
    simp only [Summary.Tally.addEvent, Summary.Tally.add, same.kinds_eq]
  | _ => rfl

end InputEvent.SameBut

end FeatureFlags
