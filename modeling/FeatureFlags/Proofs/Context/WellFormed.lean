/-
  WELL-FORMED CONTEXTS — what the builder and the reader make sure of.

  A `Context` is plain data; that its attributes are none of the built-in names, that no member of
  it is itself of kind `multi`, and that its members come in the order of their kinds is due to the
  only two ways to get one.

  1. **Shape** — `Individual.WellFormed` and `Context.WellFormed`.
  2. **Building** — `Builder.setValue` keeps built-in names out of the attributes; `Builder.build`
     gives well-formed individuals, and `Context.combine` puts them together.
  3. **Reading (`Context.ofJson_wellFormed`)** — every member read acts on a builder, so whatever is
     read is well-formed.
-/
import FeatureFlags.Context.Codec
import Mathlib.Data.List.Forall2

namespace FeatureFlags

/-- The names that stand for no attribute. -/
def builtInNames : List String := ["kind", "key", "name", "anonymous", "_meta"]

/-- Attributes that are a map, without the built-in names. -/
structure WellFormedAttributes (attributes : Entries Attribute) : Prop where
  ordered : Entries.Ordered attributes
  plain : ∀ name ∈ builtInNames, Entries.get? name attributes = none

structure Individual.WellFormed (i : Individual) : Prop where
  kind : i.kind ≠ .multi
  key : i.key ≠ ""
  attributes : WellFormedAttributes i.attributes

/-- `c.WellFormed` — the individuals of a context are well-formed, and several of them are listed by
    increasing kind. -/
def Context.WellFormed : Context → Prop
  | .single i => i.WellFormed
  | .multi members =>
    2 ≤ members.length ∧ (∀ i ∈ members, i.WellFormed) ∧
      members.Pairwise fun a b => a.kind.name < b.kind.name

theorem Context.WellFormed.individuals {c : Context} (h : c.WellFormed) :
    ∀ i ∈ c.individuals, i.WellFormed := by
  cases c with
  | single i => exact fun _ hi => List.mem_singleton.1 hi ▸ h
  | multi members => exact h.2.1

/-! ## Building -/

namespace WellFormedAttributes

variable {attributes : Entries Attribute}

theorem nil : WellFormedAttributes [] := ⟨Entries.ordered_nil, fun _ _ => rfl⟩

/-- An attribute may be set under any name that is not built in. -/
theorem insert (h : WellFormedAttributes attributes) {name : String} (hname : name ∉ builtInNames)
    (value : Attribute) : WellFormedAttributes (Entries.insert name value attributes) := by
  refine ⟨h.ordered.insert name value, fun other hother => ?_⟩
  have hne : name ≠ other := fun heq => hname (heq ▸ hother)
  rw [Entries.get?_insert, if_neg hne]
  exact h.plain other hother

theorem erase (h : WellFormedAttributes attributes) (name : String) :
    WellFormedAttributes (Entries.erase name attributes) := by
  refine ⟨h.ordered.erase name, fun other hother => ?_⟩
  rw [Entries.get?_erase]
  split
  · rfl
  · exact h.plain other hother

end WellFormedAttributes

/-- The builder that describes an individual. -/
def Individual.builder (i : Individual) : Builder :=
  ⟨i.kind.name, i.key, i.name, i.anonymous, i.secondary, i.attributes, i.privateAttributes⟩

namespace Builder

/-- Setting a value never touches an attribute with a built-in name. -/
theorem setValue_wellFormed {b : Builder} (h : WellFormedAttributes b.attributes) (name : String)
    (value : Attribute) : WellFormedAttributes (b.setValue name value).attributes := by
  unfold setValue
  split
  case h_11 => exact h.erase _
  case h_12 hkind hkey hname hanonymous hmeta _ _ _ _ _ _ =>
    refine h.insert ?_ _
    simp only [builtInNames, List.mem_cons, List.not_mem_nil, or_false, not_or]
    exact ⟨hkind, hkey, hname, hanonymous, hmeta⟩
  all_goals exact h

/-- **A builder gives the individual that it describes**, if that has a kind of its own and a
    key. -/
theorem build_eq_ok_iff {b : Builder} {i : Individual} :
    b.build = .ok i ↔ b = i.builder ∧ i.kind ≠ .multi ∧ i.key ≠ "" := by
  constructor
  · intro hbuild
    unfold build at hbuild
    split at hbuild
    · cases hbuild
    · next kind hkind =>
      have hname : kind.name = b.kind := Kind.valid_of_ofText hkind
      split at hbuild
      · cases hbuild
      · next hmulti =>
        split at hbuild
        · cases hbuild
        · next hkey =>
          cases hbuild
          refine ⟨?_, fun heq => hmulti ?_, hkey⟩
          · rw [Individual.builder, hname]
          · rw [show kind = .multi from heq]
            rfl
  · rintro ⟨rfl, hmulti, hkey⟩
    have hsingle : i.kind.isMulti = false := decide_eq_false fun hname => hmulti (Kind.ext hname)
    rw [build, show i.builder.kind = i.kind.name from rfl, Kind.ofText_name]
    simp only [hsingle, Bool.false_eq_true, if_false]
    exact if_neg hkey

/-- **What is built is well-formed.** -/
theorem build_wellFormed {b : Builder} (h : WellFormedAttributes b.attributes) {i : Individual}
    (hbuild : b.build = .ok i) : i.WellFormed := by
  obtain ⟨rfl, hkind, hkey⟩ := build_eq_ok_iff.1 hbuild
  exact ⟨hkind, hkey, h⟩

end Builder

namespace Context

/-- Without two neighbours of one kind, the kinds of a sorted list increase strictly. -/
theorem pairwise_lt_of_repeatedKind? {members : List Individual}
    (hsorted : members.Pairwise fun a b => a.kind.name ≤ b.kind.name)
    (hdistinct : repeatedKind? members = none) :
    members.Pairwise fun a b => a.kind.name < b.kind.name := by
  induction members with
  | nil => exact .nil
  | cons a rest ih =>
    cases rest with
    | nil => exact List.pairwise_singleton _ _
    | cons b others =>
      obtain ⟨hfirst, hrest⟩ := List.pairwise_cons.1 hsorted
      rw [repeatedKind?] at hdistinct
      split at hdistinct
      · cases hdistinct
      · next hne =>
        -- neighbours of different kinds, and so all that come after
        have hab : a.kind.name < b.kind.name :=
          Std.lt_of_le_of_ne (hfirst b (List.mem_cons_self ..)) fun heq => hne (Kind.ext heq)
        refine List.pairwise_cons.2 ⟨fun x hx => ?_, ih hrest hdistinct⟩
        rcases List.mem_cons.1 hx with rfl | hx
        · exact hab
        · exact Std.lt_of_lt_of_le hab ((List.pairwise_cons.1 hrest).1 x hx)

/-- Individuals of strictly increasing kinds are all of different kinds. -/
theorem nodup_kinds_of_pairwise {members : List Individual}
    (h : members.Pairwise fun a b => a.kind.name < b.kind.name) : (members.map (·.kind)).Nodup :=
  List.pairwise_map.2 (h.imp fun hlt heq => String.ne_of_lt hlt (congrArg Kind.name heq))

theorem pairwise_sortByKind (members : List Individual) :
    (sortByKind members).Pairwise fun a b => a.kind.name ≤ b.kind.name := by
  let le : Individual → Individual → Bool := fun a b => a.kind.name ≤ b.kind.name
  have htrans : ∀ a b c, le a b = true → le b c = true → le a c = true := by
    intro a b c hab hbc
    simp only [le, decide_eq_true_eq] at hab hbc ⊢
    exact String.le_trans hab hbc
  have htotal : ∀ a b, (le a b || le b a) = true := by
    intro a b
    simpa [le] using String.le_total a.kind.name b.kind.name
  exact (List.pairwise_mergeSort htrans htotal members).imp fun h => of_decide_eq_true h

/-- Who is neither nobody nor alone is at least two. -/
theorem two_le_length {members : List Individual} (hnone : members ≠ [])
    (hsingle : ∀ i, members ≠ [i]) :
    2 ≤ members.length := by
  rcases members with _ | ⟨i, _ | ⟨j, rest⟩⟩
  · exact absurd rfl hnone
  · exact absurd rfl (hsingle i)
  · exact Nat.le_add_left 2 rest.length

/-- **Well-formed contexts make a well-formed context together.** -/
theorem combine_wellFormed {contexts : List Context} (h : ∀ c ∈ contexts, c.WellFormed)
    {c : Context} (hcombine : combine contexts = .ok c) : c.WellFormed := by
  have hmembers : ∀ i ∈ contexts.flatMap individuals, i.WellFormed := by
    intro i hi
    obtain ⟨c, hc, hic⟩ := List.mem_flatMap.1 hi
    exact (h c hc).individuals i hic
  unfold combine at hcombine
  split at hcombine
  · cases hcombine
  · next i hone =>
    cases hcombine
    exact hmembers i (hone ▸ List.mem_singleton_self i)
  · next members hnone hsingle =>
    -- sorted, and without a kind that comes twice
    simp only at hcombine
    split at hcombine
    · cases hcombine
    · next hdistinct =>
      cases hcombine
      refine ⟨?_, fun i hi => hmembers i ((List.mergeSort_perm _ _).mem_iff.1 hi),
        pairwise_lt_of_repeatedKind? (pairwise_sortByKind _) hdistinct⟩
      rw [sortByKind, List.length_mergeSort]
      exact two_le_length hnone hsingle

/-! ## Reading -/

theorem exists_of_bind_eq_ok {α β ε : Type} {x : Except ε α} {f : α → Except ε β} {b : β}
    (h : x.bind f = .ok b) : ∃ a, x = .ok a ∧ f a = .ok b := by
  cases x with
  | error e => cases h
  | ok a => exact ⟨a, rfl, h⟩

theorem exists_of_map_eq_ok {α β ε : Type} {x : Except ε α} {f : α → β} {b : β}
    (h : x.map f = .ok b) : ∃ a, x = .ok a ∧ f a = b := by
  cases x with
  | error e => cases h
  | ok a => cases h; exact ⟨a, rfl, rfl⟩

/-- Reading a list item by item gives one result for each. -/
theorem forall₂_of_mapM {α β ε : Type} {f : α → Except ε β} :
    ∀ {items : List α} {results : List β}, items.mapM f = .ok results →
      List.Forall₂ (fun a b => f a = .ok b) items results
  | [], results, h => by cases h; exact .nil
  | a :: rest, results, h => by
    rw [List.mapM_cons] at h
    obtain ⟨first, hfirst, h⟩ := exists_of_bind_eq_ok h
    obtain ⟨others, hothers, h⟩ := exists_of_bind_eq_ok h
    cases h
    exact .cons hfirst (forall₂_of_mapM hothers)

/-- Of two lists in step, the second one has nothing without a partner. -/
theorem exists_of_forall₂ {α β : Type} {R : α → β → Prop} {xs : List α} {ys : List β}
    (h : List.Forall₂ R xs ys) {y : β} (hy : y ∈ ys) : ∃ x ∈ xs, R x y := by
  induction h with
  | nil => cases hy
  | @cons a b as bs hab _ ih =>
    rcases List.mem_cons.1 hy with rfl | hlater
    · exact ⟨a, List.mem_cons_self .., hab⟩
    · obtain ⟨x, hx, hxy⟩ := ih hlater
      exact ⟨x, List.mem_cons_of_mem a hx, hxy⟩

/-- What every step of a walk over a list keeps holds at its end. -/
theorem foldlM_preserves {σ α ε : Type} {P : σ → Prop} {f : σ → α → Except ε σ}
    (step : ∀ s a t, P s → f s a = .ok t → P t) :
    ∀ {items : List α} {s t : σ}, P s → items.foldlM f s = .ok t → P t
  | [], s, t, hs, h => by cases h; exact hs
  | a :: rest, s, t, hs, h => by
    rw [List.foldlM_cons] at h
    obtain ⟨next, hfirst, hrest⟩ := exists_of_bind_eq_ok h
    exact foldlM_preserves step (step s a next hs hfirst) hrest

/-- In a walk that reaches its end, every item was taken at some point. -/
theorem exists_of_mem_foldlM {σ α ε : Type} {f : σ → α → Except ε σ} :
    ∀ {items : List α} {s t : σ}, items.foldlM f s = .ok t → ∀ a ∈ items, ∃ u v, f u a = .ok v
  | [], s, t, _, a, ha => by cases ha
  | head :: rest, s, t, h, a, ha => by
    rw [List.foldlM_cons] at h
    obtain ⟨next, hfirst, hrest⟩ := exists_of_bind_eq_ok h
    rcases List.mem_cons.1 ha with rfl | hlater
    · exact ⟨s, next, hfirst⟩
    · exact exists_of_mem_foldlM hrest a hlater

theorem foldl_addPrivate_attributes (make : String → Reference) (texts : List String)
    (b : Builder) :
    (texts.foldl (fun (b : Builder) s => b.addPrivate (make s)) b).attributes = b.attributes := by
  induction texts generalizing b with
  | nil => rfl
  | cons s rest ih => exact (ih _).trans rfl

theorem takeMeta_attributes (b : Builder) (fields : Entries Json) :
    (takeMeta b fields).attributes = b.attributes := by
  unfold takeMeta
  simp only
  split
  · split
    · exact foldl_addPrivate_attributes _ _ _
    · rfl
  · split
    · exact foldl_addPrivate_attributes _ _ _
    · rfl

section Keeping

variable {P : Entries Attribute → Prop} (hP : ∀ b : Builder, P b.attributes →
  ∀ name value, P (b.setValue name value).attributes)
include hP

/-- Members that are read set values, or leave the attributes alone. -/
theorem takeMember_keeps {b : Builder} (h : P b.attributes) {name : String} {value : Json}
    {c : Builder} (htake : takeMember b name value = .ok c) : P c.attributes := by
  unfold takeMember at htake
  split at htake <;> cases htake
  case h_9 => rw [takeMeta_attributes]; exact h
  case h_11 => exact hP b h _ _
  all_goals exact h

/-- A property of attributes that setting a value keeps, every member of an old user keeps. -/
theorem takeOldMember_keeps {b : Builder} (h : P b.attributes) {name : String} {value : Json}
    {c : Builder} (htake : takeOldMember b name value = .ok c) : P c.attributes := by
  unfold takeOldMember at htake
  split at htake <;> cases htake
  case h_6 custom =>
    exact List.foldlRecOn (motive := fun b : Builder => P b.attributes) custom _ h
      fun b hb field _ => hP b hb _ _
  case h_7 => rw [foldl_addPrivate_attributes]; exact h
  case h_8 =>
    split
    · exact hP b h _ _
    · exact h
  all_goals exact h

/-- **What setting values keeps holds of the builders of what is read.** -/
theorem readIndividual_keeps (hnil : P []) {kind : String} {fields : Entries Json} {i : Individual}
    (hread : readIndividual kind fields = .ok i) :
    ∃ b : Builder, P b.attributes ∧ b.build = .ok i := by
  obtain ⟨b, hfold, hbuild⟩ := exists_of_bind_eq_ok hread
  exact ⟨b,
    foldlM_preserves (P := fun b => P b.attributes) (fun _ _ _ hs => takeMember_keeps hP hs) hnil
    hfold, hbuild⟩

/-- So it holds of all that is read from one, by induction on the members. -/
theorem readOldUser_keeps (hnil : P []) {fields : Entries Json} {i : Individual}
    (hread : readOldUser fields = .ok i) : ∃ b : Builder, P b.attributes ∧ b.build = .ok i := by
  obtain ⟨b, hfold, hbuild⟩ := exists_of_bind_eq_ok hread
  exact ⟨b,
    foldlM_preserves (P := fun b => P b.attributes) (fun _ _ _ hs => takeOldMember_keeps hP hs) hnil
    hfold, hbuild⟩

end Keeping

/-- What is read from a new object is built, and builders keep their attributes well-formed. -/
theorem readIndividual_wellFormed {kind : String} {fields : Entries Json} {i : Individual}
    (hread : readIndividual kind fields = .ok i) : i.WellFormed := by
  obtain ⟨b, hb, hbuild⟩ :=
    readIndividual_keeps (fun _ h => Builder.setValue_wellFormed h) .nil hread
  exact Builder.build_wellFormed hb hbuild

theorem readOldUser_wellFormed {fields : Entries Json} {i : Individual}
    (hread : readOldUser fields = .ok i) : i.WellFormed := by
  obtain ⟨b, hb, hbuild⟩ := readOldUser_keeps (fun _ h => Builder.setValue_wellFormed h) .nil hread
  exact Builder.build_wellFormed hb hbuild

theorem readMember_wellFormed {field : String × Json} {c : Context}
    (hread : readMember field = .ok c) :
    c.WellFormed := by
  unfold readMember at hread
  split at hread
  · obtain ⟨i, hi, rfl⟩ := exists_of_map_eq_ok hread
    exact readIndividual_wellFormed hi
  · cases hread

/-- **What is read is well-formed.** -/
theorem ofJson_wellFormed {j : Json} {c : Context} (hread : ofJson j = .ok c) : c.WellFormed := by
  unfold ofJson at hread
  split at hread
  · next fields =>
    simp only at hread
    split at hread
    · obtain ⟨i, hi, rfl⟩ := exists_of_map_eq_ok hread
      exact readOldUser_wellFormed hi
    · -- several kinds are read one by one and then combined
      obtain ⟨contexts, hcontexts, hcombine⟩ := exists_of_bind_eq_ok hread
      refine combine_wellFormed (fun c hc => ?_) hcombine
      obtain ⟨field, -, hfield⟩ := exists_of_forall₂ (forall₂_of_mapM hcontexts) hc
      exact readMember_wellFormed hfield
    · obtain ⟨i, hi, rfl⟩ := exists_of_map_eq_ok hread
      exact readIndividual_wellFormed hi
    · cases hread
  · cases hread

end Context

end FeatureFlags
