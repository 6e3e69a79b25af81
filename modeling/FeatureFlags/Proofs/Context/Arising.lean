/-
  EVERY CONTEXT IS IN ORDER, HOWEVER IT WAS MADE.

  A context comes from a builder, from several contexts put together, from the JSON of one kind or
  of several kinds, or from the old form of users.  Contexts from any of these may be put together
  again.

  1. **Making (`Builder.Told`, `Context.Arises`)** — whatever builders can be told, and every way to
     a context, in any order.
  2. **In order (`Context.Proper`)** — what is due to the checks of builders and readers.
  3. **Individuals** — no builder has an attribute of a built-in name, or one that is null: setting
     a value keeps that, and everything that reads or builds sets values.
  4. **Kinds** — individuals of different kinds are found by their kinds, and each has its entry in
     the keys.
  5. **Main result** — a context arises if and only if it is in order; so kinds and keys lose
     nobody.
-/
import FeatureFlags.Proofs.Context.CanonicalKey
import FeatureFlags.Proofs.Context.Several

namespace FeatureFlags

open Entries

/-! ## Making -/

/-- **`b.Told`** — a builder that was told anything, step by step: any texts, any values and any
    private references. -/
inductive Builder.Told : Builder → Prop where
  | ofKey (key : String) : Told (.ofKey key)
  | kind {b : Builder} (told : b.Told) (kind : String) : Told { b with kind }
  | key {b : Builder} (told : b.Told) (key : String) : Told { b with key }
  | name {b : Builder} (told : b.Told) (name : String) : Told { b with name := some name }
  | anonymous {b : Builder} (told : b.Told) (anonymous : Bool) : Told { b with anonymous }
  | secondary {b : Builder} (told : b.Told) (secondary : String) :
      Told { b with secondary := some secondary }
  | setValue {b : Builder} (told : b.Told) (name : String) (value : Attribute) :
      Told (b.setValue name value)
  | addPrivate {b : Builder} (told : b.Told) (r : Reference) : Told (b.addPrivate r)

/-- **`c.Arises`** — a context that a program can come by. -/
inductive Context.Arises : Context → Prop where
  | build {b : Builder} {i : Individual} (told : b.Told)
    (build : b.build = .ok i) : Arises (.single i)
  | combine {contexts : List Context} {c : Context} (arise : ∀ d ∈ contexts, Arises d)
      (combine : Context.combine contexts = .ok c) : Arises c
  | read {j : Json} {c : Context} (read : Context.ofJson j = .ok c) : Arises c

/-! ## In order -/

/-- Attributes are a map without built-in names and without null. -/
structure ProperAttributes (attributes : Entries Attribute) : Prop where
  wellFormed : WellFormedAttributes attributes
  present : ∀ field ∈ attributes, field.2 ≠ .null

/-- An individual in order: its kind is a kind, but neither `kind` nor `multi`, and it has a key. -/
structure Individual.Proper (i : Individual) : Prop where
  kind : Kind.Valid i.kind.name ∧ i.kind.name ∉ ["kind", "multi"]
  key : i.key ≠ ""
  ordered : Ordered i.attributes
  attributes : ∀ field ∈ i.attributes, field.1 ∉ builtInNames ∧ field.2 ≠ .null

/-- **A context in order**: one individual, or at least two of them, by strictly increasing
    kinds. -/
def Context.Proper : Context → Prop
  | .single i => i.Proper
  | .multi members =>
    2 ≤ members.length ∧ (∀ i ∈ members, i.Proper) ∧
      members.Pairwise fun a b => a.kind.name < b.kind.name

/-! ## Individuals -/

namespace ProperAttributes

theorem nil : ProperAttributes [] := ⟨.nil, fun _ hfield => absurd hfield List.not_mem_nil⟩

/-- A built-in name goes to its own field, and null takes an attribute away: proper attributes stay
    so. -/
theorem setValue {b : Builder} (h : ProperAttributes b.attributes) (name : String)
    (value : Attribute) :
    ProperAttributes (b.setValue name value).attributes := by
  refine ⟨Builder.setValue_wellFormed h.wellFormed name value, ?_⟩
  unfold Builder.setValue
  split
  case h_11 => exact fun field hfield => h.present field (List.mem_filter.1 hfield).1
  case h_12 hnull _ _ _ _ _ =>
    intro field hfield
    rcases mem_insert hfield with rfl | hold
    · exact hnull
    · exact h.present field hold
  all_goals exact h.present

end ProperAttributes

namespace Builder

variable {b : Builder} {i : Individual}

/-- By induction on what the builder was told. -/
theorem Told.proper (h : b.Told) : ProperAttributes b.attributes := by
  induction h with
  | ofKey key => exact .nil
  | setValue _ name value ih => exact ih.setValue name value
  | _ => assumption

/-- **What is built is in order.** -/
theorem build_proper (h : ProperAttributes b.attributes) (hbuild : b.build = .ok i) : i.Proper := by
  obtain ⟨rfl, hkind, hkey⟩ := build_eq_ok_iff.1 hbuild
  have hmulti : i.kind.name ≠ "multi" := fun heq => hkind (Kind.ext heq)
  refine ⟨⟨i.kind.valid, by simpa using ⟨i.kind.valid.2.1, hmulti⟩⟩, hkey, h.wellFormed.ordered, ?_⟩
  refine fun field hfield => ⟨fun hname => ?_, h.present field hfield⟩
  exact get?_eq_none_iff.1 (h.wellFormed.plain _ hname) field hfield rfl

end Builder

namespace Context

/-- Only individuals in order are read. -/
theorem proper_of_ofJson {j : Json} {c : Context} (hread : ofJson j = .ok c) :
    ∀ i ∈ c.individuals, i.Proper := by
  have hkeeps : ∀ b : Builder, ProperAttributes b.attributes → ∀ name value,
      ProperAttributes (b.setValue name value).attributes := fun _ h => h.setValue
  have hindividual : ∀ {kind fields i}, readIndividual kind fields = .ok i → i.Proper := by
    intro kind fields i hi
    obtain ⟨b, hb, hbuild⟩ := readIndividual_keeps hkeeps .nil hi
    exact Builder.build_proper hb hbuild
  unfold ofJson at hread
  split at hread
  · simp only at hread
    split at hread
    · -- without a kind: an old user
      obtain ⟨i, hi, rfl⟩ := exists_of_map_eq_ok hread
      obtain ⟨b, hb, hbuild⟩ := readOldUser_keeps hkeeps .nil hi
      exact List.forall_mem_singleton.2 (Builder.build_proper hb hbuild)
    · -- several kinds: each member is read by itself, and combining makes up nobody
      obtain ⟨contexts, hcontexts, hcombine⟩ := exists_of_bind_eq_ok hread
      intro i hi
      obtain ⟨d, hd, hid⟩ := mem_individuals_of_combine hcombine hi
      obtain ⟨field, -, hfield⟩ := exists_of_forall₂ (forall₂_of_mapM hcontexts) hd
      unfold readMember at hfield
      split at hfield
      · obtain ⟨j, hj, rfl⟩ := exists_of_map_eq_ok hfield
        exact List.mem_singleton.1 hid ▸ hindividual hj
      · cases hfield
    · obtain ⟨i, hi, rfl⟩ := exists_of_map_eq_ok hread
      exact List.forall_mem_singleton.2 (hindividual hi)
    · cases hread
  · cases hread

end Context

/-- An individual in order is well-formed. -/
theorem Individual.Proper.wellFormed {i : Individual} (h : i.Proper) : i.WellFormed where
  kind := fun heq => h.kind.2 (by rw [heq]; decide +kernel)
  key := h.key
  attributes := ⟨h.ordered, fun name hname => get?_eq_none_iff.2 fun field hfield heq =>
    (h.attributes field hfield).1 (heq ▸ hname)⟩

namespace Context

variable {c : Context}

/-- A context is in order if it is well-formed and each of its individuals is in order. -/
theorem proper_iff : c.Proper ↔ c.WellFormed ∧ ∀ i ∈ c.individuals, i.Proper := by
  cases c with
  | single i =>
    refine ⟨fun h => ⟨h.wellFormed, List.forall_mem_singleton.2 h⟩, fun h => ?_⟩
    exact h.2 i (List.mem_singleton_self i)
  | multi members =>
    refine ⟨fun h => ⟨⟨h.1, fun i hi => (h.2.1 i hi).wellFormed, h.2.2⟩, h.2.1⟩, fun h => ?_⟩
    exact ⟨h.1.1, h.2, h.1.2.2⟩

/-- **Whatever arises is in order.** -/
theorem Arises.proper (h : c.Arises) : c.Proper := by
  induction h with
  | build told build => exact Builder.build_proper told.proper build
  | combine arise combine ih =>
    refine proper_iff.2 ⟨combine_wellFormed (fun d hd => (proper_iff.1 (ih d hd)).1) combine,
      fun i hi => ?_⟩
    obtain ⟨d, hd, hid⟩ := mem_individuals_of_combine combine hi
    exact (proper_iff.1 (ih d hd)).2 i hid
  | read read => exact proper_iff.2 ⟨ofJson_wellFormed read, proper_of_ofJson read⟩

end Context

/-! ## Everything in order arises -/

namespace Builder

variable {b : Builder}

/-- Values that are set one by one. -/
theorem Told.setValues (h : b.Told) (fields : Entries Attribute) :
    (fields.foldl (fun b field => b.setValue field.1 field.2) b).Told := by
  induction fields generalizing b with
  | nil => exact h
  | cons field rest ih => exact ih (h.setValue field.1 field.2)

theorem Told.addPrivates (h : b.Told) (references : List Reference) :
    ({ b with privateAttributes := b.privateAttributes ++ references } : Builder).Told := by
  induction references generalizing b with
  | nil => rwa [List.append_nil]
  | cons r rest ih =>
    rw [List.append_cons]
    exact ih (h.addPrivate r)

/-- Setting attributes one by one makes the map of them. -/
theorem foldl_setValue {fields : Entries Attribute}
    (h : ∀ field ∈ fields, field.1 ∉ builtInNames ∧ field.2 ≠ .null) (b : Builder) :
    fields.foldl (fun b field => b.setValue field.1 field.2) b = { b with
      attributes :=
        fields.foldl (fun entries field => insert field.1 field.2 entries) b.attributes } := by
  induction fields generalizing b with
  | nil => rfl
  | cons field rest ih =>
    obtain ⟨hplain, hpresent⟩ := h field (List.mem_cons_self ..)
    have hsome : field.2.isNull = false := by
      cases hvalue : field.2 <;> first | rfl | exact absurd hvalue hpresent
    have hfirst : b.setValue field.1 field.2 =
        { b with attributes := insert field.1 field.2 b.attributes } := by
      rw [Context.setValue_attribute hplain, hsome]
      rfl
    rw [List.foldl_cons, hfirst, ih fun other hother => h other (List.mem_cons_of_mem field hother)]
    rfl

end Builder

/-- A builder can be told any individual in order. -/
theorem Individual.Proper.told {i : Individual} (h : i.Proper) : i.builder.Told := by
  -- the parts are told one after the other, each only if it is there
  have hkind := (Builder.Told.ofKey i.key).kind i.kind.name
  have hname : (⟨i.kind.name, i.key, i.name, false, none, [], []⟩ : Builder).Told := by
    cases i.name with
    | none => exact hkind
    | some name => exact hkind.name name
  have hsecondary :
      (⟨i.kind.name, i.key, i.name, i.anonymous, i.secondary, [], []⟩ : Builder).Told := by
    cases i.secondary with
    | none => exact hname.anonymous i.anonymous
    | some secondary => exact (hname.anonymous i.anonymous).secondary secondary
  have hattributes := hsecondary.setValues i.attributes
  rw [Builder.foldl_setValue h.attributes] at hattributes
  have hmap :
      i.attributes.foldl (fun entries field => insert field.1 field.2 entries) [] = i.attributes :=
    ofList_of_ordered h.ordered
  rw [hmap] at hattributes
  exact hattributes.addPrivates i.privateAttributes

/-- Whoever is in order can be built: set what the individual has on a builder of its key. -/
theorem Individual.Proper.arises {i : Individual} (h : i.Proper) : (Context.single i).Arises :=
  .build h.told (Builder.build_eq_ok_iff.2 ⟨rfl, h.wellFormed.kind, h.key⟩)

namespace Context

variable {c : Context}

/-- **A context arises if and only if it is in order.** -/
theorem arises_iff_proper : c.Arises ↔ c.Proper := by
  refine ⟨Arises.proper, fun h => ?_⟩
  cases c with
  | single i => exact Individual.Proper.arises h
  | multi members =>
    refine .combine (fun d hd => ?_) (combine_singles h.1 h.2.2)
    obtain ⟨i, hi, rfl⟩ := List.mem_map.1 hd
    exact Individual.Proper.arises (h.2.1 i hi)

/-! ## Kinds -/

/-- **Individuals of different kinds are found by their kinds**, and nobody else is. -/
theorem ofKind?_eq_some_iff (h : c.kinds.Nodup) {k : Kind} {i : Individual} :
    c.ofKind? k = some i ↔ i ∈ c.individuals ∧ i.kind = k := by
  have hmem : ∀ {j}, c.ofKind? k = some j → j ∈ c.individuals ∧ j.kind = k := fun hfound =>
    ⟨List.mem_of_find?_eq_some hfound, by simpa using List.find?_some hfound⟩
  refine ⟨hmem, fun ⟨hi, hkind⟩ => ?_⟩
  cases hfound : c.ofKind? k with
  | none => exact absurd hkind (by simpa using List.find?_eq_none.1 hfound i hi)
  | some j =>
    obtain ⟨hj, hjkind⟩ := hmem hfound
    exact congrArg some (List.inj_on_of_nodup_map h hj hi (hjkind.trans hkind.symm))

/-- Contexts that can be put together have different kinds. -/
theorem nodup_kinds_of_combine {contexts : List Context} (hcombine : combine contexts = .ok c) :
    c.kinds.Nodup := by
  unfold combine at hcombine
  split at hcombine
  · cases hcombine
  · cases hcombine
    exact List.nodup_singleton _
  · simp only at hcombine
    split at hcombine
    · cases hcombine
    · next hdistinct =>
      cases hcombine
      exact nodup_kinds_of_pairwise (pairwise_lt_of_repeatedKind? (pairwise_sortByKind _) hdistinct)

/-- Kinds that increase are different. -/
theorem WellFormed.nodup_kinds (h : c.WellFormed) : c.kinds.Nodup := by
  have hnames : (c.kinds.map (·.name)).Nodup :=
    (pairwise_kinds h).imp fun hlt => String.ne_of_lt hlt
  exact hnames.of_map _

/-- Every individual has its own entry in the keys of the context. -/
theorem WellFormed.get?_keys (h : c.WellFormed) {i : Individual} (hi : i ∈ c.individuals) :
    get? i.kind.name c.keys = some i.key := by
  have hnames : ((c.individuals.map Individual.identity).map (·.1)).Nodup := by
    rw [← map_name_kinds]
    exact h.nodup_kinds.map fun _ _ => Kind.ext
  rw [h.keys_eq, get?_eq_some_iff_mem hnames]
  exact List.mem_map_of_mem hi

/-! ## Main result -/

/-- **Every context is in order, however it was made**: one individual of a proper kind with a key,
    whose attributes have neither built-in names nor null for a value, or at least two of those by
    strictly increasing kinds, and then the kind of the context is `multi`.  So looking a kind up
    finds the individual of that kind, if there is one, and nobody else; and the keys of the context
    have one entry for each individual, with its key. -/
theorem arises_in_order (h : c.Arises) :
    c.Proper ∧ (c.isMulti = true ↔ c.kind = .multi) ∧
    (∀ k i, c.ofKind? k = some i ↔ i ∈ c.individuals ∧ i.kind = k) ∧
    c.keys.length = c.individuals.length ∧
    ∀ i ∈ c.individuals, get? i.kind.name c.keys = some i.key := by
  have hproper := h.proper
  have hwellFormed := (proper_iff.1 hproper).1
  refine ⟨hproper, ?_, fun k i => ofKind?_eq_some_iff hwellFormed.nodup_kinds, ?_,
    fun i hi => hwellFormed.get?_keys hi⟩
  · cases c with
    | single i => exact ⟨nofun, fun hkind => absurd hkind hwellFormed.kind⟩
    | multi members => exact ⟨fun _ => rfl, fun _ => rfl⟩
  · rw [hwellFormed.keys_eq, List.length_map]

/-- A user that is built with values of all kinds, and changes its mind about one of them. -/
def visitor : Individual := ⟨.user, "a", none, false, none, [("home", home)], []⟩

theorem arises_visitor : (single visitor).Arises := by
  have htold :=
    (((Builder.Told.ofKey "a").setValue "steps" steps).setValue "home" home).setValue "kind" .null
  exact .build (htold.setValue "steps" .null) rfl

/-- A thing that is read from JSON is put together with a user that is built. -/
theorem arises_in_order_visit :
    (multi [trail, visitor]).Arises ∧ (multi [trail, visitor]).ofKind? .user = some visitor ∧
      (multi [trail, visitor]).keys = [("key", "t:1"), ("user", "a")] := by
  -- one of the two is read from JSON, the other one is built
  have htrail : (single trail).Arises :=
    .read (ofJson_single (built_trail.sound.2 trail (List.mem_singleton_self trail)))
  have hcombine : combine [single trail, single visitor] = .ok (multi [trail, visitor]) := by
    have hsorted : [trail, visitor].Pairwise fun a b => a.kind.name < b.kind.name :=
      List.pairwise_pair.2 (by decide +kernel)
    have hlength : 2 ≤ [trail, visitor].length := Nat.le_refl 2
    exact combine_singles hlength hsorted
  have harises : (multi [trail, visitor]).Arises := by
    refine .combine (fun d hd => ?_) hcombine
    rcases List.mem_pair.1 hd with rfl | rfl
    · exact htrail
    · exact arises_visitor
  obtain ⟨-, -, hfound, -, -⟩ := arises_in_order harises
  exact ⟨harises, (hfound .user visitor).2 ⟨List.mem_pair.2 (.inr rfl), rfl⟩, by decide +kernel⟩

end Context

end FeatureFlags
