/-
  SEVERAL KINDS IN ONE OBJECT — what their context has from the members of the object.

  The object names `multi` as its kind, and every other member is to be an individual of the kind
  under whose name it stands.  But the members of such a member are taken as those of any individual
  are, and a text under the name `kind` is taken for the kind: it replaces the name of the member.
  Only an individual that stands alone has its `kind` taken out before.

  1. **One individual (`readIndividual_eq_ok`)** — the key is what stands under `key`; the kind is
     the one that the individual is read for, unless a text under `kind` tells another.
  2. **All of them (`individuals_of_several`)** — one individual for each member but `kind`; sorting
     them, looking for repeated kinds and taking a single one for the whole context keep them all.
  3. **Main result** — the kinds are those that the members tell, with the keys that the members
     have; they are the names of the members if no member tells another kind.  An object whose
     member does shows that this is needed.
-/
import FeatureFlags.Proofs.Context.RoundTrip
import FeatureFlags.Proofs.Surface
import Mathlib.Data.List.Sort

namespace FeatureFlags.Context

open Entries

/-! ## One individual -/

/-- **The kind and the key of an individual that is read.** -/
theorem readIndividual_eq_ok {kind : String} {fields : Entries Json} {i : Individual}
    (h : Ordered fields) (hread : readIndividual kind fields = .ok i) :
    i.kind.name = ((get? "kind" fields).bind Document.text?).getD kind ∧
      get? "key" fields = some (.text i.key) := by
  obtain ⟨b, hfold, hbuild⟩ := exists_of_bind_eq_ok hread
  obtain ⟨rfl, -, hkey⟩ := Builder.build_eq_ok_iff.1 hbuild
  have hwalk : fields.foldl take { Builder.ofKey "" with kind } = i.builder := foldl_of_foldlM hfold
  have hkinds := kind_foldl taken (fun _ => take_kind) h { Builder.ofKey "" with kind }
  have hkeys := key_foldl taken (fun _ => take_key) h { Builder.ofKey "" with kind }
  rw [hwalk] at hkinds hkeys
  refine ⟨hkinds, ?_⟩
  -- a key that is no text, or none at all, would have left the key empty
  have hsame : i.key = ((get? "key" fields).bind Document.text?).getD "" := hkeys
  rcases hfound : (get? "key" fields).bind Document.text? with _ | key
  · rw [hfound] at hsame
    exact absurd hsame hkey
  · rw [hfound] at hsame
    obtain ⟨value, hvalue, htext⟩ := Option.bind_eq_some_iff.1 hfound
    rw [hvalue, hsame, Document.text?_eq_some.1 htext]
    rfl

/-! ## All of them -/

/-- The kind that a member tells: the text under `kind` in it, or else the name it stands under. -/
def toldKind (field : String × Json) : String :=
  ((field.2.member? "kind").bind Document.text?).getD field.1

/-- `Tells field i` — a member tells the kind and the key of an individual. -/
structure Tells (field : String × Json) (i : Individual) : Prop where
  kind : i.kind.name = toldKind field
  key : field.2.member? "key" = some (.text i.key)

/-- What is read from a member is a single context, and the member tells what it has. -/
theorem tells_of_readMember {field : String × Json} {c : Context} (mapped : field.2.Mapped)
    (hread : readMember field = .ok c) : ∃ i, c = .single i ∧ Tells field i := by
  obtain ⟨name, value⟩ := field
  cases value with
  | object fields =>
    obtain ⟨i, hi, rfl⟩ := exists_of_map_eq_ok hread
    obtain ⟨hkind, hkey⟩ := readIndividual_eq_ok (mapped [] fields rfl) hi
    exact ⟨i, rfl, hkind, hkey⟩
  | _ => cases hread

/-- Members that are read one by one tell one individual each. -/
theorem forall₂_tells {others : Entries Json} {contexts : List Context}
    (mapped : ∀ field ∈ others, field.2.Mapped)
    (hread : List.Forall₂ (fun field c => readMember field = .ok c) others contexts) :
    List.Forall₂ Tells others (contexts.flatMap individuals) := by
  induction hread with
  | nil => exact .nil
  | @cons field c rest contexts hfield _ ih =>
    obtain ⟨i, rfl, htells⟩ := tells_of_readMember (mapped field (List.mem_cons_self ..)) hfield
    exact .cons htells (ih fun other hother => mapped other (List.mem_cons_of_mem field hother))

/-- **Each member but `kind` tells one individual**, and there are no others. -/
theorem individuals_of_several {fields : Entries Json} {c : Context}
    (mapped : (Document.object fields).Mapped) (several : get? "kind" fields = some (.text "multi"))
    (hread : ofJson (.object fields) = .ok c) :
    ∃ told, c.individuals.Perm told ∧ List.Forall₂ Tells (erase "kind" fields) told := by
  have hothers : ((erase "kind" fields).mapM readMember).bind combine = .ok c := by
    unfold ofJson at hread
    simpa only [several] using hread
  obtain ⟨contexts, hcontexts, hcombine⟩ := exists_of_bind_eq_ok hothers
  refine ⟨contexts.flatMap individuals, individuals_combine hcombine, ?_⟩
  have hmembers : ∀ field ∈ erase "kind" fields, field.2.Mapped := fun field hfield =>
    mapped.member (get?_of_mem (mapped [] fields rfl) (List.mem_filter.1 hfield).1)
  exact forall₂_tells hmembers (forall₂_of_mapM hcontexts)

/-- If no member tells another kind, then the kinds told are the names. -/
theorem map_name_of_tells {others : Entries Json} {told : List Individual}
    (htells : List.Forall₂ Tells others told) (hown : ∀ field ∈ others, toldKind field = field.1) :
    told.map (fun i => i.kind.name) = names others := by
  induction htells with
  | nil => rfl
  | @cons field i rest told hfield _ ih =>
    have hname : i.kind.name = field.1 := hfield.kind.trans (hown field (List.mem_cons_self ..))
    have hrest := ih fun other hother => hown other (List.mem_cons_of_mem field hother)
    show i.kind.name :: told.map _ = field.1 :: names rest
    rw [hname, hrest]

/-! ## Main result -/

/-- The kinds of a context increase. -/
theorem pairwise_kinds {c : Context} (h : c.WellFormed) :
    (c.kinds.map (·.name)).Pairwise (· < ·) := by
  cases c with
  | single i => exact List.pairwise_singleton _ _
  | multi members =>
    show ((members.map (·.kind)).map (·.name)).Pairwise (· < ·)
    rw [List.map_map, List.pairwise_map]
    exact h.2.2

/-- **Several kinds mean what their members tell**: the individuals of the context are those that
    the members of the object tell, each with the key that stands in its member.  If no member tells
    a kind other than its name, then the kinds are the names of the members, and under each stands
    the key of its individual. -/
theorem several_means {fields : Entries Json} {c : Context}
    (mapped : (Document.object fields).Mapped) (several : get? "kind" fields = some (.text "multi"))
    (hread : ofJson (.object fields) = .ok c) :
    (∃ told, c.individuals.Perm told ∧ List.Forall₂ Tells (erase "kind" fields) told) ∧
      ((∀ field ∈ erase "kind" fields, toldKind field = field.1) →
        c.kinds.map (·.name) = names (erase "kind" fields) ∧
          ∀ i ∈ c.individuals,
            Document.at? [i.kind.name, "key"] (.object fields) = some (.text i.key)) := by
  obtain ⟨told, hperm, htells⟩ := individuals_of_several mapped several hread
  refine ⟨⟨told, hperm, htells⟩, fun hown => ⟨?_, fun i hi => ?_⟩⟩
  · have hnames := map_name_of_tells htells hown
    have hordered : (names (erase "kind" fields)).Pairwise (· < ·) :=
      List.pairwise_map.2 (Ordered.erase (mapped [] fields rfl) "kind")
    -- both lists are in order, and the one has what the other has
    refine List.Perm.eq_of_pairwise (fun a b _ _ hab hba => absurd hba (String.lt_asymm hab))
      (pairwise_kinds (ofJson_wellFormed hread)) hordered ?_
    rw [← hnames, kinds, List.map_map]
    exact hperm.map _
  · obtain ⟨field, hfield, hkind, hkey⟩ := exists_of_forall₂ htells (hperm.mem_iff.1 hi)
    have hfound : get? i.kind.name fields = some field.2 := by
      rw [hkind, hown field hfield]
      exact get?_of_mem (mapped [] fields rfl) (List.mem_filter.1 hfield).1
    rw [Document.at?_object, hfound]
    show (field.2.member? "key").bind _ = _
    rw [hkey]
    rfl

/-- An individual with a key and nothing else. -/
def bare (kind : Kind) (key : String) : Individual := ⟨kind, key, none, false, none, [], []⟩

def device : Kind := ⟨"device", by decide +kernel⟩

def tenant : Kind := ⟨"tenant", by decide +kernel⟩

/-- An object of a device and of someone, listed as a user, who tells a kind. -/
def couple (own : Kind) : Entries Json :=
  [("device", .object [("key", .text "d1")]), ("kind", .text "multi"),
    ("user", .object [("key", .text "u1"), ("kind", .text own.name)])]

theorem mapped_couple (own : Kind) : (Document.object (couple own)).Mapped := by
  have hdevice : (Document.object [("key", .text "d1")] : Json).Mapped :=
    Document.mapped_of_members (List.pairwise_singleton _ _)
      (List.forall_mem_singleton.2 (Document.mapped_text "d1"))
  have huser : (Document.object [("key", .text "u1"), ("kind", .text own.name)] : Json).Mapped := by
    have hnames : "key" < "kind" := by decide +kernel
    refine Document.mapped_of_members (List.pairwise_pair.2 hnames) fun field hfield => ?_
    rcases List.mem_pair.1 hfield with rfl | rfl
    · exact Document.mapped_text "u1"
    · exact Document.mapped_text own.name
  have hnames : ["device", "kind", "user"].Pairwise (· < ·) := by decide +kernel
  refine Document.mapped_of_members (List.pairwise_map.1 hnames) ?_
  simp only [couple, List.forall_mem_cons, List.not_mem_nil, false_imp_iff, implies_true, and_true]
  exact ⟨hdevice, Document.mapped_text "multi", huser⟩

/-- The kind that is told is the kind that is taken. -/
theorem ofJson_couple {own : Kind} (hmulti : own ≠ .multi) (hlater : device.name < own.name) :
    ofJson (.object (couple own)) = .ok (.multi [bare device "d1", bare own "u1"]) := by
  have hdevice : readMember ("device", .object [("key", .text "d1")]) =
      .ok (.single (bare device "d1")) := by
    have hbuild : (bare device "d1").builder.build = .ok (bare device "d1") :=
      Builder.build_eq_ok_iff.2 ⟨rfl, show device ≠ .multi by decide +kernel, by decide⟩
    show Except.map Context.single (bare device "d1").builder.build = _
    rw [hbuild]
    rfl
  -- the member stands under `user`, but its own kind goes to the builder
  have hown : readMember ("user", .object [("key", .text "u1"), ("kind", .text own.name)]) =
      .ok (.single (bare own "u1")) := by
    have hbuild : (bare own "u1").builder.build = .ok (bare own "u1") :=
      Builder.build_eq_ok_iff.2 ⟨rfl, hmulti, show "u1" ≠ "" by decide⟩
    show Except.map Context.single (bare own "u1").builder.build = _
    rw [hbuild]
    rfl
  have hread : (erase "kind" (couple own)).mapM readMember =
      .ok ([bare device "d1", bare own "u1"].map .single) := by
    show [_, _].mapM readMember = _
    rw [List.mapM_cons, hdevice, List.mapM_cons, hown]
    rfl
  have hcombine : combine ([bare device "d1", bare own "u1"].map .single) =
      .ok (.multi [bare device "d1", bare own "u1"]) :=
    combine_singles (Nat.le_refl 2) (List.pairwise_pair.2 hlater)
  show ((erase "kind" (couple own)).mapM readMember).bind combine = _
  rw [hread]
  exact hcombine

/-- Whoever is listed as a user and tells to be one is that user. -/
theorem several_means_couple :
    (Document.object (couple .user)).Mapped ∧
    (∀ field ∈ erase "kind" (couple .user), toldKind field = field.1) ∧
    ∃ c, ofJson (.object (couple .user)) = .ok c ∧ c.kinds.map (·.name) = ["device", "user"] ∧
      ∀ i ∈ c.individuals,
        Document.at? [i.kind.name, "key"] (.object (couple .user)) = some (.text i.key) := by
  have hread : ofJson (.object (couple .user)) = .ok (.multi [bare device "d1", bare .user "u1"]) :=
    ofJson_couple (by decide +kernel) (by decide +kernel)
  have hown : ∀ field ∈ erase "kind" (couple .user), toldKind field = field.1 := by
    intro field hfield
    rcases List.mem_pair.1 hfield with rfl | rfl <;> rfl
  obtain ⟨-, hmeans⟩ := several_means (mapped_couple .user) rfl hread
  obtain ⟨hkinds, hkeys⟩ := hmeans hown
  exact ⟨mapped_couple .user, hown, _, hread, hkinds, hkeys⟩

/-- **A member may take the place of another kind**: someone listed as a user who tells to be a
    tenant is one, so the kinds are not the names of the members, and no individual has the key
    under `user`. -/
theorem several_means_disguise :
    (Document.object (couple tenant)).Mapped ∧ get? "kind" (couple tenant) = some (.text "multi") ∧
    names (erase "kind" (couple tenant)) = ["device", "user"] ∧
    ∃ c, ofJson (.object (couple tenant)) = .ok c ∧ c.kinds.map (·.name) = ["device", "tenant"] ∧
      c.ofKind? .user = none :=
  ⟨mapped_couple tenant, rfl, rfl, _, ofJson_couple (by decide +kernel) (by decide +kernel),
    rfl, by decide +kernel⟩

end FeatureFlags.Context
