/-
  CONTEXTS SURVIVE — a context that is written as JSON and read again is an equal context.

  1. **Equality** — `Context.Equal`: all parts are the same, up to the `==` of numbers.
  2. **Individuals (`readIndividual_members`)** — what was written of an individual is read again,
     with every number written and read again (`Individual.reread`).
  3. **Contexts** — of one individual, and of several: those come in the order of their kinds and
     none is repeated, so they are put together as they were.
  4. **Main result** — every context that is built survives.
-/
import FeatureFlags.Proofs.Context.Reading
import Mathlib.Data.List.Forall2

namespace FeatureFlags

open Entries

/-! ## Equality -/

/-- `i.Equal j` — the same individual, up to the `==` of the numbers in its attributes. -/
structure Individual.Equal (i j : Individual) : Prop where
  kind : i.kind = j.kind
  key : i.key = j.key
  name : i.name = j.name
  anonymous : i.anonymous = j.anonymous
  secondary : i.secondary = j.secondary
  attributes : Document.equalFields i.attributes j.attributes = true
  privateAttributes : i.privateAttributes = j.privateAttributes

/-- **`c.Equal d`** — contexts of one kind, or of several, with the same individuals in the same
    order. -/
inductive Context.Equal : Context → Context → Prop where
  | single {i j : Individual} (same : i.Equal j) : Equal (.single i) (.single j)
  | multi {first second : List Individual} (same : List.Forall₂ Individual.Equal first second) :
      Equal (.multi first) (.multi second)

/-! ## Individuals -/

/-- An individual whose attributes were written and read again. -/
def Individual.reread (i : Individual) : Individual :=
  { i with attributes := mapValues Attribute.reread i.attributes }

/-- Numbers of a sound individual are equal to what is read of them. -/
theorem Individual.Sound.equal_reread {i : Individual} (h : i.Sound) : i.reread.Equal i := by
  refine ⟨rfl, rfl, rfl, rfl, rfl, ?_, rfl⟩
  have hbind : mapValues Attribute.reread i.attributes =
      Document.bindFields (fun x => Attribute.reread (.number x)) i.attributes := by
    rw [Document.bindFields_eq_map]
    exact congrArg (fun f => mapValues f i.attributes) (funext Attribute.reread_eq_bind)
  show Document.equalFields (mapValues Attribute.reread i.attributes) i.attributes = true
  rw [hbind]
  refine Document.equalFields_bindFields i.attributes fun x hx => ?_
  rw [Document.numbersOfFields_eq_flatMap] at hx
  obtain ⟨field, hfield, hmem⟩ := List.mem_flatMap.1 hx
  exact Attribute.reread_number ((h.attributes field hfield).2 x hmem)

namespace Context

variable {i : Individual}

/-- **A written individual is read again.** -/
theorem readIndividual_members (h : i.Sound) :
    readIndividual i.kind.name (i.members false) = .ok i.reread := by
  have hwalk : (i.members false).foldlM (fun b field => takeMember b field.1 field.2)
      { Builder.ofKey "" with kind := i.kind.name } = .ok (walk i) :=
    foldlM_eq_ok (fun field hfield b => takeMember_written h.wellFormed hfield b) _
  obtain ⟨hsecondary, hreferences⟩ := walk_meta h
  have hmulti : i.kind.isMulti = false := by
    rw [Kind.isMulti, decide_eq_false_iff_not]
    exact fun hname => h.wellFormed.kind (Kind.ext hname)
  rw [readIndividual, hwalk]
  show (walk i).build = .ok i.reread
  rw [Builder.build, walk_kind h.wellFormed, Kind.ofText_name, walk_key h.wellFormed,
    walk_name h.wellFormed, walk_anonymous h.wellFormed, walk_attributes h, hsecondary, hreferences]
  simp only [hmulti, Bool.false_eq_true, if_false, h.wellFormed.key]
  rfl

/-! ## Contexts -/

/-- A context whose individuals were written and read again. -/
def reread : Context → Context
  | single i => .single i.reread
  | multi members => .multi (members.map Individual.reread)

/-- Among several, an individual is written without its kind. -/
theorem erase_kind_members (h : WellFormedAttributes i.attributes) :
    erase "kind" (i.members true) = i.members false := by
  refine ext_of_get? ((ordered_ofList _).erase _) (ordered_ofList _) fun name => ?_
  rw [get?_erase, Individual.get?_members h, Individual.get?_members h]
  by_cases hkind : "kind" = name
  · subst hkind
    rfl
  · rw [if_neg hkind]
    unfold Individual.written?
    split <;> first | rfl | exact absurd rfl hkind

/-- **A single individual is read again.** -/
theorem ofJson_single (h : i.Sound) : ofJson (toJson (.single i)) = .ok (.single i.reread) := by
  have hkind : get? "kind" (i.members true) = some (.text i.kind.name) :=
    Individual.get?_members h.wellFormed.attributes true "kind"
  have hread := readIndividual_members h
  rw [← erase_kind_members h.wellFormed.attributes] at hread
  -- what is read is one individual, since no individual is of the kind `multi`
  unfold toJson ofJson
  simp only [hkind]
  split
  · next heq => cases heq
  · next heq =>
    have hmulti : i.kind.name = "multi" := by
      injection heq with htext
      injection htext
    exact absurd (Kind.ext hmulti) h.wellFormed.kind
  · next kind _ heq =>
    cases heq
    rw [hread]
    rfl
  · next hnone heq => exact absurd (Option.some.inj heq).symm (hnone _)

/-- Strictly increasing kinds do not repeat. -/
theorem repeatedKind?_eq_none {members : List Individual}
    (h : members.Pairwise fun a b => a.kind.name < b.kind.name) : repeatedKind? members = none := by
  induction members with
  | nil => rfl
  | cons a rest ih =>
    cases rest with
    | nil => rfl
    | cons b others =>
      obtain ⟨hfirst, hrest⟩ := List.pairwise_cons.1 h
      have hne : a.kind ≠ b.kind := fun heq =>
        String.lt_irrefl b.kind.name (heq ▸ hfirst b (List.mem_cons_self ..))
      rw [repeatedKind?, if_neg hne]
      exact ih hrest

/-- Several individuals in the order of their kinds are one context. -/
theorem combine_singles {members : List Individual} (hlength : 2 ≤ members.length)
    (hsorted : members.Pairwise fun a b => a.kind.name < b.kind.name) :
    combine (members.map .single) = .ok (.multi members) := by
  have hflat : (members.map Context.single).flatMap individuals = members := by
    rw [List.flatMap_map]
    exact List.flatMap_singleton' members
  have hsort : sortByKind members = members :=
    List.mergeSort_of_pairwise (hsorted.imp fun hlt => decide_eq_true (Std.le_of_lt hlt))
  unfold combine
  rw [hflat]
  obtain ⟨a, b, rest, rfl⟩ : ∃ a b rest, members = a :: b :: rest := by
    match members, hlength with
    | a :: b :: rest, _ => exact ⟨a, b, rest, rfl⟩
  simp only [hsort, repeatedKind?_eq_none hsorted]

/-- The members are read one by one, each under the name of its kind. -/
theorem mapM_readMember {members : List Individual} (h : ∀ i ∈ members, i.Sound) :
    (members.map fun i => (i.kind.name, (.object (i.members false) : Json))).mapM readMember =
      .ok ((members.map Individual.reread).map Context.single) := by
  induction members with
  | nil => rfl
  | cons i rest ih =>
    have hfirst : readMember (i.kind.name, .object (i.members false)) = .ok (.single i.reread) := by
      show (readIndividual i.kind.name (i.members false)).map Context.single = _
      rw [readIndividual_members (h i (List.mem_cons_self ..))]
      rfl
    rw [List.map_cons, List.mapM_cons, hfirst, ih fun j hj => h j (List.mem_cons_of_mem i hj)]
    rfl

/-- **Several individuals are read again.** -/
theorem ofJson_multi {members : List Individual} (hlength : 2 ≤ members.length)
    (hsorted : members.Pairwise fun a b => a.kind.name < b.kind.name) (h : ∀ i ∈ members, i.Sound) :
    ofJson (toJson (.multi members)) = .ok (.multi (members.map Individual.reread)) := by
  let pairs : List (String × Json) := members.map fun i => (i.kind.name, .object (i.members false))
  have hkinds : get? "kind" pairs = none := get?_kind_parts _
  -- the tag goes among the kinds by its name, and is taken out again
  have hordered : Ordered pairs := ordered_parts hsorted _
  have hothers : erase "kind" (ofList (("kind", .text "multi") :: pairs)) = pairs := by
    rw [erase_ofList_cons _ hkinds, ofList_of_ordered hordered]
  have hkind : get? "kind" (ofList (("kind", .text "multi") :: pairs)) = some (.text "multi") :=
    get?_kind_head _ _
  have hread : pairs.mapM readMember = .ok ((members.map Individual.reread).map Context.single) :=
    mapM_readMember h
  have hcombine : combine ((members.map Individual.reread).map .single) =
      .ok (.multi (members.map Individual.reread)) := by
    refine combine_singles (by rwa [List.length_map]) (List.pairwise_map.2 hsorted)
  show ofJson (.object (ofList (("kind", .text "multi") :: pairs))) = _
  unfold ofJson
  simp only [hkind, hothers, hread]
  exact hcombine

/-- Kinds and keys are read as they were written. -/
theorem canonicalKey_reread (c : Context) : c.reread.canonicalKey = c.canonicalKey := by
  cases c with
  | single i => rfl
  | multi members =>
    show String.intercalate ":" ((members.map Individual.reread).map (·.qualifiedKey)) = _
    rw [List.map_map]
    rfl

/-- The individuals are equal one by one. -/
theorem equal_reread {c : Context} (h : ∀ i ∈ c.individuals, i.Sound) : c.reread.Equal c := by
  cases c with
  | single i => exact .single (h i (List.mem_singleton_self i)).equal_reread
  | multi members =>
    refine .multi (List.forall₂_map_left_iff.2 ?_)
    exact List.forall₂_same.2 fun i hi => (h i hi).equal_reread

/-! ## Main result -/

/-- **Every context that is built survives**: writing it as JSON and reading that succeeds, and
    gives an equal context — with the same canonical key, and the same individuals with the same
    kinds, keys, names, secondary keys, attributes and private references. -/
theorem ofJson_toJson {c : Context} (h : c.Built) :
    ∃ d, ofJson c.toJson = .ok d ∧ d.Equal c ∧ d.canonicalKey = c.canonicalKey := by
  obtain ⟨hwellFormed, hsound⟩ := h.sound
  refine ⟨c.reread, ?_, equal_reread hsound, canonicalKey_reread c⟩
  cases c with
  | single i => exact ofJson_single (hsound i (List.mem_singleton_self i))
  | multi members => exact ofJson_multi hwellFormed.1 hwellFormed.2.2 hsound

/-- The home of a hiker. -/
def home : Attribute := .object [("city", .text "x"), ("height", .number 1.5)]

/-- The steps of a hiker. -/
def steps : Attribute := .list [.null, .number (-0.0)]

/-- A user with nested attributes, a fraction and a negative zero among them, one private reference
    that is a literal with a slash, and one that is no reference. -/
def hiker : Individual :=
  ⟨Kind.user, "a", none, true, some "b", [("home", home), ("steps", steps)],
    [.literal "/home~", .ofText "//"]⟩

/-- Something of the kind `key`, which is also the name of a member. -/
def trail : Individual := ⟨⟨"key", by decide +kernel⟩, "t:1", some "T", false, none, [], []⟩

theorem built_hiker : (single hiker).Built := by
  have hhome : Attribute.Finite home := by
    intro x hx
    obtain rfl := List.mem_singleton.1 hx
    decide
  have hsteps : Attribute.Finite steps := by
    intro x hx
    obtain rfl := List.mem_singleton.1 hx
    decide
  have hmade :=
    (((((Builder.Made.ofKey "a").anonymous true).secondary "b").setValue "steps" hsteps).setValue
    "home" hhome).addPrivate (r := .literal "/home~") ⟨_, .inr rfl⟩
  exact .single (hmade.addPrivate (r := .ofText "//") ⟨_, .inl rfl⟩) rfl

theorem built_trail : (single trail).Built :=
  .single (((Builder.Made.ofKey "t:1").kind "key").name "T") rfl

/-- A user and a thing of kind `key` survive together. -/
theorem ofJson_toJson_hike :
    (multi [trail, hiker]).Built ∧ ∃ d, ofJson (multi [trail, hiker]).toJson = .ok d ∧
      d.Equal (multi [trail, hiker]) ∧ d.canonicalKey = "key:t%3A1:user:a" := by
  have hcombine : combine [single trail, single hiker] = .ok (multi [trail, hiker]) := by
    have hsorted : [trail, hiker].Pairwise fun a b => a.kind.name < b.kind.name :=
      List.pairwise_pair.2 (by decide +kernel)
    have hlength : 2 ≤ [trail, hiker].length := Nat.le_refl 2
    exact combine_singles hlength hsorted
  have hbuilt : (multi [trail, hiker]).Built := by
    refine .multi (fun d hd => ?_) hcombine
    rcases List.mem_pair.1 hd with rfl | rfl
    · exact built_trail
    · exact built_hiker
  exact ⟨hbuilt, ofJson_toJson hbuilt⟩

end Context

end FeatureFlags
