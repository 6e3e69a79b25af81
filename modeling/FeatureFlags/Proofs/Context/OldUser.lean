/-
  THE OLD USER FORM — what a user has from the members of an object without `kind`.

  Such an object has a few known members, and `custom` holds further attributes.  But those are set
  by their names as on any builder, and a builder sends built-in names to their own fields.  The
  members of the object are taken in the order of their names: what `custom` tells of anonymity
  comes last, what it tells of the key comes before the object's own key, and of a kind nothing but
  `custom` tells.

  1. **Custom members (`takeCustom`)** — what they change in a builder.
  2. **Members (`takenOld`)** — what each member of the object changes.
  3. **Part by part (`oldWalk`)** — kind, key, anonymity and the other parts of the user at the end.
  4. **Main result** — the kind, the key and the anonymity of the user; where `custom` tells neither
     kind nor anonymity and the object has a key (`KeepsIdentity`), changing `custom` changes
     nothing but what stands under the names in it.  An object whose `custom` tells a kind shows
     that this is needed.
-/
import FeatureFlags.Proofs.Context.Reading
import FeatureFlags.Proofs.Surface

namespace FeatureFlags.Context

open Entries

variable {b : Builder} {fields custom : Entries Json}

/-! ## Custom members -/

/-- Take the members of `custom`. -/
def takeCustom (b : Builder) (custom : Entries Json) : Builder :=
  custom.foldl (fun b field => b.setValue field.1 (Json.toAttribute field.2)) b

/-- Set as a value, a kind changes the kind of the builder, if it is text. -/
theorem setValue_kind (b : Builder) (value : Json) :
    b.setValue "kind" value.toAttribute = { b with kind := value.text?.getD b.kind } := by
  cases value <;> rfl

theorem setValue_key (b : Builder) (value : Json) :
    b.setValue "key" value.toAttribute = { b with key := value.text?.getD b.key } := by
  cases value <;> rfl

theorem setValue_anonymous (b : Builder) (value : Json) :
    b.setValue "anonymous" value.toAttribute =
      { b with anonymous := value.bool?.getD b.anonymous } := by
  cases value <;> rfl

/-- **A custom member changes only its own part of a builder.** -/
theorem taken_setValue (b : Builder) (field : String × Json) :
    b.Taken field.1 (b.setValue field.1 (Json.toAttribute field.2)) := by
  obtain ⟨name, value⟩ := field
  by_cases hname : name ∈ builtInNames
  · simp only [builtInNames, List.mem_cons, List.not_mem_nil, or_false] at hname
    -- each built-in name has its own field, and `_meta` has none
    rcases hname with rfl | rfl | rfl | rfl | rfl
    · exact setValue_kind b value ▸ .kind _
    · exact setValue_key b value ▸ .key _
    · cases value with
      | null => exact .name none
      | text n => exact .name (some n)
      | _ => exact .name b.name
    · exact setValue_anonymous b value ▸ .anonymous _
    · have hsame : b.setValue "_meta" value.toAttribute = b := by cases value <;> rfl
      exact hsame.symm ▸ .details b.secondary b.privateAttributes
  · rw [setValue_attribute hname]
    exact .custom hname _

/-- Among the custom members only `kind` tells a kind. -/
theorem takeCustom_kind (h : Ordered custom) (b : Builder) :
    (takeCustom b custom).kind = ((get? "kind" custom).bind Document.text?).getD b.kind :=
  kind_foldl taken_setValue setValue_kind h b

theorem takeCustom_key (h : Ordered custom) (b : Builder) :
    (takeCustom b custom).key = ((get? "key" custom).bind Document.text?).getD b.key :=
  key_foldl taken_setValue setValue_key h b

theorem takeCustom_anonymous (h : Ordered custom) (b : Builder) :
    (takeCustom b custom).anonymous =
      ((get? "anonymous" custom).bind Document.bool?).getD b.anonymous :=
  anonymous_foldl taken_setValue setValue_anonymous h b

/-- A part of the builder that is due to a name stays as it is if `custom` does not have that
    name. -/
theorem takeCustom_view {τ : Type} (view : Builder → τ) {name : String}
    (other : ∀ b n c, n ≠ name → Builder.Taken b n c → view c = view b)
    (h : get? name custom = none) (b : Builder) : view (takeCustom b custom) = view b := by
  refine List.foldlRecOn (motive := fun c => view c = view b) custom _ rfl
    fun c hc field hfield => ?_
  have hne : field.1 ≠ name := get?_eq_none_iff.1 h field hfield
  exact (other c field.1 _ hne (taken_setValue c field)).trans hc

/-- Custom members touch neither the secondary key nor the private attributes. -/
theorem takeCustom_details (b : Builder) (custom : Entries Json) :
    (takeCustom b custom).secondary = b.secondary ∧
      (takeCustom b custom).privateAttributes = b.privateAttributes := by
  refine List.foldlRecOn (motive := fun c : Builder => c.secondary = b.secondary ∧
    c.privateAttributes = b.privateAttributes) custom _ ⟨rfl, rfl⟩ fun c hc field _ => ?_
  rwa [Builder.setValue_secondary, Builder.setValue_privateAttributes]

/-! ## Members -/

/-- Take a member of the old form; a member that cannot be read changes nothing. -/
def takeOld (b : Builder) (field : String × Json) : Builder :=
  (takeOldMember b field.1 field.2).toOption.getD b

/-- The members of an object; any other value has none. -/
def membersOf (value : Json) : Entries Json := value.object?.getD []

/-- The members of what stands under `custom`. -/
def customOf (fields : Entries Json) : Entries Json := (get? "custom" fields).elim [] membersOf

/-- The private attributes that a list names. -/
def oldReferences : Json → List Reference
  | .list items => (textsOf items).map Reference.literal
  | _ => []

theorem takeOld_key (b : Builder) (value : Json) :
    takeOld b ("key", value) = { b with key := value.text?.getD b.key } := by
  cases value <;> rfl

theorem takeOld_name (b : Builder) (value : Json) :
    takeOld b ("name", value) = { b with name := value.text?.or b.name } := by
  cases value <;> rfl

theorem takeOld_anonymous (b : Builder) (value : Json) :
    takeOld b ("anonymous", value) = { b with anonymous := value.bool?.getD b.anonymous } := by
  cases value <;> rfl

theorem takeOld_secondary (b : Builder) (value : Json) :
    takeOld b ("secondary", value) = { b with secondary := value.text?.or b.secondary } := by
  cases value <;> rfl

theorem takeOld_custom (b : Builder) (value : Json) :
    takeOld b ("custom", value) = takeCustom b (membersOf value) := by
  cases value <;> rfl

theorem takeOld_privateAttributes (b : Builder) (value : Json) :
    takeOld b ("privateAttributeNames", value) =
      { b with privateAttributes := b.privateAttributes ++ oldReferences value } := by
  cases value with
  | list items => exact foldl_addPrivate Reference.literal (textsOf items) b
  | _ =>
    show b = { b with privateAttributes := b.privateAttributes ++ [] }
    rw [List.append_nil]

/-- The known attributes of users are set as they are, unless they are null. -/
theorem takeOld_attribute {name : String} (h : name ∈ oldAttributes) (b : Builder) (value : Json) :
    takeOld b (name, value) = { b with
      attributes :=
        value.text?.elim b.attributes fun s => Entries.insert name (.text s) b.attributes } := by
  simp only [oldAttributes, List.mem_cons, List.not_mem_nil, or_false] at h
  rcases h with rfl | rfl | rfl | rfl | rfl | rfl <;> cases value <;> rfl

/-- `b.TakenOld name c` — a member of this name changes the builder `b` to `c`, in its own part
    only. -/
inductive TakenOld (b : Builder) : String → Builder → Prop where
  | key (key : String) : TakenOld b "key" { b with key }
  | name (name : Option String) : TakenOld b "name" { b with name }
  | anonymous (anonymous : Bool) : TakenOld b "anonymous" { b with anonymous }
  | secondary (secondary : Option String) : TakenOld b "secondary" { b with secondary }
  | custom (value : Json) : TakenOld b "custom" (takeCustom b (membersOf value))
  | privateAttributes (privateAttributes : List Reference) :
      TakenOld b "privateAttributeNames" { b with privateAttributes }
  | known {name : String} (known : name ∈ oldAttributes) (text : Option String) :
      TakenOld b name { b with
        attributes := text.elim b.attributes fun s => Entries.insert name (.text s) b.attributes }
  | unknown (name : String) : TakenOld b name b

/-- **A member of the old form changes only its own part of a builder.** -/
theorem takenOld (b : Builder) (field : String × Json) : TakenOld b field.1 (takeOld b field) := by
  obtain ⟨name, value⟩ := field
  by_cases hknown : name ∈ oldAttributes
  · rw [takeOld_attribute hknown]
    exact .known hknown _
  by_cases hname : name ∈
    ["key", "name", "anonymous", "secondary", "custom", "privateAttributeNames"]
  · simp only [List.mem_cons, List.not_mem_nil, or_false] at hname
    rcases hname with rfl | rfl | rfl | rfl | rfl | rfl
    · exact takeOld_key b value ▸ .key _
    · exact takeOld_name b value ▸ .name _
    · exact takeOld_anonymous b value ▸ .anonymous _
    · exact takeOld_secondary b value ▸ .secondary _
    · exact takeOld_custom b value ▸ .custom _
    · exact takeOld_privateAttributes b value ▸ .privateAttributes _
  · simp only [List.mem_cons, List.not_mem_nil, or_false, not_or] at hname
    obtain ⟨hkey, hname, hanonymous, hsecondary, hcustom, hprivate⟩ := hname
    -- a member that is not known is passed over
    have hsame : takeOldMember b name value = .ok b := by
      unfold takeOldMember
      split <;> first | contradiction | rfl | exact congrArg Except.ok (if_neg hknown)
    have htake : takeOld b (name, value) = b := by
      rw [takeOld, hsame]
      rfl
    exact htake.symm ▸ .unknown name

/-! ## Part by part -/

/-- The builder after all members. -/
def oldWalk (fields : Entries Json) : Builder := fields.foldl takeOld (Builder.ofKey "")

section

variable (mapped : (Document.object fields).Mapped)

include mapped

/-- What stands under `custom` is a map, if it is an object at all. -/
theorem ordered_membersOf {name : String} {value : Json} (hmem : (name, value) ∈ fields) :
    Ordered (membersOf value) := by
  have hvalue : value.Mapped := mapped.member (get?_of_mem (mapped [] fields rfl) hmem)
  cases value with
  | object custom => exact hvalue [] custom rfl
  | _ => exact .nil

/-- **A part of the builder at the end** is due to the member of one name, or to those of two. -/
theorem oldWalk_view {τ : Type} (view : Builder → τ) (name : String) (set : Json → τ → τ)
    (own : ∀ value, (name, value) ∈ fields →
      ∀ b, view (takeOld b (name, value)) = set value (view b))
    (other : ∀ b n c, n ≠ name → TakenOld b n c → view c = view b) :
    let first := view (Builder.ofKey "")
    view (oldWalk fields) = (get? name fields).elim first fun value => set value first :=
  foldl_view view set (mapped [] fields rfl) own
    (fun field _ hne b => other b field.1 _ hne (takenOld b field)) _

/-- A part of the builder that is due to two members takes what the first tells, and then what the
    second tells. -/
theorem oldWalk_view_pair {τ : Type} (view : Builder → τ) {first second : String}
    (hlt : first < second) (setFirst setSecond : Json → τ → τ)
    (ownFirst : ∀ value, (first, value) ∈ fields →
      ∀ b, view (takeOld b (first, value)) = setFirst value (view b))
    (ownSecond : ∀ value, (second, value) ∈ fields →
      ∀ b, view (takeOld b (second, value)) = setSecond value (view b))
    (other : ∀ b n c, n ≠ first → n ≠ second → TakenOld b n c → view c = view b) :
    view (oldWalk fields) =
      let between := (get? first fields).elim (view (Builder.ofKey "")) fun value =>
        setFirst value (view (Builder.ofKey ""))
      (get? second fields).elim between fun value => setSecond value between :=
  foldl_view_pair hlt view setFirst setSecond (mapped [] fields rfl) ownFirst ownSecond
    (fun field _ hfirst hsecond b => other b field.1 _ hfirst hsecond (takenOld b field)) _

/-- Only `custom` tells of the kind. -/
theorem oldWalk_kind :
    (oldWalk fields).kind = ((get? "kind" (customOf fields)).bind Document.text?).getD "user" := by
  rw [oldWalk_view mapped Builder.kind "custom"
    (fun value old => ((get? "kind" (membersOf value)).bind Document.text?).getD old)
    (fun value hmem b => by rw [takeOld_custom, takeCustom_kind (ordered_membersOf mapped hmem)])
    (fun b n c hne hc => by cases hc <;> first | rfl | contradiction)]
  rw [customOf]
  cases get? "custom" fields <;> rfl

/-- The key of the object itself comes after that of `custom`. -/
theorem oldWalk_key :
    (oldWalk fields).key = (((get? "key" fields).bind Document.text?).or
      ((get? "key" (customOf fields)).bind Document.text?)).getD "" := by
  have hlt : "custom" < "key" := by decide +kernel
  rw [oldWalk_view_pair mapped Builder.key hlt
    (fun value old => ((get? "key" (membersOf value)).bind Document.text?).getD old)
    (fun value old => value.text?.getD old)
    (fun value hmem b => by rw [takeOld_custom, takeCustom_key (ordered_membersOf mapped hmem)])
    (fun value _ b => by rw [takeOld_key])
    (fun b n c hcustom hkey hc => by cases hc <;> first | rfl | contradiction)]
  rw [customOf]
  cases get? "custom" fields <;> cases get? "key" fields with
  | none => rfl
  | some value => cases value <;> rfl

/-- What `custom` tells of anonymity comes after what the object itself does. -/
theorem oldWalk_anonymous :
    (oldWalk fields).anonymous = (((get? "anonymous" (customOf fields)).bind Document.bool?).or
      ((get? "anonymous" fields).bind Document.bool?)).getD false := by
  have hlt : "anonymous" < "custom" := by decide +kernel
  rw [oldWalk_view_pair mapped Builder.anonymous hlt (fun value old => value.bool?.getD old)
    (fun value old => ((get? "anonymous" (membersOf value)).bind Document.bool?).getD old)
    (fun value _ b => by rw [takeOld_anonymous])
    (fun value hmem b => by
      rw [takeOld_custom, takeCustom_anonymous (ordered_membersOf mapped hmem)])
    (fun b n c hanonymous hcustom hc => by cases hc <;> first | rfl | contradiction)]
  rw [customOf]
  cases get? "custom" fields with
  | none => cases get? "anonymous" fields <;> rfl
  | some value =>
    show ((get? "anonymous" (membersOf value)).bind Document.bool?).getD _ =
      (((get? "anonymous" (membersOf value)).bind Document.bool?).or _).getD false
    -- `custom` comes after `anonymous`, so what it tells stays
    cases (get? "anonymous" (membersOf value)).bind Document.bool? with
    | none => cases get? "anonymous" fields <;> rfl
    | some anonymous => rfl

/-- What is due to a name that `custom` does not have is not changed by it. -/
theorem view_takeOld_custom {τ : Type} (view : Builder → τ) {name : String}
    (other : ∀ b n c, n ≠ name → Builder.Taken b n c → view c = view b)
    (hcustom : get? name (customOf fields) = none) {value : Json}
    (hmem : ("custom", value) ∈ fields) (b : Builder) :
    view (takeOld b ("custom", value)) = view b := by
  have hunseen : get? name (membersOf value) = none := by
    rwa [customOf, get?_of_mem (mapped [] fields rfl) hmem] at hcustom
  rw [takeOld_custom]
  exact takeCustom_view view other hunseen b

/-- The name of the user is that of the object, if `custom` does not tell of it. -/
theorem oldWalk_name (hcustom : get? "name" (customOf fields) = none) :
    (oldWalk fields).name = (get? "name" fields).bind Document.text? := by
  rw [oldWalk, foldl_view Builder.name (fun value old => value.text?.or old) (mapped [] fields rfl)
    (fun value _ b => by rw [takeOld_name])
    (fun field hmem hne b => by
      obtain ⟨name, value⟩ := field
      by_cases hname : name = "custom"
      · subst hname
        exact view_takeOld_custom mapped Builder.name
          (fun b n c hne hc => by cases hc <;> first | rfl | contradiction) hcustom hmem b
      · -- every other member leaves the name alone
        have htaken := takenOld b (name, value)
        generalize takeOld b (name, value) = c at htaken
        cases htaken <;> first | rfl | contradiction)]
  cases get? "name" fields with
  | none => rfl
  | some value => exact Option.or_none

/-- The secondary key is due to its own member. -/
theorem oldWalk_secondary :
    (oldWalk fields).secondary = (get? "secondary" fields).bind Document.text? := by
  rw [oldWalk_view mapped Builder.secondary "secondary" (fun value old => value.text?.or old)
    (fun value _ b => by rw [takeOld_secondary])
    (fun b n c hne hc => by
      cases hc <;> first | rfl | exact (takeCustom_details b _).1 | contradiction)]
  cases get? "secondary" fields with
  | none => rfl
  | some value => exact Option.or_none

theorem oldWalk_privateAttributes :
    (oldWalk fields).privateAttributes =
      (get? "privateAttributeNames" fields).elim [] oldReferences :=
  oldWalk_view mapped Builder.privateAttributes "privateAttributeNames"
    (fun value old => old ++ oldReferences value)
    (fun value _ b => by rw [takeOld_privateAttributes])
    (fun b n c hne hc => by
      cases hc <;> first | rfl | exact (takeCustom_details b _).2 | contradiction)

/-- The attribute that an object of the old form has besides those of `custom`. -/
def oldAttribute? (name : String) (fields : Entries Json) : Option Attribute :=
  if name ∈ oldAttributes then ((get? name fields).bind Document.text?).map .text else none

/-- An attribute that `custom` does not tell of is due to the object's own member. -/
theorem get?_oldWalk {name : String} (hcustom : get? name (customOf fields) = none) :
    get? name (oldWalk fields).attributes = oldAttribute? name fields := by
  -- a member of another name, or one that is no attribute, leaves this attribute as it is
  have hother : ∀ field ∈ fields, field.1 ≠ name ∨ name ∉ oldAttributes → ∀ b,
      get? name (takeOld b field).attributes = get? name b.attributes := by
    rintro ⟨n, value⟩ hmem hne b
    by_cases hn : n = "custom"
    · subst hn
      exact view_takeOld_custom mapped (fun b => get? name b.attributes)
        (fun b n c hne hc => hc.get?_attributes hne) hcustom hmem b
    · have htaken := takenOld b (n, value)
      generalize takeOld b (n, value) = c at htaken
      cases htaken with
      | custom => exact absurd rfl hn
      | known known text =>
        have hdifferent : n ≠ name := hne.elim id fun hnot heq => hnot (heq ▸ known)
        cases text with
        | none => rfl
        | some text =>
          show get? name (Entries.insert n _ _) = _
          rw [get?_insert, if_neg hdifferent]
      | _ => rfl
  rw [oldWalk, oldAttribute?]
  by_cases hknown : name ∈ oldAttributes
  · rw [if_pos hknown, foldl_view (fun b : Builder => get? name b.attributes)
      (fun value old => (value.text?.map .text).or old) (mapped [] fields rfl)
      (fun value _ b => by
        rw [takeOld_attribute hknown]
        cases value with
        | text s =>
          show get? name (Entries.insert name _ _) = _
          rw [get?_insert, if_pos rfl]
          rfl
        | _ => rfl)
      (fun field hmem hne b => hother field hmem (.inl hne) b)]
    cases get? name fields with
    | none => rfl
    | some value => exact Option.or_none
  · rw [if_neg hknown]
    exact List.foldlRecOn (motive := fun b : Builder => get? name b.attributes = none) fields _ rfl
      fun b hb field hmem => (hother field hmem (.inr hknown) b).trans hb

end

/-! ## Main result -/

/-- **Reading the old form**: a key must be a text; then the individual is built from all
    members. -/
theorem readOldUser_eq_ok_iff {i : Individual} :
    readOldUser fields = .ok i ↔
      (∀ value, ("key", value) ∈ fields → ∃ key, value = .text key) ∧
        (oldWalk fields).build = .ok i := by
  constructor
  · intro hread
    obtain ⟨b, hfold, hbuild⟩ := exists_of_bind_eq_ok hread
    have hwalk : oldWalk fields = b := foldl_of_foldlM hfold
    refine ⟨fun value hmem => ?_, hwalk ▸ hbuild⟩
    obtain ⟨before, after, htake⟩ := exists_of_mem_foldlM hfold _ hmem
    cases value with
    | text key => exact ⟨key, rfl⟩
    | _ => cases htake
  · rintro ⟨hkeys, hbuild⟩
    -- only a key that is no text is refused, and there is none
    have hstep : ∀ field ∈ fields, ∀ b, takeOldMember b field.1 field.2 =
        .ok (takeOld b field) := by
      rintro ⟨name, value⟩ hmem b
      have htaken : ∃ c, takeOldMember b name value = .ok c := by
        unfold takeOldMember
        split
        case h_2 hnot =>
          obtain ⟨key, rfl⟩ := hkeys value hmem
          exact absurd rfl (hnot key)
        all_goals exact ⟨_, rfl⟩
      obtain ⟨c, hc⟩ := htaken
      rw [takeOld, hc]
      rfl
    have hfold : fields.foldlM (fun b field => takeOldMember b field.1 field.2) (Builder.ofKey "") =
        .ok (oldWalk fields) := foldlM_eq_ok hstep _
    rw [readOldUser, hfold]
    exact hbuild

/-- `KeepsIdentity fields` — of an object in the old form, `custom` tells no other kind and nothing
    of anonymity, and the object has a key of its own. -/
structure KeepsIdentity (fields : Entries Json) : Prop where
  kind : ((get? "kind" (customOf fields)).bind Document.text?).getD "user" = "user"
  anonymous : (get? "anonymous" (customOf fields)).bind Document.bool? = none
  key : get? "key" fields ≠ none

/-- `AgreeBut names i j` — the same individual, but for its name and attributes if they are among
    `names`. -/
structure AgreeBut (names : List String) (i j : Individual) : Prop where
  kind : i.kind = j.kind
  key : i.key = j.key
  anonymous : i.anonymous = j.anonymous
  secondary : i.secondary = j.secondary
  privateAttributes : i.privateAttributes = j.privateAttributes
  members : ∀ name ∉ names, i.member? name = j.member? name

/-- Without a custom kind, the user is of the kind `user`. -/
theorem KeepsIdentity.walk_kind (mapped : (Document.object fields).Mapped)
    (h : KeepsIdentity fields) :
    (oldWalk fields).kind = "user" := (oldWalk_kind mapped).trans h.kind

/-- The key under `key` is that of the user. -/
theorem KeepsIdentity.walk_key (mapped : (Document.object fields).Mapped) (h : KeepsIdentity fields)
    (hkeys : ∀ value, ("key", value) ∈ fields → ∃ key, value = .text key) :
    get? "key" fields = some (.text (oldWalk fields).key) := by
  obtain ⟨value, hvalue⟩ := Option.ne_none_iff_exists'.1 h.key
  obtain ⟨key, rfl⟩ := hkeys value (mem_of_get? hvalue)
  rw [oldWalk_key mapped, hvalue]
  rfl

theorem KeepsIdentity.walk_anonymous (mapped : (Document.object fields).Mapped)
    (h : KeepsIdentity fields) :
    (oldWalk fields).anonymous = ((get? "anonymous" fields).bind Document.bool?).getD false := by
  rw [oldWalk_anonymous mapped, h.anonymous]
  rfl

/-- Two users whose objects differ in `custom` only agree in all that neither `custom` tells of. -/
theorem member?_of_erase {other : Entries Json} (mapped : (Document.object fields).Mapped)
    (mapped' : (Document.object other).Mapped)
    (hsame : erase "custom" other = erase "custom" fields) {i j : Individual}
    (hi : oldWalk fields = i.builder) (hj : oldWalk other = j.builder) (hkind : i.kind = j.kind)
    (hkey : i.key = j.key) (hanonymous : i.anonymous = j.anonymous) {name : String}
    (hcustom : get? name (customOf fields) = none) (hcustom' : get? name (customOf other) = none) :
    i.member? name = j.member? name := by
  have hattribute : get? name i.attributes = get? name j.attributes := by
    have hfirst := get?_oldWalk mapped hcustom
    have hsecond := get?_oldWalk mapped' hcustom'
    rw [hi] at hfirst
    rw [hj] at hsecond
    refine hfirst.trans (Eq.trans ?_ hsecond.symm)
    rw [oldAttribute?, oldAttribute?]
    by_cases hne : name = "custom"
    · subst hne
      rfl
    · rw [get?_eq_of_erase hsame hne]
  unfold Individual.member?
  split
  · rw [hkind]
  · rw [hkey]
  · -- the name is due to its own member, which is not in `custom`
    have hfirst := oldWalk_name mapped hcustom
    have hsecond := oldWalk_name mapped' hcustom'
    rw [hi] at hfirst
    rw [hj, get?_eq_of_erase hsame (by decide)] at hsecond
    exact congrArg (Option.map Document.text) (hfirst.trans hsecond.symm)
  · rw [hanonymous]
  · exact hattribute

/-- **Another `custom`, the same user**: an object that keeps the identity of its user can have
    another `custom` that does so, too, and what is read is the same but for the names in the
    two. -/
theorem readOldUser_of_erase {other : Entries Json} (mapped : (Document.object fields).Mapped)
    (mapped' : (Document.object other).Mapped) (keeps : KeepsIdentity fields)
    (keeps' : KeepsIdentity other) (hsame : erase "custom" other = erase "custom" fields)
    {i : Individual} (hread : readOldUser fields = .ok i) :
    ∃ j, readOldUser other = .ok j ∧
      AgreeBut (names (customOf fields) ++ names (customOf other)) i j := by
  obtain ⟨hkeys, hbuild⟩ := readOldUser_eq_ok_iff.1 hread
  obtain ⟨hwalk, hmulti, hkey⟩ := Builder.build_eq_ok_iff.1 hbuild
  have hget : ∀ name, name ≠ "custom" → get? name other = get? name fields := fun _ hne =>
    get?_eq_of_erase hsame hne
  have hkeys' : ∀ value, ("key", value) ∈ other → ∃ key, value = .text key := by
    intro value hmem
    have hfound := (hget "key" (by decide)).symm.trans (get?_of_mem (mapped' [] other rfl) hmem)
    exact hkeys value (mem_of_get? hfound)
  -- part by part, the two walks end with the same
  have hkindParts : (oldWalk other).kind = i.kind.name := by
    rw [keeps'.walk_kind mapped', ← keeps.walk_kind mapped, hwalk]
    rfl
  have hkeyParts : (oldWalk other).key = i.key := by
    have hfound := keeps'.walk_key mapped' hkeys'
    rw [hget "key" (by decide), keeps.walk_key mapped hkeys, hwalk] at hfound
    injection Option.some.inj hfound with heq
    exact heq.symm
  have hanonymous : i.anonymous = (oldWalk other).anonymous := by
    rw [keeps'.walk_anonymous mapped', hget "anonymous" (by decide), ← keeps.walk_anonymous mapped,
      hwalk]
    rfl
  have hsecondary : i.secondary = (oldWalk other).secondary := by
    rw [oldWalk_secondary mapped', hget "secondary" (by decide), ← oldWalk_secondary mapped, hwalk]
    rfl
  have hprivate : i.privateAttributes = (oldWalk other).privateAttributes := by
    rw [oldWalk_privateAttributes mapped', hget "privateAttributeNames" (by decide),
      ← oldWalk_privateAttributes mapped, hwalk]
    rfl
  let j : Individual := ⟨i.kind, i.key, (oldWalk other).name, (oldWalk other).anonymous,
    (oldWalk other).secondary, (oldWalk other).attributes, (oldWalk other).privateAttributes⟩
  have hj : oldWalk other = j.builder := by
    show _ = (⟨i.kind.name, i.key, _, _, _, _, _⟩ : Builder)
    rw [← hkindParts, ← hkeyParts]
  refine ⟨j, readOldUser_eq_ok_iff.2 ⟨hkeys', Builder.build_eq_ok_iff.2 ⟨hj, hmulti, hkey⟩⟩,
    rfl, rfl, hanonymous, hsecondary, hprivate, fun name hname => ?_⟩
  have hcustom : get? name (customOf fields) = none := get?_eq_none_iff.2 fun pair hpair heq =>
    hname (List.mem_append_left _ (List.mem_map.2 ⟨pair, hpair, heq⟩))
  have hcustom' : get? name (customOf other) = none := get?_eq_none_iff.2 fun pair hpair heq =>
    hname (List.mem_append_right _ (List.mem_map.2 ⟨pair, hpair, heq⟩))
  exact member?_of_erase mapped mapped' hsame hwalk hj rfl rfl hanonymous hcustom hcustom'

/-- **The old form gives a user**, whose kind is the one that `custom` tells, whose key is that of
    the object, or else the one in `custom`, and whose anonymity is what `custom` tells, or else the
    object.  If `custom` tells nothing of the kind and of anonymity and the object has a key, then
    it is a user with that key, and changing `custom` changes neither that nor anything but what
    stands under the names in it. -/
theorem oldUser_means {c : Context} (mapped : (Document.object fields).Mapped)
    (old : get? "kind" fields = none) (hread : ofJson (.object fields) = .ok c) :
    ∃ i, c = .single i ∧
      i.kind.name = ((get? "kind" (customOf fields)).bind Document.text?).getD "user" ∧
      some i.key = ((get? "key" fields).bind Document.text?).or
        ((get? "key" (customOf fields)).bind Document.text?) ∧
      i.anonymous = (((get? "anonymous" (customOf fields)).bind Document.bool?).or
        ((get? "anonymous" fields).bind Document.bool?)).getD false ∧
      (KeepsIdentity fields → i.kind = .user ∧ get? "key" fields = some (.text i.key) ∧
        ∀ other, (Document.object other).Mapped → KeepsIdentity other →
          erase "custom" other = erase "custom" fields →
          ∃ j, ofJson (.object other) = .ok (.single j) ∧
            AgreeBut (names (customOf fields) ++ names (customOf other)) i j) := by
  have hform : ∀ entries : Entries Json, get? "kind" entries = none →
      ofJson (.object entries) = (readOldUser entries).map .single := by
    intro entries hnone
    unfold ofJson
    simp only [hnone, erase_of_get? hnone]
  rw [hform fields old] at hread
  obtain ⟨i, hi, rfl⟩ := exists_of_map_eq_ok hread
  obtain ⟨hkeys, hbuild⟩ := readOldUser_eq_ok_iff.1 hi
  obtain ⟨hwalk, -, hkey⟩ := Builder.build_eq_ok_iff.1 hbuild
  refine ⟨i, rfl, ?_, ?_, ?_, fun keeps => ⟨?_, ?_, fun other mapped' keeps' hsame => ?_⟩⟩
  · rw [← oldWalk_kind mapped, hwalk]
    rfl
  · have hparts := oldWalk_key mapped
    rw [hwalk, show i.builder.key = i.key from rfl] at hparts
    -- without any key, the key would be empty
    cases htold : ((get? "key" fields).bind Document.text?).or
        ((get? "key" (customOf fields)).bind Document.text?) with
    | none =>
      rw [htold] at hparts
      exact absurd hparts hkey
    | some key => rw [hparts, htold]; rfl
  · rw [← oldWalk_anonymous mapped, hwalk]
    rfl
  · have huser := keeps.walk_kind mapped
    rw [hwalk] at huser
    exact Kind.ext huser
  · have hfound := keeps.walk_key mapped hkeys
    rwa [hwalk] at hfound
  · have hnone : get? "kind" other = none := (get?_eq_of_erase hsame (by decide)).trans old
    obtain ⟨j, hj, hagree⟩ := readOldUser_of_erase mapped mapped' keeps keeps' hsame hi
    refine ⟨j, ?_, hagree⟩
    rw [hform other hnone, hj]
    rfl

/-- A user in the old form, with further attributes. -/
def subscriber (custom : Entries Json) : Entries Json :=
  [("custom", .object custom), ("key", .text "u1")]

theorem mapped_subscriber {name text : String} :
    (Document.object (subscriber [(name, .text text)])).Mapped := by
  have hcustom : (Document.object [(name, .text text)] : Json).Mapped :=
    Document.mapped_of_members (List.pairwise_singleton _ _)
      (List.forall_mem_singleton.2 (Document.mapped_text text))
  have hnames : "custom" < "key" := by decide +kernel
  refine Document.mapped_of_members (List.pairwise_pair.2 hnames) fun field hfield => ?_
  rcases List.mem_pair.1 hfield with rfl | rfl
  · exact hcustom
  · exact Document.mapped_text "u1"

theorem keepsIdentity_subscriber (text : String) :
    KeepsIdentity (subscriber [("plan", .text text)]) :=
  ⟨rfl, rfl, nofun⟩

/-- A subscriber stays the same user under another plan. -/
theorem oldUser_means_subscriber :
    (Document.object (subscriber [("plan", .text "gold")])).Mapped ∧
    KeepsIdentity (subscriber [("plan", .text "gold")]) ∧
    KeepsIdentity (subscriber [("plan", .text "free")]) ∧
    ∃ i j, ofJson (.object (subscriber [("plan", .text "gold")])) = .ok (.single i) ∧
      ofJson (.object (subscriber [("plan", .text "free")])) = .ok (.single j) ∧
      i.kind = .user ∧ i.key = "u1" ∧ i.member? "plan" ≠ j.member? "plan" ∧
      AgreeBut ["plan", "plan"] i j := by
  have hread : ofJson (.object (subscriber [("plan", .text "gold")])) =
      .ok (.single ⟨.user, "u1", none, false, none, [("plan", .text "gold")], []⟩) := rfl
  have hread' : ofJson (.object (subscriber [("plan", .text "free")])) =
      .ok (.single ⟨.user, "u1", none, false, none, [("plan", .text "free")], []⟩) := rfl
  have hgold := keepsIdentity_subscriber "gold"
  have hfree := keepsIdentity_subscriber "free"
  -- the two objects differ in the plan that `custom` tells
  obtain ⟨i, hi, -, -, -, hmeans⟩ := oldUser_means mapped_subscriber rfl hread
  obtain ⟨huser, -, hchanged⟩ := hmeans hgold
  obtain ⟨j, hj, hagree⟩ :=
    hchanged (subscriber [("plan", .text "free")]) mapped_subscriber hfree rfl
  cases hi
  cases hread'.symm.trans hj
  exact ⟨mapped_subscriber, hgold, hfree, _, _, hread, hread', huser, rfl,
    by decide +kernel, hagree⟩

/-- **What `custom` tells may change who it is**: a text under `kind` is taken for the kind of the
    context, and one under `key` for the key of an object that has none. -/
theorem oldUser_means_disguise :
    (Document.object (subscriber [("kind", .text "org")])).Mapped ∧
    get? "kind" (subscriber [("kind", .text "org")]) = none ∧
    (∃ c, ofJson (.object (subscriber [("kind", .text "org")])) = .ok c ∧ c.kind.name = "org") ∧
    ∃ c, ofJson (.object [("custom", .object [("key", .text "u2")])]) = .ok c ∧
      c.keys = [("user", "u2")] :=
  ⟨mapped_subscriber, rfl, ⟨_, rfl, rfl⟩, _, rfl, rfl⟩

end FeatureFlags.Context
