/-
  READING WHAT WAS WRITTEN — the walk over the members of an individual.

  Writing puts the parts of an individual into one map; reading meets the members of that map in the
  order of their names, not in the order in which they were put, and each of them acts on a builder.

  1. **Members (`taken`)** — a member changes only its own part of the builder.
  2. **Walks (`view_foldl`)** — so each part of the builder after a walk is due to the member of one
     name.
  3. **The walk over a written individual** — none of its members is refused.
  4. **Part by part** — kind, key, name, anonymity, attributes and `_meta` are found again.
-/
import FeatureFlags.Proofs.Context.Built
import FeatureFlags.Proofs.Context.Members

namespace FeatureFlags

open Entries

/-! ## Members -/

namespace Builder

/-- `b.Taken name c` — a member of this name changes the builder `b` to `c`, in its own part
    only. -/
inductive Taken (b : Builder) : String → Builder → Prop where
  | kind (kind : String) : Taken b "kind" { b with kind }
  | key (key : String) : Taken b "key" { b with key }
  | name (name : Option String) : Taken b "name" { b with name }
  | anonymous (anonymous : Bool) : Taken b "anonymous" { b with anonymous }
  | details (secondary : Option String) (privateAttributes : List Reference) :
      Taken b "_meta" { b with secondary, privateAttributes }
  | custom {name : String} (plain : name ∉ builtInNames) (value : Attribute) :
      Taken b name { b with
        attributes :=
          if value.isNull then Entries.erase name b.attributes
          else Entries.insert name value b.attributes }

/-- A member leaves the attributes of other names alone. -/
theorem Taken.get?_attributes {b c : Builder} {name other : String} (h : b.Taken name c)
    (hne : name ≠ other) : get? other c.attributes = get? other b.attributes := by
  cases h with
  | custom _ value =>
    show get? other (if _ then _ else _) = _
    split
    · rw [get?_erase, if_neg hne]
    · rw [get?_insert, if_neg hne]
  | _ => rfl

end Builder

namespace Context

/-- Take a member; a member that cannot be read changes nothing. -/
def take (b : Builder) (field : String × Json) : Builder :=
  (takeMember b field.1 field.2).toOption.getD b

variable {b : Builder}

theorem take_kind (value : Json) :
    take b ("kind", value) = { b with kind := value.text?.getD b.kind } := by
  cases value <;> rfl

theorem take_key (value : Json) :
    take b ("key", value) = { b with key := value.text?.getD b.key } := by
  cases value <;> rfl

theorem take_name (value : Json) :
    take b ("name", value) = { b with name := value.text?.or b.name } := by
  cases value <;> rfl

theorem take_anonymous (value : Json) :
    take b ("anonymous", value) = { b with anonymous := value.bool?.getD b.anonymous } := by
  cases value <;> rfl

theorem foldl_addPrivate (make : String → Reference) (texts : List String) (b : Builder) :
    texts.foldl (fun (b : Builder) s => b.addPrivate (make s)) b =
      { b with privateAttributes := b.privateAttributes ++ texts.map make } := by
  induction texts generalizing b with
  | nil => rw [List.foldl_nil, List.map_nil, List.append_nil]
  | cons s rest ih =>
    rw [List.foldl_cons, ih, List.map_cons, Builder.addPrivate, List.append_assoc]
    rfl

/-- The private attributes that a `_meta` object names. -/
def metaReferences (fields : Entries Json) : List Reference :=
  match get? "privateAttributes" fields with
  | some (.list items) => (textsOf items).map Reference.ofText
  | _ => []

/-- `_meta` has two members that are read, and the order of its members does not matter. -/
theorem takeMeta_eq (b : Builder) (fields : Entries Json) :
    takeMeta b fields = { b with
      secondary := ((get? "secondary" fields).bind Document.text?).or b.secondary
      privateAttributes := b.privateAttributes ++ metaReferences fields } := by
  -- what stands under the two names does not depend on each other
  unfold takeMeta metaReferences
  rcases get? "privateAttributes" fields with _ | (_ | _ | _ | _ | items | _) <;>
    rcases get? "secondary" fields with _ | (_ | _ | _ | _ | _ | _) <;>
    simp [foldl_addPrivate, Document.text?]

theorem take_meta (fields : Entries Json) : take b ("_meta", .object fields) = takeMeta b fields :=
  rfl

/-- A name that is not built in has an attribute of its own. -/
theorem setValue_attribute {name : String} (plain : name ∉ builtInNames) (value : Attribute) :
    b.setValue name value = { b with
      attributes :=
        if value.isNull then Entries.erase name b.attributes
        else Entries.insert name value b.attributes } := by
  simp only [builtInNames, List.mem_cons, List.not_mem_nil, or_false, not_or] at plain
  obtain ⟨hkind, hkey, hname, hanonymous, hmeta⟩ := plain
  unfold Builder.setValue
  split
  case h_11 => rfl
  case h_12 hnull _ _ _ _ _ =>
    have hsome : value.isNull = false := by
      cases hvalue : value <;> first | rfl | exact absurd hvalue hnull
    rw [hsome]
    rfl
  all_goals contradiction

theorem take_attribute {name : String} (plain : name ∉ builtInNames) (value : Json) :
    take b (name, value) = { b with
      attributes :=
        if value.toAttribute.isNull then Entries.erase name b.attributes
        else Entries.insert name value.toAttribute b.attributes } := by
  rw [← setValue_attribute plain]
  simp only [builtInNames, List.mem_cons, List.not_mem_nil, or_false, not_or] at plain
  obtain ⟨hkind, hkey, hname, hanonymous, hmeta⟩ := plain
  have htake : takeMember b name value = .ok (b.setValue name value.toAttribute) := by
    unfold takeMember
    split <;> first | contradiction | rfl
  rw [take, htake]
  rfl

/-- **A member changes only its own part of a builder.** -/
theorem taken (b : Builder) (field : String × Json) : b.Taken field.1 (take b field) := by
  obtain ⟨name, value⟩ := field
  by_cases hname : name ∈ builtInNames
  · simp only [builtInNames, List.mem_cons, List.not_mem_nil, or_false] at hname
    rcases hname with rfl | rfl | rfl | rfl | rfl
    · exact take_kind value ▸ .kind _
    · exact take_key value ▸ .key _
    · exact take_name value ▸ .name _
    · exact take_anonymous value ▸ .anonymous _
    · cases value with
      | object fields =>
        -- `_meta` brings the secondary key and the private attributes
        rw [take_meta, takeMeta_eq]
        exact .details _ _
      | _ => exact .details b.secondary b.privateAttributes
  · rw [take_attribute hname]
    exact .custom hname _

/-! ## Walks -/

section

variable {step : Builder → String × Json → Builder} {fields : Entries Json}
  (steps : ∀ (b : Builder) field, b.Taken field.1 (step b field))

include steps

/-- **A part of the builder after a walk** is due to the member of one name. -/
theorem view_foldl {τ : Type} (view : Builder → τ) (name : String) (set : Json → τ → τ)
    (own : ∀ b value, view (step b (name, value)) = set value (view b))
    (other : ∀ b n c, n ≠ name → Builder.Taken b n c → view c = view b) (h : Ordered fields)
    (b : Builder) :
    view (fields.foldl step b) =
      (get? name fields).elim (view b) fun value => set value (view b) :=
  foldl_view view set h (fun value _ b => own b value)
    (fun field _ hne b => other b field.1 _ hne (steps b field)) b

/-- In any walk where only the member `kind` changes the kind, that member decides. -/
theorem kind_foldl
    (own : ∀ b value, step b ("kind", value) =
      { b with kind := (Document.text? value).getD b.kind })
    (h : Ordered fields) (b : Builder) :
    (fields.foldl step b).kind = ((get? "kind" fields).bind Document.text?).getD b.kind := by
  rw [view_foldl steps Builder.kind "kind" (fun value old => value.text?.getD old)
    (fun b value => by rw [own])
    (fun b n c hne hc => by cases hc <;> first | rfl | exact absurd rfl hne) h]
  cases get? "kind" fields <;> rfl

theorem key_foldl
    (own : ∀ b value, step b ("key", value) = { b with key := (Document.text? value).getD b.key })
    (h : Ordered fields) (b : Builder) :
    (fields.foldl step b).key = ((get? "key" fields).bind Document.text?).getD b.key := by
  rw [view_foldl steps Builder.key "key" (fun value old => value.text?.getD old)
    (fun b value => by rw [own])
    (fun b n c hne hc => by cases hc <;> first | rfl | exact absurd rfl hne) h]
  cases get? "key" fields <;> rfl

theorem anonymous_foldl
    (own : ∀ b value, step b ("anonymous", value) =
      { b with anonymous := (Document.bool? value).getD b.anonymous })
    (h : Ordered fields) (b : Builder) :
    (fields.foldl step b).anonymous =
      ((get? "anonymous" fields).bind Document.bool?).getD b.anonymous := by
  rw [view_foldl steps Builder.anonymous "anonymous" (fun value old => value.bool?.getD old)
    (fun b value => by rw [own])
    (fun b n c hne hc => by cases hc <;> first | rfl | exact absurd rfl hne) h]
  cases get? "anonymous" fields <;> rfl

end

/-- A walk in which no step fails. -/
theorem foldlM_eq_ok {σ α ε : Type} {f : σ → α → Except ε σ} {g : σ → α → σ} :
    ∀ {items : List α} (_ : ∀ a ∈ items, ∀ s, f s a = .ok (g s a)) (s : σ),
      items.foldlM f s = .ok (items.foldl g s)
  | [], _, s => rfl
  | a :: rest, h, s => by
    have hfirst : f s a = .ok (g s a) := h a (List.mem_cons_self ..) s
    have hrest : rest.foldlM f (g s a) = .ok (rest.foldl g (g s a)) :=
      foldlM_eq_ok (fun x hx => h x (List.mem_cons_of_mem a hx)) (g s a)
    rw [List.foldlM_cons, hfirst, List.foldl_cons, ← hrest]
    rfl

/-- A walk that reaches its end is one in which a step that fails changes nothing. -/
theorem foldl_of_foldlM {σ α ε : Type} {f : σ → α → Except ε σ} :
    ∀ {items : List α} {s t : σ}, items.foldlM f s = .ok t →
      items.foldl (fun s a => (f s a).toOption.getD s) s = t
  | [], s, t, h => by cases h; rfl
  | a :: rest, s, t, h => by
    rw [List.foldlM_cons] at h
    obtain ⟨next, hfirst, hrest⟩ := exists_of_bind_eq_ok h
    rw [List.foldl_cons, hfirst]
    exact foldl_of_foldlM hrest

/-! ## The walk over a written individual -/

variable {i : Individual}

/-- Under a name that is not built in stands the attribute of that name. -/
theorem written?_of_plain {name : String} (plain : name ∉ builtInNames) (withKind : Bool) :
    i.written? withKind name = (get? name i.attributes).map Attribute.toJson := by
  simp only [builtInNames, List.mem_cons, List.not_mem_nil, or_false, not_or] at plain
  obtain ⟨hkind, hkey, hname, hanonymous, hmeta⟩ := plain
  unfold Individual.written?
  split <;> first | contradiction | rfl

/-- **No member of a written individual is refused.** -/
theorem takeMember_written (h : i.WellFormed) {field : String × Json}
    (hfield : field ∈ i.members false) (b : Builder) :
    takeMember b field.1 field.2 = .ok (take b field) := by
  have hwritten : i.written? false field.1 = some field.2 := by
    rw [← Individual.get?_members h.attributes]
    exact get?_of_mem (ordered_ofList _) hfield
  obtain ⟨name, value⟩ := field
  -- each name is written in the form in which it is read
  have haccepted : ∀ written, i.written? false name = some written →
      ∃ c, takeMember b name written = .ok c := by
    intro written
    unfold Individual.written?
    split
    · exact nofun
    · rintro ⟨⟩
      exact ⟨_, rfl⟩
    · intro hname
      obtain ⟨text, -, rfl⟩ := Option.map_eq_some_iff.1 hname
      exact ⟨_, rfl⟩
    · intro hanonymous
      obtain ⟨-, ⟨⟩⟩ := Option.ite_none_right_eq_some.1 hanonymous
      exact ⟨_, rfl⟩
    · intro hmeta
      obtain ⟨-, ⟨⟩⟩ := Option.ite_none_left_eq_some.1 hmeta
      exact ⟨_, rfl⟩
    · intro _
      unfold takeMember
      split <;> first | contradiction | exact ⟨_, rfl⟩
  obtain ⟨c, hc⟩ := haccepted value hwritten
  rw [take, hc]
  rfl

theorem ordered_members (i : Individual) : Ordered (i.members false) := ordered_ofList _

/-- The builder at the end of the walk. -/
def walk (i : Individual) : Builder :=
  (i.members false).foldl take { Builder.ofKey "" with kind := i.kind.name }

/-- By the steps of the walk, each of which keeps attributes well-formed. -/
theorem wellFormed_walk (i : Individual) : WellFormedAttributes (walk i).attributes := by
  refine List.foldlRecOn (motive := fun b : Builder => WellFormedAttributes b.attributes)
    _ _ .nil ?_
  intro b hb field _
  have h := taken b field
  generalize take b field = c, field.1 = name at h
  cases h with
  | custom plain value =>
    show WellFormedAttributes (if _ then _ else _)
    split
    · exact hb.erase _
    · exact hb.insert plain value
  | _ => exact hb

/-- **A part of the builder at the end** is due to the member of one name. -/
theorem view_walk {τ : Type} (view : Builder → τ) (name : String) (set : Json → τ → τ)
    (own : ∀ b value, view (take b (name, value)) = set value (view b))
    (other : ∀ b n c, n ≠ name → Builder.Taken b n c → view c = view b) (h : i.WellFormed) :
    let first := view { Builder.ofKey "" with kind := i.kind.name }
    view (walk i) = (i.written? false name).elim first fun value => set value first := by
  intro first
  rw [← Individual.get?_members h.attributes]
  exact view_foldl taken view name set own other (ordered_members i) _

/-! ## Part by part -/

theorem walk_kind (h : i.WellFormed) : (walk i).kind = i.kind.name := by
  have hnone : get? "kind" (i.members false) = none :=
    Individual.get?_members h.attributes false "kind"
  have hwalk := kind_foldl taken (fun _ => take_kind) (ordered_members i)
    { Builder.ofKey "" with kind := i.kind.name }
  rw [hnone] at hwalk
  exact hwalk

theorem walk_key (h : i.WellFormed) : (walk i).key = i.key := by
  have hsome : get? "key" (i.members false) = some (.text i.key) :=
    Individual.get?_members h.attributes false "key"
  have hwalk := key_foldl taken (fun _ => take_key) (ordered_members i)
    { Builder.ofKey "" with kind := i.kind.name }
  rw [hsome] at hwalk
  exact hwalk

theorem walk_name (h : i.WellFormed) : (walk i).name = i.name := by
  have hview := view_walk Builder.name "name" (fun value old => value.text?.or old)
    (fun b value => by rw [take_name])
    (fun b n c hne hc => by cases hc <;> first | rfl | exact absurd rfl hne) h
  rw [hview, Individual.written?]
  cases i.name <;> rfl

theorem walk_anonymous (h : i.WellFormed) : (walk i).anonymous = i.anonymous := by
  have hwritten : get? "anonymous" (i.members false) =
      if i.anonymous then some (.bool true) else none :=
    Individual.get?_members h.attributes false "anonymous"
  have hwalk := anonymous_foldl taken (fun _ => take_anonymous) (ordered_members i)
    { Builder.ofKey "" with kind := i.kind.name }
  rw [hwritten] at hwalk
  rw [walk, hwalk]
  cases i.anonymous <;> rfl

/-- An attribute is found again as JSON has it, unless it became null. -/
theorem get?_walk (h : i.WellFormed) (name : String) (plain : name ∉ builtInNames) :
    get? name (walk i).attributes =
      (get? name i.attributes).bind fun value =>
        if value.reread.isNull then none else some value.reread := by
  have hview := view_walk (fun b => get? name b.attributes) name
    (fun value _ => if value.toAttribute.isNull then none else some value.toAttribute)
    (fun b value => by
      rw [take_attribute plain]
      split
      · rw [get?_erase, if_pos rfl]
      · rw [get?_insert, if_pos rfl])
    (fun b n c hne hc => hc.get?_attributes hne) h
  rw [hview, written?_of_plain plain]
  cases get? name i.attributes <;> rfl

theorem walk_attributes (h : i.Sound) :
    (walk i).attributes = mapValues Attribute.reread i.attributes := by
  have hwellFormed := h.wellFormed.attributes
  refine ext_of_get? (wellFormed_walk i).ordered (hwellFormed.ordered.mapValues _) fun name => ?_
  rw [get?_mapValues]
  by_cases hname : name ∈ builtInNames
  · rw [(wellFormed_walk i).plain name hname, hwellFormed.plain name hname]
    rfl
  · rw [get?_walk h.wellFormed name hname]
    cases hvalue : get? name i.attributes with
    | none => rfl
    | some value =>
      obtain ⟨hne, hfinite⟩ := h.attributes _ (mem_of_get? hvalue)
      -- no finite value turns into null when it is written
      have hsome : value.reread.isNull = false := by
        have hreread := Attribute.reread_ne_null hfinite hne
        cases hvalue : value.reread <;> first | rfl | exact absurd hvalue hreread
      simp [hsome]

/-- What stands under a name in the `_meta` of a written individual. -/
theorem get?_metaMembers (i : Individual) (name : String) :
    get? name i.metaMembers =
      (if "secondary" = name then i.secondary.map Document.text else none).or
        (if ¬i.privateAttributes = [] ∧ "privateAttributes" = name then
          some (Json.ofTexts (i.privateAttributes.map (·.text))) else none) := by
  have hparts : i.metaMembers = ofList (
      (if ¬i.privateAttributes = [] then
        [("privateAttributes", Json.ofTexts (i.privateAttributes.map (·.text)))] else []) ++
      (i.secondary.elim [] fun s => [("secondary", Document.text s)])) := by
    rw [ite_not, Individual.metaMembers]
    cases i.secondary <;> rfl
  rw [hparts, get?_ofList_append_or, get?_ofList_ite, get?_ofList_elim]

/-- The secondary key is written only if there is one. -/
theorem get?_secondary_metaMembers (i : Individual) :
    (get? "secondary" i.metaMembers).bind Document.text? = i.secondary := by
  rw [get?_metaMembers]
  cases i.secondary <;> simp [Document.text?]

/-- The references that are written are read again. -/
theorem metaReferences_metaMembers (h : ∀ r ∈ i.privateAttributes, r.Made) :
    metaReferences i.metaMembers = i.privateAttributes := by
  have htexts : ∀ texts : List String, textsOf (texts.map .text) = texts := by
    intro texts
    rw [textsOf, List.filterMap_map]
    exact List.filterMap_some
  -- a reference that was read from its text is read from it again
  have hread : (i.privateAttributes.map (·.text)).map Reference.ofText = i.privateAttributes := by
    rw [List.map_map]
    have hid : ∀ r ∈ i.privateAttributes, (Reference.ofText ∘ (·.text)) r = id r :=
      fun r hr => Reference.ofText_text (h r hr)
    rw [List.map_congr_left hid, List.map_id]
  unfold metaReferences
  rw [get?_metaMembers, if_neg (by decide), Option.none_or]
  by_cases hempty : i.privateAttributes = []
  · rw [if_neg fun hboth => hboth.1 hempty, hempty]
  · rw [if_pos ⟨hempty, rfl⟩]
    show (textsOf ((i.privateAttributes.map (·.text)).map Document.text)).map Reference.ofText = _
    rw [htexts, hread]

/-- The secondary key and the private attributes are found in `_meta` again. -/
theorem walk_meta (h : i.Sound) :
    (walk i).secondary = i.secondary ∧ (walk i).privateAttributes = i.privateAttributes := by
  have hview := view_walk (fun b => (b.secondary, b.privateAttributes)) "_meta"
    (fun value old => (Json.object? value).elim old fun fields =>
      (((get? "secondary" fields).bind Document.text?).or old.1, old.2 ++ metaReferences fields))
    (fun b value => by
      cases value with
      | object fields =>
        rw [take_meta, takeMeta_eq]
        exact rfl
      | _ => rfl)
    (fun b n c hne hc => by cases hc <;> first | rfl | exact absurd rfl hne) h.wellFormed
  have hsecondary := get?_secondary_metaMembers i
  have hreferences := metaReferences_metaMembers h.references
  refine Prod.mk.inj (hview.trans ?_)
  rw [Individual.written?]
  split
  · next hempty =>
    -- nothing is written, so there is nothing to write
    rw [hempty] at hsecondary hreferences
    rw [← hsecondary, ← hreferences]
    rfl
  · show ((_ : Option String).or none, [] ++ _) = _
    rw [hsecondary, hreferences, Option.or_none, List.nil_append]

end Context

end FeatureFlags
