/-
  LOOK-UP, WRITING AND REDACTION SEE ONE TREE.

  Three functions follow a reference into an individual: looking up goes through the individual
  itself, with its built-in names; a reader follows the path in what is written of it; and redaction
  takes out what stands there.

  1. **Walks (`Document.Walks`)** — how whoever follows a path, through objects only, can end.
  2. **Writing (`at?_members`)** — what a path leads to in the JSON of an individual is what it
     leads to in the individual, written as JSON.
  3. **Looking up (`value?_eq_some_iff`)** — is following the path, but for null.
  4. **Redaction (`at?_redacted_of_single`, `mem_redacted_of_single`)** — what can be looked up is
     there to be taken out, and is noted.
  5. **Main result (`value?_agrees`).**
-/
import FeatureFlags.Proofs.Context.Arising
import FeatureFlags.Proofs.Event.Redaction

namespace FeatureFlags

open Document (at? at?_object)
open Entries

/-! ## Walks -/

namespace Document

variable {ν : Type}

/-- How following a path ends. -/
inductive Ending (ν : Type) where
  | found (d : Document ν)
  /-- An object has no member of the next name. -/
  | missing
  /-- The next name is no use, as what was reached is no object. -/
  | blocked

/-- **`Walks path d ending`** — following the path from `d`, from object to member, ends so. -/
inductive Walks : List String → Document ν → Ending ν → Prop where
  | arrive (d : Document ν) : Walks [] d (.found d)
  | miss {name : String} {fields : Entries (Document ν)} (rest : List String)
      (h : get? name fields = none) : Walks (name :: rest) (object fields) .missing
  | block {d : Document ν} (name : String) (rest : List String) (h : ∀ fields, d ≠ object fields) :
      Walks (name :: rest) d .blocked
  | enter {name : String} {fields : Entries (Document ν)} {inner : Document ν} {rest : List String}
      {ending : Ending ν} (h : get? name fields = some inner) (walks : Walks rest inner ending) :
      Walks (name :: rest) (object fields) ending

/-- What was found at the end. -/
def Ending.value? : Ending ν → Option (Document ν)
  | found d => some d
  | missing => none
  | blocked => none

/-- A walk that ends with a value, blocked or missing, tells what the look-up gives. -/
theorem Walks.at?_eq {path : List String} {d : Document ν} {ending : Ending ν}
    (h : Walks path d ending) :
    at? path d = ending.value? := by
  induction h with
  | arrive d => rfl
  | miss rest h =>
    rw [at?_object, h]
    rfl
  | @block d name rest h =>
    cases d with
    | object fields => exact absurd rfl (h fields)
    | _ => rfl
  | enter h walks ih =>
    rw [at?_object, h]
    exact ih

/-- Every walk ends. -/
theorem exists_walks (path : List String) (d : Document ν) : ∃ ending, Walks path d ending := by
  induction path generalizing d with
  | nil => exact ⟨_, .arrive d⟩
  | cons name rest ih =>
    cases d with
    | object fields =>
      cases hfound : get? name fields with
      | none => exact ⟨_, .miss rest hfound⟩
      | some inner =>
        obtain ⟨ending, hwalks⟩ := ih inner
        exact ⟨ending, .enter hfound hwalks⟩
    | _ => exact ⟨_, .block name rest nofun⟩

/-- **What stands at a path is what the walk finds.** -/
theorem walks_found_iff {path : List String} {d value : Document ν} :
    Walks path d (.found value) ↔ at? path d = some value := by
  refine ⟨fun h => h.at?_eq, fun h => ?_⟩
  obtain ⟨ending, hwalks⟩ := exists_walks path d
  cases ending with
  | found other =>
    obtain rfl : other = value := Option.some.inj (hwalks.at?_eq.symm.trans h)
    exact hwalks
  | missing => exact nomatch hwalks.at?_eq.symm.trans h
  | blocked => exact nomatch hwalks.at?_eq.symm.trans h

/-- **Nothing stands at a path just if the walk leaves the document or is blocked.** -/
theorem at?_eq_none_iff {path : List String} {d : Document ν} :
    at? path d = none ↔ Walks path d .missing ∨ Walks path d .blocked := by
  constructor
  · intro h
    obtain ⟨ending, hwalks⟩ := exists_walks path d
    cases ending with
    | found other => exact nomatch hwalks.at?_eq.symm.trans h
    | missing => exact .inl hwalks
    | blocked => exact .inr hwalks
  · rintro (h | h)
    · exact h.at?_eq
    · exact h.at?_eq

end Document

/-- Writing a value as JSON keeps what stands at its paths. -/
theorem Attribute.at?_toJson (path : List String) (a : Attribute) :
    at? path a.toJson = (at? path a).map Attribute.toJson :=
  Document.at?_bind toJson_number_ne_object path a

/-! ## Writing -/

namespace Individual

variable {i : Individual}

/-- What stands under a name in the individual is written under it.  Anonymity is written only if
    there is some, and `_meta` is no attribute. -/
theorem get?_members_eq (h : WellFormedAttributes i.attributes) {name : String}
    (hanonymous : name ≠ "anonymous") (hmeta : name ≠ "_meta") :
    get? name (i.members true) = (i.member? name).map Attribute.toJson := by
  rw [get?_members h]
  unfold written?
  split
  · rfl
  · rfl
  · rw [member?, Option.map_map]
    rfl
  · exact absurd rfl hanonymous
  · exact absurd rfl hmeta
  · next hkind hkey hname _ _ =>
    -- a name that is not built in is that of an attribute
    rw [member?]
    · exact hkind
    · exact hkey
    · exact hname
    · exact fun heq => absurd heq hanonymous

/-- **What a path leads to in what is written is what it leads to in the individual.** -/
theorem at?_members (h : WellFormedAttributes i.attributes) {first : String}
    (hanonymous : first ≠ "anonymous") (hmeta : first ≠ "_meta") (rest : List String) :
    at? (first :: rest) (.object (i.members true)) =
      ((i.member? first).bind (at? rest)).map Attribute.toJson := by
  rw [at?_object, get?_members_eq h hanonymous hmeta]
  cases i.member? first with
  | none => rfl
  | some a => exact Attribute.at?_toJson rest a

/-! ## Looking up -/

variable {r : Reference} {first : String} {rest : List String}

/-- A reference finds what stands at the end of its path, but no null. -/
theorem value?_eq_some_iff (hnames : r.names = first :: rest) {v : Attribute} :
    i.value? r = some v ↔ (i.member? first).bind (at? rest) = some v ∧ v ≠ .null := by
  rw [value?, hnames, Option.filter_eq_some_iff]
  refine and_congr_right fun _ => ?_
  cases v <;> simp [Document.isNull]

/-- A null is as good as nothing there. -/
theorem value?_eq_none_iff (hnames : r.names = first :: rest) :
    i.value? r = none ↔
      (i.member? first).bind (at? rest) = none ∨
        (i.member? first).bind (at? rest) = some .null := by
  rw [value?, hnames]
  show ((i.member? first).bind (at? rest)).filter _ = none ↔ _
  cases (i.member? first).bind (at? rest) with
  | none => simp
  | some v => cases v <;> simp [Option.filter, Document.isNull]

variable (h : WellFormedAttributes i.attributes) (hnames : r.names = first :: rest)
  (hanonymous : first ≠ "anonymous") (hmeta : first ≠ "_meta")
include h hnames hanonymous hmeta

/-- **What is looked up is what stands in the JSON of the individual.** -/
theorem at?_members_of_value? {v : Attribute} (hv : i.value? r = some v) :
    at? r.names (.object (i.members true)) = some v.toJson := by
  rw [hnames, at?_members h hanonymous hmeta, ((value?_eq_some_iff hnames).1 hv).1]
  rfl

/-- **Nothing is looked up just if nothing stands there, or null**; a number that JSON does not have
    is written as null. -/
theorem value?_eq_none_iff_at?_members
    (hfinite : ∀ x, i.value? r = some (.number x) → x.isFinite = true) :
    i.value? r = none ↔ at? r.names (.object (i.members true)) = none ∨
      at? r.names (.object (i.members true)) = some .null := by
  rw [value?_eq_none_iff hnames, hnames, at?_members h hanonymous hmeta]
  cases hfound : (i.member? first).bind (at? rest) with
  | none => exact iff_of_true (.inl rfl) (.inl rfl)
  | some v =>
    -- a null is not found, and is written as null; anything else is neither
    by_cases hnull : v = .null
    · rw [hnull]
      exact iff_of_true (.inr rfl) (.inr rfl)
    · have hvalue : i.value? r = some v := (value?_eq_some_iff hnames).2 ⟨hfound, hnull⟩
      have hjson : Attribute.toJson v ≠ .null :=
        Attribute.toJson_ne_null (fun x hx => hfinite x (hx ▸ hvalue)) hnull
      refine iff_of_false ?_ ?_
      · rintro (hnone | hsome)
        · cases hnone
        · exact hnull (Option.some.inj hsome)
      · rintro (hnone | hsome)
        · cases hnone
        · exact hjson (Option.some.inj hsome)

end Individual

/-! ## Redaction -/

namespace Redaction

variable {i : Individual} {r : Reference} {first : String} {rest : List String}

variable (h : WellFormedAttributes i.attributes) (hnames : r.names = first :: rest)
  (hshown : first ∉ alwaysShown) (hmeta : first ≠ "_meta")
include h hnames hshown hmeta

/-- **Nothing is shown where the private reference leads.** -/
theorem at?_redacted_of_single (everything : Bool) :
    at? r.names (.object ((⟨everything, [r]⟩ : Redaction).members i true)) = none := by
  cases everything with
  | false =>
    have hprivate : r.names ∈ (⟨false, [r]⟩ : Redaction).privatePaths i :=
      mem_privatePaths.2
        ⟨⟨first, rest, hnames, hshown⟩, r, List.mem_append_left _ (List.mem_singleton_self r), rfl⟩
    refine at?_redacted_below h true rfl hprivate List.prefix_rfl ?_
    rw [hnames]
    exact fun heq => hmeta (Option.some.inj heq)
  | true =>
    rw [hnames, at?_object, get?_redacted_of_everything h true rfl first hmeta, if_neg hshown]
    rfl

/-- **What can be looked up is noted when it is taken out**: by its reference, or by its name if
    everything is private. -/
theorem mem_redacted_of_single (everything : Bool)
    (hfound : at? r.names (.object (i.members true)) ≠ none) :
    (if everything then first else r.text) ∈
      ((⟨everything, [r]⟩ : Redaction).apply i).redacted := by
  rw [hnames] at hfound
  cases everything with
  | false =>
    rw [at?_members_of_shown h true hshown hmeta, ← hnames] at hfound
    rw [apply_eq_foldl rfl]
    refine redacted_subset_foldl i.privateAttributes (step ⟨shown i, []⟩ r) ?_
    exact text_mem_redacted (by rw [hnames]; exact List.cons_ne_nil first rest) hfound
  | true =>
    refine (mem_redacted_iff h true rfl first).2 ⟨hshown, hmeta, fun hnone => hfound ?_⟩
    rw [at?_object, hnone]
    rfl

end Redaction

/-! ## Main result -/

/-- **Look-up, writing and redaction see one tree.**  Let a reference lead through names of which
    the first is neither `anonymous` nor `_meta`, and walk along these names through the JSON of a
    context of one individual.

    - What is looked up is what the walk finds, as JSON writes it.
    - Nothing is looked up just if the walk leaves the document, is blocked by something that is no
      object, or finds null; unless what is looked up is a number that JSON does not have, which is
      written as null.
    - What is looked up, and is neither kind nor key, is not found in events if the reference is the
      only one that is configured as private; and it is named among what was taken out, by its
      reference, or by its first name if everything is private. -/
theorem value?_agrees {i : Individual} (harises : (Context.single i).Arises) {r : Reference}
    {first : String} {rest : List String} (hnames : r.names = first :: rest)
    (hanonymous : first ≠ "anonymous") (hmeta : first ≠ "_meta") :
    let c := Context.single i
    (∀ v, c.value? r = some v → Document.Walks r.names c.toJson (.found v.toJson)) ∧
    ((∀ x, c.value? r = some (.number x) → x.isFinite = true) →
      (c.value? r = none ↔ Document.Walks r.names c.toJson .missing ∨
        Document.Walks r.names c.toJson .blocked ∨
          Document.Walks r.names c.toJson (.found .null))) ∧
    ∀ v, c.value? r = some v → first ≠ "kind" → first ≠ "key" → ∀ everything : Bool,
      let shown := (⟨everything, [r]⟩ : Redaction).filter c
      (∀ j, ¬ Document.Walks r.names shown (.found j)) ∧
      ∃ texts, Document.Walks ["_meta", "redactedAttributes"] shown (.found (Json.ofTexts texts)) ∧
        (if everything then first else r.text) ∈ texts := by
  intro c
  have h : WellFormedAttributes i.attributes := (Context.proper_iff.1 harises.proper).1.attributes
  refine ⟨fun v hv => ?_, fun hfinite => ?_, fun v hv hkind hkey everything => ?_⟩
  · exact Document.walks_found_iff.2 (Individual.at?_members_of_value? h hnames hanonymous hmeta hv)
  · rw [← or_assoc, ← Document.at?_eq_none_iff, Document.walks_found_iff]
    exact Individual.value?_eq_none_iff_at?_members h hnames hanonymous hmeta hfinite
  · intro shown
    have hshown : first ∉ Redaction.alwaysShown := by
      simp [Redaction.alwaysShown, hkind, hkey, hanonymous]
    have hfound := Individual.at?_members_of_value? h hnames hanonymous hmeta hv
    -- the reference leads to something, so it takes it out and is recorded
    have hnoted := Redaction.mem_redacted_of_single h hnames hshown hmeta everything
      (by rw [hfound]; exact Option.some_ne_none _)
    refine ⟨fun j hj => ?_, _, Document.walks_found_iff.2 ?_, hnoted⟩
    · have hgone := Redaction.at?_redacted_of_single h hnames hshown hmeta everything
      cases hgone.symm.trans (Document.walks_found_iff.1 hj)
    · show at? _ (.object (Redaction.members _ i true)) = _
      rw [at?_object, Redaction.get?_redacted h]
      simp only
      rw [if_neg (List.ne_nil_of_mem hnoted)]
      rfl

/-- Where a lodger lives: one name has a slash, and the city is not known. -/
def lodging : Attribute := .object [("city", .null), ("street/no", .text "S 1")]

/-- A lodger who keeps the whole address private. -/
def lodger : Individual :=
  ⟨.user, "a", some "A", false, none, [("address", lodging)], [.ofText "/address"]⟩

/-- The street is looked up and written, and not shown; the city is not looked up. -/
theorem value?_agrees_lodger :
    let c := Context.single lodger
    let street := Reference.ofText "/address/street~1no"
    let city := Reference.ofText "/address/city"
    c.Arises ∧ street.names = ["address", "street/no"] ∧ city.names = ["address", "city"] ∧
    "address" ≠ "anonymous" ∧ "address" ≠ "_meta" ∧ c.value? street = some (.text "S 1") ∧
    Document.Walks street.names c.toJson (.found (.text "S 1")) ∧ c.value? city = none ∧
    ∀ j, ¬ Document.Walks street.names ((⟨false, [street]⟩ : Redaction).filter c) (.found j) := by
  intro c street city
  have harises : c.Arises :=
    .build ((((Builder.Told.ofKey "a").name "A").setValue "address" lodging).addPrivate
      (.ofText "/address")) rfl
  have hstreet : street.names = ["address", "street/no"] := by decide +kernel
  have hcity : city.names = ["address", "city"] := by decide +kernel
  have hanonymous : "address" ≠ "anonymous" := by decide
  have hmeta : "address" ≠ "_meta" := by decide
  have hvalue : c.value? street = some (.text "S 1") := by decide +kernel
  obtain ⟨hfound, -, hgone⟩ := value?_agrees harises hstreet hanonymous hmeta
  obtain ⟨-, hnone, -⟩ := value?_agrees harises hcity hanonymous hmeta
  -- the city of the lodger is null
  have hnull : Document.Walks city.names c.toJson (.found .null) := by
    rw [Document.walks_found_iff, hcity]
    rfl
  have hnumber : ∀ x, c.value? city ≠ some (.number x) := by
    intro x hx
    have hreached : some Document.null = some (Document.number x) :=
      ((Individual.value?_eq_some_iff (i := lodger) hcity).1 hx).1
    cases hreached
  have hmissing : c.value? city = none :=
    (hnone fun x hx => absurd hx (hnumber x)).2 (.inr (.inr hnull))
  exact ⟨harises, hstreet, hcity, hanonymous, hmeta, hvalue, hfound _ hvalue, hmissing,
    (hgone _ hvalue (by decide) (by decide) false).1⟩

end FeatureFlags
