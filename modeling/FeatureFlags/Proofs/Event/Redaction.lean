/-
  REDACTION IS COMPLETE AND MINIMAL.

  What an event shows of an individual differs from its own JSON only by what is private, and what
  is private is not shown at all.

  1. **Parts** — `Context.part?` finds an individual in the JSON of its context, in its own form and
     as an event shows it.
  2. **Members (`get?_redacted`)** — what stands under each name of an individual that is shown.
  3. **Private paths** — `Redaction.privatePaths`: where the valid references lead, apart from those
     to kind, key and anonymity, which are always shown.
  4. **Main result** — nothing at or below a private path is shown, everything apart from the
     private paths is shown as it is, and `_meta` names the references that took something out.
-/
import FeatureFlags.Proofs.Context.Members
import FeatureFlags.Proofs.Event.Erasure

namespace FeatureFlags

open Document (at? at?_object)
open Entries

/-! ## Parts -/

/-- The JSON of an individual in the JSON of its context. -/
def Context.part? (c : Context) (i : Individual) (j : Json) : Option Json :=
  match c with
  | .single _ => some j
  | .multi _ => j.member? i.kind.name

namespace Context

variable {c : Context} {i : Individual}

/-- A single context is its individual; of several, each stands under the name of its kind. -/
theorem part?_toJson (h : c.WellFormed) (hi : i ∈ c.individuals) :
    c.part? i c.toJson = some (.object (i.members (!c.isMulti))) := by
  cases c with
  | single j =>
    obtain rfl := List.mem_singleton.1 hi
    rfl
  | multi members => exact get?_parts h.2.2 _ _ hi

theorem part?_filter (h : c.WellFormed) (hi : i ∈ c.individuals) (r : Redaction) :
    c.part? i (r.filter c) = some (.object (r.members i (!c.isMulti))) := by
  cases c with
  | single j =>
    obtain rfl := List.mem_singleton.1 hi
    rfl
  | multi members => exact get?_parts h.2.2 _ _ hi

end Context

namespace Redaction

variable {r : Redaction} {i : Individual}

/-! ## Members -/

/-- The names that are shown whatever is private. -/
def alwaysShown : List String := ["kind", "key", "anonymous"]

/-- Erasing keeps maps ordered, by recursion on the path. -/
theorem ordered_erase? : ∀ {path : List String} {before after : Entries Json}, Ordered before →
    erase? path before = some after → Ordered after
  | [], _, _, _, h => by cases h
  | name :: path, before, after, hbefore, h => by
    unfold erase? at h
    split at h
    · cases h
    · cases h
      exact hbefore.erase name
    · obtain ⟨rest, -, rfl⟩ := Option.map_eq_some_iff.1 h
      exact hbefore.insert name _
    · cases h

theorem ordered_foldl_step (references : List Reference) {result : Result}
    (h : Ordered result.attributes) :
    Ordered (references.foldl step result).attributes := by
  refine List.foldlRecOn (motive := fun result : Result => Ordered result.attributes) _ _ h ?_
  intro result hresult reference _
  unfold step
  cases herase : erase? reference.names result.attributes with
  | none => exact hresult
  | some attributes => exact ordered_erase? hresult herase

theorem ordered_shown (i : Individual) : Ordered (shown i) := ordered_ofList _

/-- What there is to be shown under a name. -/
theorem get?_shown (h : WellFormedAttributes i.attributes) (name : String) :
    get? name (shown i) =
      if "name" = name then i.name.map .text
      else (get? name i.attributes).map Attribute.toJson := by
  have hparts : shown i = ofList ((i.name.elim [] fun text => [("name", .text text)]) ++
      mapValues Attribute.toJson i.attributes) := by
    rw [shown]
    cases i.name <;> rfl
  rw [hparts, get?_ofList_append_or, ofList_of_ordered (h.ordered.mapValues _), get?_mapValues,
    get?_ofList_elim]
  by_cases hname : "name" = name
  · rw [← hname, h.plain "name" (by simp [builtInNames]), if_pos rfl, if_pos rfl]
    rfl
  · rw [if_neg hname, if_neg hname, Option.or_none]

/-- No attribute has a built-in name; the name itself is shown as one. -/
theorem get?_shown_of_builtIn (h : WellFormedAttributes i.attributes) {name : String}
    (hname : name ∈ builtInNames) (hne : "name" ≠ name) : get? name (shown i) = none := by
  rw [get?_shown h, if_neg hne, h.plain name hname]
  rfl

/-- What there is to be shown is neither shown always nor about what is not shown. -/
theorem not_alwaysShown_of_shown (h : WellFormedAttributes i.attributes) {name : String}
    (hsome : get? name (shown i) ≠ none) : name ∉ alwaysShown ∧ name ≠ "_meta" := by
  have hne : ∀ other ∈ builtInNames, "name" ≠ other → name ≠ other := by
    rintro other hother hother' rfl
    exact hsome (get?_shown_of_builtIn h hother hother')
  refine ⟨?_, hne "_meta" (by simp [builtInNames]) (by decide)⟩
  simp only [alwaysShown, List.mem_cons, List.not_mem_nil, or_false, not_or]
  exact ⟨hne "kind" (by simp [builtInNames]) (by decide),
    hne "key" (by simp [builtInNames]) (by decide),
    hne "anonymous" (by simp [builtInNames]) (by decide)⟩

theorem ordered_apply (r : Redaction) (i : Individual) : Ordered (r.apply i).attributes := by
  unfold apply
  simp only
  split
  · exact ordered_nil
  · exact ordered_foldl_step _ (ordered_shown i)

/-- What is taken out can only be missing. -/
theorem missing_apply {p : List String} (h : at? p (.object (shown i)) = none) (hp : p ≠ []) :
    at? p (.object (r.apply i).attributes) = none := by
  unfold apply
  simp only
  split
  · cases p with
    | nil => exact absurd rfl hp
    | cons first rest => rfl
  · exact (stripped_foldl _ ⟨shown i, []⟩).missing p h

/-- Nothing is shown that there was not to be shown. -/
theorem get?_apply_of_none {name : String} (h : get? name (shown i) = none) :
    get? name (r.apply i).attributes = none := by
  have hmissing : at? [name] (.object (shown i)) = none := by
    rw [at?_object, h]
    rfl
  have hafter := missing_apply (r := r) hmissing (List.cons_ne_nil name [])
  rw [at?_object] at hafter
  cases hfound : get? name (r.apply i).attributes with
  | none => rfl
  | some value => rw [hfound] at hafter; cases hafter

/-- **What stands under a name of an individual as an event shows it.** -/
theorem get?_redacted (h : WellFormedAttributes i.attributes) (withKind : Bool) (name : String) :
    get? name (r.members i withKind) = match name with
      | "kind" => if withKind then some (.text i.kind.name) else none
      | "key" => some (.text i.key)
      | "anonymous" => if i.anonymous then some (.bool true) else none
      | "_meta" => if (r.apply i).redacted = [] then none
          else some (Json.ofMembers [("redactedAttributes", Json.ofTexts (r.apply i).redacted)])
      | name => get? name (r.apply i).attributes := by
  have hparts : r.members i withKind = ofList (
      (if withKind then [("kind", .text i.kind.name)] else []) ++ [("key", .text i.key)] ++
      (if i.anonymous then [("anonymous", .bool true)] else []) ++ (r.apply i).attributes ++
      (if ¬(r.apply i).redacted = [] then
        [("_meta", Json.ofMembers [("redactedAttributes", Json.ofTexts (r.apply i).redacted)])]
        else [])) := by
    rw [ite_not]
    rfl
  -- what is put last counts, but no attribute has a name that was put before
  have hplain : ∀ name ∈ builtInNames, "name" ≠ name → get? name (r.apply i).attributes = none :=
    fun name hname hne => get?_apply_of_none (get?_shown_of_builtIn h hname hne)
  rw [hparts]
  simp only [get?_ofList_append_or, get?_ofList_ite, get?_ofList_singleton,
    ofList_of_ordered (ordered_apply r i)]
  symm
  split
  · simp [hplain "kind" (by simp [builtInNames]) (by decide)]
  · simp [hplain "key" (by simp [builtInNames]) (by decide)]
  · simp [hplain "anonymous" (by simp [builtInNames]) (by decide)]
  · simp [hplain "_meta" (by simp [builtInNames]) (by decide)]
  · next hkind hkey hanonymous hmeta =>
    have hne : ∀ n, (name = n → False) → (n = name) = False :=
      fun n hn => eq_false fun heq => hn heq.symm
    simp [hne _ hkind, hne _ hkey, hne _ hanonymous, hne _ hmeta]

/-! ## Paths into an individual -/

/-- Apart from kind, key, anonymity and `_meta`, the members of an individual are what there is to
    be shown. -/
theorem get?_members_of_shown (h : WellFormedAttributes i.attributes) (withKind : Bool)
    {name : String} (hshown : name ∉ alwaysShown) (hmeta : name ≠ "_meta") :
    get? name (i.members withKind) = get? name (shown i) := by
  simp only [alwaysShown, List.mem_cons, List.not_mem_nil, or_false, not_or] at hshown
  obtain ⟨hkind, hkey, hanonymous⟩ := hshown
  rw [Individual.get?_members h, get?_shown h]
  unfold Individual.written?
  split
  · contradiction
  · contradiction
  · rfl
  · contradiction
  · contradiction
  · next hname _ _ => rw [if_neg fun heq => hname heq.symm]

theorem at?_members_of_shown (h : WellFormedAttributes i.attributes) (withKind : Bool)
    {first : String} (hshown : first ∉ alwaysShown) (hmeta : first ≠ "_meta") (rest : List String) :
    at? (first :: rest) (.object (i.members withKind)) =
      at? (first :: rest) (.object (shown i)) := by
  rw [at?_object, at?_object, get?_members_of_shown h withKind hshown hmeta]

/-- What an event has below such a name is what the references left of it. -/
theorem at?_redacted_of_apply (h : WellFormedAttributes i.attributes) (withKind : Bool)
    {first : String} (hshown : first ∉ alwaysShown) (hmeta : first ≠ "_meta") (rest : List String) :
    at? (first :: rest) (.object (r.members i withKind)) =
      at? (first :: rest) (.object (r.apply i).attributes) := by
  simp only [alwaysShown, List.mem_cons, List.not_mem_nil, or_false, not_or] at hshown
  obtain ⟨hkind, hkey, hanonymous⟩ := hshown
  rw [at?_object, at?_object, get?_redacted h]
  split <;> first | contradiction | rfl

/-- Kind, key and anonymity are shown as they are, whatever is private. -/
theorem at?_redacted_of_alwaysShown (h : WellFormedAttributes i.attributes) (withKind : Bool)
    {first : String} (hshown : first ∈ alwaysShown) (rest : List String) :
    at? (first :: rest) (.object (r.members i withKind)) =
      at? (first :: rest) (.object (i.members withKind)) := by
  rw [at?_object, at?_object, get?_redacted h, Individual.get?_members h]
  simp only [alwaysShown, List.mem_cons, List.not_mem_nil, or_false] at hshown
  rcases hshown with rfl | rfl | rfl <;> rfl

/-! ## Private paths -/

/-- **The private paths of an individual**: where valid references lead, unless that is shown
    always. -/
def privatePaths (r : Redaction) (i : Individual) : List (List String) :=
  (((r.references ++ i.privateAttributes).filter Reference.isValid).map Reference.names).filter
    fun path => path.head?.any (· ∉ alwaysShown)

/-- A path is private if a reference of the configuration or of the individual leads there, and not
    to what is always shown. -/
theorem mem_privatePaths {path : List String} :
    path ∈ r.privatePaths i ↔ (∃ first rest, path = first :: rest ∧ first ∉ alwaysShown) ∧
      ∃ reference ∈ r.references ++ i.privateAttributes, reference.names = path := by
  have hhead : path.head?.any (fun name => decide (name ∉ alwaysShown)) = true ↔
      ∃ first rest, path = first :: rest ∧ first ∉ alwaysShown := by
    cases path <;> simp
  simp only [privatePaths, List.mem_filter, List.mem_map, hhead]
  constructor
  · rintro ⟨⟨reference, ⟨hmem, -⟩, hnames⟩, hfirst⟩
    exact ⟨hfirst, reference, hmem, hnames⟩
  · rintro ⟨⟨first, rest, hpath, hfirst⟩, reference, hmem, hnames⟩
    have hvalid : reference.isValid = true :=
      isValid_of_names_ne_nil (by rw [hnames, hpath]; exact List.cons_ne_nil first rest)
    exact ⟨⟨reference, ⟨hmem, hvalid⟩, hnames⟩, first, rest, hpath, hfirst⟩

variable (h : WellFormedAttributes i.attributes) (withKind : Bool)

section References

variable (heverything : r.everything = false)

include heverything in
/-- The references are applied one after the other, those of the configuration first. -/
theorem apply_eq_foldl :
    r.apply i = (r.references ++ i.privateAttributes).foldl step ⟨shown i, []⟩ := by
  unfold apply
  simp only [heverything, Bool.false_eq_true, if_false]

include h heverything in
/-- **Nothing at or below a private path is shown.** -/
theorem at?_redacted_below {path p : List String} (hprivate : path ∈ r.privatePaths i)
    (hp : path <+: p) (hmeta : p.head? ≠ some "_meta") :
    at? p (.object (r.members i withKind)) = none := by
  obtain ⟨⟨first, rest, rfl, hfirst⟩, reference, hmem, hnames⟩ := mem_privatePaths.1 hprivate
  obtain ⟨more, rfl⟩ := hp
  have hne : first ≠ "_meta" := fun heq => hmeta (by rw [heq]; rfl)
  have hstripped := stripped_foldl (r.references ++ i.privateAttributes) ⟨shown i, []⟩
  rw [← apply_eq_foldl heverything] at hstripped
  rw [List.cons_append, at?_redacted_of_apply h withKind hfirst hne]
  refine hstripped.gone reference hmem ?_ _ ?_
  · rw [hnames]
    exact List.cons_ne_nil first rest
  · rw [hnames]
    exact List.prefix_append (first :: rest) more

include h heverything in
/-- **Everything apart from the private paths is shown as it is.** -/
theorem at?_redacted_apart {p : List String} (hne : p ≠ []) (hmeta : p.head? ≠ some "_meta")
    (hapart : ∀ path ∈ r.privatePaths i, ¬ path <+: p ∧ ¬ p <+: path) :
    at? p (.object (r.members i withKind)) = at? p (.object (i.members withKind)) := by
  obtain ⟨first, rest, rfl⟩ := List.exists_cons_of_ne_nil hne
  have hfirst : first ≠ "_meta" := fun heq => hmeta (by rw [heq]; rfl)
  by_cases hshown : first ∈ alwaysShown
  · exact at?_redacted_of_alwaysShown h withKind hshown rest
  · rw [at?_redacted_of_apply h withKind hshown hfirst,
      at?_members_of_shown h withKind hshown hfirst]
    have hstripped := stripped_foldl (r.references ++ i.privateAttributes) ⟨shown i, []⟩
    rw [← apply_eq_foldl heverything] at hstripped
    refine hstripped.apart (first :: rest) fun reference hmem hnames => ?_
    obtain ⟨name, names, hcons⟩ := List.exists_cons_of_ne_nil hnames
    -- a reference to a path above or below this one begins with the same name, so it is private
    have hprivate : name = first → reference.names ∈ r.privatePaths i := fun heq =>
      mem_privatePaths.2 ⟨⟨name, names, hcons, heq ▸ hshown⟩, reference, hmem, rfl⟩
    constructor
    · intro hbelow
      have heq : name = first := (List.cons_prefix_cons.1 (hcons ▸ hbelow)).1
      exact (hapart _ (hprivate heq)).1 hbelow
    · intro habove
      have heq : first = name := (List.cons_prefix_cons.1 (hcons ▸ habove)).1
      exact (hapart _ (hprivate heq.symm)).2 habove

include heverything in
/-- No reference is recorded twice: what it takes out is not there the second time. -/
theorem nodup_redacted : (r.apply i).redacted.Nodup := by
  rw [apply_eq_foldl heverything]
  exact (recorded_foldl _ ⟨shown i, []⟩).nodup List.nodup_nil

include heverything in
/-- What is noted are texts of valid references. -/
theorem reference_of_mem_redacted {text : String} (htext : text ∈ (r.apply i).redacted) :
    ∃ reference ∈ r.references ++ i.privateAttributes, reference.isValid = true ∧
      reference.text = text := by
  rw [apply_eq_foldl heverything] at htext
  rcases (recorded_foldl _ ⟨shown i, []⟩).origin text htext with hold | hreference
  · exact absurd hold List.not_mem_nil
  · exact hreference

include h heverything in
/-- **Something is noted just when something is not shown.** -/
theorem redacted_ne_nil_iff :
    (r.apply i).redacted ≠ [] ↔
      ∃ p, p.head? ≠ some "_meta" ∧ at? p (.object (i.members withKind)) ≠ none ∧
      at? p (.object (r.members i withKind)) = none := by
  have hrecorded := recorded_foldl (r.references ++ i.privateAttributes) ⟨shown i, []⟩
  have hstripped := stripped_foldl (r.references ++ i.privateAttributes) ⟨shown i, []⟩
  rw [← apply_eq_foldl heverything] at hrecorded hstripped
  constructor
  · intro hnoted
    rcases hrecorded.found hnoted with hbefore | ⟨reference, hmem, hnames, hfound⟩
    · exact absurd rfl hbefore
    · obtain ⟨first, rest, hcons⟩ := List.exists_cons_of_ne_nil hnames
      have hgone := hstripped.gone reference hmem hnames reference.names List.prefix_rfl
      have hsome : get? first (shown i) ≠ none := by
        intro hnone
        rw [hcons, at?_object, hnone] at hfound
        exact hfound rfl
      obtain ⟨hshown, hmeta⟩ := not_alwaysShown_of_shown h hsome
      rw [hcons] at hfound hgone
      refine ⟨first :: rest, fun heq => hmeta (Option.some.inj heq), ?_, ?_⟩
      · rw [at?_members_of_shown h withKind hshown hmeta]
        exact hfound
      · rw [at?_redacted_of_apply h withKind hshown hmeta]
        exact hgone
  · rintro ⟨p, hmeta, hown, hshown⟩ hnothing
    obtain ⟨-, hsame⟩ := hrecorded.silent hnothing
    cases p with
    | nil => cases hshown
    | cons first rest =>
      have hfirst : first ≠ "_meta" := fun heq => hmeta (by rw [heq]; rfl)
      by_cases halways : first ∈ alwaysShown
      · rw [at?_redacted_of_alwaysShown h withKind halways] at hshown
        exact hown hshown
      · rw [at?_redacted_of_apply h withKind halways hfirst, hsame] at hshown
        rw [at?_members_of_shown h withKind halways hfirst] at hown
        exact hown hshown

end References

/-! ## Everything private -/

section Everything

variable (heverything : r.everything = true)

include heverything in
/-- With all attributes private, nothing is left but the names for the record. -/
theorem apply_eq_names : r.apply i = ⟨[], names (shown i)⟩ := by
  unfold apply
  simp only [heverything, if_true]

include heverything in
/-- The names of everything are noted in order. -/
theorem sorted_redacted : (r.apply i).redacted.Pairwise (· < ·) := by
  rw [apply_eq_names heverything]
  exact List.pairwise_map.2 (ordered_shown i)

include h heverything in
/-- **What is noted are the names that are not shown.** -/
theorem mem_redacted_iff (name : String) :
    name ∈ (r.apply i).redacted ↔ name ∉ alwaysShown ∧ name ≠ "_meta" ∧
      get? name (i.members withKind) ≠ none := by
  rw [apply_eq_names heverything, mem_names_iff]
  constructor
  · intro hsome
    obtain ⟨hshown, hmeta⟩ := not_alwaysShown_of_shown h hsome
    rw [get?_members_of_shown h withKind hshown hmeta]
    exact ⟨hshown, hmeta, hsome⟩
  · rintro ⟨hshown, hmeta, hsome⟩
    rwa [get?_members_of_shown h withKind hshown hmeta] at hsome

include h heverything in
/-- **Only what is always shown is shown.** -/
theorem get?_redacted_of_everything (name : String) (hmeta : name ≠ "_meta") :
    get? name (r.members i withKind) =
      if name ∈ alwaysShown then get? name (i.members withKind) else none := by
  by_cases hshown : name ∈ alwaysShown
  · rw [if_pos hshown, get?_redacted h, Individual.get?_members h]
    simp only [alwaysShown, List.mem_cons, List.not_mem_nil, or_false] at hshown
    rcases hshown with rfl | rfl | rfl <;> rfl
  · rw [if_neg hshown, get?_redacted h, apply_eq_names heverything]
    simp only [alwaysShown, List.mem_cons, List.not_mem_nil, or_false, not_or] at hshown
    obtain ⟨hkind, hkey, hanonymous⟩ := hshown
    split <;> first | contradiction | rfl

end Everything

/-! ## Invalid references -/

/-- The configuration without its invalid references. -/
def validOnly (r : Redaction) : Redaction :=
  { r with references := r.references.filter Reference.isValid }

end Redaction

/-- An individual without its invalid references. -/
def Individual.validOnly (i : Individual) : Individual :=
  { i with privateAttributes := i.privateAttributes.filter Reference.isValid }

/-- A context without its invalid references. -/
def Context.validOnly : Context → Context
  | .single i => .single i.validOnly
  | .multi members => .multi (members.map Individual.validOnly)

namespace Redaction

variable {r : Redaction} {i : Individual}

theorem step_of_invalid {reference : Reference} (h : reference.isValid = false) (result : Result) :
    step result reference = result := by
  cases reference with
  | valid text names => cases h
  | invalid text error => rfl

theorem foldl_step_filter (references : List Reference) (result : Result) :
    (references.filter Reference.isValid).foldl step result = references.foldl step result := by
  induction references generalizing result with
  | nil => rfl
  | cons reference rest ih =>
    cases hvalid : reference.isValid with
    | true => rw [List.filter_cons_of_pos hvalid, List.foldl_cons, List.foldl_cons, ih]
    | false =>
      rw [List.filter_cons_of_neg (by rw [hvalid]; exact Bool.false_ne_true), List.foldl_cons,
        step_of_invalid hvalid, ih]

/-- Invalid references might as well not be there. -/
theorem apply_validOnly : r.validOnly.apply i.validOnly = r.apply i := by
  have hreferences : r.validOnly.references ++ i.validOnly.privateAttributes =
      (r.references ++ i.privateAttributes).filter Reference.isValid :=
    (List.filter_append ..).symm
  unfold apply
  simp only [hreferences, foldl_step_filter]
  rfl

theorem members_validOnly (withKind : Bool) :
    r.validOnly.members i.validOnly withKind = r.members i withKind := by
  unfold members
  rw [apply_validOnly]
  rfl

/-- **Invalid references change nothing.** -/
theorem filter_validOnly (r : Redaction) (c : Context) :
    r.validOnly.filter c.validOnly = r.filter c := by
  cases c with
  | single i => exact congrArg Document.object (members_validOnly true)
  | multi members =>
    have hparts : (members.map Individual.validOnly).map
        (fun i => (i.kind.name, (.object (r.validOnly.members i false) : Json))) =
        members.map fun i => (i.kind.name, .object (r.members i false)) := by
      rw [List.map_map]
      refine List.map_congr_left fun i _ => ?_
      show (i.kind.name, Document.object (r.validOnly.members i.validOnly false)) = _
      rw [members_validOnly]
    show Json.ofMembers (_ :: (members.map Individual.validOnly).map _) = _
    rw [hparts]
    rfl

/-! ## Main result -/

/-- **Redaction is complete and minimal.**  Let `own` be the JSON of an individual of a context, and
    `shown` the JSON of it in an event.

    - Unless everything is private: nothing is shown at a path that a private path leads to or
      above; what is apart from all private paths is shown as it is; and `_meta` holds a list of
      texts of valid references, each once, which is there just when something is not shown.
    - If everything is private: of all names only kind, key and anonymity are shown, and `_meta`
      holds the names of all the others, in order.
    - Invalid references change nothing, and what is shown of an individual does not depend on the
      other individuals of its context. -/
theorem filter_redacts (r : Redaction) {c : Context} (h : c.WellFormed) {i : Individual}
    (hi : i ∈ c.individuals) :
    ∃ own shown, c.part? i c.toJson = some (.object own) ∧
      c.part? i (r.filter c) = some (.object shown) ∧
      (r.everything = false →
        (∀ path ∈ r.privatePaths i, ∀ p, path <+: p → p.head? ≠ some "_meta" →
          at? p (.object shown) = none) ∧
        (∀ p, p ≠ [] → p.head? ≠ some "_meta" →
          (∀ path ∈ r.privatePaths i, ¬ path <+: p ∧ ¬ p <+: path) →
          at? p (.object shown) = at? p (.object own)) ∧
        ∃ texts : List String, texts.Nodup ∧
          (∀ text ∈ texts, ∃ reference ∈ r.references ++ i.privateAttributes,
            reference.isValid = true ∧ reference.text = text) ∧
          at? ["_meta"] (.object shown) =
            (if texts = [] then none
            else some (.object [("redactedAttributes", Json.ofTexts texts)])) ∧
          (texts ≠ [] ↔ ∃ p, p.head? ≠ some "_meta" ∧ at? p (.object own) ≠ none ∧
            at? p (.object shown) = none)) ∧
      (r.everything = true →
        (∀ name, name ≠ "_meta" →
          get? name shown = if name ∈ alwaysShown then get? name own else none) ∧
        ∃ texts : List String, texts.Pairwise (· < ·) ∧
          (∀ name, name ∈ texts ↔ name ∉ alwaysShown ∧ name ≠ "_meta" ∧ get? name own ≠ none) ∧
          get? "_meta" shown =
            (if texts = [] then none
            else some (.object [("redactedAttributes", Json.ofTexts texts)]))) ∧
      r.validOnly.filter c.validOnly = r.filter c ∧
      ∀ d : Context, d.WellFormed → i ∈ d.individuals → d.isMulti = c.isMulti →
        d.part? i (r.filter d) = some (.object shown) := by
  have hattributes : WellFormedAttributes i.attributes := (h.individuals i hi).attributes
  have hmeta : get? "_meta" (r.members i (!c.isMulti)) =
      (if (r.apply i).redacted = [] then none
      else some (.object [("redactedAttributes", Json.ofTexts (r.apply i).redacted)])) :=
    get?_redacted hattributes (!c.isMulti) "_meta"
  refine ⟨i.members (!c.isMulti), r.members i (!c.isMulti), Context.part?_toJson h hi,
    Context.part?_filter h hi r, ?_, ?_, filter_validOnly r c, ?_⟩
  · intro hreferences
    refine ⟨fun path hpath p hp hne => at?_redacted_below hattributes _ hreferences hpath hp hne,
      fun p hne hfirst hapart => at?_redacted_apart hattributes _ hreferences hne hfirst hapart,
      (r.apply i).redacted, nodup_redacted hreferences,
      fun text htext => reference_of_mem_redacted hreferences htext, ?_,
      redacted_ne_nil_iff hattributes _ hreferences⟩
    rw [at?_object, hmeta]
    split <;> rfl
  · intro heverything
    exact ⟨get?_redacted_of_everything hattributes _ heverything, (r.apply i).redacted,
      sorted_redacted heverything, mem_redacted_iff hattributes _ heverything, hmeta⟩
  · intro d hd hid hmulti
    rw [Context.part?_filter hd hid r, hmulti]

/-! ## An instance -/

/-- A user with an address; the street is private for it, and a reference to nothing is invalid. -/
def resident : Individual :=
  ⟨Kind.user, "a", some "A", false, none,
    [("address", .object [("city", .text "C"), ("street", .text "S")])],
    [.ofText "/address/street", .ofText ""]⟩

theorem wellFormed_resident : (Context.single resident).WellFormed := by
  refine ⟨by decide, by decide, List.pairwise_singleton _ _, fun name hname => ?_⟩
  simp only [builtInNames, List.mem_cons, List.not_mem_nil, or_false] at hname
  rcases hname with rfl | rfl | rfl | rfl | rfl <;> rfl

/-- The street is not shown, the city is. -/
theorem filter_redacts_resident :
    let shown := (⟨false, []⟩ : Redaction).filter (.single resident)
    (Context.single resident).WellFormed ∧ resident ∈ (Context.single resident).individuals ∧
    at? ["address", "street"] shown = none ∧ at? ["address", "city"] shown = some (.text "C") := by
  intro shown
  have hmem : resident ∈ (Context.single resident).individuals := List.mem_singleton_self _
  obtain ⟨own, fields, hown, hshown, hreferences, -⟩ :=
    filter_redacts ⟨false, []⟩ wellFormed_resident hmem
  obtain ⟨hbelow, hapart, -⟩ := hreferences rfl
  have hfields : shown = .object fields := Option.some.inj hshown
  have hmembers : Context.toJson (.single resident) = .object own := Option.some.inj hown
  have hprivate : (⟨false, []⟩ : Redaction).privatePaths resident = [["address", "street"]] := by
    decide +kernel
  refine ⟨wellFormed_resident, hmem, ?_, ?_⟩
  · rw [hfields]
    exact hbelow _ (hprivate ▸ List.mem_singleton_self _) _ List.prefix_rfl (by decide)
  · rw [hfields, hapart _ (List.cons_ne_nil _ _) (by decide), ← hmembers]
    · rfl
    · rw [hprivate]
      intro path hpath
      obtain rfl := List.mem_singleton.1 hpath
      decide

end Redaction

end FeatureFlags
