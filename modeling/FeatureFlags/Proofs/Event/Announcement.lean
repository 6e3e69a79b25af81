/-
  ANNOUNCEMENTS — index and identify events, which show a context, before the events that only name
  it.

  1. **Reading a context shown** — `Json.shownKeys` reads kinds and keys from a context as events
     show it.  `Redaction.shownKeys_filter`: whatever is redacted, they are those of the context.
  2. **Streams (`Announced`)** — every event in full comes after an announcement of the same kinds
     and keys, or the announcement is among those known otherwise.
  3. **The outputs of one event (`InputEvent.announced_outputs`)** — they announce the context
     before they name it, unless it was met lately.
-/
import FeatureFlags.Processor.Outputs
import FeatureFlags.Proofs.Event.Redaction

namespace FeatureFlags

/-! ## Reading a context shown -/

namespace Json

/-- The key of an individual shown, or an empty text, which is the key of none. -/
def shownKey : Json → String
  | .object fields =>
    match Entries.get? "key" fields with
    | some (.text key) => key
    | _ => ""
  | _ => ""

/-- **The key of each kind of a context shown.** -/
def shownKeys (j : Json) : Entries String :=
  match j with
  | .object fields =>
    match Entries.get? "kind" fields with
    | some (.text kind) =>
      if kind = "multi" then Entries.mapValues shownKey (Entries.erase "kind" fields)
      else [(kind, j.shownKey)]
    | _ => []
  | _ => []

end Json

namespace Redaction

/-- Whatever is redacted, the kind is shown. -/
theorem get?_kind_members (r : Redaction) {i : Individual} (h : i.WellFormed) :
    Entries.get? "kind" (r.members i true) = some (.text i.kind.name) :=
  get?_redacted h.attributes true "kind"

/-- Whatever is redacted, the key is shown. -/
theorem get?_key_members (r : Redaction) {i : Individual} (h : i.WellFormed) (withKind : Bool) :
    Entries.get? "key" (r.members i withKind) = some (.text i.key) :=
  get?_redacted h.attributes withKind "key"

/-- The key is a member of every individual, and no redaction takes it out. -/
theorem shownKey_members (r : Redaction) {i : Individual} (h : i.WellFormed) (withKind : Bool) :
    Json.shownKey (.object (r.members i withKind)) = i.key := by
  rw [Json.shownKey, get?_key_members r h withKind]

/-- **A context shown tells its kinds and keys**, whatever is redacted. -/
theorem shownKeys_filter (r : Redaction) {c : Context} (h : c.WellFormed) :
    (r.filter c).shownKeys = c.keys := by
  cases c with
  | single i =>
    have hmulti : i.kind.name ≠ "multi" := fun heq => h.kind (Kind.ext heq)
    show Json.shownKeys (.object (r.members i true)) = [(i.kind.name, i.key)]
    rw [Json.shownKeys, get?_kind_members r h]
    show (if i.kind.name = "multi" then _ else _) = _
    rw [if_neg hmulti, shownKey_members r h]
  | multi members =>
    let shownMembers : List (String × Json) :=
      members.map fun i => (i.kind.name, .object (r.members i false))
    -- no member hides that there are several, since no kind is named `kind`
    have hkind : Entries.get? "kind" shownMembers = none := Context.get?_kind_parts _
    have hmulti :
        Entries.get? "kind" (Entries.ofList (("kind", Document.text "multi") :: shownMembers)) =
        some (.text "multi") := Context.get?_kind_head _ _
    have hkeys : shownMembers.map (fun pair => (pair.1, pair.2.shownKey)) =
        members.map fun i => (i.kind.name, i.key) := by
      rw [List.map_map]
      refine List.map_congr_left fun i hi => ?_
      exact congrArg (Prod.mk i.kind.name) (shownKey_members r (h.2.1 i hi) false)
    show Json.shownKeys (.object (Entries.ofList (("kind", .text "multi") :: shownMembers))) =
      Entries.ofList (members.map fun i => (i.kind.name, i.key))
    rw [Json.shownKeys, hmulti]
    show Entries.mapValues Json.shownKey (Entries.erase "kind" _) = _
    rw [Entries.erase_ofList_cons _ hkind, Entries.mapValues_ofList, hkeys]

end Redaction

/-! ## Streams -/

namespace OutputEvent

/-- Whether an event tells what happened in full, with no more of its context than kinds and
    keys. -/
def isFull : OutputEvent → Bool
  | feature _ | custom _ => true
  | _ => false

/-- The kinds and keys that an announcement shows. -/
def announced? : OutputEvent → Option (Entries String)
  | index _ context | identify _ context => some context.shownKeys
  | _ => none

/-- The kinds and keys by which an event in full names its context. -/
def named? : OutputEvent → Option (Entries String)
  | feature e => e.contextKeys
  | custom e => some e.contextKeys
  | _ => none

end OutputEvent

/-- `Announced known stream` — every event in full of a stream names its context, and an index or
    identify event that shows the same kinds and keys comes before it, or is known otherwise. -/
def Announced (known stream : List OutputEvent) : Prop :=
  ∀ prior x rest, stream = prior ++ x :: rest → x.isFull = true →
    ∃ keys, x.named? = some keys ∧ ∃ y ∈ prior ++ known, y.announced? = some keys

namespace Announced

variable {known first second stream : List OutputEvent}

/-- Announcements that are all known beforehand. -/
theorem of_known (h : ∀ x ∈ stream, x.isFull = true →
    ∃ keys, x.named? = some keys ∧ ∃ y ∈ known, y.announced? = some keys) :
    Announced known stream := by
  intro prior x rest hsplit hfull
  have hx : x ∈ stream := hsplit ▸ List.mem_append_right prior (List.mem_cons_self ..)
  obtain ⟨keys, hnamed, y, hy, hshown⟩ := h x hx hfull
  exact ⟨keys, hnamed, y, List.mem_append_right prior hy, hshown⟩

theorem mono (h : Announced first stream) (hsubset : ∀ y ∈ first, y ∈ second) :
    Announced second stream := by
  intro prior x rest hsplit hfull
  obtain ⟨keys, hnamed, y, hy, hshown⟩ := h prior x rest hsplit hfull
  refine ⟨keys, hnamed, y, ?_, hshown⟩
  rcases List.mem_append.1 hy with hprior | hknown
  · exact List.mem_append_left _ hprior
  · exact List.mem_append_right _ (hsubset y hknown)

/-- The first part of a stream. -/
theorem of_prefix (h : Announced known stream) (hbegins : first <+: stream) :
    Announced known first := by
  intro prior x rest hsplit hfull
  obtain ⟨later, rfl⟩ := hbegins
  refine h prior x (rest ++ later) ?_ hfull
  rw [hsplit, List.append_assoc, List.cons_append]

/-- One stream after the other: what the first one shows is known to the second one. -/
theorem append (h : Announced known first) (h' : Announced (first ++ known) second) :
    Announced known (first ++ second) := by
  intro prior x rest hsplit hfull
  -- the event is in the second stream, or in the first
  rcases List.append_eq_append_iff.1 hsplit with ⟨between, hprior, hsecond⟩ |
    ⟨between, hfirst, hrest⟩
  · obtain ⟨keys, hnamed, y, hy, hshown⟩ := h' between x rest hsecond hfull
    refine ⟨keys, hnamed, y, ?_, hshown⟩
    rw [hprior]
    simp only [List.mem_append] at hy ⊢
    tauto
  · cases between with
    | nil =>
      obtain ⟨keys, hnamed, y, hy, hshown⟩ := h' [] x rest hrest.symm hfull
      rw [List.append_nil] at hfirst
      exact ⟨keys, hnamed, y, hfirst ▸ hy, hshown⟩
    | cons z between =>
      rw [List.cons_append] at hrest
      obtain ⟨rfl, -⟩ := List.cons.inj hrest
      exact h prior x between hfirst hfull

/-- What may be left out of a stream needs no announcement. -/
theorem of_filter (keep : OutputEvent → Bool)
    (hkeep : ∀ x : OutputEvent, x.isFull = true → keep x = true)
    (h : Announced known (stream.filter keep)) : Announced known stream := by
  intro prior x rest hsplit hfull
  have hfilter : stream.filter keep = prior.filter keep ++ x :: rest.filter keep := by
    rw [hsplit, List.filter_append, List.filter_cons_of_pos (hkeep x hfull)]
  obtain ⟨keys, hnamed, y, hy, hshown⟩ := h _ x _ hfilter hfull
  refine ⟨keys, hnamed, y, ?_, hshown⟩
  rcases List.mem_append.1 hy with hprior | hknown
  · exact List.mem_append_left _ (List.mem_filter.1 hprior).1
  · exact List.mem_append_right _ hknown

/-- An event in full whose context no earlier event shows. -/
theorem not_of_split (prior : List OutputEvent) (x : OutputEvent) (rest : List OutputEvent)
    {keys : Entries String}
    (hsplit : stream = prior ++ x :: rest) (hfull : x.isFull = true) (hnamed : x.named? = some keys)
    (hmissing : ∀ y ∈ prior ++ known, y.announced? ≠ some keys) : ¬ Announced known stream := by
  intro h
  obtain ⟨keys', hnamed', y, hy, hshown⟩ := h prior x rest hsplit hfull
  rw [hnamed] at hnamed'
  cases hnamed'
  exact hmissing y hy hshown

end Announced

/-! ## The outputs of one event -/

/-- Without a ratio, or with the ratio one, the draw does not matter. -/
theorem isSampled_of_kept {ratio : Option UInt32} (h : ratio = none ∨ ratio = some 1)
    (drawn : Bool) :
    isSampled drawn ratio = true := by
  rcases h with rfl | rfl <;> rfl

namespace InputEvent

variable {e : InputEvent} {r : Redaction} {debugged : Bool}

/-- The event itself names its context by kinds and keys, if it is sent in full. -/
theorem named?_of_mem_itself {x : OutputEvent} (hx : x ∈ e.itself r debugged)
    (hfull : x.isFull = true) :
    x.named? = some e.context.keys := by
  cases e with
  | feature f =>
    rcases List.mem_append.1 hx with hx | hx
    · split at hx
      · rw [List.mem_singleton.1 hx]; rfl
      · cases hx
    · split at hx
      · rw [List.mem_singleton.1 hx] at hfull; cases hfull
      · cases hx
  | identify i => rw [List.mem_singleton.1 hx] at hfull; cases hfull
  | custom c => rw [List.mem_singleton.1 hx]; rfl
  | migration m => rw [List.mem_singleton.1 hx] at hfull; cases hfull

/-- A new context is announced before an event in full. -/
theorem exists_announcement (hcontext : e.context.WellFormed) {x : OutputEvent}
    (hx : x ∈ e.itself r debugged) (hfull : x.isFull = true) :
    ∃ y ∈ e.announcement r true, y.announced? = some e.context.keys := by
  have hshown := congrArg some (r.shownKeys_filter hcontext)
  cases e with
  | feature f => exact ⟨_, List.mem_singleton_self _, hshown⟩
  | identify i => rw [List.mem_singleton.1 hx] at hfull; cases hfull
  | custom c => exact ⟨_, List.mem_singleton_self _, hshown⟩
  | migration m => rw [List.mem_singleton.1 hx] at hfull; cases hfull

/-- An event that meets a new context announces it, be it as an identify event. -/
theorem exists_announced_outputs (hcontext : e.context.WellFormed)
    (hmeets : e.meetsContext = true) :
    ∃ y ∈ e.outputs r true debugged true, y.announced? = some e.context.keys := by
  have hshown := congrArg some (r.shownKeys_filter hcontext)
  cases e with
  | feature f => exact ⟨_, List.mem_cons_self .., hshown⟩
  | identify i => exact ⟨_, List.mem_cons_self .., hshown⟩
  | custom c => exact ⟨_, List.mem_cons_self .., hshown⟩
  | migration m => cases hmeets

/-- **One event announces its context before it names it**, unless an announcement is known. -/
theorem announced_outputs {known : List OutputEvent} {isNew : Bool}
    (hcontext : e.context.WellFormed)
    (hknown : isNew = false → e.meetsContext = true →
      ∃ y ∈ known, y.announced? = some e.context.keys) :
    Announced known (e.outputs r isNew debugged true) := by
  have hannouncement : Announced known (e.announcement r isNew) := by
    refine .of_known fun x hx hfull => ?_
    cases e <;> cases isNew <;> simp [announcement] at hx <;> rw [hx] at hfull <;> cases hfull
  refine hannouncement.append (.of_known fun x hx hfull => ?_)
  refine ⟨e.context.keys, named?_of_mem_itself hx hfull, ?_⟩
  cases isNew with
  | true =>
    -- a new context is announced by an event that is queued before
    obtain ⟨y, hy, hshown⟩ := exists_announcement hcontext hx hfull
    exact ⟨y, List.mem_append_left _ hy, hshown⟩
  | false =>
    -- a context that was met was announced earlier
    have hmeets : e.meetsContext = true := by
      cases e with
      | migration m => rw [List.mem_singleton.1 hx] at hfull; cases hfull
      | _ => rfl
    obtain ⟨y, hy, hshown⟩ := hknown rfl hmeets
    exact ⟨y, List.mem_append_right _ hy, hshown⟩

end InputEvent

end FeatureFlags
