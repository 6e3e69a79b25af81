/-
  REACH — what of a store an evaluation may ask for.

  1. **Mentions** — a flag mentions the flags that it requires; flags and segments mention the
     segments that the clauses of their rules ask for.
  2. **Reach** — an item reaches what it mentions, and what is mentioned by the items found there.
  3. **Shared parts** — `s.Shares s' part`: a part of `s` that mentions nothing outside of it, and
     in which readers of `s'` find the same.  What an item reaches is such a part as soon as readers
     find the same there (`Shares.reach`), and no such part that holds what the item mentions is
     smaller (`Reaches.mem`).
-/
import FeatureFlags.Store.Update

namespace FeatureFlags

/-- The names of the segments that a clause asks for. -/
def Clause.segmentNames (c : Clause) : List String :=
  if c.op = .segmentMatch then c.values.filterMap Document.text? else []

namespace Store

/-! ## Mentions -/

/-- **What an item mentions**, by kind and key. -/
inductive Item.Mentions : Item → ItemKind → String → Prop
  | prerequisite {f : Flag} {p : Prerequisite} : p ∈ f.prerequisites →
    Mentions (.flag f) .flags p.key
  | flagRule {f : Flag} {r : FlagRule} {c : Clause} {name : String} : r ∈ f.rules →
    c ∈ r.clauses → name ∈ c.segmentNames → Mentions (.flag f) .segments name
  | segmentRule {x : Segment} {r : SegmentRule} {c : Clause} {name : String} : r ∈ x.rules →
    c ∈ r.clauses → name ∈ c.segmentNames → Mentions (.segment x) .segments name

/-- A part of a store, by kinds and keys. -/
abbrev Part := ItemKind → String → Prop

/-- All of a store. -/
def Part.all : Part := fun _ _ => True

/-! ## Reach -/

/-- **What an item reaches** in a store. -/
inductive Reaches (s : Store) (root : Item) : Part
  | mentioned {kind : ItemKind} {key : String} : root.Mentions kind key → Reaches s root kind key
  | through {kind kind' : ItemKind} {key key' : String} {item : Item} : Reaches s root kind key →
    s.shown? kind key = some item → item.Mentions kind' key' → Reaches s root kind' key'

/-! ## Shared parts -/

/-- `s.Shares s' part` — the part mentions nothing outside of it, and `s'` shows the same there. -/
structure Shares (s s' : Store) (part : Part) : Prop where
  shown : ∀ kind key, part kind key → s'.shown? kind key = s.shown? kind key
  closed : ∀ kind key item, part kind key → s.shown? kind key = some item →
    ∀ kind' key', item.Mentions kind' key' → part kind' key'

variable {s s' : Store} {part : Part} {root : Item} {kind : ItemKind} {key : String}

theorem Shares.all (s : Store) : s.Shares s .all where
  shown _ _ _ := rfl
  closed _ _ _ _ _ _ _ _ := trivial

/-- What an item reaches is a shared part as soon as the same is shown there. -/
theorem Shares.reach
    (h : ∀ kind key, s.Reaches root kind key → s'.shown? kind key = s.shown? kind key) :
    s.Shares s' (s.Reaches root) where
  shown := h
  closed _ _ _ hreached hitem _ _ := .through hreached hitem

theorem Shares.flag? (h : s.Shares s' part) (hkey : part .flags key) :
    s'.flag? key = s.flag? key := by
  have hshown : (s'.flag? key).map Item.flag = (s.flag? key).map Item.flag :=
    h.shown .flags key hkey
  exact Option.map_injective (fun f g hfg => by injection hfg) hshown

theorem Shares.segment? (h : s.Shares s' part) (hkey : part .segments key) :
    s'.segment? key = s.segment? key := by
  have hshown : (s'.segment? key).map Item.segment = (s.segment? key).map Item.segment :=
    h.shown .segments key hkey
  exact Option.map_injective (fun x y hxy => by injection hxy) hshown

/-- A flag found in a shared part mentions what belongs to it. -/
theorem Shares.of_flag? (h : s.Shares s' part) (hkey : part .flags key) {f : Flag}
    (hf : s.flag? key = some f) (kind' : ItemKind) (key' : String)
    (hmentions : (Item.flag f).Mentions kind' key') : part kind' key' :=
  h.closed .flags key (.flag f) hkey (congrArg (Option.map Item.flag) hf) kind' key' hmentions

/-- So does a segment. -/
theorem Shares.of_segment? (h : s.Shares s' part) (hkey : part .segments key) {x : Segment}
    (hx : s.segment? key = some x) (kind' : ItemKind) (key' : String)
    (hmentions : (Item.segment x).Mentions kind' key') : part kind' key' :=
  h.closed .segments key (.segment x) hkey
    (congrArg (Option.map Item.segment) hx) kind' key' hmentions

/-- A shared part that holds what an item mentions holds all that the item reaches. -/
theorem Reaches.mem (h : s.Shares s' part)
    (hroot : ∀ kind key, root.Mentions kind key → part kind key)
    (hreached : s.Reaches root kind key) :
    part kind key := by
  induction hreached with
  | mentioned hmentions => exact hroot _ _ hmentions
  | through _ hitem hmentions ih => exact h.closed _ _ _ ih hitem _ _ hmentions

/-- **A store that shows the same where an item reaches** has the item reach the same. -/
theorem Reaches.of_shown
    (h : ∀ kind key, s.Reaches root kind key → s'.shown? kind key = s.shown? kind key)
    (kind : ItemKind) (key : String) :
    s'.Reaches root kind key ↔ s.Reaches root kind key := by
  constructor
  · intro hreached
    induction hreached with
    | mentioned hmentions => exact .mentioned hmentions
    | through _ hitem hmentions ih =>
      rw [h _ _ ih] at hitem
      exact .through ih hitem hmentions
  · intro hreached
    induction hreached with
    | mentioned hmentions => exact .mentioned hmentions
    | through hbefore hitem hmentions ih =>
      rw [← h _ _ hbefore] at hitem
      exact .through ih hitem hmentions

end Store

end FeatureFlags
