/-
  THE STORE CONVERGES — whatever the order in which updates arrive.

  Every update brings an item with a version, a deletion brings a tombstone, and the store keeps the
  newer of what it holds and what arrives.

  1. **One update (`stored?_apply`, `applied_iff`)** — at the kind and the key of its item the newer
     one stays, everywhere else nothing changes.  All later lemmas cite these two.
  2. **Many updates (`stored?_run`)** — so what is stored under a key is what remains of the items
     that arrived there, and what remains is the newest of them (`newest_foldl`).
  3. **Order (`run_perm`)** — two arrivals of different versions may be exchanged.
  4. **Main result** — the newest item stays, readers see it unless it is a tombstone, the order
     does not matter, and what is deleted does not come back but in a newer version.
-/
import FeatureFlags.Proofs.Entries
import FeatureFlags.Store.Update
import Mathlib.Data.List.Nodup
import Mathlib.Data.List.Perm.Basic

namespace FeatureFlags.Store

open Entries

/-! ## One update -/

/-- What stays of a stored item and one that arrives. -/
def newer {α : Type} (version : α → UInt64) (stored : Option α) (item : α) : α :=
  match stored with
  | none => item
  | some old => if version old < version item then item else old

section PutNewer

variable {α : Type} {version : α → UInt64} {key : String} {item : α} {items : Entries α}

/-- Where nothing is stored, whatever arrives is put. -/
theorem putNewer_of_none (hnone : get? key items = none) :
    putNewer version key item items = (true, insert key item items) := by
  rw [putNewer, hnone]

/-- Where an item is stored, the arrival has to be newer, and equal versions leave the old one. -/
theorem putNewer_of_some {old : α} (hold : get? key items = some old) :
    putNewer version key item items =
      if version old < version item then (true, insert key item items) else (false, items) := by
  rw [putNewer, hold]

/-- Under its own key the newer item stays, and other keys are left alone. -/
theorem get?_putNewer (other : String) :
    get? other (putNewer version key item items).2 =
      if key = other then some (newer version (get? other items) item) else get? other items := by
  by_cases hkey : key = other
  · -- the key of the arrival: it is compared with what is stored there, if anything
    subst hkey
    rw [if_pos rfl]
    cases hold : get? key items with
    | none => rw [putNewer_of_none hold, get?_insert, if_pos rfl, newer]
    | some old =>
      rw [putNewer_of_some hold, newer]
      split
      · rw [get?_insert, if_pos rfl]
      · exact hold
  · -- any other key: whether the arrival is put or refused, nothing changes there
    rw [if_neg hkey]
    cases hold : get? key items with
    | none => rw [putNewer_of_none hold, get?_insert, if_neg hkey]
    | some old =>
      rw [putNewer_of_some hold]
      split
      · rw [get?_insert, if_neg hkey]
      · rfl

/-- An arrival counts exactly if it is newer than what is stored, or nothing is. -/
theorem putNewer_applied_iff :
    (putNewer version key item items).1 = true ↔
      ∀ old, get? key items = some old → version old < version item := by
  cases hold : get? key items with
  | none =>
    rw [putNewer_of_none hold]
    exact ⟨fun _ old h => (nomatch h), fun _ => rfl⟩
  | some old =>
    rw [putNewer_of_some hold]
    constructor
    · -- an arrival that is not newer would have been refused
      intro happlied found hfound
      cases hfound
      by_cases hlt : version old < version item
      · exact hlt
      · rw [if_neg hlt] at happlied
        cases happlied
    · intro hall
      rw [if_pos (hall old rfl)]

/-- An arrival that does not count changes nothing. -/
theorem putNewer_of_refused (h : (putNewer version key item items).1 = false) :
    (putNewer version key item items).2 = items := by
  cases hold : get? key items with
  | none =>
    rw [putNewer_of_none hold] at h
    cases h
  | some old =>
    rw [putNewer_of_some hold] at h ⊢
    split at h
    · cases h
    · next hle => rw [if_neg hle]

theorem ordered_putNewer (h : Ordered items) : Ordered (putNewer version key item items).2 := by
  cases hold : get? key items with
  | none =>
    rw [putNewer_of_none hold]
    exact h.insert key item
  | some old =>
    rw [putNewer_of_some hold]
    split
    · exact h.insert key item
    · exact h

end PutNewer

/-- A store whose flags and segments are maps. -/
structure Mapped (s : Store) : Prop where
  flags : Ordered s.flags
  segments : Ordered s.segments

variable {s : Store} {u : Update} {kind : ItemKind} {key : String}

/-- A deletion is the update that puts a tombstone. -/
theorem apply_eq_put (s : Store) (u : Update) : s.apply u = s.apply (.put u.item) := by
  cases u with
  | put item => rfl
  | delete kind key version => cases kind <;> rfl

/-- What `get?_putNewer` says, read off the items of a store. -/
theorem map_get?_putNewer {α : Type} (version : α → UInt64) (ofItem : α → Item)
    (hversion : ∀ a, (ofItem a).version = version a) (key other : String) (item : α)
    (items : Entries α) :
    (get? other (putNewer version key item items).2).map ofItem =
      if key = other then some (newer Item.version ((get? other items).map ofItem) (ofItem item))
      else (get? other items).map ofItem := by
  have hnewer : newer Item.version ((get? other items).map ofItem) (ofItem item) =
      ofItem (newer version (get? other items) item) := by
    cases get? other items with
    | none => rfl
    | some old =>
      show (if (ofItem old).version < (ofItem item).version then ofItem item else ofItem old) =
        ofItem (if version old < version item then item else old)
      rw [hversion, hversion, apply_ite ofItem]
  rw [get?_putNewer, hnewer]
  split <;> rfl

/-- **What one update does**: under the kind and the key of its item the newer item stays, and all
    else stays as it is. -/
theorem stored?_apply (s : Store) (u : Update) (kind : ItemKind) (key : String) :
    (s.apply u).2.stored? kind key =
      if u.item.kind = kind ∧ u.item.key = key then
        some (newer Item.version (s.stored? kind key) u.item)
      else s.stored? kind key := by
  rw [apply_eq_put]
  generalize u.item = item
  cases item with
  | flag f =>
    -- flags and segments are kept apart: an update of one kind leaves the other alone
    cases kind with
    | segments => exact (if_neg fun h => nomatch h.1).symm
    | flags =>
      have hput := map_get?_putNewer Flag.version Item.flag (fun _ => rfl) f.key key f s.flags
      by_cases hkey : f.key = key
      · have hat : (Item.flag f).kind = .flags ∧ (Item.flag f).key = key := ⟨rfl, hkey⟩
        rw [if_pos hat]
        exact hput.trans (if_pos hkey)
      · have hat : ¬((Item.flag f).kind = .flags ∧ (Item.flag f).key = key) := fun h => hkey h.2
        rw [if_neg hat]
        exact hput.trans (if_neg hkey)
  | segment x =>
    cases kind with
    | flags => exact (if_neg fun h => nomatch h.1).symm
    | segments =>
      have hput := map_get?_putNewer Segment.version Item.segment (fun _ => rfl) x.key key x
        s.segments
      by_cases hkey : x.key = key
      · have hat : (Item.segment x).kind = .segments ∧ (Item.segment x).key = key := ⟨rfl, hkey⟩
        rw [if_pos hat]
        exact hput.trans (if_pos hkey)
      · have hat : ¬((Item.segment x).kind = .segments ∧ (Item.segment x).key = key) :=
          fun h => hkey h.2
        rw [if_neg hat]
        exact hput.trans (if_neg hkey)

theorem forall_map_eq_some {α β : Type} {o : Option α} {f : α → β} {P : β → Prop} :
    (∀ b, o.map f = some b → P b) ↔ ∀ a, o = some a → P (f a) := by
  constructor
  · exact fun h a ha => h (f a) (Option.map_eq_some_iff.2 ⟨a, ha, rfl⟩)
  · intro h b hb
    obtain ⟨a, ha, rfl⟩ := Option.map_eq_some_iff.1 hb
    exact h a ha

/-- An update counts exactly if its version is greater than that of the item stored. -/
theorem applied_iff (s : Store) (u : Update) :
    (s.apply u).1 = true ↔
      ∀ old, s.stored? u.item.kind u.item.key = some old → old.version < u.item.version := by
  rw [apply_eq_put]
  generalize u.item = item
  cases item with
  | flag f =>
    have hcount : (s.apply (.put (.flag f))).1 = (putNewer Flag.version f.key f s.flags).1 := rfl
    rw [hcount, putNewer_applied_iff]
    exact (forall_map_eq_some (f := Item.flag) (P := fun old => old.version < f.version)).symm
  | segment x =>
    have hcount : (s.apply (.put (.segment x))).1 =
        (putNewer Segment.version x.key x s.segments).1 := rfl
    rw [hcount, putNewer_applied_iff]
    exact (forall_map_eq_some (f := Item.segment) (P := fun old => old.version < x.version)).symm

/-- An update that does not count changes nothing at all. -/
theorem apply_of_refused {u : Update} (h : (s.apply u).1 = false) : (s.apply u).2 = s := by
  rw [apply_eq_put] at h ⊢
  generalize u.item = item at h ⊢
  cases item with
  | flag f =>
    have hflags : (putNewer Flag.version f.key f s.flags).2 = s.flags := putNewer_of_refused h
    show { s with flags := (putNewer Flag.version f.key f s.flags).2 } = s
    rw [hflags]
  | segment x =>
    have hsegments : (putNewer Segment.version x.key x s.segments).2 = s.segments :=
      putNewer_of_refused h
    show { s with segments := (putNewer Segment.version x.key x s.segments).2 } = s
    rw [hsegments]

/-- An update keeps flags and segments ordered by their keys. -/
theorem Mapped.apply (h : s.Mapped) (u : Update) : (s.apply u).2.Mapped := by
  rw [apply_eq_put]
  generalize u.item = item
  cases item with
  | flag f => exact ⟨ordered_putNewer h.flags, h.segments⟩
  | segment x => exact ⟨h.flags, ordered_putNewer h.segments⟩

theorem initialized_apply (s : Store) (u : Update) : (s.apply u).2.initialized = s.initialized := by
  rw [apply_eq_put]
  generalize u.item = item
  cases item <;> rfl

/-! ## Many updates -/

/-- The items that updates bring under a kind and a key, in the order of their arrival. -/
def arrivals (updates : List Update) (kind : ItemKind) (key : String) : List Item :=
  (updates.map Update.item).filter fun item => item.kind = kind ∧ item.key = key

/-- What is stored after an arrival. -/
def arrive (stored : Option Item) (item : Item) : Option Item :=
  some (newer Item.version stored item)

/-- **What many updates do**: under each kind and key stays what remains of the items that arrive
    there. -/
theorem stored?_run (s : Store) (updates : List Update) (kind : ItemKind) (key : String) :
    (s.run updates).stored? kind key =
      (arrivals updates kind key).foldl arrive (s.stored? kind key) := by
  induction updates generalizing s with
  | nil => rfl
  | cons u rest ih =>
    rw [run_cons, ih, stored?_apply]
    by_cases hat : u.item.kind = kind ∧ u.item.key = key
    · have hcons : arrivals (u :: rest) kind key = u.item :: arrivals rest kind key :=
        List.filter_cons_of_pos (decide_eq_true hat)
      rw [if_pos hat, hcons]
      rfl
    · have hcons : arrivals (u :: rest) kind key = arrivals rest kind key :=
        List.filter_cons_of_neg (by simpa using hat)
      rw [if_neg hat, hcons]

theorem Mapped.run (h : s.Mapped) (updates : List Update) : (s.run updates).Mapped := by
  induction updates generalizing s with
  | nil => exact h
  | cons u rest ih => exact ih (h.apply u)

theorem initialized_run (s : Store) (updates : List Update) :
    (s.run updates).initialized = s.initialized := by
  induction updates generalizing s with
  | nil => rfl
  | cons u rest ih => rw [run_cons, ih, initialized_apply]

/-! ## The newest item -/

/-- `Newest items found` — of these items `found` is the one with the highest version, and of
    several with that version the first; there is none only if there are no items. -/
def Newest (items : List Item) : Option Item → Prop
  | none => items = []
  | some item => ∃ before after, items = before ++ item :: after ∧
      (∀ x ∈ before, x.version < item.version) ∧ ∀ x ∈ after, x.version ≤ item.version

/-- No item is newer than the newest. -/
theorem Newest.le {items : List Item} {item : Item} (h : Newest items (some item)) :
    ∀ x ∈ items, x.version ≤ item.version := by
  obtain ⟨before, after, rfl, hbefore, hafter⟩ := h
  intro x hx
  rcases List.mem_append.1 hx with hx | hx
  · exact UInt64.le_of_lt (hbefore x hx)
  · rcases List.mem_cons.1 hx with rfl | hx
    · exact UInt64.le_refl _
    · exact hafter x hx

/-- One more arrival: it stays if its version is higher than all before. -/
theorem Newest.arrive {items : List Item} {found : Option Item} (h : Newest items found)
    (item : Item) :
    Newest (items ++ [item]) (arrive found item) := by
  cases found with
  | none =>
    have hempty : items = [] := h
    subst hempty
    exact ⟨[], [], rfl, fun x hx => absurd hx List.not_mem_nil,
      fun x hx => absurd hx List.not_mem_nil⟩
  | some old =>
    show Newest _ (some (if old.version < item.version then item else old))
    by_cases hlt : old.version < item.version
    · -- the arrival is newer than all, so it stands last and nothing comes after it
      rw [if_pos hlt]
      refine ⟨items, [], rfl, fun x hx => ?_, fun x hx => absurd hx List.not_mem_nil⟩
      exact UInt64.lt_of_le_of_lt (h.le x hx) hlt
    · -- the newest stays where it is, with one more item after it
      rw [if_neg hlt]
      obtain ⟨before, after, rfl, hbefore, hafter⟩ := h
      refine ⟨before, after ++ [item], by simp, hbefore, fun x hx => ?_⟩
      rcases List.mem_append.1 hx with hx | hx
      · exact hafter x hx
      · rw [List.mem_singleton.1 hx]
        exact UInt64.not_lt.1 hlt

/-- **What remains is the newest.** -/
theorem newest_foldl (stored : Option Item) (items : List Item) :
    Newest (stored.toList ++ items) (items.foldl Store.arrive stored) := by
  induction items using List.reverseRecOn with
  | nil =>
    cases stored with
    | none => rfl
    | some item =>
      exact ⟨[], [], rfl, fun x hx => absurd hx List.not_mem_nil,
        fun x hx => absurd hx List.not_mem_nil⟩
  | append_singleton rest last ih =>
    rw [List.foldl_append, ← List.append_assoc]
    exact ih.arrive last

/-! ## The order of arrival -/

/-- Two arrivals of different versions may be exchanged. -/
theorem arrive_comm {a b : Item} (h : a.version ≠ b.version) (stored : Option Item) :
    arrive (arrive stored a) b = arrive (arrive stored b) a := by
  have htotal : a.version < b.version ∨ b.version < a.version := UInt64.lt_or_lt_of_ne h
  cases stored with
  | none =>
    show some (if a.version < b.version then b else a) =
        some (if b.version < a.version then a else b)
    grind
  | some old =>
    -- whether each of the two is newer than the old item, and which of them is the newer one
    simp only [arrive, newer]
    by_cases ha : old.version < a.version <;> by_cases hb : old.version < b.version <;> grind

/-- Stores of maps that hold the same items are the same. -/
theorem ext_of_stored? {s t : Store} (hs : s.Mapped) (ht : t.Mapped)
    (hinitialized : s.initialized = t.initialized)
    (hstored : ∀ kind key, s.stored? kind key = t.stored? kind key) : s = t := by
  have hflags : s.flags = t.flags := by
    refine ext_of_get? hs.flags ht.flags fun key => ?_
    exact Option.map_injective (fun a b h => by injection h) (hstored .flags key)
  have hsegments : s.segments = t.segments := by
    refine ext_of_get? hs.segments ht.segments fun key => ?_
    exact Option.map_injective (fun a b h => by injection h) (hstored .segments key)
  cases s
  cases t
  simp_all

/-- **The order does not matter** where the versions of each item differ. -/
theorem run_perm (hs : s.Mapped) {updates others : List Update} (hperm : updates.Perm others)
    (hversions : ∀ kind key, ((arrivals updates kind key).map Item.version).Nodup) :
    s.run updates = s.run others := by
  refine ext_of_stored? (hs.run _) (hs.run _) ?_ fun kind key => ?_
  · rw [initialized_run, initialized_run]
  · rw [stored?_run, stored?_run]
    have harrivals : (arrivals updates kind key).Perm (arrivals others kind key) :=
      (hperm.map Update.item).filter _
    refine harrivals.foldl_eq' (fun a ha b hb stored => ?_) _
    by_cases hversion : a.version = b.version
    · have hsame : a = b := List.inj_on_of_nodup_map (hversions kind key) ha hb hversion
      rw [hsame]
    · exact arrive_comm hversion stored

/-! ## Readers -/

/-- Readers find what is stored, unless it is a tombstone. -/
theorem shown?_eq (s : Store) (kind : ItemKind) (key : String) :
    s.shown? kind key = (s.stored? kind key).filter fun item => !item.deleted := by
  cases kind with
  | flags =>
    show ((get? key s.flags).filter _).map Item.flag = ((get? key s.flags).map Item.flag).filter _
    rw [Option.filter_map]
    rfl
  | segments =>
    show ((get? key s.segments).filter _).map Item.segment =
      ((get? key s.segments).map Item.segment).filter _
    rw [Option.filter_map]
    rfl

/-- Among all flags, readers find the flag of every key. -/
theorem get?_allFlags (hs : s.Mapped) (key : String) : get? key s.allFlags = s.flag? key :=
  get?_filter hs.flags fun f => !f.deleted

/-- **A deleted item does not come back** but in a newer version, which an update brought. -/
theorem shown?_after_tombstone {dead item : Item} {later : List Update}
    (hstored : s.stored? kind key = some dead) (hdead : dead.deleted = true)
    (hshown : (s.run later).shown? kind key = some item) :
    dead.version < item.version ∧ item ∈ arrivals later kind key := by
  rw [shown?_eq] at hshown
  obtain ⟨hfound, hlive⟩ := Option.filter_eq_some_iff.1 hshown
  have hnewest := newest_foldl (some dead) (arrivals later kind key)
  rw [← hstored, ← stored?_run, hfound, hstored] at hnewest
  obtain ⟨before, after, hsplit, hbefore, -⟩ := hnewest
  rw [Option.toList_some, List.singleton_append] at hsplit
  cases before with
  | nil =>
    -- the tombstone itself is still stored, but readers do not find it
    obtain ⟨rfl, -⟩ := List.cons.inj hsplit
    rw [hdead] at hlive
    cases hlive
  | cons first rest =>
    obtain ⟨rfl, hrest⟩ := List.cons.inj hsplit
    refine ⟨hbefore _ (List.mem_cons_self ..), ?_⟩
    rw [hrest]
    exact List.mem_append_right rest (List.mem_cons_self ..)

/-! ## Main result -/

/-- **The store converges.**  After a full set of data and any updates:

    - under each kind and key stays the newest of the item that was there and the items that arrived
      there, the first of them if several have the highest version;
    - a further update counts exactly if its version is greater than that of the item stored; then
      its item is stored, else nothing changes, and never does anything change elsewhere;
    - readers find exactly what is stored and not deleted, among all flags as under a single key;
    - where the updates of each item have different versions, every order of arrival leads to the
      same store;
    - what is deleted does not come back but by an update of a newer version. -/
theorem run_converges {flags : Entries Flag} {segments : Entries Segment} (hflags : Ordered flags)
    (hsegments : Ordered segments) (updates : List Update) :
    let first := ofData flags segments
    let s := first.run updates
    (∀ kind key, Newest ((first.stored? kind key).toList ++ arrivals updates kind key)
      (s.stored? kind key)) ∧
    (∀ u : Update,
      ((s.apply u).1 = true ↔
        ∀ old, s.stored? u.item.kind u.item.key = some old → old.version < u.item.version) ∧
      ((s.apply u).1 = true → (s.apply u).2.stored? u.item.kind u.item.key = some u.item) ∧
      ((s.apply u).1 = false → (s.apply u).2 = s) ∧
      ∀ kind key, ¬(u.item.kind = kind ∧ u.item.key = key) →
        (s.apply u).2.stored? kind key = s.stored? kind key) ∧
    (∀ kind key, s.shown? kind key = (s.stored? kind key).filter fun item => !item.deleted) ∧
    (∀ key, get? key s.allFlags = s.flag? key) ∧
    ((∀ kind key, ((arrivals updates kind key).map Item.version).Nodup) →
      ∀ others, updates.Perm others → first.run others = s) ∧
    (∀ kind key dead later item, s.stored? kind key = some dead → dead.deleted = true →
      (s.run later).shown? kind key = some item →
        dead.version < item.version ∧ item ∈ arrivals later kind key) := by
  intro first s
  have hfirst : first.Mapped := ⟨hflags, hsegments⟩
  have hs : s.Mapped := hfirst.run updates
  refine ⟨fun kind key => ?_, fun u => ⟨applied_iff s u, fun hcounts => ?_, apply_of_refused, ?_⟩,
    shown?_eq s, get?_allFlags hs, fun hversions others hperm => ?_, ?_⟩
  · -- what is stored is what remains of the items in order of arrival
    rw [stored?_run]
    exact newest_foldl _ _
  · -- an update that counts is newer than what it replaces, so it is stored itself
    rw [stored?_apply, if_pos ⟨rfl, rfl⟩]
    rw [applied_iff] at hcounts
    cases hold : s.stored? u.item.kind u.item.key with
    | none => rfl
    | some old => rw [newer, if_pos (hcounts old hold)]
  · intro kind key helsewhere
    rw [stored?_apply, if_neg helsewhere]
  · exact (run_perm hfirst hperm hversions).symm
  · exact fun kind key dead later item => shown?_after_tombstone

/-- A flag in a version. -/
def versionOf (key : String) (version : UInt64) : Item := .flag { Flag.ofKey key with version }

/-- A flag that is updated late, deleted and put again, and a segment of the same key. -/
def crossedUpdates : List Update :=
  [.put (versionOf "a" 1), .delete .flags "a" 4,
    .put (.segment { Segment.ofKey "a" with version := 9 }),
    .put (versionOf "a" 3)]

/-- Whatever the order of these updates, the flag is deleted in the end, and the segment is
    there. -/
theorem run_converges_crossedUpdates :
    let flags : Entries Flag := [("a", { Flag.ofKey "a" with version := 2 })]
    let s := (ofData flags []).run crossedUpdates
    Ordered flags ∧ Ordered ([] : Entries Segment) ∧
    (∀ kind key, ((arrivals crossedUpdates kind key).map Item.version).Nodup) ∧
    s.flag? "a" = none ∧ (s.segment? "a").isSome = true ∧
    (s.apply (.put (versionOf "a" 4))).1 = false ∧
    (ofData flags []).run crossedUpdates.reverse = s := by
  intro flags s
  have hflags : Ordered flags := List.pairwise_singleton _ _
  have hsegments : Ordered ([] : Entries Segment) := ordered_nil
  have h := run_converges hflags hsegments crossedUpdates
  have hversions : ∀ kind key, ((arrivals crossedUpdates kind key).map Item.version).Nodup := by
    intro kind key
    -- under any other key nothing arrives, so there are no versions to compare
    by_cases hkey : "a" = key
    · subst hkey
      cases kind <;> decide
    · have hkeys : ∀ item ∈ crossedUpdates.map Update.item, item.key = "a" := by decide
      have hnone : arrivals crossedUpdates kind key = [] :=
        List.filter_eq_nil_iff.2 fun item hitem hat =>
          hkey ((hkeys item hitem).symm.trans (of_decide_eq_true hat).2)
      rw [hnone]
      exact List.nodup_nil
  refine ⟨hflags, hsegments, hversions, by decide +kernel, by decide +kernel, by decide +kernel, ?_⟩
  exact h.2.2.2.2.1 hversions _ (List.reverse_perm _).symm

end FeatureFlags.Store
