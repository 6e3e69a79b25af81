/-
  RECORDS READ BACK — what is written as the members of an object is read from them.

  1. **Values** — numbers of 32 and 64 bits, finite floating-point numbers and lists are read as
     they were written, and so is what may be none (`orNull?_ofOption`).
  2. **Members** — in the object of members with different names, each name has its value, and a
     member that is left out is not there (`read_present`).
  3. **Readers** — `required_of`, `orDefault_of` and `optional_of` say what a reader makes of a
     look-up, and `bind_of` goes on to the next member.
-/
import FeatureFlags.Flag.Codec
import FeatureFlags.Proofs.Entries
import Mathlib.Data.List.Basic

namespace FeatureFlags.Json

open Entries (get? ofList)

variable {α : Type} {read : Json → Option α} {write : α → Json}

/-! ## Values -/

/-- A number within range is read as it was written; the ranges of the readers are those of the
    types. -/
theorem uint64?_ofUInt64 (n : UInt64) : uint64? (ofUInt64 n) = some n := by
  have hlt : (n.toNat : Int) < 18446744073709551616 := Int.ofNat_lt.2 n.toNat_lt
  rw [uint64?, ofUInt64, int?, Option.bind_some, if_pos ⟨Int.natCast_nonneg _, hlt⟩,
    Int.toNat_natCast, UInt64.ofNat_toNat]

theorem uint32?_ofUInt32 (n : UInt32) : uint32? (ofUInt32 n) = some n := by
  have hlt : (n.toNat : Int) < 4294967296 := Int.ofNat_lt.2 n.toNat_lt
  rw [uint32?, ofUInt32, ofNat, int?, Option.bind_some, if_pos ⟨Int.natCast_nonneg _, hlt⟩,
    Int.toNat_natCast, UInt32.ofNat_toNat]

theorem int64?_ofInt64 (n : Int64) : int64? (ofInt64 n) = some n := by
  rw [int64?, ofInt64, ofInt, int?, Option.bind_some, if_pos ⟨n.le_toInt, n.toInt_lt⟩,
    Int64.ofInt_toInt]

/-- A finite number is written as the number it is, and read as that. -/
theorem float?_ofFloat {x : Float} (h : x.isFinite = true) : float? (ofFloat x) = some x := by
  rw [ofFloat, Number.ofFloat?, if_pos h]
  rfl

/-- What is written item by item is read item by item. -/
theorem mapM_map {β : Type} {read : β → Option α} {write : α → β} {items : List α}
    (hread : ∀ a ∈ items, read (write a) = some a) : (items.map write).mapM read = some items := by
  induction items with
  | nil => rfl
  | cons a rest ih =>
    have hfirst := hread a (List.mem_cons_self ..)
    have hrest := ih fun b hb => hread b (List.mem_cons_of_mem _ hb)
    rw [List.map_cons, List.mapM_cons, hfirst, hrest]
    rfl

theorem listOf?_map {items : List α} (hread : ∀ a ∈ items, read (write a) = some a) :
    listOf? read (.list (items.map write)) = some items :=
  mapM_map hread

theorem texts?_ofTexts (texts : List String) : texts? (ofTexts texts) = some texts :=
  listOf?_map fun _ _ => rfl

/-- What may be none is written as null then, which must not be read as something. -/
theorem orNull?_ofOption (hnull : read .null = none) {a : Option α}
    (hread : ∀ x, a = some x → read (write x) = some x) :
    orNull? read (ofOption write a) = some a := by
  cases a with
  | none => rfl
  | some x =>
    have hread := hread x rfl
    have hnotNull : write x ≠ .null := by
      intro hwrite
      rw [hwrite, hnull] at hread
      cases hread
    rw [ofOption, orNull?, hread]
    · rfl
    · exact hnotNull

/-! ## Members -/

/-- The members that are there; what is none is left out. -/
def present (members : List (String × Option Json)) : List (String × Json) :=
  members.filterMap fun m => m.2.map fun j => (m.1, j)

theorem present_nil : present [] = [] := rfl

theorem present_append (first second : List (String × Option Json)) :
    present (first ++ second) = present first ++ present second :=
  List.filterMap_append

variable {name : String} {members : List (String × Option Json)}

theorem present_some (j : Json) :
    present ((name, some j) :: members) = (name, j) :: present members := rfl

/-- A name that is not written is not found. -/
theorem get?_present_of_notMem (h : name ∉ members.map (·.1)) :
    get? name (present members) = none := by
  rw [Entries.get?_eq_none_iff]
  rintro pair hpair rfl
  obtain ⟨m, hm, hpresent⟩ := List.mem_filterMap.1 hpair
  obtain ⟨j, -, rfl⟩ := Option.map_eq_some_iff.1 hpresent
  exact h (List.mem_map.2 ⟨m, hm, rfl⟩)

/-- **Among different names, each one has its own value**, or none. -/
theorem get?_present (hnames : (members.map (·.1)).Nodup) {m : String × Option Json}
    (hm : m ∈ members) :
    get? m.1 (ofList (present members)) = m.2 := by
  induction members with
  | nil => cases hm
  | cons head rest ih =>
    obtain ⟨n, value⟩ := head
    obtain ⟨hhead, hrest⟩ := List.nodup_cons.1 hnames
    have hlater : get? n (ofList (present rest)) = none :=
      Entries.get?_ofList_eq_none (get?_present_of_notMem hhead)
    cases value with
    | none =>
      -- a member that is left out does not stand under any name
      rcases List.mem_cons.1 hm with rfl | hm
      · exact hlater
      · exact ih hrest hm
    | some j =>
      -- and one that is there is the only one of its name
      rw [present_some, Entries.get?_ofList_cons]
      rcases List.mem_cons.1 hm with rfl | hm
      · rw [hlater, if_pos rfl, Option.none_or]
      · have hne : n ≠ m.1 := fun heq => hhead (List.mem_map.2 ⟨m, hm, heq.symm⟩)
        rw [if_neg hne, Option.or_none, ih hrest hm]

variable {a : Option α}

/-- **A record is read** from the look-ups of its members. -/
theorem read_present (hnames : (members.map (·.1)).Nodup)
    (h : ∀ fields, (members.Forall fun m => get? m.1 fields = m.2) → read (.object fields) = a) :
    read (ofMembers (present members)) = a :=
  h _ (List.forall_iff_forall_mem.2 fun _ hm => get?_present hnames hm)

/-- A record whose members are all there. -/
theorem read_ofMembers {members : List (String × Json)} (hnames : (members.map (·.1)).Nodup)
    (h : ∀ fields, (members.Forall fun m => get? m.1 fields = some m.2) →
      read (.object fields) = a) :
    read (ofMembers members) = a := by
  have hpresent : present (members.map fun m => (m.1, some m.2)) = members := by
    rw [present, List.filterMap_map]
    exact List.filterMap_some
  rw [← hpresent]
  refine read_present (by rwa [List.map_map]) fun fields hfields => h fields ?_
  exact (List.forall_map_iff _).1 hfields

/-! ## Readers -/

/-- A reader goes on with the value of a member. -/
theorem bind_of {β : Type} {x : Option β} {next : β → Option α} {b : β} (hx : x = some b)
    (hnext : next b = a) : (x >>= next) = a := by
  rw [hx]
  exact hnext

section Readers

variable {fields : Entries Json} {j : Json} {value default : α}

/-- A required member is read from what the look-up found. -/
theorem required_of (h : get? name fields = some j) (hread : read j = some value) :
    required fields name read = some value := by
  rw [required, h]
  exact hread

theorem orDefault_of (h : get? name fields = some j) (hread : read j = some value) :
    orDefault fields name default read = some value := by
  rw [orDefault, h]
  exact hread

/-- A member that is written as null for none. -/
theorem optional_of (h : get? name fields = some (ofOption write a)) (hnull : read .null = none)
    (hread : ∀ x, a = some x → read (write x) = some x) : optional fields name read = some a :=
  orDefault_of h (orNull?_ofOption hnull hread)

/-- A member that is left out for none. -/
theorem optional_of_map (h : get? name fields = a.map write) (hnull : read .null = none)
    (hread : ∀ x, a = some x → read (write x) = some x) : optional fields name read = some a := by
  cases a with
  | none =>
    rw [optional, orDefault, h]
    rfl
  | some x => exact optional_of h hnull hread

end Readers

end FeatureFlags.Json
