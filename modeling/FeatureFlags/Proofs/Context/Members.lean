/-
  THE MEMBERS OF A WRITTEN INDIVIDUAL — name by name.

  1. **One individual** is written as one map, into which built-in names, attributes and `_meta` are
     put one after the other.  Since no attribute has a built-in name, nothing is overwritten, and
     `get?_members` tells for each name what stands under it.
  2. **Several individuals** are written into one map under their kinds, which are all different and
     never `kind` itself (`get?_parts`).
-/
import FeatureFlags.Proofs.Context.WellFormed
import FeatureFlags.Proofs.Entries

namespace FeatureFlags

open Entries

namespace Entries

variable {α β : Type} {name : String}

/-- A map of one pair that may be missing. -/
theorem get?_ofList_ite {c : Prop} [Decidable c] (pair : String × β) :
    get? name (ofList (if c then [pair] else [])) = if c ∧
      pair.1 = name then some pair.2 else none := by
  by_cases hc : c <;> simp [hc, get?_ofList_singleton, get?_ofList_nil]

/-- A map of one pair whose value may be missing. -/
theorem get?_ofList_elim (n : String) (f : α → β) (o : Option α) :
    get? name (ofList (o.elim [] fun x => [(n, f x)])) = if n = name then o.map f else none := by
  cases o <;> simp [get?_ofList_singleton, get?_ofList_nil]

end Entries

namespace Individual

/-- What is written under a name. -/
def written? (i : Individual) (withKind : Bool) (name : String) : Option Json :=
  match name with
  | "kind" => if withKind then some (.text i.kind.name) else none
  | "key" => some (.text i.key)
  | "name" => i.name.map .text
  | "anonymous" => if i.anonymous then some (.bool true) else none
  | "_meta" => if i.metaMembers = [] then none else some (.object i.metaMembers)
  | name => (Entries.get? name i.attributes).map Attribute.toJson

variable {i : Individual}

/-- **What stands under a name in a written individual.** -/
theorem get?_members (h : WellFormedAttributes i.attributes) (withKind : Bool) (name : String) :
    get? name (i.members withKind) = i.written? withKind name := by
  -- the map is put together from parts; each name belongs to one of them
  have hparts : i.members withKind = ofList (
      (if withKind then [("kind", .text i.kind.name)] else []) ++ [("key", .text i.key)] ++
      (i.name.elim [] fun text => [("name", .text text)]) ++
      (if i.anonymous then [("anonymous", .bool true)] else []) ++
      mapValues Attribute.toJson i.attributes ++
      (if ¬i.metaMembers = [] then [("_meta", .object i.metaMembers)] else [])) := by
    rw [ite_not, members]
    cases i.name <;> rfl
  have hattributes : get? name (ofList (mapValues Attribute.toJson i.attributes)) =
      (get? name i.attributes).map Attribute.toJson := by
    rw [ofList_of_ordered (h.ordered.mapValues _), get?_mapValues]
  rw [hparts]
  simp only [get?_ofList_append_or, get?_ofList_ite, get?_ofList_elim, get?_ofList_singleton,
    hattributes]
  symm
  -- the attributes have none of the built-in names, so that the parts do not meet
  unfold written?
  split
  · simp [h.plain "kind" (by simp [builtInNames])]
  · simp [h.plain "key" (by simp [builtInNames])]
  · simp [h.plain "name" (by simp [builtInNames])]
  · simp [h.plain "anonymous" (by simp [builtInNames])]
  · simp [h.plain "_meta" (by simp [builtInNames])]
  · next hkind hkey hname hanonymous hmeta =>
    have hne : ∀ n, (name = n → False) → (n = name) = False :=
      fun n hn => eq_false fun heq => hn heq.symm
    simp [hne _ hkind, hne _ hkey, hne _ hname, hne _ hanonymous, hne _ hmeta]

end Individual

/-! ## Members of several kinds -/

namespace Context

variable {members : List Individual} {β : Type}

/-- Individuals in the order of their kinds make a map. -/
theorem ordered_parts (hsorted : members.Pairwise fun a b => a.kind.name < b.kind.name)
    (f : Individual → β) : Ordered (members.map fun i => (i.kind.name, f i)) :=
  List.pairwise_map.2 hsorted

/-- No individual is of the kind `kind`. -/
theorem get?_kind_parts (f : Individual → β) :
    get? "kind" (members.map fun i => (i.kind.name, f i)) = none := by
  refine get?_eq_none_iff.2 fun pair hpair => ?_
  obtain ⟨i, -, rfl⟩ := List.mem_map.1 hpair
  exact i.kind.valid.2.1

/-- The tag stands first, and no individual's kind is called `kind`. -/
theorem get?_kind_head (f : Individual → β) (head : β) :
    get? "kind" (ofList (("kind", head) :: members.map fun i => (i.kind.name, f i))) =
      some head := by
  rw [← List.singleton_append, get?_ofList_append (get?_kind_parts f)]
  rfl

/-- Under its kind stands what was put there for an individual. -/
theorem get?_parts (hsorted : members.Pairwise fun a b => a.kind.name < b.kind.name)
    (f : Individual → β) (head : β) {i : Individual} (hi : i ∈ members) :
    get? i.kind.name (ofList (("kind", head) :: members.map fun i => (i.kind.name, f i))) =
      some (f i) := by
  have hfound : get? i.kind.name (members.map fun i => (i.kind.name, f i)) = some (f i) :=
    get?_of_mem (ordered_parts hsorted f) (List.mem_map.2 ⟨i, hi, rfl⟩)
  rw [← List.singleton_append, get?_ofList_append_or, ofList_of_ordered (ordered_parts hsorted f),
    hfound]
  rfl

end Context

end FeatureFlags
