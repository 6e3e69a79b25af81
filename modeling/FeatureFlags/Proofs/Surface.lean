/-
  DOCUMENTS SEEN FROM OUTSIDE — what can be learned by following paths.

  1. **Surfaces** — `surface` is what one sees of a value without entering it: of an object, only
     that it is one.
  2. **Maps (`Mapped`)** — the objects that paths lead to list their members by increasing name, as
     every object does that stands for a map.
  3. **Extensionality (`ext_of_at?`)** — documents of maps with the same surfaces at all paths are
     equal.
  4. **Hidden paths (`SameOutside`)** — two documents that may differ in what stands at or below
     some paths, but in nothing else.
  5. **Numbers** — putting plain values in the place of numbers keeps all this.
-/
import FeatureFlags.Proofs.Entries
import FeatureFlags.Document

namespace FeatureFlags.Document

open Entries

variable {ν μ : Type}

/-! ## Surfaces -/

/-- A value without its members. -/
def surface : Document ν → Document ν
  | object _ => object []
  | d => d

/-- `d.Mapped` — every object that a path leads to is a map. -/
def Mapped (d : Document ν) : Prop := ∀ p fields, at? p d = some (object fields) → Ordered fields

theorem at?_object (name : String) (rest : List String) (fields : Entries (Document ν)) :
    at? (name :: rest) (object fields) = (get? name fields).bind (at? rest) := rfl

/-- Below nothing there is nothing. -/
theorem at?_below_none {p q : List String} {d : Document ν} (hp : q <+: p) (h : at? q d = none) :
    at? p d = none := by
  obtain ⟨rest, rfl⟩ := hp
  rw [at?_append, h]
  rfl

/-- Paths lead to no object in what is none. -/
theorem mapped_of_ne_object {d : Document ν} (h : ∀ fields, d ≠ object fields) : d.Mapped := by
  intro p fields hp
  cases p with
  | nil => exact absurd (Option.some.inj hp) (h fields)
  | cons name rest =>
    cases d with
    | object members => exact absurd rfl (h members)
    | _ => cases hp

/-- An object is a map if its members are ordered and are maps themselves. -/
theorem mapped_object {fields : Entries (Document ν)} (h : Ordered fields)
    (hmembers : ∀ name d, get? name fields = some d → d.Mapped) : (object fields).Mapped := by
  intro p inner hp
  cases p with
  | nil =>
    injection Option.some.inj hp with hfields
    exact hfields ▸ h
  | cons name rest =>
    rw [at?_object] at hp
    obtain ⟨d, hd, hinner⟩ := Option.bind_eq_some_iff.1 hp
    exact hmembers name d hd rest inner hinner

/-- An object of listed members that are maps is one, too. -/
theorem mapped_of_members {fields : Entries (Document ν)} (h : Ordered fields)
    (hmembers : ∀ field ∈ fields, field.2.Mapped) : (object fields).Mapped :=
  mapped_object h fun name d hd => hmembers (name, d) (mem_of_get? hd)

theorem mapped_text (s : String) : (text s : Document ν).Mapped := mapped_of_ne_object nofun

theorem Mapped.member {fields : Entries (Document ν)} (h : (object fields).Mapped) {name : String}
    {d : Document ν} (hd : get? name fields = some d) : d.Mapped := by
  intro p inner hinner
  refine h (name :: p) inner ?_
  rw [at?_object, hd]
  exact hinner

/-! ## Extensionality -/

/-- From outside, only an object looks like one. -/
theorem eq_object_of_surface {d : Document ν} (h : d.surface = object []) :
    ∃ fields, d = object fields := by
  cases d with
  | object fields => exact ⟨fields, rfl⟩
  | _ => cases h

/-- A value that is no object is all surface. -/
theorem eq_of_surface {a b : Document ν} (ha : ∀ fields, a ≠ object fields)
    (h : a.surface = b.surface) :
    a = b := by
  cases a with
  | object fields => exact absurd rfl (ha fields)
  | _ =>
    cases b with
    | object fields => cases h
    | _ => exact h

/-- **Documents that look the same at all paths are equal**, if their objects are maps. -/
theorem ext_of_at? : ∀ (a b : Document ν) (_ : a.Mapped) (_ : b.Mapped)
    (_ : ∀ p, (at? p a).map surface = (at? p b).map surface), a = b
  | object first, b, ha, hb, h => by
    obtain ⟨second, rfl⟩ := eq_object_of_surface (Option.some.inj (h [])).symm
    refine congrArg object (ext_of_get? (ha [] first rfl) (hb [] second rfl) fun name => ?_)
    have hbelow : ∀ p, ((get? name first).bind (at? p)).map surface =
        ((get? name second).bind (at? p)).map surface := fun p => h (name :: p)
    -- the member is in both objects or in none, since paths end in both or in none
    cases hfirst : get? name first with
    | none =>
      cases hsecond : get? name second with
      | none => rfl
      | some y =>
        have hempty := hbelow []
        rw [hfirst, hsecond] at hempty
        cases hempty
    | some x =>
      cases hsecond : get? name second with
      | none =>
        have hempty := hbelow []
        rw [hfirst, hsecond] at hempty
        cases hempty
      | some y =>
        have hmem : (name, x) ∈ first := mem_of_get? hfirst
        have hinner : ∀ p, (at? p x).map surface = (at? p y).map surface := by
          intro p
          have hp := hbelow p
          rwa [hfirst, hsecond] at hp
        exact congrArg some (ext_of_at? x y (ha.member hfirst) (hb.member hsecond) hinner)
  | null, _, _, _, h | bool _, _, _, _, h | number _, _, _, _, h | text _, _, _, _, h
  | list _, _, _, _, h => eq_of_surface nofun (Option.some.inj (h []))
termination_by a => sizeOf a
decreasing_by
  have hlt := List.sizeOf_lt_of_mem hmem
  simp only [Prod.mk.sizeOf_spec, object.sizeOf_spec] at hlt ⊢
  omega

/-! ## Hidden paths -/

/-- **`SameOutside hidden a b`** — the documents differ at most in the values that stand at or below
    the hidden paths, and not in whether anything stands at such a path. -/
structure SameOutside (hidden : List (List String)) (a b : Document ν) : Prop where
  presence : ∀ q ∈ hidden, (at? q a).isSome = (at? q b).isSome
  surface : ∀ p, (∀ q ∈ hidden, ¬ q <+: p) → (at? p a).map surface = (at? p b).map surface

/-- A member under a hidden name may have any value. -/
theorem sameOutside_insert (name : String) (a b : Document ν) (fields : Entries (Document ν)) :
    SameOutside [[name]] (object (insert name a fields)) (object (insert name b fields)) := by
  refine ⟨fun q hq => ?_, fun p hp => ?_⟩
  · obtain rfl := List.mem_singleton.1 hq
    rw [at?_object, at?_object, get?_insert, get?_insert, if_pos rfl, if_pos rfl]
    rfl
  · cases p with
    | nil => rfl
    | cons other rest =>
      have hne : name ≠ other := by
        rintro rfl
        exact hp [name] (List.mem_singleton_self _) ⟨rest, rfl⟩
      rw [at?_object, at?_object, get?_insert, get?_insert, if_neg hne, if_neg hne]

/-! ## Plain values for numbers -/

section Bind

variable {f : ν → Document μ} (plain : ∀ n fields, f n ≠ object fields)

include plain

theorem member?_bind (name : String) (d : Document ν) :
    (d.bind f).member? name = (d.member? name).map (bind f) := by
  cases d with
  | object fields =>
    show get? name (bindFields f fields) = (get? name fields).map (bind f)
    rw [bindFields_eq_map, get?_mapValues]
  | number n =>
    show (f n).member? name = none
    cases hn : f n with
    | object fields => exact absurd hn (plain n fields)
    | _ => rfl
  | _ => rfl

/-- A path leads to what stands there. -/
theorem at?_bind (p : List String) (d : Document ν) :
    at? p (d.bind f) = (at? p d).map (bind f) := by
  induction p generalizing d with
  | nil => rfl
  | cons name rest ih =>
    rw [at?, at?, member?_bind plain]
    cases d.member? name with
    | none => rfl
    | some inner => exact ih inner

/-- Replacing numbers goes no further than the surface. -/
theorem surface_bind (d : Document ν) : (d.bind f).surface = d.surface.bind f := by
  cases d with
  | number n =>
    show (f n).surface = f n
    cases hn : f n with
    | object fields => exact absurd hn (plain n fields)
    | _ => rfl
  | _ => rfl

/-- Objects keep their names, so maps stay maps. -/
theorem Mapped.bind {d : Document ν} (h : d.Mapped) : (d.bind f).Mapped := by
  intro p fields hp
  rw [at?_bind plain] at hp
  obtain ⟨inner, hinner, hfields⟩ := Option.map_eq_some_iff.1 hp
  cases inner with
  | object source =>
    injection hfields with hfields
    rw [← hfields, bindFields_eq_map]
    exact (h p source hinner).mapValues _
  | number n => exact absurd hfields (plain n fields)
  | _ => cases hfields

/-- What differs at hidden paths only, differs there only after the numbers are replaced. -/
theorem SameOutside.bind {hidden : List (List String)} {a b : Document ν}
    (h : SameOutside hidden a b) :
    SameOutside hidden (a.bind f) (b.bind f) := by
  refine ⟨fun q hq => ?_, fun p hp => ?_⟩
  · rw [at?_bind plain, at?_bind plain, Option.isSome_map, Option.isSome_map]
    exact h.presence q hq
  · have hsurface : ∀ d : Document ν, (at? p (d.bind f)).map Document.surface =
        ((at? p d).map Document.surface).map (Document.bind f) := by
      intro d
      rw [at?_bind plain, Option.map_map, Option.map_map]
      exact congrArg (fun g => (at? p d).map g) (funext fun inner => surface_bind plain inner)
    rw [hsurface, hsurface, h.surface p hp]

end Bind

end FeatureFlags.Document
