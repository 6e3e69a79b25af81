/-
  NUMBERS IN DOCUMENTS — what putting documents in the place of numbers does.

  1. **Numbers** — `numbers` lists all numbers of a document, at any depth.
  2. **One `bind` after the other** is one `bind` (`bind_bind`): written and read again, a document
     only has its numbers written and read again.
  3. **Numbers left alone** (`bind_eq_self`) and **numbers changed** (`numbers_bind`).
  4. **Equality (`equal_bind`)** — replacing every number by an equal one gives an equal document.
  5. **Attributes as JSON (`equal_reread`)** — finite numbers survive being written as JSON, whole
     ones as integers and the others as they are.
-/
import FeatureFlags.Json.Basic

namespace FeatureFlags

namespace Document

variable {ν μ ξ : Type}

/-! ## Numbers -/

mutual

/-- All numbers of a document. -/
def numbers : Document ν → List ν
  | null | bool _ | text _ => []
  | number n => [n]
  | list items => numbersOfItems items
  | object fields => numbersOfFields fields

def numbersOfItems : List (Document ν) → List ν
  | [] => []
  | d :: rest => numbers d ++ numbersOfItems rest

def numbersOfFields : List (String × Document ν) → List ν
  | [] => []
  | (_, d) :: rest => numbers d ++ numbersOfFields rest

end

theorem numbersOfFields_eq_flatMap (fields : List (String × Document ν)) :
    numbersOfFields fields = fields.flatMap fun field => field.2.numbers := by
  induction fields with
  | nil => rfl
  | cons field rest ih => rw [List.flatMap_cons, ← ih, numbersOfFields]

theorem numbersOfItems_eq_flatMap (items : List (Document ν)) :
    numbersOfItems items = items.flatMap numbers := by
  induction items with
  | nil => rfl
  | cons d rest ih => rw [List.flatMap_cons, ← ih, numbersOfItems]

/-! ## One after the other -/

mutual

/-- One mutual induction for documents, items and members. -/
theorem bind_bind (f : ν → Document μ) (g : μ → Document ξ) (d : Document ν) :
    (d.bind f).bind g = d.bind fun n => (f n).bind g := by
  cases d with
  | list items => exact congrArg list (bindItems_bindItems f g items)
  | object fields => exact congrArg object (bindFields_bindFields f g fields)
  | _ => rfl

theorem bindItems_bindItems (f : ν → Document μ) (g : μ → Document ξ) (items : List (Document ν)) :
    bindItems g (bindItems f items) = bindItems (fun n => (f n).bind g) items := by
  cases items with
  | nil => rfl
  | cons d rest =>
    simp only [bindItems]
    rw [bind_bind f g d, bindItems_bindItems f g rest]

theorem bindFields_bindFields (f : ν → Document μ) (g : μ → Document ξ)
    (fields : List (String × Document ν)) :
    bindFields g (bindFields f fields) = bindFields (fun n => (f n).bind g) fields := by
  cases fields with
  | nil => rfl
  | cons field rest =>
    obtain ⟨name, d⟩ := field
    simp only [bindFields]
    rw [bind_bind f g d, bindFields_bindFields f g rest]

end

/-! ## Numbers left alone -/

section Unchanged

variable {f : ν → Document ν}

mutual

/-- **A document whose numbers are left alone** is left alone. -/
theorem bind_eq_self (d : Document ν) (h : ∀ n ∈ d.numbers, f n = number n) : d.bind f = d := by
  cases d with
  | number n => exact h n (List.mem_singleton_self n)
  | list items => exact congrArg list (bindItems_eq_self items h)
  | object fields => exact congrArg object (bindFields_eq_self fields h)
  | _ => rfl

theorem bindItems_eq_self (items : List (Document ν))
    (h : ∀ n ∈ numbersOfItems items, f n = number n) : bindItems f items = items := by
  cases items with
  | nil => rfl
  | cons d rest =>
    rw [bindItems, bind_eq_self d fun n hn => h n (List.mem_append_left _ hn),
      bindItems_eq_self rest fun n hn => h n (List.mem_append_right _ hn)]

theorem bindFields_eq_self (fields : List (String × Document ν))
    (h : ∀ n ∈ numbersOfFields fields, f n = number n) : bindFields f fields = fields := by
  cases fields with
  | nil => rfl
  | cons field rest =>
    obtain ⟨name, d⟩ := field
    rw [bindFields, bind_eq_self d fun n hn => h n (List.mem_append_left _ hn),
      bindFields_eq_self rest fun n hn => h n (List.mem_append_right _ hn)]

end

end Unchanged

/-! ## Numbers changed -/

mutual

/-- The numbers of a document in which each one was replaced by another. -/
theorem numbers_bind (f : ν → μ) (d : Document ν) :
    (d.bind fun n => number (f n)).numbers = d.numbers.map f := by
  cases d with
  | list items => exact numbersOfItems_bindItems f items
  | object fields => exact numbersOfFields_bindFields f fields
  | _ => rfl

/-- The numbers that are put in stand where the old ones stood. -/
theorem numbersOfItems_bindItems (f : ν → μ) (items : List (Document ν)) :
    numbersOfItems (bindItems (fun n => number (f n)) items) = (numbersOfItems items).map f := by
  cases items with
  | nil => rfl
  | cons d rest =>
    rw [bindItems, numbersOfItems, numbersOfItems, List.map_append, numbers_bind f d,
      numbersOfItems_bindItems f rest]

theorem numbersOfFields_bindFields (f : ν → μ) (fields : List (String × Document ν)) :
    numbersOfFields (bindFields (fun n => number (f n)) fields) =
      (numbersOfFields fields).map f := by
  cases fields with
  | nil => rfl
  | cons field rest =>
    obtain ⟨name, d⟩ := field
    rw [bindFields, numbersOfFields, numbersOfFields, List.map_append, numbers_bind f d,
      numbersOfFields_bindFields f rest]

end

/-! ## Equality -/

variable [BEq ν] {f : ν → Document ν}

mutual

/-- **Equal numbers make equal documents.** -/
theorem equal_bind (d : Document ν) (h : ∀ n ∈ d.numbers, ∃ m, f n = number m ∧ (m == n) = true) :
    equal (d.bind f) d = true := by
  cases d with
  | null => rfl
  | bool b => exact beq_self_eq_true b
  | text s => exact beq_self_eq_true s
  | number n =>
    obtain ⟨m, hm, heq⟩ := h n (List.mem_singleton_self n)
    rw [bind, hm]
    exact heq
  | list items => exact equalItems_bindItems items h
  | object fields => exact equalFields_bindFields fields h

/-- Items stay equal if each of their numbers does. -/
theorem equalItems_bindItems (items : List (Document ν))
    (h : ∀ n ∈ numbersOfItems items, ∃ m, f n = number m ∧ (m == n) = true) :
    equalItems (bindItems f items) items = true := by
  cases items with
  | nil => rfl
  | cons d rest =>
    have hfirst : equal (d.bind f) d = true :=
      equal_bind d fun n hn => h n (List.mem_append_left _ hn)
    have hrest : equalItems (bindItems f rest) rest = true :=
      equalItems_bindItems rest fun n hn => h n (List.mem_append_right _ hn)
    rw [bindItems, equalItems, hfirst, hrest]
    rfl

theorem equalFields_bindFields (fields : List (String × Document ν))
    (h : ∀ n ∈ numbersOfFields fields, ∃ m, f n = number m ∧ (m == n) = true) :
    equalFields (bindFields f fields) fields = true := by
  cases fields with
  | nil => rfl
  | cons field rest =>
    obtain ⟨name, d⟩ := field
    have hfirst : equal (d.bind f) d = true :=
      equal_bind d fun n hn => h n (List.mem_append_left _ hn)
    have hrest : equalFields (bindFields f rest) rest = true :=
      equalFields_bindFields rest fun n hn => h n (List.mem_append_right _ hn)
    rw [bindFields, equalFields, hfirst, hrest, beq_self_eq_true name]
    rfl

end

end Document

/-! ## Attributes as JSON -/

/-- A finite number is equal to itself; no other law of floating-point numbers is needed here. -/
theorem Number.beq_self_of_isFinite {x : Float} (h : x.isFinite = true) : (x == x) = true := by
  show x.toModel.unpack.beq x.toModel.unpack = true
  have hunpacked : x.toModel.unpack.isFinite = true := h
  generalize x.toModel.unpack = u at hunpacked
  rcases u with _ | _ | _ | ⟨sign, mantissa, exponent, _⟩
  · cases hunpacked
  · cases hunpacked
  · rfl
  · -- a finite number is compared by exponent and mantissa, each with itself
    have hsame : (compare exponent exponent).then (compare mantissa mantissa) = .eq := by simp
    cases sign with
    | negative =>
      show (some ((compare exponent exponent).then (compare mantissa mantissa)).swap == some .eq) =
          true
      rw [hsame]
      rfl
    | positive =>
      show (some ((compare exponent exponent).then (compare mantissa mantissa)) == some .eq) = true
      rw [hsame]
      rfl

/-- A whole number is written as an integer that is equal to it. -/
theorem Number.ofInt_beq_of_whole? {x : Float} {i : Int} (h : Number.whole? x = some i) :
    (Float.ofInt i == x) = true := by
  simp only [whole?, Option.ite_none_right_eq_some, Option.some.injEq] at h
  obtain ⟨⟨-, hsame⟩, rfl⟩ := h
  exact hsame

namespace Attribute

/-- `a.Finite` — all numbers of a value are finite. -/
def Finite (a : Attribute) : Prop := ∀ x ∈ a.numbers, x.isFinite = true

/-- A value after it is written as JSON and read again. -/
def reread (a : Attribute) : Attribute := a.toJson.toAttribute

/-- **A finite number survives.** -/
theorem reread_number {x : Float} (h : x.isFinite = true) :
    ∃ y, reread (.number x) = .number y ∧ (y == x) = true := by
  cases hwhole : Number.whole? x with
  | some i =>
    refine ⟨Float.ofInt i, ?_, Number.ofInt_beq_of_whole? hwhole⟩
    simp [reread, toJson, Document.bind, hwhole, Json.ofInt, Json.toAttribute, Number.toFloat]
  | none =>
    refine ⟨x, ?_, Number.beq_self_of_isFinite h⟩
    simp [reread, toJson, Document.bind, hwhole, Json.ofFloat, Number.ofFloat?, h, Json.toAttribute,
      Number.toFloat]

/-- Written and read again, an attribute has its numbers written and read again, and nothing
    else. -/
theorem reread_eq_bind (a : Attribute) : a.reread = a.bind fun x => reread (.number x) :=
  Document.bind_bind _ _ a

/-- **A value with finite numbers survives.** -/
theorem equal_reread {a : Attribute} (h : a.Finite) : Document.equal a.reread a = true := by
  rw [reread_eq_bind]
  exact Document.equal_bind a fun x hx => reread_number (h x hx)

/-- Kept floating-point, finite numbers survive exactly. -/
theorem toAttribute_toFloatJson {a : Attribute} (h : a.Finite) : a.toFloatJson.toAttribute = a := by
  rw [toFloatJson, Json.toAttribute, Document.bind_bind]
  refine Document.bind_eq_self a fun x hx => ?_
  rw [Json.ofFloat, Number.ofFloat?, if_pos (h x hx)]
  rfl

/-- A number is written as a plain value. -/
theorem toJson_number_ne_object (x : Float) (fields : List (String × Json)) :
    toJson (.number x) ≠ .object fields := by
  intro h
  unfold toJson at h
  rw [Document.bind] at h
  split at h
  · cases h
  · unfold Json.ofFloat at h
    cases hfloat : Number.ofFloat? x with
    | none =>
      rw [hfloat] at h
      cases h
    | some n =>
      rw [hfloat] at h
      cases h

/-- What has a value is written as one, but for numbers that JSON does not have. -/
theorem toJson_ne_null {a : Attribute} (h : ∀ x, a = .number x → x.isFinite = true)
    (hnull : a ≠ .null) :
    a.toJson ≠ .null := by
  cases a with
  | number x =>
    intro hjson
    obtain ⟨y, hy, -⟩ := reread_number (h x rfl)
    rw [reread, hjson] at hy
    cases hy
  | null => exact absurd rfl hnull
  | _ => exact nofun

/-- What is written is null only if it was. -/
theorem reread_ne_null {a : Attribute} (h : a.Finite) (hnull : a ≠ .null) : a.reread ≠ .null := by
  cases a with
  | number x =>
    obtain ⟨y, hy, -⟩ := reread_number (h x (List.mem_singleton_self x))
    rw [hy]
    exact nofun
  | null => exact absurd rfl hnull
  | _ => exact nofun

end Attribute

end FeatureFlags
