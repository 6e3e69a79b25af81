/-
  DOCUMENTS — nested data with one kind of number.

  Two kinds of nested data meet in this library: JSON as it is read and written, whose numbers are
  integers or floating-point, and the values of context attributes, whose numbers are all
  floating-point.  Both are a `Document ν` for their type `ν` of numbers.

  1. **Walking** — `member?` enters an object, `at?` follows a path of names through objects only.
  2. **Changing numbers** — `bind` puts a document in the place of each number; every conversion
     between the two kinds of data is a `bind`, so it keeps names, order and shape.
  3. **Equality** — `DecidableEq` compares documents exactly; `==` compares their numbers by the
     `==` of the number type, which for floating-point numbers is IEEE equality.
-/
import FeatureFlags.Entries

namespace FeatureFlags

/-- Nested data over numbers of type `ν`.  The fields of an object are `Entries`. -/
inductive Document (ν : Type) where
  | null
  | bool (value : Bool)
  | number (value : ν)
  | text (value : String)
  | list (items : List (Document ν))
  | object (fields : List (String × Document ν))
deriving Inhabited

namespace Document

variable {ν μ : Type}

/-! ## Looking in -/

def isNull : Document ν → Bool
  | null => true
  | _ => false

def bool? : Document ν → Option Bool
  | bool b => some b
  | _ => none

def number? : Document ν → Option ν
  | number n => some n
  | _ => none

def text? : Document ν → Option String
  | text s => some s
  | _ => none

theorem text?_eq_some {d : Document ν} {s : String} : d.text? = some s ↔ d = text s := by
  cases d <;> simp [text?]

/-- The value of a member of an object. -/
def member? (name : String) : Document ν → Option (Document ν)
  | object fields => Entries.get? name fields
  | _ => none

/-- What stands at a path of member names.  A path leads through objects only. -/
def at? : List String → Document ν → Option (Document ν)
  | [], d => some d
  | name :: rest, d => (d.member? name).bind (at? rest)

theorem at?_append (p q : List String) (d : Document ν) :
    at? (p ++ q) d = (at? p d).bind (at? q) := by
  induction p generalizing d with
  | nil => rfl
  | cons name rest ih =>
    simp only [List.cons_append, at?]
    cases d.member? name with
    | none => rfl
    | some inner => exact ih inner

/-! ## Putting documents in the place of numbers -/

mutual

/-- Replace every number `n` by the document `f n`. -/
def bind (f : ν → Document μ) : Document ν → Document μ
  | null => null
  | bool b => bool b
  | number n => f n
  | text s => text s
  | list items => list (bindItems f items)
  | object fields => object (bindFields f fields)

def bindItems (f : ν → Document μ) : List (Document ν) → List (Document μ)
  | [] => []
  | d :: rest => bind f d :: bindItems f rest

def bindFields (f : ν → Document μ) : List (String × Document ν) → List (String × Document μ)
  | [] => []
  | (name, d) :: rest => (name, bind f d) :: bindFields f rest

end

theorem bindFields_eq_map (f : ν → Document μ) (fields : List (String × Document ν)) :
    bindFields f fields = Entries.mapValues (bind f) fields := by
  induction fields with
  | nil => rfl
  | cons field rest ih =>
    obtain ⟨name, d⟩ := field
    simp [bindFields, ih, Entries.mapValues]

/-! ## Equality -/

mutual

/-- Exact equality is decidable when equality of numbers is. -/
def decEq [DecidableEq ν] : (a b : Document ν) → Decidable (a = b)
  | null, null => isTrue rfl
  | bool a, bool b => if h : a = b then isTrue (h ▸ rfl) else isFalse fun e => h (by cases e; rfl)
  | number a, number b =>
      if h : a = b then isTrue (h ▸ rfl) else isFalse fun e => h (by cases e; rfl)
  | text a, text b => if h : a = b then isTrue (h ▸ rfl) else isFalse fun e => h (by cases e; rfl)
  | list a, list b =>
      match decEqItems a b with
      | isTrue h => isTrue (h ▸ rfl)
      | isFalse h => isFalse fun e => h (by cases e; rfl)
  | object a, object b =>
      match decEqFields a b with
      | isTrue h => isTrue (h ▸ rfl)
      | isFalse h => isFalse fun e => h (by cases e; rfl)
  | null, bool _ | null, number _ | null, text _ | null, list _ | null, object _
  | bool _, null | bool _, number _ | bool _, text _ | bool _, list _ | bool _, object _
  | number _, null | number _, bool _ | number _, text _ | number _, list _ | number _, object _
  | text _, null | text _, bool _ | text _, number _ | text _, list _ | text _, object _
  | list _, null | list _, bool _ | list _, number _ | list _, text _ | list _, object _
  | object _, null | object _, bool _ | object _, number _ | object _, text _
  | object _, list _ => isFalse (by intro e; cases e)

def decEqItems [DecidableEq ν] : (a b : List (Document ν)) → Decidable (a = b)
  | [], [] => isTrue rfl
  | [], _ :: _ => isFalse (by intro e; cases e)
  | _ :: _, [] => isFalse (by intro e; cases e)
  | x :: xs, y :: ys =>
      match decEq x y, decEqItems xs ys with
      | isTrue h, isTrue hs => isTrue (by rw [h, hs])
      | isFalse h, _ => isFalse fun e => h (by cases e; rfl)
      | _, isFalse hs => isFalse fun e => hs (by cases e; rfl)

def decEqFields [DecidableEq ν] : (a b : List (String × Document ν)) → Decidable (a = b)
  | [], [] => isTrue rfl
  | [], _ :: _ => isFalse (by intro e; cases e)
  | _ :: _, [] => isFalse (by intro e; cases e)
  | (m, x) :: xs, (n, y) :: ys =>
      if hn : m = n then
        match decEq x y, decEqFields xs ys with
        | isTrue h, isTrue hs => isTrue (by rw [hn, h, hs])
        | isFalse h, _ => isFalse fun e => h (by cases e; rfl)
        | _, isFalse hs => isFalse fun e => hs (by cases e; rfl)
      else isFalse fun e => hn (by cases e; rfl)

end

instance [DecidableEq ν] : DecidableEq (Document ν) := decEq

mutual

/-- Equality up to the `==` of numbers. -/
def equal [BEq ν] : Document ν → Document ν → Bool
  | null, null => true
  | bool a, bool b => a == b
  | number a, number b => a == b
  | text a, text b => a == b
  | list a, list b => equalItems a b
  | object a, object b => equalFields a b
  | _, _ => false

def equalItems [BEq ν] : List (Document ν) → List (Document ν) → Bool
  | [], [] => true
  | x :: xs, y :: ys => equal x y && equalItems xs ys
  | _, _ => false

def equalFields [BEq ν] : List (String × Document ν) → List (String × Document ν) → Bool
  | [], [] => true
  | (m, x) :: xs, (n, y) :: ys => m == n && equal x y && equalFields xs ys
  | _, _ => false

end

end Document

end FeatureFlags
