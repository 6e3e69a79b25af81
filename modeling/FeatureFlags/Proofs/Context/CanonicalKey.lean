/-
  CANONICAL KEYS — which contexts they tell apart.

  A canonical key joins the kinds and the keys of the individuals by colons.  No kind has a colon,
  and in keys colons are escaped, so the text can be cut at its colons and read back.  A user who
  stands alone is known by the bare key instead: it may have colons, and so read like the canonical
  key of another context.

  1. **Escapes (`unescapeKey_escapeKey`)** — an escaped key has no colon and is read back.
  2. **Reading back (`ofCanonicalKey_canonicalKey`)** — kinds and keys of every context that is not
     a lone user are found again in its canonical key.
  3. **Main result (`canonicalKey_eq_iff`)** — contexts of the same canonical key have the same
     kinds and keys, unless one of them is a lone user with the canonical key of the other for a key
     (`Borrows`); such a key has a colon.
  4. **Decoding (`canonicalKey_decodes`)** — lone users aside, the canonical key alone tells kinds
     and keys.
-/
import FeatureFlags.Proofs.Context.WellFormed
import FeatureFlags.Proofs.Entries

namespace FeatureFlags

open Entries

namespace Individual

variable {i j : Individual}

/-! ## Escapes -/

theorem escapeKey_cons (c : Char) (key : List Char) :
    escapeKey (c :: key) =
      (if c = '%' then ['%', '2', '5'] else if c = ':' then ['%', '3', 'A'] else [c]) ++
      escapeKey key := rfl

/-- **An escaped key has no colon.** -/
theorem colon_not_mem_escapeKey (key : List Char) : ':' ∉ escapeKey key := by
  intro hmem
  obtain ⟨c, -, hc⟩ := List.mem_flatMap.1 hmem
  split at hc
  · exact absurd hc (by decide)
  · split at hc
    · exact absurd hc (by decide)
    · next hne => exact hne (List.mem_singleton.1 hc).symm

/-- Read the escapes of a key. -/
def unescapeKey : List Char → List Char
  | '%' :: '2' :: '5' :: rest => '%' :: unescapeKey rest
  | '%' :: '3' :: 'A' :: rest => ':' :: unescapeKey rest
  | c :: rest => c :: unescapeKey rest
  | [] => []

/-- **An escaped key is read back.** -/
theorem unescapeKey_escapeKey (key : List Char) : unescapeKey (escapeKey key) = key := by
  induction key with
  | nil => rfl
  | cons c rest ih =>
    rw [escapeKey_cons]
    by_cases hpercent : c = '%'
    · subst hpercent
      rw [if_pos rfl]
      exact congrArg (List.cons '%') ih
    · rw [if_neg hpercent]
      by_cases hcolon : c = ':'
      · subst hcolon
        rw [if_pos rfl]
        exact congrArg (List.cons ':') ih
      · -- no other letter begins an escape
        have hplain : unescapeKey (c :: escapeKey rest) = c :: unescapeKey (escapeKey rest) := by
          rw [unescapeKey]
          · exact fun _ heq _ => hpercent heq
          · exact fun _ heq _ => hpercent heq
        rw [if_neg hcolon]
        exact hplain.trans (congrArg (List.cons c) ih)

/-! ## Reading back -/

/-- What a canonical key tells of an individual, between colons. -/
def parts (i : Individual) : List String := [i.kind.name, String.ofList (escapeKey i.key.toList)]

/-- A qualified key is the kind and the escaped key, with a colon between them. -/
theorem qualifiedKey_eq (i : Individual) : i.qualifiedKey = String.intercalate ":" i.parts := by
  rw [parts, String.intercalate_cons_cons, String.intercalate_singleton]
  rfl

/-- No part has a colon. -/
theorem colon_not_mem_parts {part : String} (h : part ∈ i.parts) : ':' ∉ part.toList := by
  rcases List.mem_pair.1 h with rfl | rfl
  · intro hmem
    exact absurd (List.all_eq_true.1 i.kind.valid.2.2 ':' hmem) (by decide)
  · rw [String.toList_ofList]
    exact colon_not_mem_escapeKey _

/-- Kind and key of an individual. -/
def identity (i : Individual) : String × String := (i.kind.name, i.key)

end Individual

namespace Context

variable {a b c : Context}

/-- Whether a context is a user who stands alone. -/
def isLoneUser : Context → Bool
  | single i => i.kind.isUser
  | multi _ => false

/-- **The canonical key of a context that is not a lone user** joins the parts of all its
    individuals. -/
theorem canonicalKey_eq_intercalate (h : c.isLoneUser = false) :
    c.canonicalKey = String.intercalate ":" (c.individuals.flatMap Individual.parts) := by
  cases c with
  | single i =>
    have hkind : i.kind.isUser = false := h
    rw [canonicalKey, hkind, individuals, List.flatMap_singleton]
    exact i.qualifiedKey_eq
  | multi members =>
    show String.intercalate ":" (members.map (·.qualifiedKey)) = _
    rw [individuals]
    clear h
    -- joining what is joined is joining all parts, by induction on the individuals
    induction members with
    | nil => rfl
    | cons i rest ih =>
      cases rest with
      | nil =>
        rw [List.map_singleton, String.intercalate_singleton, List.flatMap_singleton]
        exact i.qualifiedKey_eq
      | cons j others =>
        have hparts : i.parts ≠ [] := List.cons_ne_nil _ _
        have hrest : (j :: others).flatMap Individual.parts ≠ [] := List.cons_ne_nil _ _
        rw [List.flatMap_cons, String.intercalate_append_of_ne_nil hparts hrest, ← ih,
          ← i.qualifiedKey_eq]
        exact String.intercalate_cons_cons

/-- Take kinds and keys from parts. -/
def identitiesOfParts : List (List Char) → List (String × String)
  | kind :: key :: rest =>
    (String.ofList kind, String.ofList (Individual.unescapeKey key)) :: identitiesOfParts rest
  | _ => []

/-- The kinds and keys that a canonical key tells, when it is cut at its colons. -/
def ofCanonicalKey (text : String) : List (String × String) :=
  identitiesOfParts (text.toList.splitOn ':')

/-- Read two parts at a time, a kind and its key, by induction on the individuals. -/
theorem identitiesOfParts_flatMap (members : List Individual) :
    identitiesOfParts ((members.flatMap Individual.parts).map String.toList) =
      members.map Individual.identity := by
  induction members with
  | nil => rfl
  | cons i rest ih =>
    rw [List.flatMap_cons, List.map_append, List.map_cons, ← ih]
    show (String.ofList i.kind.name.toList, _) :: _ = _
    rw [String.ofList_toList, String.toList_ofList, Individual.unescapeKey_escapeKey,
      String.ofList_toList]
    rfl

/-- **Kinds and keys are read back from the canonical key**, in the order of the individuals, of
    every context that is not a lone user. -/
theorem ofCanonicalKey_canonicalKey (h : c.isLoneUser = false) :
    ofCanonicalKey c.canonicalKey = c.individuals.map Individual.identity := by
  by_cases hnone : c.individuals = []
  · -- the empty text is cut into one part, which is no kind with its key
    rw [canonicalKey_eq_intercalate h, hnone]
    rfl
  have hparts : (c.individuals.flatMap Individual.parts).map String.toList ≠ [] := by
    intro hnil
    obtain ⟨i, hi⟩ := List.exists_mem_of_ne_nil _ hnone
    have hempty := List.flatMap_eq_nil_iff.1 (List.map_eq_nil_iff.1 hnil) i hi
    exact List.cons_ne_nil _ _ hempty
  have hcolon : ∀ part ∈
      (c.individuals.flatMap Individual.parts).map String.toList, ':' ∉ part := by
    intro part hpart
    obtain ⟨text, htext, rfl⟩ := List.mem_map.1 hpart
    obtain ⟨i, -, hi⟩ := List.mem_flatMap.1 htext
    exact Individual.colon_not_mem_parts hi
  have hcut : c.canonicalKey.toList.splitOn ':' =
      (c.individuals.flatMap Individual.parts).map String.toList := by
    rw [canonicalKey_eq_intercalate h, String.toList_intercalate]
    exact List.splitOn_intercalate ':' hcolon hparts
  rw [ofCanonicalKey, hcut, identitiesOfParts_flatMap]

example : ofCanonicalKey "key:t%3A1:user:50%25" = [("key", "t:1"), ("user", "50%")] := by
  decide +kernel

/-! ## Main result -/

theorem WellFormed.individuals_ne_nil (h : c.WellFormed) : c.individuals ≠ [] := by
  cases c with
  | single i => exact List.cons_ne_nil _ _
  | multi members =>
    rintro (rfl : members = [])
    exact absurd h.1 (by decide)

/-- The individuals of a context come in the order of their kinds already. -/
theorem WellFormed.keys_eq (h : c.WellFormed) : c.keys = c.individuals.map Individual.identity := by
  refine ofList_of_ordered ?_
  cases c with
  | single i => exact List.pairwise_singleton _ _
  | multi members => exact List.pairwise_map.2 h.2.2

/-- Contexts of the same kinds and keys have the same canonical key. -/
theorem canonicalKey_congr (ha : a.WellFormed) (hb : b.WellFormed) (h : a.keys = b.keys) :
    a.canonicalKey = b.canonicalKey := by
  have hidentities : a.individuals.map Individual.identity =
      b.individuals.map Individual.identity := by
    rw [← ha.keys_eq, ← hb.keys_eq, h]
  have hlength := congrArg List.length hidentities
  rw [List.length_map, List.length_map] at hlength
  have hqualified : ∀ members : List Individual, members.map (·.qualifiedKey) =
      (members.map Individual.identity).map fun pair =>
        pair.1 ++ ":" ++ String.ofList (Individual.escapeKey pair.2.toList) := by
    intro members
    rw [List.map_map]
    rfl
  cases a with
  | single i =>
    cases b with
    | single j =>
      obtain ⟨hkind, hkey⟩ := Prod.mk.inj (List.cons.inj hidentities).1
      have hsame : i.kind = j.kind := Kind.ext hkind
      show (if i.kind.isUser then i.key else i.qualifiedKey) =
        if j.kind.isUser then j.key else j.qualifiedKey
      rw [Individual.qualifiedKey, Individual.qualifiedKey, hsame, show i.key = j.key from hkey]
    | multi members =>
      -- a context of one kind and one of several kinds have different keys
      have htwo := hb.1
      have hone : 1 = members.length := hlength
      omega
  | multi members =>
    cases b with
    | single j =>
      have htwo := ha.1
      have hone : members.length = 1 := hlength
      omega
    | multi others =>
      show String.intercalate ":" (members.map (·.qualifiedKey)) =
        String.intercalate ":" (others.map (·.qualifiedKey))
      rw [hqualified members, hqualified others]
      exact congrArg (fun pairs => String.intercalate ":" (List.map _ pairs)) hidentities

/-- `a.Borrows b` — a lone user whose key is the canonical key of another context, which is no lone
    user. -/
def Borrows (a b : Context) : Prop :=
  (∃ i, a = .single i ∧ i.kind = .user ∧ i.key = b.canonicalKey) ∧ b.isLoneUser = false

/-- A lone user is its bare key. -/
theorem exists_of_isLoneUser (h : a.isLoneUser = true) :
    ∃ i, a = .single i ∧ i.kind = .user ∧ i.key = a.canonicalKey := by
  cases a with
  | single i =>
    have hkind : i.kind.isUser = true := h
    refine ⟨i, rfl, Kind.ext (of_decide_eq_true hkind), ?_⟩
    rw [canonicalKey, hkind]
    rfl
  | multi members => cases h

/-- A user whose key is spelled like the canonical key of another context has that canonical key. -/
theorem Borrows.canonicalKey_eq (h : a.Borrows b) : a.canonicalKey = b.canonicalKey := by
  obtain ⟨⟨i, rfl, hkind, hkey⟩, -⟩ := h
  rw [← hkey, canonicalKey, hkind]
  rfl

/-- **A borrowed key has a colon.** -/
theorem Borrows.colon_mem (h : a.Borrows b) (hb : b.individuals ≠ []) :
    ∃ i, a = .single i ∧ i.kind = .user ∧ ':' ∈ i.key.toList := by
  obtain ⟨⟨i, rfl, huser, hkey⟩, hlone⟩ := h
  refine ⟨i, rfl, huser, ?_⟩
  obtain ⟨j, rest, hparts⟩ := List.exists_cons_of_ne_nil hb
  rw [hkey, canonicalKey_eq_intercalate hlone, hparts]
  show ':' ∈ (String.intercalate ":" (j.kind.name :: String.ofList _ :: _)).toList
  rw [String.intercalate_cons_cons]
  simp

/-- **Canonical keys tell contexts apart by their kinds and keys**, but for a lone user with a
    borrowed key. -/
theorem canonicalKey_eq_iff (ha : a.WellFormed) (hb : b.WellFormed) :
    a.canonicalKey = b.canonicalKey ↔ a.keys = b.keys ∨ a.Borrows b ∨ b.Borrows a := by
  constructor
  · intro heq
    cases hloneA : a.isLoneUser with
    | true =>
      obtain ⟨i, rfl, hkindA, hkeyA⟩ := exists_of_isLoneUser hloneA
      cases hloneB : b.isLoneUser with
      | true =>
        obtain ⟨j, rfl, hkindB, hkeyB⟩ := exists_of_isLoneUser hloneB
        have hkey : i.key = j.key := (hkeyA.trans heq).trans hkeyB.symm
        refine .inl ?_
        rw [ha.keys_eq, hb.keys_eq]
        show [(i.kind.name, i.key)] = [(j.kind.name, j.key)]
        rw [hkindA, hkindB, hkey]
      | false => exact .inr (.inl ⟨⟨i, rfl, hkindA, hkeyA.trans heq⟩, hloneB⟩)
    | false =>
      cases hloneB : b.isLoneUser with
      | true =>
        obtain ⟨j, rfl, hkindB, hkeyB⟩ := exists_of_isLoneUser hloneB
        exact .inr (.inr ⟨⟨j, rfl, hkindB, hkeyB.trans heq.symm⟩, hloneA⟩)
      | false =>
        -- both canonical keys can be read back
        refine .inl ?_
        rw [ha.keys_eq, hb.keys_eq, ← ofCanonicalKey_canonicalKey hloneA, heq,
          ofCanonicalKey_canonicalKey hloneB]
  · rintro (hkeys | hborrows | hborrows)
    · exact canonicalKey_congr ha hb hkeys
    · exact hborrows.canonicalKey_eq
    · exact hborrows.canonicalKey_eq.symm

/-! ## Decoding -/

/-- The kinds of a context stand in the identities of its individuals. -/
theorem map_name_kinds (c : Context) :
    c.kinds.map (·.name) = (c.individuals.map Individual.identity).map (·.1) := by
  rw [kinds, List.map_map, List.map_map]
  rfl

/-- So does the key of each kind. -/
theorem map_key_ofKind? (c : Context) (kind : Kind) :
    (c.ofKind? kind).map (·.key) = get? kind.name (c.individuals.map Individual.identity) := by
  rw [ofKind?]
  induction c.individuals with
  | nil => rfl
  | cons i rest ih =>
    rw [List.map_cons, Individual.identity, get?]
    by_cases hkind : i.kind = kind
    · rw [if_pos (congrArg Kind.name hkind)]
      simp only [List.find?_cons, hkind, decide_true, Option.map_some]
    · have hname : i.kind.name ≠ kind.name := fun heq => hkind (Kind.ext heq)
      rw [if_neg hname, ← ih]
      simp only [List.find?_cons, hkind, decide_false]

/-- **Canonical keys can be decoded.**  Of a context that is not a lone user, the canonical key
    alone gives the kinds and keys of the individuals, in their order, whatever colons and percent
    signs the keys have.  So two such contexts of one canonical key have the same kinds, and the
    same key for each kind. -/
theorem canonicalKey_decodes (hlone : a.isLoneUser = false) :
    ofCanonicalKey a.canonicalKey = a.individuals.map Individual.identity ∧
    ∀ b : Context, b.isLoneUser = false → b.canonicalKey = a.canonicalKey →
      b.kinds = a.kinds ∧ ∀ kind, (b.ofKind? kind).map (·.key) = (a.ofKind? kind).map (·.key) := by
  have hread := ofCanonicalKey_canonicalKey hlone
  refine ⟨hread, fun b hloneB heq => ?_⟩
  have hsame : b.individuals.map Individual.identity = a.individuals.map Individual.identity := by
    rw [← ofCanonicalKey_canonicalKey hloneB, heq, hread]
  constructor
  · have hname : Function.Injective Kind.name := fun _ _ => Kind.ext
    refine List.map_injective_iff.2 hname ?_
    rw [map_name_kinds, map_name_kinds, hsame]
  · intro kind
    rw [map_key_ofKind?, map_key_ofKind?, hsame]

/-- A tour of an agency and a user, whose keys look like separators and escapes. -/
def tour : Context :=
  .multi [⟨⟨"agency", by decide +kernel⟩, "%3A:user", none, false, none, [], []⟩,
    ⟨Kind.user, ":%25:%", none, false, none, [], []⟩]

/-- Separators and escapes in keys are told from those of the canonical key. -/
theorem canonicalKey_decodes_tour :
    tour.isLoneUser = false ∧
    tour.canonicalKey = "agency:%253A%3Auser:user:%3A%2525%3A%25" ∧
    ofCanonicalKey tour.canonicalKey = [("agency", "%3A:user"), ("user", ":%25:%")] ∧
    ∀ b : Context, b.isLoneUser = false → b.canonicalKey = tour.canonicalKey →
      b.kinds = tour.kinds := by
  have hlone : tour.isLoneUser = false := rfl
  obtain ⟨hread, hsame⟩ := canonicalKey_decodes hlone
  exact ⟨hlone, by decide +kernel, hread, fun b hloneB heq => (hsame b hloneB heq).1⟩

end Context

end FeatureFlags
