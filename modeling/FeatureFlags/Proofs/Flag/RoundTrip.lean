/-
  FLAGS AND SEGMENTS READ BACK — what is written of a flag or a segment is read as it was.

  1. **Leaves** — kinds, operators, values of clauses with finite numbers, and sets of keys, in
     whatever order their members are listed.
  2. **Records** — one lemma for each: its members have different names, so each member is read from
     its own look-up (`read_ofMembers`), and what is left out is read as none.
  3. **Finite data** — what is read from data with finite numbers has values with finite numbers
     only.
  4. **Main result** (`codec_roundTrip`).
-/
import FeatureFlags.Evaluation.Flag
import FeatureFlags.Proofs.Json.Finite
import FeatureFlags.Proofs.Json.Record
import Mathlib.Data.List.Sort

namespace FeatureFlags

open Entries (get?)
open Json
  (ofMembers ofOption ofUInt64 record? listOf? present bind_of required_of orDefault_of optional_of
  optional_of_map read_ofMembers read_present listOf?_map uint64?_ofUInt64
    uint32?_ofUInt32 int64?_ofInt64)

/-! ## Leaves -/

theorem Kind.ofJson?_toJson (k : Kind) : Kind.ofJson? k.toJson = some k := by
  show (Kind.ofText k.name).toOption = some k
  rw [Kind.ofText_name]
  rfl

/-- Sets with the same members are equal. -/
theorem KeySet.ext {s t : KeySet} (h : ∀ key, key ∈ s.toList ↔ key ∈ t.toList) : s = t := by
  have hlists : s.toList = t.toList := s.increasing.eq_of_mem_iff t.increasing h
  cases s
  cases t
  congr

/-- A set is read from any listing of its members. -/
theorem KeySet.ofJson?_ofTexts {s : KeySet} {keys : List String}
    (h : ∀ key, key ∈ keys ↔ key ∈ s.toList) : KeySet.ofJson? (Json.ofTexts keys) = some s := by
  have hset : KeySet.ofList keys = s := KeySet.ext fun key => KeySet.mem_toList_ofList.trans (h key)
  rw [KeySet.ofJson?, Json.texts?_ofTexts, Option.map_some, hset]

/-- Keys are written in order and without repeats, and read so. -/
theorem KeySet.ofJson?_toJson (s : KeySet) : KeySet.ofJson? s.toJson = some s :=
  KeySet.ofJson?_ofTexts fun _ => Iff.rfl

theorem Operator.ofJson?_toJson (op : Operator) : Operator.ofJson? op.toJson = some op :=
  congrArg some (Operator.ofName_name op)

theorem Rollout.Purpose.ofJson?_toJson (p : Rollout.Purpose) :
    Rollout.Purpose.ofJson? p.toJson = some p := by
  cases p <;> rfl

/-! ## Clauses -/

/-- All numbers of the values are finite. -/
def Clause.Finite (c : Clause) : Prop := ∀ value ∈ c.values, value.Finite

/-- Clause values are any JSON with finite numbers. -/
theorem Clause.ofJson?_toJson {c : Clause} (h : c.Finite) : ofJson? c.toJson = some c := by
  have hread : listOf? (fun v => some (Json.toAttribute v))
      (.list (c.values.map Attribute.toFloatJson)) = some c.values :=
    listOf?_map fun value hvalue =>
      congrArg some (Attribute.toAttribute_toFloatJson (h value hvalue))
  refine read_ofMembers (by simp) ?_
  rintro fields ⟨hkind, hattribute, hop, hvalues, hnegate⟩
  refine bind_of rfl ?_
  refine bind_of (optional_of hkind rfl fun k _ => k.ofJson?_toJson) ?_
  refine bind_of (required_of hattribute rfl) ?_
  refine bind_of (required_of hop c.op.ofJson?_toJson) ?_
  refine bind_of (orDefault_of hvalues hread) ?_
  refine bind_of (orDefault_of hnegate rfl) ?_
  rfl

/-! ## Parts of flags -/

theorem Prerequisite.ofJson?_toJson (p : Prerequisite) : ofJson? p.toJson = some p := by
  refine read_ofMembers (by simp) ?_
  rintro fields ⟨hkey, hvariation⟩
  refine bind_of rfl ?_
  refine bind_of (required_of hkey rfl) ?_
  refine bind_of (required_of hvariation (uint64?_ofUInt64 _)) ?_
  rfl

theorem Target.ofJson?_toJson (t : Target) : ofJson? t.toJson = some t := by
  refine read_ofMembers (by simp) ?_
  rintro fields ⟨hkind, hvalues, hvariation⟩
  refine bind_of rfl ?_
  refine bind_of (optional_of hkind rfl fun k _ => k.ofJson?_toJson) ?_
  refine bind_of (orDefault_of hvalues t.values.ofJson?_toJson) ?_
  refine bind_of (required_of hvariation (uint64?_ofUInt64 _)) ?_
  rfl

theorem WeightedVariation.ofJson?_toJson (w : WeightedVariation) : ofJson? w.toJson = some w := by
  refine read_ofMembers (by simp) ?_
  rintro fields ⟨hvariation, hweight, huntracked⟩
  refine bind_of rfl ?_
  refine bind_of (required_of hvariation (uint64?_ofUInt64 _)) ?_
  refine bind_of (required_of hweight (uint32?_ofUInt32 _)) ?_
  refine bind_of (orDefault_of huntracked rfl) ?_
  rfl

/-- A rollout keeps its purpose, seed and attribute, and its variations in order. -/
theorem Rollout.ofJson?_toJson (r : Rollout) : ofJson? r.toJson = some r := by
  refine read_ofMembers (by simp) ?_
  rintro fields ⟨hpurpose, hkind, hbucketBy, hseed, hvariations⟩
  refine bind_of rfl ?_
  refine bind_of (orDefault_of hpurpose r.kind.ofJson?_toJson) ?_
  refine bind_of (optional_of hkind rfl fun k _ => k.ofJson?_toJson) ?_
  refine bind_of (optional_of hbucketBy rfl fun _ _ => rfl) ?_
  refine bind_of (optional_of hseed rfl fun n _ => int64?_ofInt64 n) ?_
  refine bind_of (orDefault_of hvariations (listOf?_map fun w _ => w.ofJson?_toJson)) ?_
  rfl

/-- What is served is read wherever its two members stand. -/
theorem Serving.ofFields?_eq {s : Serving} {fields : Entries Json}
    (hvariation : get? "variation" fields = s.variation.map ofUInt64)
    (hrollout : get? "rollout" fields = s.rollout.map Rollout.toJson) :
    ofFields? fields = some s := by
  refine bind_of (optional_of_map hvariation rfl fun i _ => uint64?_ofUInt64 i) ?_
  refine bind_of (optional_of_map hrollout rfl fun r _ => r.ofJson?_toJson) ?_
  rfl

/-- What is served leaves out what is none. -/
theorem Serving.members_eq (s : Serving) : s.members = present
    [("variation", s.variation.map ofUInt64), ("rollout", s.rollout.map Rollout.toJson)] := by
  obtain ⟨variation, rollout⟩ := s
  cases variation <;> cases rollout <;> rfl

theorem Serving.ofJson?_toJson (s : Serving) : ofJson? s.toJson = some s := by
  rw [toJson, members_eq]
  refine read_present (by simp) ?_
  rintro fields ⟨hvariation, hrollout⟩
  exact ofFields?_eq hvariation hrollout

def FlagRule.Finite (r : FlagRule) : Prop := ∀ c ∈ r.clauses, c.Finite

theorem FlagRule.ofJson?_toJson {r : FlagRule} (h : r.Finite) : ofJson? r.toJson = some r := by
  have hmembers : r.toJson = ofMembers (present [
      ("id", some (ofOption .text r.id)),
      ("clauses", some (.list (r.clauses.map Clause.toJson))),
      ("trackEvents", some (.bool r.trackEvents)),
      ("variation", r.serving.variation.map ofUInt64),
      ("rollout", r.serving.rollout.map Rollout.toJson)]) := by
    rw [toJson, Serving.members_eq]
    rfl
  -- the serving writes its members among those of the rule
  rw [hmembers]
  refine read_present (by simp) ?_
  rintro fields ⟨hid, hclauses, htrackEvents, hvariation, hrollout⟩
  refine bind_of rfl ?_
  refine bind_of (optional_of hid rfl fun _ _ => rfl) ?_
  refine bind_of (orDefault_of hclauses (listOf?_map fun c hc => Clause.ofJson?_toJson (h c hc))) ?_
  refine bind_of (Serving.ofFields?_eq hvariation hrollout) ?_
  refine bind_of (orDefault_of htrackEvents rfl) ?_
  rfl

theorem ClientSideAvailability.ofJson?_toJson (a : ClientSideAvailability) :
    ofJson? a.toJson = some a := by
  refine read_ofMembers (by simp) ?_
  rintro fields ⟨hmobile, henvironment⟩
  refine bind_of rfl ?_
  refine bind_of (orDefault_of hmobile rfl) ?_
  refine bind_of (orDefault_of henvironment rfl) ?_
  rfl

theorem MigrationSettings.ofJson?_toJson (m : MigrationSettings) : ofJson? m.toJson = some m := by
  refine read_ofMembers (by simp) ?_
  intro fields hratio
  refine bind_of rfl ?_
  refine bind_of (optional_of hratio rfl fun n _ => uint32?_ofUInt32 n) ?_
  rfl

/-! ## Flags -/

def Flag.Finite (f : Flag) : Prop := ∀ r ∈ f.rules, r.Finite

/-- **A flag is read back.** -/
theorem Flag.ofJson?_toJson {f : Flag} (h : f.Finite) : ofJson? f.toJson = some f := by
  refine read_ofMembers (by simp) ?_
  rintro fields ⟨hkey, hversion, hon, hprerequisites, htargets, hcontextTargets, hrules,
    hfallthrough, hoffVariation, hvariations, hsalt, htrackEvents, htrackFallthrough, hdebug,
    havailability, hclientSide, hmigration, hratio, hexclude, hdeleted⟩
  -- the members in the order in which the reader asks for them
  refine bind_of rfl ?_
  refine bind_of (required_of hkey rfl) ?_
  refine bind_of (orDefault_of hversion (uint64?_ofUInt64 _)) ?_
  refine bind_of (orDefault_of hon rfl) ?_
  refine bind_of (orDefault_of hprerequisites (listOf?_map fun p _ => p.ofJson?_toJson)) ?_
  refine bind_of (orDefault_of htargets (listOf?_map fun t _ => t.ofJson?_toJson)) ?_
  refine bind_of (orDefault_of hcontextTargets (listOf?_map fun t _ => t.ofJson?_toJson)) ?_
  refine bind_of (orDefault_of hrules (listOf?_map fun r hr => FlagRule.ofJson?_toJson (h r hr))) ?_
  refine bind_of (orDefault_of hfallthrough f.fallthrough.ofJson?_toJson) ?_
  refine bind_of (optional_of hoffVariation rfl fun i _ => uint64?_ofUInt64 i) ?_
  refine bind_of (orDefault_of hvariations rfl) ?_
  refine bind_of (orDefault_of hsalt rfl) ?_
  refine bind_of (orDefault_of htrackEvents rfl) ?_
  refine bind_of (orDefault_of htrackFallthrough rfl) ?_
  refine bind_of (optional_of hdebug rfl fun date _ => uint64?_ofUInt64 date) ?_
  refine bind_of (optional_of havailability rfl fun a _ => a.ofJson?_toJson) ?_
  refine bind_of (orDefault_of hclientSide rfl) ?_
  refine bind_of (optional_of hmigration rfl fun m _ => m.ofJson?_toJson) ?_
  refine bind_of (optional_of hratio rfl fun n _ => uint32?_ofUInt32 n) ?_
  refine bind_of (orDefault_of hexclude rfl) ?_
  refine bind_of (orDefault_of hdeleted rfl) ?_
  rfl

/-! ## Segments -/

theorem SegmentTarget.ofJson?_toJson (t : SegmentTarget) : ofJson? t.toJson = some t := by
  refine read_ofMembers (by simp) ?_
  rintro fields ⟨hkind, hvalues⟩
  refine bind_of rfl ?_
  refine bind_of (required_of hkind t.contextKind.ofJson?_toJson) ?_
  refine bind_of (orDefault_of hvalues t.values.ofJson?_toJson) ?_
  rfl

def SegmentRule.Finite (r : SegmentRule) : Prop := ∀ c ∈ r.clauses, c.Finite

theorem SegmentRule.ofJson?_toJson {r : SegmentRule} (h : r.Finite) :
    ofJson? r.toJson = some r := by
  refine read_ofMembers (by simp) ?_
  rintro fields ⟨hid, hclauses, hweight, hbucketBy, hkind⟩
  refine bind_of rfl ?_
  refine bind_of (optional_of hid rfl fun _ _ => rfl) ?_
  refine bind_of (orDefault_of hclauses (listOf?_map fun c hc => Clause.ofJson?_toJson (h c hc))) ?_
  refine bind_of (optional_of hweight rfl fun n _ => uint32?_ofUInt32 n) ?_
  refine bind_of (optional_of hbucketBy rfl fun _ _ => rfl) ?_
  refine bind_of (optional_of hkind rfl fun k _ => k.ofJson?_toJson) ?_
  rfl

def Segment.Finite (s : Segment) : Prop := ∀ r ∈ s.rules, r.Finite

/-- **A segment is read back.** -/
theorem Segment.ofJson?_toJson {s : Segment} (h : s.Finite) : ofJson? s.toJson = some s := by
  refine read_ofMembers (by simp) ?_
  rintro fields ⟨hkey, hversion, hincluded, hexcluded, hincludedContexts, hexcludedContexts, hrules,
    hsalt, hunbounded, hkind, hgeneration, hdeleted⟩
  refine bind_of rfl ?_
  refine bind_of (required_of hkey rfl) ?_
  refine bind_of (orDefault_of hversion (uint64?_ofUInt64 _)) ?_
  refine bind_of (orDefault_of hincluded s.included.ofJson?_toJson) ?_
  refine bind_of (orDefault_of hexcluded s.excluded.ofJson?_toJson) ?_
  refine bind_of (orDefault_of hincludedContexts (listOf?_map fun t _ => t.ofJson?_toJson)) ?_
  refine bind_of (orDefault_of hexcludedContexts (listOf?_map fun t _ => t.ofJson?_toJson)) ?_
  refine bind_of
    (orDefault_of hrules (listOf?_map fun r hr => SegmentRule.ofJson?_toJson (h r hr))) ?_
  refine bind_of (orDefault_of hsalt rfl) ?_
  refine bind_of (orDefault_of hunbounded rfl) ?_
  refine bind_of (optional_of hkind rfl fun k _ => k.ofJson?_toJson) ?_
  refine bind_of (optional_of hgeneration rfl fun n _ => uint64?_ofUInt64 n) ?_
  refine bind_of (orDefault_of hdeleted rfl) ?_
  rfl

/-! ## Data with proper numbers -/

/-- What is read from proper JSON is finite, so it can be written and read again. -/
theorem Clause.gives_finite : Json.Gives ofJson? Clause.Finite := by
  intro j c hj h
  obtain ⟨fields, hfields, h⟩ := Option.bind_eq_some_iff.1 h
  iterate 3 obtain ⟨_, -, h⟩ := Option.bind_eq_some_iff.1 h
  obtain ⟨values, hvalues, h⟩ := Option.bind_eq_some_iff.1 h
  obtain ⟨negate, -, h⟩ := Option.bind_eq_some_iff.1 h
  cases h
  have hvalue : Json.Gives (fun v => some (Json.toAttribute v)) Attribute.Finite := by
    intro v _ hv hread
    cases hread
    exact hv.finite_toAttribute
  exact hvalue.listMember (fun _ => hj.member hfields) hvalues

theorem FlagRule.gives_finite : Json.Gives ofJson? FlagRule.Finite := by
  intro j r hj h
  obtain ⟨fields, hfields, h⟩ := Option.bind_eq_some_iff.1 h
  obtain ⟨id, -, h⟩ := Option.bind_eq_some_iff.1 h
  obtain ⟨clauses, hclauses, h⟩ := Option.bind_eq_some_iff.1 h
  iterate 2 obtain ⟨_, -, h⟩ := Option.bind_eq_some_iff.1 h
  cases h
  cases j with
  | object members =>
    cases hfields
    exact Clause.gives_finite.listMember (fun _ => hj.field) hclauses
  | _ => cases hfields

theorem Flag.gives_finite : Json.Gives ofJson? Flag.Finite := by
  intro j f hj h
  obtain ⟨fields, hfields, h⟩ := Option.bind_eq_some_iff.1 h
  iterate 6 obtain ⟨_, -, h⟩ := Option.bind_eq_some_iff.1 h
  obtain ⟨rules, hrules, h⟩ := Option.bind_eq_some_iff.1 h
  iterate 13 obtain ⟨_, -, h⟩ := Option.bind_eq_some_iff.1 h
  cases h
  exact FlagRule.gives_finite.listMember (fun _ => hj.member hfields) hrules

theorem SegmentRule.gives_finite : Json.Gives ofJson? SegmentRule.Finite := by
  intro j r hj h
  obtain ⟨fields, hfields, h⟩ := Option.bind_eq_some_iff.1 h
  obtain ⟨id, -, h⟩ := Option.bind_eq_some_iff.1 h
  obtain ⟨clauses, hclauses, h⟩ := Option.bind_eq_some_iff.1 h
  iterate 3 obtain ⟨_, -, h⟩ := Option.bind_eq_some_iff.1 h
  cases h
  exact Clause.gives_finite.listMember (fun _ => hj.member hfields) hclauses

theorem Segment.gives_finite : Json.Gives ofJson? Segment.Finite := by
  intro j s hj h
  obtain ⟨fields, hfields, h⟩ := Option.bind_eq_some_iff.1 h
  iterate 6 obtain ⟨_, -, h⟩ := Option.bind_eq_some_iff.1 h
  obtain ⟨rules, hrules, h⟩ := Option.bind_eq_some_iff.1 h
  iterate 5 obtain ⟨_, -, h⟩ := Option.bind_eq_some_iff.1 h
  cases h
  exact SegmentRule.gives_finite.listMember (fun _ => hj.member hfields) hrules

/-! ## Main result -/

/-- **Flags and segments are read back.**  What is written of a flag or a segment whose clauses have
    finite numbers is read as it was.  So from any data, a flag or segment that was read is read
    again from what is written of it, and the flag evaluates as it did. -/
theorem codec_roundTrip :
    (∀ f : Flag, f.Finite → Flag.ofJson? f.toJson = some f) ∧
    (∀ s : Segment, s.Finite → Segment.ofJson? s.toJson = some s) ∧
    (∀ j : Json, j.Proper → ∀ f, Flag.ofJson? j = some f →
      Flag.ofJson? f.toJson = Flag.ofJson? j ∧
      ∀ f', Flag.ofJson? f.toJson = some f' → ∀ (e : Evaluator) cache context,
        e.evaluate cache f' context = e.evaluate cache f context) ∧
    ∀ j : Json, j.Proper → ∀ s, Segment.ofJson? j = some s →
      Segment.ofJson? s.toJson = Segment.ofJson? j := by
  refine ⟨fun _ => Flag.ofJson?_toJson, fun _ => Segment.ofJson?_toJson, fun j hj f hf => ?_,
    fun j hj s hs => ?_⟩
  · have hread := Flag.ofJson?_toJson (Flag.gives_finite j f hj hf)
    refine ⟨hread.trans hf.symm, fun f' hf' e cache context => ?_⟩
    obtain rfl : f = f' := Option.some.inj (hread.symm.trans hf')
    rfl
  · exact (Segment.ofJson?_toJson (Segment.gives_finite j s hj hs)).trans hs.symm

/-- A flag with an experiment for certain addresses. -/
def addressFlag : Flag :=
  { Flag.ofKey "delivery" with
    on := true
    targets := [⟨none, KeySet.ofList ["b", "a"], 1⟩]
    rules := [⟨none, [⟨some Kind.user, "/address", .isIn,
      [.list [.number 1.5, .null], .object [("zip", .number 3)]], true⟩],
      ⟨none, some ⟨.experiment, none, some "key", some (-3),
        [⟨0, 60000, false⟩, ⟨1, 40000, true⟩]⟩⟩, true⟩]
    variations := [.null, .number (.float 0.5)] }

/-- Data of a flag that leave out what has a default. -/
def ageData : Json :=
  .object [("key", .text "adult"), ("rules", .list [.object [("variation", .number (.int 0)),
  ("clauses", .list [.object [("attribute", .text "age"), ("op", .text "over"),
    ("values", .list [.number (.int 18), .number (.float 18.5)])]])]])]

theorem codec_roundTrip_addressFlag :
    addressFlag.Finite ∧ Flag.ofJson? addressFlag.toJson = some addressFlag ∧
    ageData.Proper ∧ ∃ f, Flag.ofJson? ageData = some f ∧ Flag.ofJson? f.toJson = some f := by
  have hfinite : addressFlag.Finite := by
    show ∀ r ∈ addressFlag.rules, ∀ c ∈ r.clauses, ∀ value ∈ c.values, ∀ x ∈ value.numbers,
      x.isFinite = true
    decide +kernel
  have hproper : ageData.Proper := by
    intro n hn
    have hnumbers : ageData.numbers = [.int 0, .int 18, .float 18.5] := rfl
    rw [hnumbers] at hn
    rcases List.mem_cons.1 hn with rfl | hn
    · exact ⟨by decide, by decide⟩
    · rcases List.mem_pair.1 hn with rfl | rfl
      · exact ⟨by decide, by decide⟩
      · show (18.5 : Float).isFinite = true
        decide
  obtain ⟨hflags, -, hdata, -⟩ := codec_roundTrip
  obtain ⟨f, hf⟩ : ∃ f, Flag.ofJson? ageData = some f :=
    Option.isSome_iff_exists.1 (by decide +kernel)
  exact ⟨hfinite, hflags addressFlag hfinite, hproper, f, hf,
    (hdata ageData hproper f hf).1.trans hf⟩

end FeatureFlags
