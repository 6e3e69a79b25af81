/-
  TYPED VARIATIONS — a value of a type is the value of any type, where it is of the type.

  The type is tested twice: before an answer is reported, by whether the type accepts the value, and
  when the program gets it, by whether the value can be read.

  1. **The two tests** — for truth values, numbers and texts they agree (`Tests`).
  2. **One detail for all types** — what a client has to say about a flag does not depend on the
     type (`exists_detail`), and is not that a value is of the wrong type: evaluations know another
     fault only.
  3. **Main result** (`variation_typed`) — `Typed` compares what is given as a value of a type with
     what is given as any value, and with what is recorded.
-/
import FeatureFlags.Proofs.Client.AllFlags
import FeatureFlags.Proofs.Evaluation.Faults

namespace FeatureFlags

/-! ## The two tests -/

/-- JSON that is true or false. -/
def Json.IsBool (j : Json) : Prop := ∃ b, j = .bool b

/-- JSON that is a number, whole or not. -/
def Json.IsNumber (j : Json) : Prop := ∃ n, j = .number n

def Json.IsText (j : Json) : Prop := ∃ s, j = .text s

namespace ValueType

/-- The values that a type accepts and those that it reads are the same. -/
structure Tests {α : Type} (type : ValueType α) (Is : Json → Prop) : Prop where
  accepts : ∀ j, type.accepts j = true ↔ Is j
  reads : ∀ j, Is j ↔ ∃ a, type.ofJson? j = some a

theorem tests_bool : bool.Tests Json.IsBool where
  accepts j := by cases j <;> simp [bool, Json.IsBool, Document.bool?]
  reads j := by cases j <;> simp [bool, Json.IsBool, Document.bool?]

theorem tests_int : int.Tests Json.IsNumber where
  accepts j := by cases j <;> simp [int, Json.IsNumber, Document.number?]
  reads j := by cases j <;> simp [int, Json.IsNumber, Document.number?]

theorem tests_float : float.Tests Json.IsNumber where
  accepts j := by cases j <;> simp [float, Json.IsNumber, Document.number?]
  reads j := by cases j <;> simp [float, Json.IsNumber, Document.number?]

theorem tests_text : text.Tests Json.IsText where
  accepts j := by cases j <;> simp [text, Json.IsText, Document.text?]
  reads j := by cases j <;> simp [text, Json.IsText, Document.text?]

end ValueType

namespace Client

/-! ## One detail for all types -/

/-- The answer about a flag: the value that was evaluated, if it is as expected. -/
theorem detail_answerFlag (c : Client) (r : Request) (f : Flag) :
    (c.answerFlag r f).detail =
      if r.expects (servedValue r (c.told r.context f)) then
        ⟨some (servedValue r (c.told r.context f)), (c.told r.context f).index,
          (c.told r.context f).reason⟩
      else defaultFor r .wrongType := by
  rw [← detail_outcomeOf c r f]
  cases hexpected : r.expects (servedValue r (c.outcomeOf r f).detail) with
  | true => rw [(answerFlag_of_expected hexpected).1, settled_eq, if_pos rfl]
  | false => rw [(answerFlag_of_unexpected hexpected).1, if_neg Bool.false_ne_true]

/-- **One detail for all types**: whatever a request expects, as long as its default is as expected,
    it is answered with one and the same value, variation and reason, unless the value is of the
    wrong type. -/
theorem exists_detail (c : Client) (context : Context) (key : String) (default : Json) :
    ∃ value index reason, reason.cause ≠ .error .wrongType ∧
      ∀ r : Request, r.context = context → r.key = key → r.default = default →
        r.expects default = true → (c.answer r).detail =
          if r.expects value then ⟨some value, index, reason⟩ else defaultFor r .wrongType := by
  by_cases hready : c.Ready
  · cases hf : c.store.flag? key with
    | none =>
      refine ⟨default, none, .ofFault .flagNotFound, by decide, ?_⟩
      rintro r rfl rfl rfl hexpected
      rw [answer, hready.1, hready.2, hf, if_pos hexpected]
      rfl
    | some f =>
      let told := c.told context f
      let served := servedValue (requestOf .any context key default true) told
      refine ⟨served, told.index, told.reason, ?_, ?_⟩
      · intro hcause
        cases Evaluator.eq_malformedFlag_of_evaluate hcause
      · rintro r rfl rfl rfl -
        rw [answer_of_flag hready hf]
        exact detail_answerFlag c r f
  · refine ⟨default, none, .ofFault .clientNotReady, by decide, ?_⟩
    rintro r rfl rfl rfl hexpected
    rw [if_pos hexpected]
    exact (ask_of_notReady hready r).1

/-! ## Main result -/

section Typed

variable {α : Type} (c : Client) (type : ValueType α) (Is : Json → Prop) (context : Context)
  (key : String) (default : α)

/-- What a program gets is read from what was recorded, and finds no other fault there. -/
def ReadsRecord (withReasons : Bool) (c' : Client) : Prop :=
  ∃ told events value a,
    c.Recorded (requestOf type context key default withReasons) told events c' ∧
    told.value = some value ∧ type.ofJson? value = some a ∧
    (c.variationDetail type context key default).1 = ⟨some a, told.index, told.reason⟩

/-- **A value of a type** next to the value of any type that is given for the same default. -/
structure Typed : Prop where
  /-- There is a value, be it asked for with its detail or alone. -/
  value : (c.variationDetail type context key default).1.value =
    some (c.variation type context key default).1
  compared : ∃ j,
    (c.variationDetail .any context key (type.toJson default)).1.value = some j ∧
    ((c.variationDetail type context key default).1.reason.cause = .error .wrongType ↔ ¬ Is j) ∧
    (¬ Is j → (c.variationDetail type context key default).1.value = some default ∧
      (c.variationDetail type context key default).1.index = none) ∧
    (Is j → (c.variationDetail type context key default).1.value = type.ofJson? j ∧
      (c.variationDetail type context key default).1.index =
        (c.variationDetail .any context key (type.toJson default)).1.index ∧
      (c.variationDetail type context key default).1.reason =
        (c.variationDetail .any context key (type.toJson default)).1.reason)
  record :
    c.ReadsRecord type context key default true (c.variationDetail type context key default).2
  recordAlone :
    c.ReadsRecord type context key default false (c.variation type context key default).2

variable {c type Is context key default}

/-- An answer that is read, whether reasons are wanted or not, is what the program gets. -/
theorem readsRecord_of_given {value : Json} {a : α} {index : Option VariationIndex}
    {reason : Reason}
    (hgiven : ∀ withReasons, (c.answer (requestOf type context key default withReasons)).detail =
      ⟨some value, index, reason⟩)
    (hread : type.ofJson? value = some a) :
    (c.variationDetail type context key default).1 = ⟨some a, index, reason⟩ ∧
    (c.variation type context key default).1 = a ∧
    c.ReadsRecord type context key default true (c.variationDetail type context key default).2 ∧
    c.ReadsRecord type context key default false (c.variation type context key default).2 := by
  have hdetail : (c.variationDetail type context key default).1 = ⟨some a, index, reason⟩ :=
    typedDetail_of_reads (hgiven true) hread
  have hvalue : (c.variation type context key default).1 = a := by
    show (typedDetail type default
      (c.answer (requestOf type context key default false))).value.getD default = a
    rw [typedDetail_of_reads (hgiven false) hread]
    rfl
  have hrecord : ∀ withReasons, c.ReadsRecord type context key default withReasons
      (c.ask (requestOf type context key default withReasons)).2 := by
    intro withReasons
    have hrecorded := recorded_ask c (requestOf type context key default withReasons)
    rw [fst_ask, hgiven withReasons] at hrecorded
    exact ⟨_, _, value, a, hrecorded, rfl, hread, hdetail⟩
  exact ⟨hdetail, hvalue, hrecord true, hrecord false⟩

/-- Types whose two tests agree, for defaults that are read as they are written. -/
theorem typed_of_tests (htests : type.Tests Is) (hwrites : type.Writes default) :
    c.Typed type Is context key default := by
  obtain ⟨j, index, reason, hreason, hdetail⟩ := exists_detail c context key (type.toJson default)
  have hdefault : type.accepts (type.toJson default) = true :=
    (htests.accepts _).2 ((htests.reads _).2 ⟨default, hwrites⟩)
  have hgiven : ∀ withReasons, (c.answer (requestOf type context key default withReasons)).detail =
      if type.accepts j then ⟨some j, index, reason⟩
      else ⟨some (type.toJson default), none, .ofFault .wrongType⟩ :=
    fun _ => hdetail _ rfl rfl rfl hdefault
  have hany : (c.variationDetail .any context key (type.toJson default)).1 =
      ⟨some j, index, reason⟩ :=
    typedDetail_of_reads (hdetail (requestOf .any context key _ true) rfl rfl rfl rfl) rfl
  by_cases hj : Is j
  · obtain ⟨a, hread⟩ := (htests.reads j).1 hj
    simp only [(htests.accepts j).2 hj, if_true] at hgiven
    obtain ⟨htyped, halone, hrecord, hrecordAlone⟩ := readsRecord_of_given hgiven hread
    refine ⟨?_, ⟨j, ?_⟩, hrecord, hrecordAlone⟩
    · rw [htyped, halone]
    · rw [htyped, hany]
      exact ⟨rfl, ⟨fun hwrong => absurd hwrong hreason, fun hnot => absurd hj hnot⟩,
        fun hnot => absurd hj hnot, fun _ => ⟨hread.symm, rfl, rfl⟩⟩
  · have hrejects : ¬ type.accepts j = true := fun haccepts => hj ((htests.accepts j).1 haccepts)
    simp only [hrejects] at hgiven
    obtain ⟨htyped, halone, hrecord, hrecordAlone⟩ := readsRecord_of_given hgiven hwrites
    refine ⟨?_, ⟨j, ?_⟩, hrecord, hrecordAlone⟩
    · rw [htyped, halone]
    · rw [htyped, hany]
      exact ⟨rfl, ⟨fun _ => hj, fun _ => rfl⟩, fun _ => ⟨rfl, rfl⟩, fun his => absurd his hj⟩

end Typed

/-- **Typed variations.**  Whatever the state of a client, a flag gives a truth value, a number or a
    text as it gives any value: with the same variation and reason where the value is of the type,
    and else the default, for being of the wrong type.  There always is a value, the same with its
    detail and alone, and no fault that is not in the record.  Of floating-point numbers, the
    default is one that JSON has. -/
theorem variation_typed (c : Client) (context : Context) (key : String) :
    (∀ default, c.Typed .bool Json.IsBool context key default) ∧
    (∀ default, c.Typed .int Json.IsNumber context key default) ∧
    (∀ default : Float, default.isFinite = true →
      c.Typed .float Json.IsNumber context key default) ∧
    ∀ default, c.Typed .text Json.IsText context key default :=
  ⟨fun _ => typed_of_tests ValueType.tests_bool rfl,
    fun default => typed_of_tests ValueType.tests_int (ValueType.writes_int default),
    fun _ hfinite => typed_of_tests ValueType.tests_float (ValueType.writes_float hfinite),
    fun _ => typed_of_tests ValueType.tests_text rfl⟩

/-- A flag of truth values gives a number only by its default. -/
theorem variation_typed_stackedClient :
    let context : Context := .single ⟨Kind.user, "a", none, false, none, [], []⟩
    (1.5 : Float).isFinite = true ∧
    stackedClient.Typed .float Json.IsNumber context "top" 1.5 ∧
    (stackedClient.variationDetail .float context "top" 1.5).1.value = some 1.5 ∧
    (stackedClient.variationDetail .float context "top" 1.5).1.reason.cause =
      .error .wrongType := by
  intro context
  have hfinite : (1.5 : Float).isFinite = true := by decide
  have htyped := (variation_typed stackedClient context "top").2.2.1 1.5 hfinite
  have hany : (stackedClient.variationDetail .any context "top"
      (ValueType.float.toJson 1.5)).1.value = some (.bool true) := rfl
  obtain ⟨j, hj, hwrong, hdefault, -⟩ := htyped.compared
  obtain rfl : Document.bool true = j := Option.some.inj (hany.symm.trans hj)
  have hnumber : ¬ Json.IsNumber (.bool true) := fun ⟨_, h⟩ => nomatch h
  exact ⟨hfinite, htyped, (hdefault hnumber).1, hwrong.2 hnumber⟩

end Client

end FeatureFlags
