/-
  VARIATIONS — values of flags, of the type that a program wants.

  A `ValueType` says how values of a type are written as JSON, which JSON they are, and how they are
  read.  `variation` gives the value alone, `variationDetail` the value with its variation and
  reason.
-/
import FeatureFlags.Client.Request
import FeatureFlags.Json.Record

namespace FeatureFlags

/-- A type of values. -/
structure ValueType (α : Type) where
  /-- The name of the way to ask for such a value. -/
  method : String
  toJson : α → Json
  /-- Whether a value is of the type. -/
  accepts : Json → Bool
  ofJson? : Json → Option α

namespace ValueType

def bool : ValueType Bool := ⟨"bool_variation", .bool, fun j => j.bool?.isSome, Document.bool?⟩

/-- A number as an integer of 64 bits: fractions are cut off, and what is out of range gives the
    nearest integer in range. -/
def truncated : Number → Int64
  | .int i =>
    if -9223372036854775808 ≤ i ∧ i < 9223372036854775808 then .ofInt i else (Float.ofInt i).toInt64
  | .float x => x.toInt64

def int : ValueType Int64 :=
  ⟨"int_variation", fun i => Json.ofInt i.toInt, fun j => j.number?.isSome,
    fun j => j.number?.map truncated⟩

def float : ValueType Float :=
  ⟨"float_variation", Json.ofFloat, fun j => j.number?.isSome, fun j =>
    j.number?.map Number.toFloat⟩

def text : ValueType String := ⟨"str_variation", .text, fun j => j.text?.isSome, Document.text?⟩

/-- Values of all types. -/
def json : ValueType Json := ⟨"json_variation", id, fun _ => true, some⟩

/-- Values of all types, whatever they are. -/
def any : ValueType Json := { json with method := "variation" }

end ValueType

namespace Client

variable {α : Type}

/-- The request for a value of a type. -/
def requestOf (type : ValueType α) (context : Context) (key : String) (default : α)
    (withReasons : Bool) : Request where
  key := key
  context := context
  default := type.toJson default
  withReasons := withReasons
  method := if withReasons then type.method ++ "_detail" else type.method
  expects := type.accepts

/-- The detail that a program gets for an answer. -/
def typedDetail (type : ValueType α) (default : α) (a : Answer) : Detail α :=
  (a.detail.convert type.ofJson?).withDefault default

/-- **The value of a flag.** -/
def variation (c : Client) (type : ValueType α) (context : Context) (key : String) (default : α) :
    α × Client :=
  let (a, c) := c.ask (requestOf type context key default false)
  ((typedDetail type default a).value.getD default, c)

/-- **The value of a flag, with its variation and reason.** -/
def variationDetail (c : Client) (type : ValueType α) (context : Context) (key : String)
    (default : α) : Detail α × Client :=
  let (a, c) := c.ask (requestOf type context key default true)
  (typedDetail type default a, c)

/-! ## Migrations -/

/-- The request for the stage of a migration. -/
def stageRequest (context : Context) (key : String) (default : Migration.Stage) : Request where
  key := key
  context := context
  default := .text default.name
  withReasons := true
  method := "migration_variation"
  expects := fun _ => true

/-- The stage that a detail names. -/
def stageOf? (d : Detail Json) : Option Migration.Stage :=
  (d.value.bind Document.text?).bind fun name => (Migration.Stage.ofName name).toOption

/-- The record of an operation that an answer decides.  A value that is no stage is of the wrong
    type. -/
def trackerFor (context : Context) (key : String) (default : Migration.Stage) (a : Answer) :
    Migration.Tracker :=
  let (value, reason, variation) := match stageOf? a.detail with
    | some stage => (stage, a.detail.reason, a.detail.index)
    | none => (default, Reason.ofFault .wrongType, none)
  .start context { key, value, default, reason, variation, version := a.flag.map (·.version) }
    (a.flag.bind fun f => f.migration.bind (·.checkRatio)) (a.flag.bind (·.samplingRatio))

/-- **The stage of a migration**, and the record of the operation that it is asked for. -/
def migrationVariation (c : Client) (context : Context) (key : String)
    (default : Migration.Stage) : (Migration.Stage × Migration.Tracker) × Client :=
  let (a, c) := c.ask (stageRequest context key default)
  let tracker := trackerFor context key default a
  match stageOf? a.detail with
  | some stage => ((stage, tracker), c)
  | none => ((default, tracker), c.note .unknownStage)

end Client

end FeatureFlags
