/-
  MIGRATIONS — moving from an old implementation to a new one in stages.

  A flag decides the `Stage`.  An operation of the program then runs against one or both `Origin`s.
-/
import FeatureFlags.Text.Quoted

namespace FeatureFlags

namespace Migration

/-- How far a migration has come. -/
inductive Stage where
  | off
  | dualWrite
  | shadow
  | live
  | rampDown
  | complete
deriving DecidableEq, Repr

/-- What a program does with the migrated data. -/
inductive Operation where
  | read
  | write
deriving DecidableEq, Repr

/-- The implementation that an operation runs against. -/
inductive Origin where
  | old
  | new
deriving DecidableEq, Repr

/-- Why a migration operation cannot be reported. -/
inductive Fault where
  | unknownStage (name : String)
  | noOperation
  | nothingInvoked
  /-- A latency for an implementation that did not run. -/
  | strayLatency (origin : Origin)
  /-- An error for an implementation that did not run. -/
  | strayError (origin : Origin)
  /-- A consistency check without two implementations to compare. -/
  | strayConsistency
deriving DecidableEq, Repr

/-! ## Names -/

def Stage.name : Stage → String
  | off => "off"
  | dualWrite => "dualwrite"
  | shadow => "shadow"
  | live => "live"
  | rampDown => "rampdown"
  | complete => "complete"

def Stage.all : List Stage := [.off, .dualWrite, .shadow, .live, .rampDown, .complete]

/-- **Read a stage.** -/
def Stage.ofName (name : String) : Except Fault Stage :=
  match all.find? fun stage => stage.name = name with
  | some stage => .ok stage
  | none => .error (.unknownStage name)

theorem Stage.ofName_name (stage : Stage) : ofName stage.name = .ok stage := by
  cases stage <;> rfl

def Operation.name : Operation → String
  | read => "read"
  | write => "write"

def Operation.ofName? : String → Option Operation
  | "read" => some read
  | "write" => some write
  | _ => none

def Origin.name : Origin → String
  | old => "old"
  | new => "new"

def Origin.ofName? : String → Option Origin
  | "old" => some old
  | "new" => some new
  | _ => none

/-- An origin as messages call it. -/
def Origin.title : Origin → String
  | old => "Old"
  | new => "New"

/-- The wording of a fault. -/
def Fault.message : Fault → String
  | unknownStage name => "unknown migration stage " ++ Text.quoted name
  | noOperation => "operation must be set before an event can be created"
  | nothingInvoked => "migration invoked neither the old nor the new implementation"
  | strayLatency origin =>
    "latency was recorded for " ++ origin.title ++ ", but that origin was not invoked"
  | strayError origin =>
    "error was recorded for " ++ origin.title ++ ", but that origin was not invoked"
  | strayConsistency => "consistency check was done, but both origins were not invoked"

end Migration

end FeatureFlags
