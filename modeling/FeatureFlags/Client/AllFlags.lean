/-
  ALL FLAGS of a client for one context.

  Every flag is evaluated as if it were asked for, but nothing is reported.
-/
import FeatureFlags.Client.Basic
import FeatureFlags.Evaluation.Flag
import FeatureFlags.FlagsState

namespace FeatureFlags.Client

/-- Add one flag to a state. -/
def addToState (options : FlagsState.Options) (context : Context) (sc : FlagsState × Client)
    (f : Flag) : FlagsState × Client :=
  let (s, c) := sc
  let outcome := (c.evaluator none).evaluate c.cache f context
  let failed := if outcome.detail.reason.isError then [LogEntry.stateEvaluationFailed] else []
  (s.add options c.now f outcome.detail,
    { c with
      cache := outcome.cache
      calls := c.calls ++ outcome.calls
      log := c.log ++ outcome.log ++ failed })

/-- The flags that a state is made of. -/
def flagsFor (c : Client) (options : FlagsState.Options) : List Flag :=
  (c.store.allFlags.map (·.2)).filter fun f => !options.clientSideOnly || f.isClientSide

/-- **The state of all flags for a context.** -/
def allFlagsState (c : Client) (context : Context) (options : FlagsState.Options) :
    FlagsState × Client :=
  if c.offline then (.invalid, c)
  else if !c.store.initialized then (.invalid, c.note .stateNotInitialized)
  else (c.flagsFor options).foldl (addToState options context) (.empty, c)

end FeatureFlags.Client
