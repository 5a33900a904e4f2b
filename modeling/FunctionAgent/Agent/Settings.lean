import FunctionAgent.Span
/-!
# Agent settings

The waits and the limits of the dispatch loop.
-/

set_option autoImplicit false

namespace FunctionAgent.Agent

/-- The waits and the limits of the dispatch loop. -/
structure Settings where
  /-- The pause after a look at the stream that found nothing. -/
  pollInterval : Span
  /-- How many reconnects may be tried in a row. -/
  maxAttempts : UInt32
  /-- The unit of the pauses between reconnects. -/
  backoff : Span
  /-- How long the start of a function may take. -/
  dispatchTimeout : Span
  deriving DecidableEq

namespace Settings

/-- The usual waits and limits. -/
def standard : Settings := ⟨.ofSeconds 1, 10, .ofSeconds 1, .ofSeconds 5⟩

instance : Inhabited Settings := ⟨standard⟩

/-- The settings as they are shown for inspection. -/
def render (s : Settings) : String :=
  "LoopSettings \x7b poll_interval: " ++ s.pollInterval.render ++ ", max_reconnect_attempts: "
    ++ toString s.maxAttempts.toNat ++ ", reconnect_backoff: " ++ s.backoff.render
    ++ ", dispatch_timeout: " ++ s.dispatchTimeout.render ++ " \x7d"

end Settings

end FunctionAgent.Agent
