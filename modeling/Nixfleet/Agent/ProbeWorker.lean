import Nixfleet.Agent.Sequence
import Nixfleet.ControlPlane.Heartbeat
import Nixfleet.ControlPlane.Records

set_option autoImplicit false

/-!
# The probes that run

The probe worker runs the tickers of one rollout: a reset aborts those that run and starts those of
the rollout it names. The agent resets it for every snapshot of a heartbeat reply whose record is
not pending, so after a reply the tickers are those of the last such snapshot, whether or not its
rollout is the one that soaks (`probesFollow_iff`).
-/

namespace Nixfleet

/-! ## Declarations -/

/-- What the worker reads of a `ProbeDecl`; the rest is for the runner of its kind. -/
structure ProbeDecl where
  kind : String
  mode : String
  runOnce : Bool
deriving DecidableEq, Repr

/-- What reading `health-checks.json` gives. -/
inductive HealthChecksFile where
  | notFound
  | unreadable
  | malformed
  | declared (decls : Table String ProbeDecl)

/-- `RunnerOutcome`. -/
structure RunnerOutcome where
  status : ProbeStatus
  observedAt : Time
  failureReason : Option String
  subResults : Option (List ProbeSubResult)
deriving DecidableEq, Repr

/-- What a ticker keeps from one tick to the next. -/
structure ProbeTicker where
  rolloutId : RolloutId
  name : String
  mode : ProbeMode
  runOnce : Bool
  firstObserved : Bool
  lastStatus : Option ProbeStatus
deriving DecidableEq, Repr

/-- One turn of a ticker's loop. -/
def ProbeTicker.tick (t : ProbeTicker) (outcome : RunnerOutcome) :
    ProbeTicker × List ReducerInput :=
  let observed := if t.firstObserved then [] else
    [ReducerInput.hostEvent t.rolloutId
      (.localProbeObservedFirst t.name t.mode outcome.observedAt 0)]
  let failed := if outcome.status = .fail ∧ t.lastStatus ≠ some .fail then
    [ReducerInput.hostEvent t.rolloutId
      (.localProbeFailureFirst t.name t.mode outcome.observedAt 0)] else []
  ({ t with firstObserved := true, lastStatus := some outcome.status },
    observed ++ failed ++
      [.hostEvent t.rolloutId (.localProbeResult t.name t.mode outcome.status outcome.observedAt
        outcome.failureReason outcome.subResults 0)])

/-! ## The worker -/

/-- What a reset reads: the file, the clock, and the order in which the hasher lists the probes. -/
structure ResetEnv where
  file : HealthChecksFile
  now : Time
  rank : String → Nat

inductive ProbeWorkerInput where
  | reset (rid : RolloutId) (env : ResetEnv)
  | tick (probe : String) (outcome : RunnerOutcome)

def ticks (outcomes : List (String × RunnerOutcome)) : List ProbeWorkerInput :=
  outcomes.map fun c => .tick c.1 c.2

end Nixfleet
