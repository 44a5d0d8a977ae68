import Nixfleet.Reconciler.Gates

set_option autoImplicit false

/-!
# The planner

`planNext` opens a rollout for every manifest whose rollout has no row yet, then walks the
`Pending` hosts of every rollout that is not closed and queues those that no gate blocks.
The rollout, host and manifest maps are hash maps, so the planner takes the orders in which
they are iterated as an argument.
-/

namespace Nixfleet

/-- The actions the planner emits; it never emits the source's `RecordHaltLifted`. -/
inductive PlanAction where
  | openRollout (rolloutId : RolloutId) (channel : ChannelId) (targetRef : ChannelRef)
  | queueDispatch (host : HostId) (rollout : RolloutId) (targetClosure : ClosureHash)
      (soakDueAt : Time)
  | deferDispatch (host : HostId) (rollout : RolloutId) (gate reason : String)
deriving DecidableEq, Repr

/-- The iteration orders of the hash maps the planner loops over. -/
structure MapOrders where
  channels : ChannelId → Nat
  rollouts : RolloutId → Nat
  hostStates : RolloutId × HostId → Nat

/-- The orders in which the entries are stored. -/
def MapOrders.stored : MapOrders := ⟨fun _ => 0, fun _ => 0, fun _ => 0⟩

/-- Step 1 of `plan_next`: open what has no row yet. -/
def openActions (order : MapOrders) (manifests : SignedManifestSet) (fs : FleetState) :
    List PlanAction :=
  (iterBy order.channels manifests.rollouts.rows).filterMap fun m =>
    let rolloutId := RolloutId.new m.1 m.2.channelRef
    if (fs.rollouts.lookup rolloutId).isSome then none
    else some (.openRollout rolloutId m.1 m.2.channelRef)

/-- A host the planner considers: `Pending`, and not acknowledged yet. -/
def HostRolloutState.awaitsDispatch (s : HostRolloutState) : Bool :=
  s.state = .pending && s.dispatchAckedAt.isNone

/-- A host that step 2 of `plan_next` considers: the loop variables of its body. -/
structure Candidate where
  rolloutId : RolloutId
  summary : RolloutSummary
  host : HostId
  record : HostRolloutState

/-- The hosts that step 2 of `plan_next` considers, in the order it considers them. -/
def candidates (order : MapOrders) (fs : FleetState) : List Candidate :=
  ((iterBy order.rollouts fs.rollouts.rows).filter fun r => r.2.terminalAt.isNone).flatMap
    fun r =>
      ((iterBy order.hostStates fs.hostStates.rows).filter fun h =>
        h.1.1 = r.1 && h.2.awaitsDispatch).map fun h => ⟨r.1, r.2, h.1.2, h.2⟩

/-- The gates' answer for a candidate at a counter. -/
def Candidate.evaluate (c : Candidate) (manifests : SignedManifestSet) (fs : FleetState)
    (quarantines : QuarantineSet) (tick : TickDispatched) : Option GateBlock :=
  evaluateForDispatch fs manifests quarantines c.rolloutId c.host c.record.targetClosure
    c.summary.channel tick

/-- Count one dispatch for every budget of the rollout that lists the host. -/
def countDispatch (budgets : List RolloutBudget) (host : HostId) (tick : TickDispatched) :
    TickDispatched :=
  budgets.foldl (fun t budget =>
    if budget.hosts.any (· == host) then
      fun selector => if selector = budget.selector then t selector + 1 else t selector
    else t) tick

/-- Step 2 of `plan_next`: ask the gates about one candidate after another, with the counter
of what this call has already dispatched. -/
def dispatchActions (manifests : SignedManifestSet) (fs : FleetState)
    (quarantines : QuarantineSet) (now : Time) :
    TickDispatched → List Candidate → List PlanAction
  | _, [] => []
  | tick, c :: rest =>
      match c.evaluate manifests fs quarantines tick with
      | some block =>
          .deferDispatch c.host c.rolloutId block.discriminator block.reason ::
            dispatchActions manifests fs quarantines now tick rest
      | none =>
          .queueDispatch c.host c.rolloutId c.record.targetClosure (c.record.soakDueAt.getD now)
            :: dispatchActions manifests fs quarantines now
              (countDispatch c.summary.budgets c.host tick) rest

/-- `plan_next`. -/
def planNext (order : MapOrders) (manifests : SignedManifestSet) (fs : FleetState)
    (quarantines : QuarantineSet) (now : Time) : List PlanAction :=
  openActions order manifests fs ++
    dispatchActions manifests fs quarantines now (fun _ => 0) (candidates order fs)

/-- `compute_soak_due_at`. -/
def computeSoakDueAt (dispatchedAt : Time) (soakMinutes : Nat) : Time :=
  dispatchedAt + minutes soakMinutes

end Nixfleet
