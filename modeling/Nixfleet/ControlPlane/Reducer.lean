import Nixfleet.ControlPlane.Applier

set_option autoImplicit false

/-!
# The control plane's reducer

The single task that owns the cached manifests and the in-memory quarantine set. It turns
each input into calls of the host machine, the planner and the applier. One step is taken at
one reading of the clock.
-/

namespace Nixfleet

/-- `ReducerState`: the reducer's memory, lost on restart. -/
structure ReducerState where
  manifests : Option SignedManifestSet
  quarantines : QuarantineSet
  lastHeartbeatAt : Table HostId Time

/-- The memory `run` starts with. -/
def ReducerState.initial : ReducerState := ⟨none, QuarantineSet.new, ∅⟩

/-! ## Host events -/

/-- The tail of `handle_host_event`: a changed host state is fed to the rollout machine, and
the rollout ends once every host record is `Converged`. -/
def hostStateChanged (ctx : ApplierCtx) (db : Db) (host : HostId) (rolloutId : RolloutId)
    (src dst : HostState) : Db :=
  if src = dst then db
  else
    let db := processRolloutEvent ctx db (.hostStateChanged rolloutId host src dst ctx.now)
    let rows := db.allForRollout rolloutId
    if dst = .converged ∧ ¬ ctx.faults (.terminalCheck rolloutId) ∧ rows ≠ [] ∧
        rows.all (·.state = .converged) then
      processRolloutEvent ctx db (.rolloutTerminal rolloutId ctx.now)
    else db

/-- What `handle_host_event` does with an accepted event: store the record, apply the effects,
report the new host state. -/
def acceptHostEvent (ctx : ApplierCtx) (db : Db) (host : HostId) (rolloutId : RolloutId)
    (src : HostState) (next : HostRolloutState) (effects : List Effect) : Db :=
  hostStateChanged ctx (effects.foldl (applyEffect ctx) (db.upsertRecord next)) host rolloutId
    src next.state

/-- `handle_host_event`. Every reason to drop the event is an arm that keeps the database. -/
def handleHostEvent (rs : ReducerState) (now : Time) (faults : Faults) (db : Db)
    (host : HostId) (rolloutId : RolloutId) (event : Event) : Db :=
  if faults (.loadRecord rolloutId host event.seq) then db
  else
    match db.loadRecord rolloutId host with
    | none => db
    | some prior =>
      if event.seq ≤ prior.lastEventSeq then db
      else
        match rs.manifests with
        | none => db
        | some manifests =>
          match resolvePolicy manifests prior.channel with
          | none => db
          | some policy =>
            match hostStep prior event policy with
            | .error _ => db
            | .ok (next, effects) =>
              if faults (.upsertRecord rolloutId host event.seq) then db
              else
                acceptHostEvent ⟨manifests, now, faults⟩ db host rolloutId prior.state
                  { next with lastEventSeq := event.seq } effects

/-! ## The plan tick -/

/-- The summary `build_fleet_state` projects from a row. -/
def summaryOf (channel : ChannelId) (manifest : RolloutManifest) (row : RolloutRow) :
    RolloutSummary where
  rolloutId := .new channel manifest.channelRef
  channel := channel
  targetRef := manifest.channelRef
  openedAt := row.openedAt
  terminalAt := row.terminalAt
  currentWave := row.currentWave
  budgets := manifest.disruptionBudgets

/-- `build_fleet_state`: the records and rows of the rollouts the manifests name. A failed
record query fails the whole; a failed row query leaves the rollout out. -/
def buildFleetState (order : MapOrders) (faults : Faults) (db : Db)
    (manifests : SignedManifestSet) : Option FleetState :=
  let entries := iterBy order.channels manifests.rollouts.rows
  if entries.any fun m => faults (.allForRollout (.new m.1 m.2.channelRef)) then none
  else
    some {
      hostStates := entries.foldl (fun states m =>
        let rolloutId := RolloutId.new m.1 m.2.channelRef
        (db.allForRollout rolloutId).foldl
          (fun states row => states.insert (rolloutId, row.hostname) row) states) ∅
      rollouts := entries.foldl (fun rollouts m =>
        let rolloutId := RolloutId.new m.1 m.2.channelRef
        if faults (.rolloutSummary rolloutId) then rollouts
        else
          match db.rollouts.lookup rolloutId with
          | some row => rollouts.insert rolloutId (summaryOf m.1 m.2 row)
          | none => rollouts) ∅
      outstandingFailingEnforceProbes :=
        if faults .outstandingFailures then ∅ else db.outstandingFailingEnforceProbes }

/-- The wave `advance_current_waves` moves a rollout to, if it moves it: the current wave has
a successor and hosts, and all of them are ordering-eligible. -/
def nextWave (fleet : FleetResolved) (fs : FleetState) (rolloutId : RolloutId)
    (summary : RolloutSummary) : Option Nat :=
  if summary.terminalAt.isSome then none
  else
    match fleet.waves.lookup summary.channel with
    | none => none
    | some channelWaves =>
        if summary.currentWave + 1 ≥ channelWaves.length then none
        else
          match channelWaves[summary.currentWave]? with
          | none => none
          | some wave =>
              if wave.hosts.isEmpty then none
              else if wave.hosts.all fun host =>
                (fs.hostStates.lookup (rolloutId, host)).any (·.state.orderingEligible)
              then some (summary.currentWave + 1)
              else none

/-- `advance_current_waves`: the bumps are collected first, then written one by one. -/
def advanceCurrentWaves (order : MapOrders) (faults : Faults) (fleet : FleetResolved)
    (db : Db) (fs : FleetState) : Db × FleetState :=
  let bumps := (iterBy order.rollouts fs.rollouts.rows).filterMap fun r =>
    (nextWave fleet fs r.1 r.2).map fun wave => (r.1, wave)
  bumps.foldl (fun acc bump =>
    if faults (.setCurrentWave bump.1 bump.2) then acc
    else
      (acc.1.setCurrentWave bump.1 bump.2,
        { acc.2 with
          rollouts := acc.2.rollouts.modify bump.1 fun s => { s with currentWave := bump.2 } }))
    (db, fs)

/-- What one plan tick decides: the database after the wave bumps, the fleet state handed to
the planner, and the actions it returns. -/
structure Plan where
  db : Db
  fleetState : FleetState
  actions : List PlanAction

/-- The planning half of `run_plan`. -/
def planOf (rs : ReducerState) (order : MapOrders) (now : Time) (faults : Faults) (db : Db) :
    Option Plan :=
  match rs.manifests with
  | none => none
  | some manifests =>
      match buildFleetState order faults db manifests with
      | none => none
      | some fs =>
          let advanced := advanceCurrentWaves order faults manifests.fleet db fs
          some ⟨advanced.1, advanced.2,
            planNext order manifests advanced.2 rs.quarantines now⟩

/-- `run_plan`. -/
def runPlan (rs : ReducerState) (order : MapOrders) (now : Time) (faults : Faults) (db : Db) :
    Db :=
  match rs.manifests, planOf rs order now faults db with
  | some manifests, some plan =>
      plan.actions.foldl (applyPlanAction ⟨manifests, now, faults⟩) plan.db
  | _, _ => db

end Nixfleet
