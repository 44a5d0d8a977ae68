import Nixfleet.Host.Step
import Nixfleet.Reconciler.Planner
import Nixfleet.ControlPlane.Db

set_option autoImplicit false

/-!
# The applier

The imperative shell of the control plane: it executes the planner's actions and the effects
of the host and rollout machines against the database. A failed statement is logged and
dropped; the arms below follow the source in what they still do after a failure.
-/

namespace Nixfleet

/-- What an applier call can read: the verified manifests, the clock, the statements that
fail. -/
structure ApplierCtx where
  manifests : SignedManifestSet
  now : Time
  faults : Faults

/-! ## Rollout events -/

/-- `apply_rollout_effect`. -/
def applyRolloutEffect (ctx : ApplierCtx) (db : Db) : RolloutEffect → Db
  | .recordRolloutTransition rid src dst at' =>
      -- the log entry is appended also when the update failed
      (if ctx.faults (.recordRolloutTransition rid dst) then db
        else db.recordRolloutTransition rid dst at').appendEventLog ctx.now none (some rid)
          (.recordRolloutTransition rid src dst at')
  | .updateCurrentWave rid wave =>
      if ctx.faults (.setCurrentWave rid wave) then db else db.setCurrentWave rid wave

/-- `process_rollout_event`: log the event, step the rollout machine, apply its effects. The
record the machine returns is dropped; the row changes through the effects only. -/
def processRolloutEvent (ctx : ApplierCtx) (db : Db) (e : RolloutEvent) : Db :=
  if ctx.faults (.rolloutState e) then db
  else
    match db.rollouts.lookup e.rolloutId with
    | none => db
    | some row =>
        let db := db.appendEventLog ctx.now none (some e.rolloutId) (.rolloutEvent e)
        match rolloutStep row e with
        | .ok (_, effects) => effects.foldl (applyRolloutEffect ctx) db
        | .error _ => db

/-! ## Host effects -/

/-- The `probe_failures` rows of a probe result: one per failing enforce-mode control, or
one for the probe when it reports no controls. -/
def probeFailureRows (host : HostId) (rolloutId : RolloutId) :
    OutboundAgentEvent → List ProbeFailure
  | .probeResult name mode status observedAt _ subResults _ =>
      match subResults with
      | some (sr :: srs) =>
          ((sr :: srs).filter fun r => r.status = .fail ∧ r.effectiveMode = .enforce).map
            fun r => ⟨rolloutId, host, name, some r.controlId, some r.framework, observedAt⟩
      | _ =>
          if mode = .enforce ∧ status = .fail then
            [⟨rolloutId, host, name, none, none, observedAt⟩]
          else []
  | _ => []

/-- `apply_effect`. Agent-only effects are dropped. -/
def applyEffect (ctx : ApplierCtx) (db : Db) : Effect → Db
  | .remoteInsertQuarantine channel closure =>
      if ctx.faults (.insertQuarantine channel closure) then db
      else
        (db.insertQuarantine channel closure ctx.now).appendEventLog ctx.now none none
          (.insertQuarantine channel closure)
  | .remoteAppendEventLog host rid payload =>
      let db := db.appendEventLog ctx.now (some host) (some rid) (.agentEvent payload)
      if ctx.faults (.insertProbeFailures rid host) then db
      else db.insertProbeFailures (probeFailureRows host rid payload)
  | .recordTransition host rid src dst at' =>
      db.appendEventLog ctx.now (some host) (some rid) (.recordTransition host rid src dst at')
  | .localFireSwitch .. => db
  | .localFireRollbackTo .. => db
  | .localResetProbeCache .. => db
  | .localEmitEvent .. => db

/-! ## Plan actions -/

/-- `DEFAULT_SOAK_MINUTES`. -/
def defaultSoakMinutes : Nat := 60

/-- The policy of a channel: `fleet.channels[ch].rollout_policy` in `rollout_policies`. -/
def resolvePolicy (manifests : SignedManifestSet) (channel : ChannelId) :
    Option RolloutPolicy :=
  (manifests.fleet.channels.lookup channel).bind fun c =>
    manifests.fleet.rolloutPolicies.lookup c.rolloutPolicy

/-- The soak minutes of a wave of the channel's policy. -/
def soakMinutesOf (manifests : SignedManifestSet) (channel : ChannelId) (waveIndex : Nat) :
    Nat :=
  (((resolvePolicy manifests channel).bind fun p => p.waves[waveIndex]?).map
    (·.soakMinutes)).getD defaultSoakMinutes

/-- The `Pending` record `open_rollout` writes for a host of the manifest. -/
def pendingRecord (ctx : ApplierCtx) (rolloutId : RolloutId) (channel : ChannelId)
    (hw : HostWave) : HostRolloutState :=
  .newPending rolloutId hw.hostname channel hw.targetClosure ctx.now
    (computeSoakDueAt ctx.now (soakMinutesOf ctx.manifests channel hw.waveIndex))

/-- One host of `open_rollout`'s loop. -/
def openHost (ctx : ApplierCtx) (rolloutId : RolloutId) (channel : ChannelId) (db : Db)
    (hw : HostWave) : Db :=
  if ctx.faults (.upsertPending rolloutId hw.hostname) then db
  else
    processRolloutEvent ctx (db.upsertRecord (pendingRecord ctx rolloutId channel hw))
      (.hostJoined rolloutId hw.hostname hw.waveIndex ctx.now)

/-- `open_rollout`: insert the row, supersede the channel's other rollouts, write a `Pending`
record for every host of the manifest. -/
def openRollout (ctx : ApplierCtx) (db : Db) (rolloutId : RolloutId) (channel : ChannelId)
    (targetRef : ChannelRef) : Db :=
  let predecessors : List RolloutId :=
    if ctx.faults (.listActive rolloutId) then []
    else (db.listActive.filter fun r => r.2.channel = channel ∧ r.1 ≠ rolloutId).map Prod.fst
  if ctx.faults (.recordRolloutOpened rolloutId) then db
  else
    let db := (db.recordRolloutOpened rolloutId channel targetRef ctx.now).appendEventLog
      ctx.now none (some rolloutId)
      (.rolloutEvent (.rolloutOpened rolloutId channel targetRef ctx.now))
    let db := predecessors.foldl (fun db predecessor =>
      processRolloutEvent ctx db (.successorOpened predecessor rolloutId ctx.now)) db
    match ctx.manifests.rollouts.lookup channel with
    | none => db
    | some manifest =>
        let db := manifest.hostSet.foldl (openHost ctx rolloutId channel) db
        db.appendEventLog ctx.now none (some rolloutId)
          (.openRollout rolloutId channel targetRef (manifest.hostSet.map (·.hostname)))

/-- `queue_dispatch`. -/
def queueDispatch (ctx : ApplierCtx) (db : Db) (host : HostId) (rollout : RolloutId)
    (targetClosure : ClosureHash) (soakDueAt : Time) : Db :=
  if ctx.faults (.upsertDispatch host rollout) then db
  else
    (db.upsertDispatch ⟨host, rollout, targetClosure, soakDueAt, ctx.now⟩).appendEventLog
      ctx.now (some host) (some rollout) (.queueDispatch host rollout targetClosure soakDueAt)

/-- `apply_plan_action`. -/
def applyPlanAction (ctx : ApplierCtx) (db : Db) : PlanAction → Db
  | .openRollout rid channel targetRef => openRollout ctx db rid channel targetRef
  | .queueDispatch host rid targetClosure soakDueAt =>
      queueDispatch ctx db host rid targetClosure soakDueAt
  | .deferDispatch host rid gate reason =>
      db.appendEventLog ctx.now (some host) (some rid) (.gateDecision gate reason host rid)

end Nixfleet
