import Nixfleet.Rollout.Machine

set_option autoImplicit false

/-!
# The control plane's database

The SQLite tables the runtime reads and writes, and their statements. A statement can fail;
which ones do in a step of the reducer is the step's `Faults`, so a result for every `Faults`
covers every pattern of database errors.
-/

namespace Nixfleet

/-- A row of `rollouts`; its columns are the fields of `RolloutRecord`. -/
abbrev RolloutRow := RolloutRecord

/-- A row of `dispatch_queue`. -/
structure QueuedDispatch where
  hostname : HostId
  rolloutId : RolloutId
  targetClosure : ClosureHash
  soakDueAt : Time
  enqueuedAt : Time
deriving DecidableEq, Repr

/-- A row of `probe_failures`. -/
structure ProbeFailure where
  rolloutId : RolloutId
  hostId : HostId
  probeName : String
  controlId : Option String
  framework : Option String
  observedAt : Time
deriving DecidableEq, Repr

/-- The payload of an event-log row. Its constructor is the row's kind and JSON shape. -/
inductive LogPayload where
  | openRollout (rolloutId : RolloutId) (channel : ChannelId) (targetRef : ChannelRef)
      (hosts : List HostId)
  | queueDispatch (host : HostId) (rollout : RolloutId) (targetClosure : ClosureHash)
      (soakDueAt : Time)
  | gateDecision (gate reason : String) (host : HostId) (rollout : RolloutId)
  | insertQuarantine (channel : ChannelId) (closure : ClosureHash)
  | recordTransition (host : HostId) (rolloutId : RolloutId) (src dst : HostState) (at' : Time)
  | recordRolloutTransition (rolloutId : RolloutId) (src dst : RolloutState) (at' : Time)
  | agentEvent (payload : OutboundAgentEvent)
  | rolloutEvent (event : RolloutEvent)
deriving DecidableEq, Repr

/-- A row of `event_log`; the position in the log is its `seq`. -/
structure EventLogEntry where
  ts : Time
  hostId : Option HostId
  rolloutId : Option RolloutId
  payload : LogPayload
deriving DecidableEq, Repr

/-- The tables. -/
structure Db where
  hostRolloutRecords : Table (RolloutId × HostId) HostRolloutState
  rollouts : Table RolloutId RolloutRow
  quarantinedClosures : Table (ChannelId × ClosureHash) Time
  dispatchQueue : Table (HostId × RolloutId) QueuedDispatch
  probeFailures : List ProbeFailure
  eventLog : List EventLogEntry

/-- A fresh database. -/
def Db.empty : Db := ⟨∅, ∅, ∅, ∅, [], []⟩

/-- The fallible statements of one reducer step, by call site. -/
inductive DbCall where
  | loadRecord (rolloutId : RolloutId) (host : HostId) (seq : Nat)
  | upsertRecord (rolloutId : RolloutId) (host : HostId) (seq : Nat)
  | terminalCheck (rolloutId : RolloutId)
  | insertQuarantine (channel : ChannelId) (closure : ClosureHash)
  | insertProbeFailures (rolloutId : RolloutId) (host : HostId)
  | rolloutState (event : RolloutEvent)
  | recordRolloutTransition (rolloutId : RolloutId) (dst : RolloutState)
  | setCurrentWave (rolloutId : RolloutId) (wave : Nat)
  | listActive (rolloutId : RolloutId)
  | recordRolloutOpened (rolloutId : RolloutId)
  | upsertPending (rolloutId : RolloutId) (host : HostId)
  | upsertDispatch (host : HostId) (rolloutId : RolloutId)
  | allForRollout (rolloutId : RolloutId)
  | rolloutSummary (rolloutId : RolloutId)
  | outstandingFailures
  | activeForHost (host : HostId)
  | loadAfterActivation (rolloutId : RolloutId) (host : HostId)
  | loadForReplay (rolloutId : RolloutId) (host : HostId)
  | bootstrapRecords (host : HostId)
deriving DecidableEq, Repr

/-- The statements that fail. -/
abbrev Faults := DbCall → Bool

/-- No statement fails. -/
def noFaults : Faults := fun _ => false

/-! ## Host records -/

/-- `HostRolloutRecords::upsert`. -/
def Db.upsertRecord (db : Db) (s : HostRolloutState) : Db :=
  { db with hostRolloutRecords := db.hostRolloutRecords.insert (s.rolloutId, s.hostname) s }

/-- `HostRolloutRecords::load`. -/
def Db.loadRecord (db : Db) (rolloutId : RolloutId) (host : HostId) :
    Option HostRolloutState := db.hostRolloutRecords.lookup (rolloutId, host)

/-- `HostRolloutRecords::all_for_rollout`. -/
def Db.allForRollout (db : Db) (rolloutId : RolloutId) : List HostRolloutState :=
  (db.hostRolloutRecords.rows.filter fun r => r.1.1 = rolloutId).map Prod.snd

/-- The states of `active_for_host`. -/
def HostState.isActive (s : HostState) : Bool :=
  s = .pending || s = .activating || s = .deferred || s = .soaking || s = .failed

/-- `HostRolloutRecords::active_for_host`. -/
def Db.activeForHost (db : Db) (host : HostId) : List HostRolloutState :=
  (db.hostRolloutRecords.rows.filter fun r => r.1.2 = host && r.2.state.isActive).map Prod.snd

/-! ## Rollout rows -/

/-- `Rollouts::record_rollout_opened`: `INSERT OR IGNORE`. -/
def Db.recordRolloutOpened (db : Db) (rolloutId : RolloutId) (channel : ChannelId)
    (targetRef : ChannelRef) (openedAt : Time) : Db :=
  if (db.rollouts.lookup rolloutId).isSome then db
  else
    { db with
      rollouts := db.rollouts.insert rolloutId
        ⟨rolloutId, channel, targetRef, .opening, 0, none, none, openedAt, none, none⟩ }

/-- The `SET` clause of `record_rollout_transition`. -/
def RolloutRecord.setState (row : RolloutRow) (dst : RolloutState) (at' : Time) : RolloutRow :=
  if row.state = dst then row
  else
    match dst with
    | .terminal =>
        { row with state := dst, lastTransitionEventLogSeq := none, terminalAt := some at' }
    | .superseded =>
        { row with state := dst, lastTransitionEventLogSeq := none, supersededAt := some at' }
    | dst => { row with state := dst, lastTransitionEventLogSeq := none }

/-- `Rollouts::record_rollout_transition`. -/
def Db.recordRolloutTransition (db : Db) (rolloutId : RolloutId) (dst : RolloutState)
    (at' : Time) : Db :=
  { db with rollouts := db.rollouts.modify rolloutId (·.setState dst at') }

/-- `Rollouts::set_current_wave`: the cursor only moves forward. -/
def Db.setCurrentWave (db : Db) (rolloutId : RolloutId) (wave : Nat) : Db :=
  { db with
    rollouts := db.rollouts.modify rolloutId fun row =>
      if row.currentWave < wave then { row with currentWave := wave } else row }

/-- `Rollouts::list_active`, newest first. -/
def Db.listActive (db : Db) : List (RolloutId × RolloutRow) :=
  (db.rollouts.rows.filter fun r => r.2.state ≠ .superseded ∧ r.2.state ≠ .pruned).insertionSort
    fun a b => b.2.openedAt < a.2.openedAt ∨
      (a.2.openedAt = b.2.openedAt ∧ a.1.asStr ≤ b.1.asStr)

/-- The rows that `prune_finished_rollouts` deletes. -/
def RolloutRecord.isPrunable (row : RolloutRow) (cutoff : Time) : Bool :=
  (row.state = .superseded || row.state = .terminal || row.state = .failed
      || row.state = .reverted) &&
    (row.supersededAt.any (· < cutoff) || row.terminalAt.any (· < cutoff))

/-- `Rollouts::prune_finished_rollouts`: the rows and the host records of their rollouts. -/
def Db.pruneFinishedRollouts (db : Db) (cutoff : Time) : Db :=
  let prunable (rolloutId : RolloutId) : Bool :=
    (db.rollouts.lookup rolloutId).any (·.isPrunable cutoff)
  { db with
    hostRolloutRecords := db.hostRolloutRecords.filterRows fun k _ => !prunable k.1
    rollouts := db.rollouts.filterRows fun k _ => !prunable k }

/-! ## Quarantine, dispatch queue, probe failures, event log -/

/-- `QuarantinedClosures::insert`: `ON CONFLICT DO NOTHING`. -/
def Db.insertQuarantine (db : Db) (channel : ChannelId) (closure : ClosureHash) (now : Time) :
    Db :=
  if (db.quarantinedClosures.lookup (channel, closure)).isSome then db
  else { db with quarantinedClosures := db.quarantinedClosures.insert (channel, closure) now }

/-- `DispatchQueue::upsert`. -/
def Db.upsertDispatch (db : Db) (q : QueuedDispatch) : Db :=
  { db with dispatchQueue := db.dispatchQueue.insert (q.hostname, q.rolloutId) q }

/-- The row `take_for_host` selects: the oldest of the host. `rank` orders the rows of one
timestamp, which the statement leaves open. -/
def Db.nextDispatch (db : Db) (rank : RolloutId → Nat) (host : HostId) : Option QueuedDispatch :=
  (((db.dispatchQueue.rows.filter fun r => r.1.1 = host).map Prod.snd).insertionSort
    fun a b => a.enqueuedAt < b.enqueuedAt ∨
      (a.enqueuedAt = b.enqueuedAt ∧ rank a.rolloutId ≤ rank b.rolloutId)).head?

/-- `DispatchQueue::take_for_host`: the row is deleted. -/
def Db.takeForHost (db : Db) (rank : RolloutId → Nat) (host : HostId) :
    Option QueuedDispatch × Db :=
  match db.nextDispatch rank host with
  | none => (none, db)
  | some q =>
      (some q, { db with dispatchQueue := db.dispatchQueue.erase (q.hostname, q.rolloutId) })

/-- `ProbeFailures::insert_many`. -/
def Db.insertProbeFailures (db : Db) (failures : List ProbeFailure) : Db :=
  { db with probeFailures := db.probeFailures ++ failures }

/-- `outstanding_failing_enforce_probes_by_rollout`: distinct failing controls by rollout
and host. -/
def Db.outstandingFailingEnforceProbes (db : Db) : Table RolloutId (Table HostId Nat) :=
  (db.probeFailures.map fun p => (p.rolloutId, p.hostId)).dedup.foldl (fun out g =>
    let n := ((db.probeFailures.filter fun p => p.rolloutId = g.1 ∧ p.hostId = g.2).map
      fun p => p.controlId.getD p.probeName).dedup.length
    out.insert g.1 (((out.lookup g.1).getD ∅).insert g.2 n)) ∅

/-- `append_event_log`. -/
def Db.appendEventLog (db : Db) (ts : Time) (hostId : Option HostId)
    (rolloutId : Option RolloutId) (payload : LogPayload) : Db :=
  { db with eventLog := db.eventLog ++ [⟨ts, hostId, rolloutId, payload⟩] }

end Nixfleet
