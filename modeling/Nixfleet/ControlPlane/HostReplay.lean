import Nixfleet.Host.Contract
import Nixfleet.Host.Replay
import Nixfleet.ControlPlane.Projection
import Nixfleet.ControlPlane.Server

set_option autoImplicit false

/-!
# The host records and the event log

An accepted event is logged together with the transition that it makes. So the events that are
logged for a host, replayed through the host machine, make the moves that are logged beside them
and lead to the host's record, as far as the log can know it (`hosts_rederivable`). The replay
begins with the pending record of a dispatch, which is logged when the dispatch is queued. A
record that is opened a second time begins anew, and the log does not say so
(`unreadRow_not_rederivable`).
-/

namespace Nixfleet

/-! ## Reading the log -/

/-- The payloads that say something of a host's record. -/
def LogPayload.isOfRecord : LogPayload → Bool
  | .queueDispatch .. | .recordTransition .. | .agentEvent _ => true
  | _ => false

/-- The move that a log entry records. -/
def LogPayload.move? : LogPayload → Option (HostState × HostState × Time)
  | .recordTransition _ _ src dst at' => some (src, dst, at')
  | _ => none

/-- The closure and the soak deadline of a dispatch that a log entry records. -/
def LogPayload.dispatch? : LogPayload → Option (ClosureHash × Time)
  | .queueDispatch _ _ closure due => some (closure, due)
  | _ => none

/-- What a log entry says of a host in a rollout. -/
def EventLogEntry.readAs {α : Type} (host : HostId) (rid : RolloutId) (f : LogPayload → Option α)
    (entry : EventLogEntry) : Option α :=
  if entry.hostId = some host ∧ entry.rolloutId = some rid then f entry.payload else none

/-- What the log says of a host in a rollout, oldest first. -/
def Db.logged {α : Type} (db : Db) (host : HostId) (rid : RolloutId) (f : LogPayload → Option α) :
    List α :=
  db.eventLog.filterMap (·.readAs host rid f)

/-- A payload that says something of a host's record. -/
def LogPayload.ofRecord? (p : LogPayload) : Option LogPayload :=
  if p.isOfRecord then some p else none

/-- Nothing is logged of the host's record in the rollout. -/
def Db.Unlogged (db : Db) (host : HostId) (rid : RolloutId) : Prop :=
  ∀ entry ∈ db.eventLog, entry.hostId = some host → entry.rolloutId = some rid →
    entry.payload.isOfRecord = false

/-- The log entry that an effect of a host event makes. -/
def Effect.logEntry? (now : Time) : Effect → Option EventLogEntry
  | .remoteAppendEventLog host rid payload => some ⟨now, some host, some rid, .agentEvent payload⟩
  | .recordTransition host rid src dst at' =>
      some ⟨now, some host, some rid, .recordTransition host rid src dst at'⟩
  | _ => none

section Readings

variable {α : Type} {host : HostId} {rid : RolloutId} {f : LogPayload → Option α} {db : Db}
  {ctx : ApplierCtx}

theorem appliedEvents_eq (db : Db) (host : HostId) (rid : RolloutId) :
    db.appliedEvents host rid = db.logged host rid LogPayload.agentEvent? := rfl

theorem logged_congr {db' : Db} (h : db'.eventLog = db.eventLog) :
    db'.logged host rid f = db.logged host rid f := by
  unfold Db.logged
  rw [h]

theorem logged_appendEventLog (t : Time) (h : Option HostId) (r : Option RolloutId)
    (p : LogPayload) :
    (db.appendEventLog t h r p).logged host rid f =
      db.logged host rid f ++ (EventLogEntry.readAs host rid f ⟨t, h, r, p⟩).toList := by
  unfold Db.logged Db.appendEventLog
  rw [List.filterMap_append]
  cases hentry : EventLogEntry.readAs host rid f ⟨t, h, r, p⟩ <;> simp [hentry]

/-- What is logged of no record is not read. -/
theorem logged_append_of_not_isOfRecord (hf : ∀ p, p.isOfRecord = false → f p = none) (t : Time)
    (h : Option HostId) (r : Option RolloutId) {p : LogPayload} (hp : p.isOfRecord = false) :
    (db.appendEventLog t h r p).logged host rid f = db.logged host rid f := by
  rw [logged_appendEventLog]
  simp [EventLogEntry.readAs, hf p hp]

theorem unlogged_iff : db.Unlogged host rid ↔ db.logged host rid LogPayload.ofRecord? = [] := by
  unfold Db.Unlogged Db.logged
  rw [List.filterMap_eq_nil_iff]
  refine forall₂_congr fun entry _ => ?_
  by_cases hkey : entry.hostId = some host ∧ entry.rolloutId = some rid
  · simp [EventLogEntry.readAs, LogPayload.ofRecord?, hkey]
  · simp only [EventLogEntry.readAs, hkey, if_false, iff_true]
    exact fun hhost hrid => absurd ⟨hhost, hrid⟩ hkey

theorem Db.Unlogged.logged_eq_nil (h : db.Unlogged host rid)
    (hf : ∀ p, p.isOfRecord = false → f p = none) : db.logged host rid f = [] := by
  refine List.filterMap_eq_nil_iff.mpr fun entry hentry => ?_
  unfold EventLogEntry.readAs
  split
  · rename_i hkey
    exact hf _ (h entry hentry hkey.1 hkey.2)
  · rfl

theorem applyRolloutEffect_logged (hf : ∀ p, p.isOfRecord = false → f p = none)
    (e : RolloutEffect) :
    (applyRolloutEffect ctx db e).logged host rid f = db.logged host rid f := by
  cases e with
  | recordRolloutTransition rid' src dst at' =>
      simp only [applyRolloutEffect]
      rw [logged_append_of_not_isOfRecord hf _ _ _ rfl]
      split <;> rfl
  | updateCurrentWave rid' wave =>
      simp only [applyRolloutEffect]
      split <;> rfl

theorem processRolloutEvent_logged (hf : ∀ p, p.isOfRecord = false → f p = none)
    (e : RolloutEvent) :
    (processRolloutEvent ctx db e).logged host rid f = db.logged host rid f := by
  unfold processRolloutEvent
  split
  · rfl
  · split
    · rfl
    · dsimp only
      split
      · rw [foldl_proj_eq (f := fun db : Db => db.logged host rid f)
          (fun db e => applyRolloutEffect_logged hf e)]
        exact logged_append_of_not_isOfRecord hf _ _ _ rfl
      · exact logged_append_of_not_isOfRecord hf _ _ _ rfl

theorem openRollout_logged (hf : ∀ p, p.isOfRecord = false → f p = none) (rid' : RolloutId)
    (channel : ChannelId) (targetRef : ChannelRef) :
    (openRollout ctx db rid' channel targetRef).logged host rid f = db.logged host rid f := by
  refine openRollout_rule (P := fun db' => db'.logged host rid f = db.logged host rid f)
    (fun _ => rfl) (fun _ => ?_) ?_ (fun _ _ _ _ _ hdb => hdb) fun db' hosts hdb => ?_
  · rw [logged_append_of_not_isOfRecord hf _ _ _ rfl]
    unfold Db.recordRolloutOpened
    split <;> rfl
  · intro db' e _ hdb
    rw [processRolloutEvent_logged hf, hdb]
  · rw [logged_append_of_not_isOfRecord hf _ _ _ rfl, hdb]

theorem applyEffect_logged (hf : ∀ p, p.isOfRecord = false → f p = none) (e : Effect) :
    (applyEffect ctx db e).logged host rid f =
      db.logged host rid f ++ ((e.logEntry? ctx.now).bind (·.readAs host rid f)).toList := by
  cases e with
  | remoteInsertQuarantine channel closure =>
      simp only [applyEffect, Effect.logEntry?, Option.bind_none, Option.toList_none,
        List.append_nil]
      split
      · rfl
      · rw [logged_append_of_not_isOfRecord hf _ _ _ rfl]
        unfold Db.insertQuarantine
        split <;> rfl
  | remoteAppendEventLog host' rid' payload =>
      simp only [applyEffect, Effect.logEntry?, Option.bind_some]
      rw [← logged_appendEventLog]
      split <;> rfl
  | recordTransition host' rid' src dst at' =>
      simp only [applyEffect, Effect.logEntry?, Option.bind_some]
      exact logged_appendEventLog ..
  | localFireSwitch | localFireRollbackTo | localResetProbeCache | localEmitEvent =>
      simp [applyEffect, Effect.logEntry?]

theorem foldl_applyEffect_logged (hf : ∀ p, p.isOfRecord = false → f p = none)
    (effects : List Effect) :
    (effects.foldl (applyEffect ctx) db).logged host rid f = db.logged host rid f ++
      effects.filterMap fun e => (e.logEntry? ctx.now).bind (·.readAs host rid f) := by
  induction effects generalizing db with
  | nil => simp
  | cons e effects ih =>
      rw [List.foldl_cons, ih, applyEffect_logged hf, List.append_assoc, List.filterMap_cons]
      cases he : (e.logEntry? ctx.now).bind (·.readAs host rid f) <;> simp

/-- **What an accepted event logs.** The entries of its effects. -/
theorem acceptHostEvent_logged (hf : ∀ p, p.isOfRecord = false → f p = none) (host' : HostId)
    (rid' : RolloutId) (src : HostState) (next : HostRolloutState) (effects : List Effect) :
    (acceptHostEvent ctx db host' rid' src next effects).logged host rid f =
      db.logged host rid f ++
        effects.filterMap fun e => (e.logEntry? ctx.now).bind (·.readAs host rid f) := by
  refine hostStateChanged_rule (P := fun db' : Db => db'.logged host rid f =
    db.logged host rid f ++ effects.filterMap fun e =>
      (e.logEntry? ctx.now).bind (·.readAs host rid f)) ?_ ?_
  · intro db' e _ _ hdb'
    rw [processRolloutEvent_logged hf, hdb']
  · rw [foldl_applyEffect_logged hf]
    rfl

end Readings

/-! ## An accepted event -/

section Accepted

variable {α : Type} {s next : HostRolloutState} {e : Event} {p : RolloutPolicy}
  {effects : List Effect} {effect : Effect} {now : Time}

theorem logEntry?_agentEvent (h : effect.isLocal = false) (now : Time) :
    (effect.logEntry? now).bind (·.payload.agentEvent?) = effect.payload? := by
  cases effect with
  | localEmitEvent => cases h
  | _ => rfl

/-- The entries are about the record that the event moves. -/
theorem hostStep_logEntry (h : hostStep s e p = .ok (next, effects)) (hmem : effect ∈ effects)
    {entry : EventLogEntry} (hentry : effect.logEntry? now = some entry) :
    entry.hostId = some s.hostname ∧ entry.rolloutId = some s.rolloutId := by
  cases effect with
  | remoteAppendEventLog host rid payload =>
      obtain ⟨rfl, rfl, -⟩ := (hostStep_logged h).mp hmem
      cases hentry
      exact ⟨rfl, rfl⟩
  | recordTransition host rid src dst at' =>
      have hmoved : (host, rid, src, dst) ∈ effects.filterMap Effect.transition? :=
        List.mem_filterMap.mpr ⟨_, hmem, rfl⟩
      rw [(hostStep_effects h).transition] at hmoved
      split at hmoved
      · cases hmoved
      · cases List.mem_singleton.mp hmoved
        cases hentry
        exact ⟨rfl, rfl⟩
  | _ => cases hentry

/-- What is logged of a host in a rollout is logged of the record's only. -/
theorem hostStep_readAs (h : hostStep s e p = .ok (next, effects)) (host : HostId)
    (rid : RolloutId) (f : LogPayload → Option α) :
    effects.filterMap (fun effect => (effect.logEntry? now).bind (·.readAs host rid f)) =
      if host = s.hostname ∧ rid = s.rolloutId then
        effects.filterMap fun effect => (effect.logEntry? now).bind fun entry => f entry.payload
      else [] := by
  split
  · rename_i hkey
    refine List.filterMap_congr fun effect hmem => ?_
    cases hentry : effect.logEntry? now with
    | none => rfl
    | some entry =>
        obtain ⟨hhost, hrid⟩ := hostStep_logEntry h hmem hentry
        simp [EventLogEntry.readAs, hhost, hrid, hkey]
  · rename_i hkey
    refine List.filterMap_eq_nil_iff.mpr fun effect hmem => ?_
    cases hentry : effect.logEntry? now with
    | none => rfl
    | some entry =>
        obtain ⟨hhost, hrid⟩ := hostStep_logEntry h hmem hentry
        have hother : ¬ (s.hostname = host ∧ s.rolloutId = rid) :=
          fun hsame => hkey ⟨hsame.1.symm, hsame.2.symm⟩
        simp [EventLogEntry.readAs, hhost, hrid, hother]

/-- A remote event logs itself. -/
theorem hostStep_loggedEvents (h : hostStep s e p = .ok (next, effects))
    (hremote : e.isLocal = false) :
    effects.filterMap (fun effect =>
      (effect.logEntry? now).bind fun entry => entry.payload.agentEvent?) = e.logged?.toList := by
  have hspec := hostStep_effects h
  have hpayloads : effects.filterMap (fun effect =>
      (effect.logEntry? now).bind fun entry => entry.payload.agentEvent?) =
      effects.filterMap Effect.payload? :=
    List.filterMap_congr fun effect hmem =>
      logEntry?_agentEvent (hspec.remoteSide hremote effect hmem) now
  have hnone : e.payload? = none := by
    have hsome := payload?_isSome e
    rw [hremote] at hsome
    exact Option.isNone_iff_eq_none.mp (Option.isSome_eq_false_iff.mp hsome)
  rw [hpayloads, hspec.payload, hnone, Option.none_or]

end Accepted

/-! ## The invariant -/

/-- The pending record as which a record was opened. -/
def HostRolloutState.opened (r : HostRolloutState) : HostRolloutState :=
  { HostRolloutState.newPending r.rolloutId r.hostname r.channel r.targetClosure r.dispatchedAt 0
    with soakDueAt := r.soakDueAt }

/-- What the log says of a record, replayed from the pending one, gives the record. -/
structure Db.Rederives (db : Db) (r : HostRolloutState) : Prop where
  replays : Replays r.opened (db.appliedEvents r.hostname r.rolloutId)
    (db.logged r.hostname r.rolloutId LogPayload.move?) r
  dispatched : ∀ dispatch ∈ db.logged r.hostname r.rolloutId LogPayload.dispatch?,
    dispatch.1 = r.targetClosure ∧ some dispatch.2 = r.soakDueAt

/-- What every step keeps between the records and the log. -/
structure Db.HostsReplayed (db : Db) : Prop where
  keyed : db.RecordsKeyed
  soaked : ∀ rid host r, db.loadRecord rid host = some r → r.soakDueAt.isSome = true
  rederives : ∀ rid host r, db.loadRecord rid host = some r → db.Rederives r

section Invariant

variable {db db' : Db} {ctx : ApplierCtx} {host : HostId} {rid : RolloutId}
  {r : HostRolloutState}

theorem agentEvent?_of_not_isOfRecord (p : LogPayload) (h : p.isOfRecord = false) :
    p.agentEvent? = none := by
  cases p <;> first | rfl | cases h

theorem move?_of_not_isOfRecord (p : LogPayload) (h : p.isOfRecord = false) : p.move? = none := by
  cases p <;> first | rfl | cases h

theorem dispatch?_of_not_isOfRecord (p : LogPayload) (h : p.isOfRecord = false) :
    p.dispatch? = none := by
  cases p <;> first | rfl | cases h

/-- A record of which the log says the same as before. -/
theorem Db.Rederives.of_logged (h : db.Rederives r)
    (hsame : ∀ {α : Type} (f : LogPayload → Option α), (∀ p, p.isOfRecord = false → f p = none) →
      db'.logged r.hostname r.rolloutId f = db.logged r.hostname r.rolloutId f) :
    db'.Rederives r := by
  have hevents := hsame _ agentEvent?_of_not_isOfRecord
  have hmoves := hsame _ move?_of_not_isOfRecord
  have hdispatches := hsame _ dispatch?_of_not_isOfRecord
  refine ⟨?_, ?_⟩
  · rw [appliedEvents_eq, hevents, hmoves]
    exact h.replays
  · rw [hdispatches]
    exact h.dispatched

/-- A fresh record of which nothing is logged. -/
theorem rederives_pendingRecord {channel : ChannelId} {hw : HostWave}
    (h : db.Unlogged hw.hostname rid) : db.Rederives (pendingRecord ctx rid channel hw) := by
  have hevents : db.appliedEvents hw.hostname rid = [] :=
    h.logged_eq_nil agentEvent?_of_not_isOfRecord
  have hmoves := h.logged_eq_nil move?_of_not_isOfRecord
  have hdispatches := h.logged_eq_nil dispatch?_of_not_isOfRecord
  refine ⟨?_, ?_⟩
  · show Replays _ (db.appliedEvents hw.hostname rid) (db.logged hw.hostname rid LogPayload.move?) _
    rw [hevents, hmoves]
    exact .nil rfl
  · intro dispatch hmem
    change dispatch ∈ db.logged hw.hostname rid LogPayload.dispatch? at hmem
    rw [hdispatches] at hmem
    cases hmem

theorem Db.HostsReplayed.of_same (h : db.HostsReplayed)
    (hrecords : ∀ rid host r, db'.loadRecord rid host = some r → db.loadRecord rid host = some r)
    (hlog : ∀ {α : Type} host rid (f : LogPayload → Option α),
      (∀ p, p.isOfRecord = false → f p = none) →
        db'.logged host rid f = db.logged host rid f) : db'.HostsReplayed := by
  refine ⟨fun rid host r hr => h.keyed rid host r (hrecords rid host r hr),
    fun rid host r hr => h.soaked rid host r (hrecords rid host r hr), fun rid host r hr => ?_⟩
  exact (h.rederives rid host r (hrecords rid host r hr)).of_logged fun f hf => hlog _ _ f hf

end Invariant

/-! ## A plan tick -/

/-- What holds before every action of a tick. -/
structure TickReplayed (cs : List Candidate) (actions : List PlanAction) (db : Db) : Prop where
  replayed : db.HostsReplayed
  stored : ∀ c ∈ cs, db.loadRecord c.rolloutId c.host = some c.record
  unlogged : ∀ rid channel targetRef, .openRollout rid channel targetRef ∈ actions →
    ∀ host, db.Unlogged host rid

section Tick

variable {α : Type} {ctx : ApplierCtx} {db : Db} {host : HostId} {rid : RolloutId}
  {cs : List Candidate} {actions : List PlanAction}

/-- Queueing a dispatch is logged of its host in its rollout. -/
theorem queueDispatch_logged (ctx : ApplierCtx) (db : Db) (f : LogPayload → Option α)
    (host' : HostId) (rid' : RolloutId) (closure : ClosureHash) (due : Time) :
    (queueDispatch ctx db host' rid' closure due).logged host rid f = db.logged host rid f ∨
      (host = host' ∧ rid = rid') ∧
        (queueDispatch ctx db host' rid' closure due).logged host rid f =
          db.logged host rid f ++ (f (.queueDispatch host' rid' closure due)).toList := by
  unfold queueDispatch
  split
  · exact .inl rfl
  · rw [logged_appendEventLog]
    by_cases hkey : host = host' ∧ rid = rid'
    · obtain ⟨rfl, rfl⟩ := hkey
      exact .inr ⟨⟨rfl, rfl⟩, by simp [EventLogEntry.readAs, Db.logged, Db.upsertDispatch]⟩
    · left
      have hnot : ¬ (host' = host ∧ rid' = rid) := fun h => hkey ⟨h.1.symm, h.2.symm⟩
      simp [EventLogEntry.readAs, hnot, Db.logged, Db.upsertDispatch]

theorem TickReplayed.openRollout (h : TickReplayed cs actions db) {rid' : RolloutId}
    {channel : ChannelId} {targetRef : ChannelRef}
    (hmem : .openRollout rid' channel targetRef ∈ actions) (hcs : ∀ c ∈ cs, c.rolloutId ≠ rid') :
    TickReplayed cs actions (openRollout ctx db rid' channel targetRef) := by
  have hunlogged : ∀ host rid, db.Unlogged host rid →
      (Nixfleet.openRollout ctx db rid' channel targetRef).Unlogged host rid := by
    intro host rid hnone
    rw [unlogged_iff, openRollout_logged (fun p hp => by simp [LogPayload.ofRecord?, hp])]
    exact unlogged_iff.mp hnone
  refine ⟨⟨?_, ?_, ?_⟩, ?_, ?_⟩
  · intro rid host r hr
    rcases openRollout_record hr with hold | ⟨rfl, -, -, -, -, hw, -, rfl, rfl⟩
    · exact h.replayed.keyed rid host r hold
    · exact ⟨rfl, rfl⟩
  · intro rid host r hr
    rcases openRollout_record hr with hold | ⟨-, -, -, -, -, hw, -, -, rfl⟩
    · exact h.replayed.soaked rid host r hold
    · rfl
  · intro rid host r hr
    rcases openRollout_record hr with hold | ⟨rfl, -, -, -, -, hw, -, rfl, rfl⟩
    · exact (h.replayed.rederives rid host r hold).of_logged fun f hf =>
        openRollout_logged hf rid' channel targetRef
    · exact rederives_pendingRecord
        (hunlogged _ _ (h.unlogged rid channel targetRef hmem hw.hostname))
  · intro c hc
    rw [openRollout_loadRecord_of_ne (hcs c hc)]
    exact h.stored c hc
  · intro rid channel₁ targetRef₁ hmem₁ host
    exact hunlogged host rid (h.unlogged rid channel₁ targetRef₁ hmem₁ host)

theorem TickReplayed.queueDispatch (h : TickReplayed cs actions db) {c : Candidate} (hc : c ∈ cs)
    (hopen : ∀ rid channel targetRef, .openRollout rid channel targetRef ∈ actions →
      c.rolloutId ≠ rid) (now : Time) :
    TickReplayed cs actions (queueDispatch ctx db c.host c.rolloutId c.record.targetClosure
      (c.record.soakDueAt.getD now)) := by
  have hstored := h.stored c hc
  have hsame : ∀ rid host, (Nixfleet.queueDispatch ctx db c.host c.rolloutId
      c.record.targetClosure (c.record.soakDueAt.getD now)).loadRecord rid host =
      db.loadRecord rid host := fun rid host => loadRecord_congr (by simp) rid host
  refine ⟨⟨?_, ?_, ?_⟩, ?_, ?_⟩
  · intro rid host r hr
    exact h.replayed.keyed rid host r (hsame rid host ▸ hr)
  · intro rid host r hr
    exact h.replayed.soaked rid host r (hsame rid host ▸ hr)
  · intro rid host r hr
    rw [hsame] at hr
    have hold := h.replayed.rederives rid host r hr
    obtain ⟨rfl, rfl⟩ := h.replayed.keyed rid host r hr
    -- the dispatch says nothing of events and moves
    have hkept : ∀ {α : Type} (f : LogPayload → Option α),
        f (.queueDispatch c.host c.rolloutId c.record.targetClosure
          (c.record.soakDueAt.getD now)) = none →
        (Nixfleet.queueDispatch ctx db c.host c.rolloutId c.record.targetClosure
          (c.record.soakDueAt.getD now)).logged r.hostname r.rolloutId f =
            db.logged r.hostname r.rolloutId f := by
      intro α f hnone
      rcases queueDispatch_logged ctx db f c.host c.rolloutId
        c.record.targetClosure (c.record.soakDueAt.getD now) with hlog | ⟨-, hlog⟩
      · exact hlog
      · rw [hlog, hnone, Option.toList_none, List.append_nil]
    refine ⟨?_, fun dispatch hdispatch => ?_⟩
    · rw [appliedEvents_eq, hkept _ rfl, hkept _ rfl]
      exact hold.replays
    · rcases queueDispatch_logged ctx db LogPayload.dispatch? c.host c.rolloutId
        c.record.targetClosure (c.record.soakDueAt.getD now) with hlog | ⟨hkey, hlog⟩
      · rw [hlog] at hdispatch
        exact hold.dispatched dispatch hdispatch
      · rw [hlog, List.mem_append] at hdispatch
        rcases hdispatch with hbefore | hnew
        · exact hold.dispatched dispatch hbefore
        · -- the dispatch is the candidate's, whose record is this one
          rw [hkey.1, hkey.2, hstored] at hr
          cases hr
          obtain ⟨due, hdue⟩ := Option.isSome_iff_exists.mp (h.replayed.soaked _ _ _ hstored)
          cases List.mem_singleton.mp hnew
          exact ⟨rfl, by simp [hdue]⟩
  · intro c' hc'
    rw [hsame]
    exact h.stored c' hc'
  · intro rid channel targetRef hmem host
    rw [unlogged_iff]
    rcases queueDispatch_logged ctx db LogPayload.ofRecord? c.host
      c.rolloutId c.record.targetClosure (c.record.soakDueAt.getD now) with hlog | ⟨hkey, -⟩
    · rw [hlog]
      exact unlogged_iff.mp (h.unlogged rid channel targetRef hmem host)
    · exact absurd hkey.2.symm (hopen rid channel targetRef hmem)

theorem TickReplayed.of_logged {db' : Db} (h : TickReplayed cs actions db)
    (hrecords : db'.hostRolloutRecords = db.hostRolloutRecords)
    (hlog : ∀ {α : Type} host rid (f : LogPayload → Option α),
      (∀ p, p.isOfRecord = false → f p = none) →
        db'.logged host rid f = db.logged host rid f) : TickReplayed cs actions db' := by
  have hload : ∀ rid host, db'.loadRecord rid host = db.loadRecord rid host :=
    loadRecord_congr hrecords
  refine ⟨h.replayed.of_same (fun rid host r hr => hload rid host ▸ hr) hlog, ?_, ?_⟩
  · intro c hc
    rw [hload]
    exact h.stored c hc
  · intro rid channel targetRef hmem host
    rw [unlogged_iff, hlog _ _ _ (fun p hp => by simp [LogPayload.ofRecord?, hp])]
    exact unlogged_iff.mp (h.unlogged rid channel targetRef hmem host)

end Tick

/-! ## Runs -/

/-- The log gives back every record: from the pending one, and, once a dispatch is logged, from
what is logged of the dispatch alone. -/
def Db.HostsRederivable (db : Db) : Prop :=
  ∀ rid host r, db.loadRecord rid host = some r →
    Replays r.opened (db.appliedEvents host rid) (db.logged host rid LogPayload.move?) r ∧
    ∀ dispatch ∈ db.logged host rid LogPayload.dispatch?,
      Replays (.newPending rid "" "" dispatch.1 0 dispatch.2) (db.appliedEvents host rid)
        (db.logged host rid LogPayload.move?) r

theorem Db.HostsReplayed.rederivable {db : Db} (h : db.HostsReplayed) : db.HostsRederivable := by
  intro rid host r hr
  have hr' := h.rederives rid host r hr
  obtain ⟨rfl, rfl⟩ := h.keyed rid host r hr
  refine ⟨hr'.replays, fun dispatch hdispatch => hr'.replays.of_progress ?_⟩
  obtain ⟨hclosure, hdue⟩ := hr'.dispatched dispatch hdispatch
  simp only [HostRolloutState.opened, HostRolloutState.progress, HostRolloutState.newPending,
    hclosure, hdue]

/-- The host acknowledges its dispatch. -/
def ackedServer : List ServerInput :=
  openedServer ++ [.plain .planTicker, postedBy "host" (.dispatchAck "old" 1 1), .plain .recv]

/-- A tick that fails to read the rollout's row takes the rollout for unopened. -/
def unreadRow : ServerInput :=
  { ServerInput.plain .planTicker with
    faults := fun call => call = .rolloutSummary (.new "stable" "r1") }

set_option maxRecDepth 4000 in
/-- The record is pending again, and the log does not say so. -/
theorem unreadRow_not_rederivable :
    ¬ (serverMachine.run .initial (ackedServer ++ [unreadRow])).cp.db.HostsRederivable := by
  intro h
  have hprogress := (h (.new "stable" "r1") "host" _ rfl).1.progress
  have hstate := congrArg HostRolloutState.state hprogress
  revert hstate
  decide

end Nixfleet
