import Nixfleet.ControlPlane.Run

set_option autoImplicit false

/-!
# What the control plane's functions leave alone

Each function of the applier and the reducer touches few tables. The lemmas below name the
tables it does not touch, so that an invariant of one table only looks at the functions that
write it. The quarantine table is only ever inserted into.
-/

namespace Nixfleet

/-- A projection that every step of a fold keeps is kept by the fold. -/
theorem foldl_proj_eq {α β γ : Type*} {op : β → α → β} {f : β → γ}
    (h : ∀ b a, f (op b a) = f b) (l : List α) (b : β) : f (l.foldl op b) = f b := by
  induction l generalizing b with
  | nil => rfl
  | cons a l ih => rw [List.foldl_cons, ih, h]

/-- The dispatch whose queueing a log entry records. -/
def LogPayload.queued : LogPayload → Option (HostId × RolloutId)
  | .queueDispatch host rid _ _ => some (host, rid)
  | _ => none

/-- The agent event that a log entry mirrors. -/
def LogPayload.agentEvent? : LogPayload → Option OutboundAgentEvent
  | .agentEvent payload => some payload
  | _ => none

/-! ## The statements -/

section Statements

variable (db : Db)

@[simp] theorem appendEventLog_hostRolloutRecords (t : Time) (h : Option HostId)
    (r : Option RolloutId) (p : LogPayload) :
    (db.appendEventLog t h r p).hostRolloutRecords = db.hostRolloutRecords := rfl

@[simp] theorem appendEventLog_rollouts (t : Time) (h : Option HostId) (r : Option RolloutId)
    (p : LogPayload) : (db.appendEventLog t h r p).rollouts = db.rollouts := rfl

@[simp] theorem appendEventLog_quarantinedClosures (t : Time) (h : Option HostId)
    (r : Option RolloutId) (p : LogPayload) :
    (db.appendEventLog t h r p).quarantinedClosures = db.quarantinedClosures := rfl

@[simp] theorem appendEventLog_dispatchQueue (t : Time) (h : Option HostId)
    (r : Option RolloutId) (p : LogPayload) :
    (db.appendEventLog t h r p).dispatchQueue = db.dispatchQueue := rfl

@[simp] theorem recordRolloutOpened_hostRolloutRecords (rid : RolloutId) (ch : ChannelId)
    (ref : ChannelRef) (t : Time) :
    (db.recordRolloutOpened rid ch ref t).hostRolloutRecords = db.hostRolloutRecords := by
  unfold Db.recordRolloutOpened
  split <;> rfl

@[simp] theorem recordRolloutOpened_quarantinedClosures (rid : RolloutId) (ch : ChannelId)
    (ref : ChannelRef) (t : Time) :
    (db.recordRolloutOpened rid ch ref t).quarantinedClosures = db.quarantinedClosures := by
  unfold Db.recordRolloutOpened
  split <;> rfl

@[simp] theorem recordRolloutOpened_dispatchQueue (rid : RolloutId) (ch : ChannelId)
    (ref : ChannelRef) (t : Time) :
    (db.recordRolloutOpened rid ch ref t).dispatchQueue = db.dispatchQueue := by
  unfold Db.recordRolloutOpened
  split <;> rfl

@[simp] theorem insertQuarantine_hostRolloutRecords (ch : ChannelId) (c : ClosureHash)
    (t : Time) : (db.insertQuarantine ch c t).hostRolloutRecords = db.hostRolloutRecords := by
  unfold Db.insertQuarantine
  split <;> rfl

@[simp] theorem insertQuarantine_rollouts (ch : ChannelId) (c : ClosureHash) (t : Time) :
    (db.insertQuarantine ch c t).rollouts = db.rollouts := by
  unfold Db.insertQuarantine
  split <;> rfl

@[simp] theorem insertQuarantine_dispatchQueue (ch : ChannelId) (c : ClosureHash) (t : Time) :
    (db.insertQuarantine ch c t).dispatchQueue = db.dispatchQueue := by
  unfold Db.insertQuarantine
  split <;> rfl

/-- Taking a dispatch deletes a row of the queue and touches nothing else. -/
theorem takeForHost_proj {γ : Type*} {f : Db → γ}
    (h : ∀ db q, f { db with dispatchQueue := q } = f db) (rank : RolloutId → Nat)
    (host : HostId) : f (db.takeForHost rank host).2 = f db := by
  unfold Db.takeForHost
  split
  · rfl
  · exact h _ _

@[simp] theorem takeForHost_hostRolloutRecords (rank : RolloutId → Nat) (host : HostId) :
    (db.takeForHost rank host).2.hostRolloutRecords = db.hostRolloutRecords :=
  takeForHost_proj db (f := Db.hostRolloutRecords) (fun _ _ => rfl) rank host

@[simp] theorem takeForHost_rollouts (rank : RolloutId → Nat) (host : HostId) :
    (db.takeForHost rank host).2.rollouts = db.rollouts :=
  takeForHost_proj db (f := Db.rollouts) (fun _ _ => rfl) rank host

@[simp] theorem takeForHost_quarantinedClosures (rank : RolloutId → Nat) (host : HostId) :
    (db.takeForHost rank host).2.quarantinedClosures = db.quarantinedClosures :=
  takeForHost_proj db (f := Db.quarantinedClosures) (fun _ _ => rfl) rank host

end Statements

/-! ## The applier -/

section Applier

variable (ctx : ApplierCtx) (db : Db)

@[simp] theorem applyRolloutEffect_hostRolloutRecords (e : RolloutEffect) :
    (applyRolloutEffect ctx db e).hostRolloutRecords = db.hostRolloutRecords := by
  cases e <;> simp only [applyRolloutEffect] <;> split <;> rfl

@[simp] theorem applyRolloutEffect_quarantinedClosures (e : RolloutEffect) :
    (applyRolloutEffect ctx db e).quarantinedClosures = db.quarantinedClosures := by
  cases e <;> simp only [applyRolloutEffect] <;> split <;> rfl

@[simp] theorem applyRolloutEffect_dispatchQueue (e : RolloutEffect) :
    (applyRolloutEffect ctx db e).dispatchQueue = db.dispatchQueue := by
  cases e <;> simp only [applyRolloutEffect] <;> split <;> rfl

/-- A rollout event touches the rollout rows and the log only. -/
theorem processRolloutEvent_proj {γ : Type*} {f : Db → γ}
    (hlog : ∀ db t h r p, p.queued = none → p.agentEvent? = none →
      f (Db.appendEventLog db t h r p) = f db)
    (heffect : ∀ db e, f (applyRolloutEffect ctx db e) = f db) (e : RolloutEvent) :
    f (processRolloutEvent ctx db e) = f db := by
  unfold processRolloutEvent
  split
  · rfl
  · split
    · rfl
    · dsimp only
      split
      · rw [foldl_proj_eq heffect, hlog _ _ _ _ _ rfl rfl]
      · rw [hlog _ _ _ _ _ rfl rfl]

@[simp] theorem processRolloutEvent_hostRolloutRecords (e : RolloutEvent) :
    (processRolloutEvent ctx db e).hostRolloutRecords = db.hostRolloutRecords :=
  processRolloutEvent_proj ctx db (f := Db.hostRolloutRecords) (by simp) (by simp) e

@[simp] theorem processRolloutEvent_quarantinedClosures (e : RolloutEvent) :
    (processRolloutEvent ctx db e).quarantinedClosures = db.quarantinedClosures :=
  processRolloutEvent_proj ctx db (f := Db.quarantinedClosures) (by simp) (by simp) e

@[simp] theorem processRolloutEvent_dispatchQueue (e : RolloutEvent) :
    (processRolloutEvent ctx db e).dispatchQueue = db.dispatchQueue :=
  processRolloutEvent_proj ctx db (f := Db.dispatchQueue) (by simp) (by simp) e

@[simp] theorem applyEffect_hostRolloutRecords (e : Effect) :
    (applyEffect ctx db e).hostRolloutRecords = db.hostRolloutRecords := by
  cases e <;> simp only [applyEffect] <;> try split
  all_goals first | rfl | simp

@[simp] theorem applyEffect_rollouts (e : Effect) :
    (applyEffect ctx db e).rollouts = db.rollouts := by
  cases e <;> simp only [applyEffect] <;> try split
  all_goals first | rfl | simp

@[simp] theorem applyEffect_dispatchQueue (e : Effect) :
    (applyEffect ctx db e).dispatchQueue = db.dispatchQueue := by
  cases e <;> simp only [applyEffect] <;> try split
  all_goals first | rfl | simp

@[simp] theorem foldl_applyEffect_hostRolloutRecords (effects : List Effect) :
    (effects.foldl (applyEffect ctx) db).hostRolloutRecords = db.hostRolloutRecords :=
  foldl_proj_eq (f := Db.hostRolloutRecords) (applyEffect_hostRolloutRecords ctx) effects db

@[simp] theorem foldl_applyEffect_rollouts (effects : List Effect) :
    (effects.foldl (applyEffect ctx) db).rollouts = db.rollouts :=
  foldl_proj_eq (f := Db.rollouts) (applyEffect_rollouts ctx) effects db

@[simp] theorem openHost_quarantinedClosures (rid : RolloutId) (ch : ChannelId)
    (hw : HostWave) : (openHost ctx rid ch db hw).quarantinedClosures =
      db.quarantinedClosures := by
  unfold openHost
  split
  · rfl
  · rw [processRolloutEvent_quarantinedClosures]
    rfl

@[simp] theorem openHost_dispatchQueue (rid : RolloutId) (ch : ChannelId) (hw : HostWave) :
    (openHost ctx rid ch db hw).dispatchQueue = db.dispatchQueue := by
  unfold openHost
  split
  · rfl
  · rw [processRolloutEvent_dispatchQueue]
    rfl

/-- Opening a rollout keeps what its statements keep. -/
theorem openRollout_proj {γ : Type*} {f : Db → γ}
    (hlog : ∀ db t h r p, p.queued = none → p.agentEvent? = none →
      f (Db.appendEventLog db t h r p) = f db)
    (hopened : ∀ db rid ch ref t, f (Db.recordRolloutOpened db rid ch ref t) = f db)
    (hevent : ∀ db e, f (processRolloutEvent ctx db e) = f db)
    (hhost : ∀ rid ch db hw, f (openHost ctx rid ch db hw) = f db)
    (rid : RolloutId) (ch : ChannelId) (ref : ChannelRef) :
    f (openRollout ctx db rid ch ref) = f db := by
  unfold openRollout
  dsimp only
  split
  · rfl
  · split
    · rw [foldl_proj_eq (fun _ _ => hevent _ _), hlog _ _ _ _ _ rfl rfl, hopened]
    · rw [hlog _ _ _ _ _ rfl rfl, foldl_proj_eq (hhost rid ch),
        foldl_proj_eq (fun _ _ => hevent _ _), hlog _ _ _ _ _ rfl rfl, hopened]

@[simp] theorem openRollout_quarantinedClosures (rid : RolloutId) (ch : ChannelId)
    (ref : ChannelRef) :
    (openRollout ctx db rid ch ref).quarantinedClosures = db.quarantinedClosures :=
  openRollout_proj ctx db (f := Db.quarantinedClosures) (by simp) (by simp) (by simp) (by simp)
    rid ch ref

@[simp] theorem openRollout_dispatchQueue (rid : RolloutId) (ch : ChannelId)
    (ref : ChannelRef) : (openRollout ctx db rid ch ref).dispatchQueue = db.dispatchQueue :=
  openRollout_proj ctx db (f := Db.dispatchQueue) (by simp) (by simp) (by simp) (by simp)
    rid ch ref

@[simp] theorem queueDispatch_hostRolloutRecords (host : HostId) (rid : RolloutId)
    (c : ClosureHash) (due : Time) :
    (queueDispatch ctx db host rid c due).hostRolloutRecords = db.hostRolloutRecords := by
  unfold queueDispatch
  split <;> rfl

@[simp] theorem queueDispatch_rollouts (host : HostId) (rid : RolloutId) (c : ClosureHash)
    (due : Time) : (queueDispatch ctx db host rid c due).rollouts = db.rollouts := by
  unfold queueDispatch
  split <;> rfl

@[simp] theorem queueDispatch_quarantinedClosures (host : HostId) (rid : RolloutId)
    (c : ClosureHash) (due : Time) :
    (queueDispatch ctx db host rid c due).quarantinedClosures = db.quarantinedClosures := by
  unfold queueDispatch
  split <;> rfl

@[simp] theorem applyPlanAction_quarantinedClosures (a : PlanAction) :
    (applyPlanAction ctx db a).quarantinedClosures = db.quarantinedClosures := by
  cases a <;> simp [applyPlanAction]

end Applier

/-! ## The wave bumps -/

section Waves

variable (order : MapOrders) (faults : Faults) (fleet : FleetResolved) (db : Db) (fs : FleetState)

/-- The wave bumps keep what `set_current_wave` keeps. -/
theorem advanceCurrentWaves_proj {γ : Type*} {f : Db → γ}
    (h : ∀ db rid w, f (Db.setCurrentWave db rid w) = f db) :
    f (advanceCurrentWaves order faults fleet db fs).1 = f db := by
  unfold advanceCurrentWaves
  refine (foldl_proj_eq (f := fun acc : Db × FleetState => f acc.1) ?_ _ (db, fs)).trans rfl
  intro acc bump
  dsimp only
  split
  · rfl
  · exact h _ _ _

@[simp] theorem advanceCurrentWaves_hostRolloutRecords :
    (advanceCurrentWaves order faults fleet db fs).1.hostRolloutRecords =
      db.hostRolloutRecords :=
  advanceCurrentWaves_proj order faults fleet db fs (f := Db.hostRolloutRecords) fun _ _ _ => rfl

@[simp] theorem advanceCurrentWaves_quarantinedClosures :
    (advanceCurrentWaves order faults fleet db fs).1.quarantinedClosures =
      db.quarantinedClosures :=
  advanceCurrentWaves_proj order faults fleet db fs (f := Db.quarantinedClosures) fun _ _ _ => rfl

@[simp] theorem advanceCurrentWaves_dispatchQueue :
    (advanceCurrentWaves order faults fleet db fs).1.dispatchQueue = db.dispatchQueue :=
  advanceCurrentWaves_proj order faults fleet db fs (f := Db.dispatchQueue) fun _ _ _ => rfl

/-- The wave bumps do not touch the host states the planner sees. -/
@[simp] theorem advanceCurrentWaves_hostStates :
    (advanceCurrentWaves order faults fleet db fs).2.hostStates = fs.hostStates := by
  unfold advanceCurrentWaves
  refine (foldl_proj_eq (f := fun acc : Db × FleetState => acc.2.hostStates) ?_ _
    (db, fs)).trans rfl
  intro acc bump
  dsimp only
  split <;> rfl

/-- Nor the failing probes. -/
@[simp] theorem advanceCurrentWaves_outstandingFailingEnforceProbes :
    (advanceCurrentWaves order faults fleet db fs).2.outstandingFailingEnforceProbes =
      fs.outstandingFailingEnforceProbes := by
  unfold advanceCurrentWaves
  refine (foldl_proj_eq (f := fun acc : Db × FleetState =>
    acc.2.outstandingFailingEnforceProbes) ?_ _ (db, fs)).trans rfl
  intro acc bump
  dsimp only
  split <;> rfl

end Waves

/-! ## Readings of the log -/

/-- A reading of the log that only the queued dispatches and the agent events in it decide. -/
structure LogReading {γ : Type*} (f : Db → γ) : Prop where
  congr : ∀ {db db' : Db}, db'.eventLog = db.eventLog → f db' = f db
  append : ∀ (db : Db) (t : Time) (h : Option HostId) (r : Option RolloutId) (p : LogPayload),
    p.queued = none → p.agentEvent? = none → f (db.appendEventLog t h r p) = f db

section LogReading

variable {γ : Type*} {f : Db → γ} (hf : LogReading f) (ctx : ApplierCtx) (db : Db)

include hf

theorem LogReading.recorded (rid : RolloutId) (ch : ChannelId) (ref : ChannelRef) (t : Time) :
    f (db.recordRolloutOpened rid ch ref t) = f db := by
  unfold Db.recordRolloutOpened
  split
  · rfl
  · exact hf.congr rfl

theorem LogReading.rolloutEffect (e : RolloutEffect) :
    f (applyRolloutEffect ctx db e) = f db := by
  cases e with
  | recordRolloutTransition rid src dst t =>
      simp only [applyRolloutEffect]
      rw [hf.append _ _ _ _ _ rfl rfl]
      split
      · rfl
      · exact hf.congr rfl
  | updateCurrentWave rid wave =>
      simp only [applyRolloutEffect]
      split
      · rfl
      · exact hf.congr rfl

theorem LogReading.rolloutEvent (e : RolloutEvent) :
    f (processRolloutEvent ctx db e) = f db :=
  processRolloutEvent_proj ctx db hf.append (hf.rolloutEffect ctx) e

/-- An effect of a host event that logs no agent event. -/
theorem LogReading.effect {e : Effect}
    (he : ∀ host rid payload, e ≠ .remoteAppendEventLog host rid payload) :
    f (applyEffect ctx db e) = f db := by
  cases e with
  | remoteInsertQuarantine channel closure =>
      simp only [applyEffect]
      split
      · rfl
      · rw [hf.append _ _ _ _ _ rfl rfl]
        unfold Db.insertQuarantine
        split
        · rfl
        · exact hf.congr rfl
  | remoteAppendEventLog host rid payload => exact absurd rfl (he host rid payload)
  | recordTransition => exact hf.append _ _ _ _ _ rfl rfl
  | localFireSwitch | localFireRollbackTo | localResetProbeCache | localEmitEvent => rfl

theorem LogReading.hostOpened (rid : RolloutId) (ch : ChannelId) (hw : HostWave) :
    f (openHost ctx rid ch db hw) = f db := by
  unfold openHost
  split
  · rfl
  · rw [hf.rolloutEvent]
    exact hf.congr rfl

theorem LogReading.rolloutOpened (rid : RolloutId) (ch : ChannelId) (ref : ChannelRef) :
    f (openRollout ctx db rid ch ref) = f db :=
  openRollout_proj ctx db hf.append hf.recorded (hf.rolloutEvent ctx)
    (fun rid ch db hw => hf.hostOpened ctx db rid ch hw) rid ch ref

end LogReading

end Nixfleet
