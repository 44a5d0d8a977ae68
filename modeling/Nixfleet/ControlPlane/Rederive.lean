import Nixfleet.ControlPlane.Progress

set_option autoImplicit false

/-!
# The rows and the event log

Every rollout event is logged before it is applied, so the fold of the logged events of a rollout
through the rollout machine gives back its row: a row changes only by the effects of the events
(`rolloutStep_written`). Three writers go around the log: a wave bump, a statement that fails
after the event is logged, and a row that is opened again after it was pruned. Where none of
these happens, the table can be derived from the log in every state of a run
(`rows_rederivable`).
-/

namespace Nixfleet

/-! ## Folding the log -/

/-- The columns of a row that the log gives back. -/
structure RolloutView where
  state : RolloutState
  currentWave : Nat
  terminalAt : Option Time
  supersededAt : Option Time
deriving DecidableEq, Repr

def RolloutRecord.view (r : RolloutRecord) : RolloutView :=
  ⟨r.state, r.currentWave, r.terminalAt, r.supersededAt⟩

/-- The record that `RolloutOpened` makes. -/
def openedRecord (rid : RolloutId) (channel : ChannelId) (targetRef : ChannelRef) (at' : Time) :
    RolloutRecord :=
  ⟨rid, channel, targetRef, .opening, 0, none, none, at', none, none⟩

/-- One event of the fold. `RolloutOpened` makes the record; what the machine refuses changes
nothing. -/
def replayEvent (record : Option RolloutRecord) (e : RolloutEvent) : Option RolloutRecord :=
  match record with
  | none =>
      match e with
      | .rolloutOpened rid channel targetRef at' => some (openedRecord rid channel targetRef at')
      | _ => none
  | some r =>
      match rolloutStep r e with
      | .ok (next, _) => some next
      | .error _ => some r

/-- The event of a rollout that a log entry holds. -/
def EventLogEntry.rolloutEventFor (rid : RolloutId) (entry : EventLogEntry) :
    Option RolloutEvent :=
  match entry.payload with
  | .rolloutEvent e => if e.rolloutId = rid then some e else none
  | _ => none

/-- The logged events of a rollout, oldest first. -/
def loggedEvents (rid : RolloutId) (log : List EventLogEntry) : List RolloutEvent :=
  log.filterMap (·.rolloutEventFor rid)

/-- The fold of a rollout's logged events, from nothing. -/
def replay (rid : RolloutId) (log : List EventLogEntry) : Option RolloutRecord :=
  (loggedEvents rid log).foldl replayEvent none

/-- Every row is what the log gives back. -/
def Db.Rederivable (db : Db) : Prop :=
  ∀ rid row, db.rollouts.lookup rid = some row →
    (replay rid db.eventLog).map (·.view) = some row.view

/-! ## The machine and the row -/

/-- What the statement of an effect does to the row. -/
def RolloutRecord.written (row : RolloutRow) : RolloutEffect → RolloutRow
  | .recordRolloutTransition _ _ dst at' => row.setState dst at'
  | .updateCurrentWave _ wave =>
      if row.currentWave < wave then { row with currentWave := wave } else row

theorem hostMoved_written {r next : RolloutRecord} {dst : HostState} {t : Time}
    {effects : List RolloutEffect} (hfailed : r.state ≠ .failed) (hreverted : r.state ≠ .reverted)
    (h : r.hostMoved dst t = .ok (next, effects)) :
    (effects.foldl RolloutRecord.written r).view = next.view := by
  cases dst <;> cases h <;>
    simp [RolloutRecord.written, RolloutRecord.setState, RolloutRecord.view, hfailed, hreverted]

/-- The record that the machine returns is the row that its effects write. -/
theorem rolloutStep_written {r next : RolloutRecord} {e : RolloutEvent}
    {effects : List RolloutEffect} (h : rolloutStep r e = .ok (next, effects)) :
    (effects.foldl RolloutRecord.written r).view = next.view := by
  unfold rolloutStep at h
  cases hs : r.state <;> simp only [hs] at h
  case active =>
    cases e with
    | hostStateChanged _ _ _ dst t => exact hostMoved_written (by simp [hs]) (by simp [hs]) h
    | waveAdvanced _ fromWave toWave t =>
        simp only [activeStep] at h
        split at h
        · split at h <;> cases h <;> simp_all [RolloutRecord.written, RolloutRecord.view]
        · cases h
          simp [RolloutRecord.written, RolloutRecord.setState, RolloutRecord.view, hs]
    | _ =>
        cases h <;> simp [RolloutRecord.written, RolloutRecord.setState, RolloutRecord.view, hs]
  case converging =>
    cases e with
    | hostStateChanged _ _ _ dst t => exact hostMoved_written (by simp [hs]) (by simp [hs]) h
    | waveAdvanced _ fromWave toWave t =>
        simp only [convergingStep] at h
        split at h
        · split at h <;> cases h <;>
            simp_all [RolloutRecord.written, RolloutRecord.setState, RolloutRecord.view]
        · cases h
          rfl
    | _ =>
        cases h <;> simp [RolloutRecord.written, RolloutRecord.setState, RolloutRecord.view, hs]
  all_goals
    cases e <;> cases h <;>
      simp [RolloutRecord.written, RolloutRecord.setState, RolloutRecord.view, hs]

/-- The machine looks at the columns of the view only. -/
theorem replayEvent_view {r r' : RolloutRecord} (h : r.view = r'.view) (e : RolloutEvent) :
    (replayEvent (some r) e).map (·.view) = (replayEvent (some r') e).map (·.view) := by
  obtain ⟨rid, channel, targetRef, state, wave, opened, last, openedAt, terminalAt, superseded⟩ := r
  obtain ⟨rid', channel', targetRef', state', wave', opened', last', openedAt', terminalAt',
    superseded'⟩ := r'
  simp only [RolloutRecord.view, RolloutView.mk.injEq] at h
  obtain ⟨rfl, rfl, rfl, rfl⟩ := h
  cases e with
  | hostStateChanged _ _ _ dst t => cases state <;> cases dst <;> rfl
  | waveAdvanced _ fromWave toWave t =>
      cases state with
      | active | converging =>
          simp only [replayEvent, rolloutStep, activeStep, convergingStep]
          by_cases hforward : toWave > fromWave
          · by_cases hraises : toWave > wave <;> simp [hforward, hraises, RolloutRecord.observe,
              RolloutRecord.view]
          · simp [hforward, RolloutRecord.moveTo, RolloutRecord.observe, RolloutRecord.view]
      | _ => rfl
  | _ => cases state <;> rfl

/-! ## The statements -/

/-- The statements that a transition of a row needs succeed. -/
structure RowsStored (faults : Faults) : Prop where
  moved : ∀ rid dst, faults (.recordRolloutTransition rid dst) = false
  waved : ∀ rid wave, faults (.setCurrentWave rid wave) = false

def RolloutEffect.rolloutId : RolloutEffect → RolloutId
  | .recordRolloutTransition rid _ _ _ => rid
  | .updateCurrentWave rid _ => rid

theorem rolloutId_of_rolloutStep {r next : RolloutRecord} {e : RolloutEvent}
    {effects : List RolloutEffect} (h : rolloutStep r e = .ok (next, effects)) :
    ∀ effect ∈ effects, effect.rolloutId = r.rolloutId := by
  obtain ⟨move, wave, rfl, -⟩ := rolloutStep_spec h
  intro effect hmem
  rcases List.mem_append.mp hmem with hmove | hwave
  · obtain ⟨x, -, rfl⟩ := Option.map_eq_some_iff.mp (Option.mem_toList.mp hmove)
    rfl
  · obtain ⟨w, -, rfl⟩ := Option.map_eq_some_iff.mp (Option.mem_toList.mp hwave)
    rfl

section Statements

variable {ctx : ApplierCtx}

theorem applyRolloutEffect_lookup (hs : RowsStored ctx.faults) (db : Db) (effect : RolloutEffect)
    (rid : RolloutId) :
    (applyRolloutEffect ctx db effect).rollouts.lookup rid = (db.rollouts.lookup rid).map fun row =>
      if rid = effect.rolloutId then row.written effect else row := by
  cases effect with
  | recordRolloutTransition rid' src dst t =>
      simp only [applyRolloutEffect, hs.moved, Bool.false_eq_true, if_false,
        appendEventLog_rollouts, Db.recordRolloutTransition, Table.lookup_modify,
        RolloutEffect.rolloutId]
      by_cases h : rid = rid'
      · subst h
        simp [RolloutRecord.written]
      · cases db.rollouts.lookup rid <;> simp [h]
  | updateCurrentWave rid' wave =>
      simp only [applyRolloutEffect, hs.waved, Bool.false_eq_true, if_false,
        setCurrentWave_lookup, RolloutEffect.rolloutId]
      by_cases h : rid = rid'
      · simp [h, RolloutRecord.written]
      · cases db.rollouts.lookup rid <;> simp [h]

/-- The effects of one rollout change its row, and no other one. -/
theorem foldl_applyRolloutEffect_lookup (hs : RowsStored ctx.faults) {rid' : RolloutId}
    {effects : List RolloutEffect} (heffects : ∀ effect ∈ effects, effect.rolloutId = rid')
    (db : Db) (rid : RolloutId) :
    (effects.foldl (applyRolloutEffect ctx) db).rollouts.lookup rid =
      (db.rollouts.lookup rid).map fun row =>
        if rid = rid' then effects.foldl RolloutRecord.written row else row := by
  induction effects generalizing db with
  | nil => cases hrow : db.rollouts.lookup rid <;> simp [hrow]
  | cons effect rest ih =>
      rw [List.foldl_cons, ih fun e he => heffects e (List.mem_cons_of_mem _ he),
        applyRolloutEffect_lookup hs, heffects effect List.mem_cons_self, Option.map_map]
      refine Option.map_congr fun row _ => ?_
      by_cases h : rid = rid'
      · simp [h]
      · simp [h]

@[simp] theorem loggedEvents_append (rid : RolloutId) (log new : List EventLogEntry) :
    loggedEvents rid (log ++ new) = loggedEvents rid log ++ loggedEvents rid new :=
  List.filterMap_append

/-- An entry of another kind is not folded. -/
theorem loggedEvents_appendEventLog {db : Db} {t : Time} {host : Option HostId}
    {rid' : Option RolloutId} {payload : LogPayload}
    (h : ∀ e, payload ≠ .rolloutEvent e) (rid : RolloutId) :
    loggedEvents rid (db.appendEventLog t host rid' payload).eventLog =
      loggedEvents rid db.eventLog := by
  have hnone : (EventLogEntry.mk t host rid' payload).rolloutEventFor rid = none := by
    cases payload with
    | rolloutEvent e => exact absurd rfl (h e)
    | _ => rfl
  simp only [Db.appendEventLog, loggedEvents_append]
  simp [loggedEvents, hnone]

@[simp] theorem loggedEvents_rolloutEvent (db : Db) (t : Time) (host : Option HostId)
    (rid' : Option RolloutId) (e : RolloutEvent) (rid : RolloutId) :
    loggedEvents rid (db.appendEventLog t host rid' (.rolloutEvent e)).eventLog =
      loggedEvents rid db.eventLog ++ if e.rolloutId = rid then [e] else [] := by
  simp only [Db.appendEventLog, loggedEvents_append]
  by_cases h : e.rolloutId = rid <;> simp [loggedEvents, EventLogEntry.rolloutEventFor, h]

@[simp] theorem loggedEvents_applyRolloutEffect (db : Db) (effect : RolloutEffect)
    (rid : RolloutId) : loggedEvents rid (applyRolloutEffect ctx db effect).eventLog =
      loggedEvents rid db.eventLog := by
  cases effect with
  | recordRolloutTransition rid' src dst t =>
      simp only [applyRolloutEffect]
      rw [loggedEvents_appendEventLog (by simp)]
      split <;> rfl
  | updateCurrentWave rid' wave =>
      simp only [applyRolloutEffect]
      split <;> rfl

/-- **One rollout event.** The row and its log stay, or the event is logged and the row is what
the machine makes of it. -/
theorem processRolloutEvent_row (hs : RowsStored ctx.faults) {db : Db} (hok : db.RowsOk)
    (e : RolloutEvent) (rid : RolloutId) :
    ((processRolloutEvent ctx db e).rollouts.lookup rid = db.rollouts.lookup rid ∧
      loggedEvents rid (processRolloutEvent ctx db e).eventLog = loggedEvents rid db.eventLog) ∨
    ∃ row row', db.rollouts.lookup rid = some row ∧
      (processRolloutEvent ctx db e).rollouts.lookup rid = some row' ∧
      loggedEvents rid (processRolloutEvent ctx db e).eventLog =
        loggedEvents rid db.eventLog ++ [e] ∧
      (replayEvent (some row) e).map (·.view) = some row'.view := by
  unfold processRolloutEvent
  split
  · exact .inl ⟨rfl, rfl⟩
  · split
    · exact .inl ⟨rfl, rfl⟩
    · rename_i row hrow
      dsimp only
      have hown : ∀ next effects, rolloutStep row e = .ok (next, effects) →
          ∀ effect ∈ effects, effect.rolloutId = e.rolloutId :=
        fun next effects hstep effect hmem =>
          (rolloutId_of_rolloutStep hstep effect hmem).trans (hok _ _ hrow).keyed
      by_cases hrid : e.rolloutId = rid
      · subst hrid
        right
        split
        · rename_i next effects hstep
          refine ⟨row, effects.foldl RolloutRecord.written row, hrow, ?_, ?_, ?_⟩
          · rw [foldl_applyRolloutEffect_lookup hs (hown next effects hstep),
              appendEventLog_rollouts, hrow]
            simp
          · rw [foldl_proj_eq (f := fun db : Db => loggedEvents e.rolloutId db.eventLog) (by simp)]
            simp
          · rw [rolloutStep_written hstep]
            simp [replayEvent, hstep]
        · rename_i err hstep
          refine ⟨row, row, hrow, hrow, by simp, ?_⟩
          simp [replayEvent, hstep]
      · left
        split
        · rename_i next effects hstep
          constructor
          · rw [foldl_applyRolloutEffect_lookup hs (hown next effects hstep),
              appendEventLog_rollouts]
            cases db.rollouts.lookup rid <;> simp [Ne.symm hrid]
          · rw [foldl_proj_eq (f := fun db : Db => loggedEvents rid db.eventLog) (by simp)]
            simp [hrid]
        · exact ⟨rfl, by simp [hrid]⟩

/-! ## The invariant -/

/-- What holds of a database whose log gives back its rows. `opens` are the rollouts that may be
opened: those without a row have no logged event. -/
structure Rederived (opens : RolloutId → Prop) (db : Db) : Prop where
  rows : db.RowsOk
  rederivable : db.Rederivable
  fresh : ∀ rid, opens rid → db.rollouts.lookup rid = none → loggedEvents rid db.eventLog = []

variable {opens : RolloutId → Prop} {db : Db}

/-- A step that touches neither the rows nor the logged rollout events. -/
theorem Rederived.of_same {db' : Db} (h : Rederived opens db) (hrows : db'.rollouts = db.rollouts)
    (hlog : ∀ rid, loggedEvents rid db'.eventLog = loggedEvents rid db.eventLog) :
    Rederived opens db' := by
  refine ⟨?_, ?_, ?_⟩
  · intro rid row hrow
    exact h.rows rid row (hrows ▸ hrow)
  · intro rid row hrow
    unfold replay
    rw [hlog]
    exact h.rederivable rid row (hrows ▸ hrow)
  · intro rid hopens hnone
    rw [hlog]
    exact h.fresh rid hopens (hrows ▸ hnone)

theorem Rederived.event (h : Rederived opens db) (hs : RowsStored ctx.faults) (e : RolloutEvent) :
    Rederived opens (processRolloutEvent ctx db e) := by
  refine ⟨(processRolloutEvent_rows h.rows e).1, ?_, ?_⟩
  · intro rid row' hrow'
    unfold replay
    rcases processRolloutEvent_row hs h.rows e rid with ⟨hsame, hlog⟩ |
      ⟨row, row'', hrow, hrow'', hlog, hview⟩
    · rw [hlog]
      exact h.rederivable rid row' (hsame ▸ hrow')
    · -- the record that the log gave so far looks like the row, so the event does the same to both
      have hold := h.rederivable rid row hrow
      obtain ⟨record, hrecord, hlike⟩ := Option.map_eq_some_iff.mp hold
      rw [hrow''] at hrow'
      cases hrow'
      unfold replay at hrecord
      rw [hlog, List.foldl_append, hrecord, List.foldl_cons, List.foldl_nil,
        replayEvent_view hlike, hview]
  · intro rid hopens hnone
    rcases processRolloutEvent_row hs h.rows e rid with ⟨hsame, hlog⟩ |
      ⟨row, row', -, hrow', -, -⟩
    · rw [hlog]
      exact h.fresh rid hopens (hsame ▸ hnone)
    · rw [hrow'] at hnone
      cases hnone

theorem Rederived.log (h : Rederived opens db) {t : Time} {host : Option HostId}
    {rid : Option RolloutId} {payload : LogPayload} (hpayload : ∀ e, payload ≠ .rolloutEvent e) :
    Rederived opens (db.appendEventLog t host rid payload) :=
  h.of_same rfl (loggedEvents_appendEventLog hpayload)

/-- A rollout that is opened again keeps its record. -/
theorem replayEvent_opened (r : RolloutRecord) (rid : RolloutId) (channel : ChannelId)
    (targetRef : ChannelRef) (t : Time) :
    replayEvent (some r) (.rolloutOpened rid channel targetRef t) = some r := by
  obtain ⟨_, _, _, state, _, _, _, _⟩ := r
  cases state <;> rfl

/-- The row of an opened rollout and its first event. -/
theorem Rederived.opened (h : Rederived opens db) {rid : RolloutId} (hrid : opens rid)
    (channel : ChannelId) (targetRef : ChannelRef) (t t' : Time) (host : Option HostId)
    (rid' : Option RolloutId) :
    Rederived opens ((db.recordRolloutOpened rid channel targetRef t).appendEventLog t' host rid'
      (.rolloutEvent (.rolloutOpened rid channel targetRef t))) := by
  have hlog : (db.recordRolloutOpened rid channel targetRef t).eventLog = db.eventLog := by
    unfold Db.recordRolloutOpened
    split <;> rfl
  have hlogged : ∀ rid₁, loggedEvents rid₁ ((db.recordRolloutOpened rid channel targetRef
      t).appendEventLog t' host rid' (.rolloutEvent (.rolloutOpened rid channel targetRef
        t))).eventLog = loggedEvents rid₁ db.eventLog ++
          if rid = rid₁ then [.rolloutOpened rid channel targetRef t] else [] := by
    intro rid₁
    rw [loggedEvents_rolloutEvent, hlog]
    rfl
  have hrows : ∀ rid₁, (db.recordRolloutOpened rid channel targetRef t).rollouts.lookup rid₁ =
      if rid₁ = rid ∧ db.rollouts.lookup rid = none then
        some (openedRecord rid channel targetRef t)
      else db.rollouts.lookup rid₁ := by
    intro rid₁
    unfold Db.recordRolloutOpened
    cases hrow : db.rollouts.lookup rid with
    | none =>
        simp only [Option.isSome_none, Bool.false_eq_true, if_false, Table.lookup_insert_eq,
          and_true]
        rfl
    | some row => simp
  refine ⟨(recordRolloutOpened_rows ⟨h.rows, .refl db⟩ rid channel targetRef t).1, ?_, ?_⟩
  · intro rid₁ row hrow
    rw [appendEventLog_rollouts, hrows] at hrow
    unfold replay
    rw [hlogged]
    by_cases heq : rid₁ = rid
    · subst heq
      rw [if_pos rfl, List.foldl_append, List.foldl_cons, List.foldl_nil]
      cases hold : db.rollouts.lookup rid₁ with
      | none =>
          -- the first event of all
          rw [if_pos ⟨rfl, hold⟩] at hrow
          cases hrow
          rw [h.fresh rid₁ hrid hold]
          rfl
      | some row₀ =>
          rw [if_neg (by simp [hold]), hold] at hrow
          cases hrow
          have hview := h.rederivable rid₁ row hold
          obtain ⟨record, hrecord, hlike⟩ := Option.map_eq_some_iff.mp hview
          unfold replay at hrecord
          rw [hrecord, replayEvent_opened, Option.map_some, hlike]
    · rw [if_neg fun hcond => heq hcond.1] at hrow
      rw [if_neg (Ne.symm heq), List.append_nil]
      exact h.rederivable rid₁ row hrow
  · intro rid₁ hopens hnone
    rw [appendEventLog_rollouts, hrows] at hnone
    split at hnone
    · cases hnone
    · rename_i hcond
      have hne : rid ≠ rid₁ := fun heq => hcond ⟨heq.symm, heq ▸ hnone⟩
      rw [hlogged, if_neg hne, List.append_nil]
      exact h.fresh rid₁ hopens hnone

/-! ## The steps -/

theorem applyEffect_loggedEvents (ctx : ApplierCtx) (db : Db) (e : Effect) (rid : RolloutId) :
    loggedEvents rid (applyEffect ctx db e).eventLog = loggedEvents rid db.eventLog := by
  cases e with
  | remoteInsertQuarantine channel closure =>
      simp only [applyEffect]
      split
      · rfl
      · rw [loggedEvents_appendEventLog (by simp)]
        unfold Db.insertQuarantine
        split <;> rfl
  | remoteAppendEventLog host rid' payload =>
      simp only [applyEffect]
      split
      · exact loggedEvents_appendEventLog (by simp) rid
      · exact loggedEvents_appendEventLog (by simp) rid
  | recordTransition => exact loggedEvents_appendEventLog (by simp) rid
  | localFireSwitch | localFireRollbackTo | localResetProbeCache | localEmitEvent => rfl

theorem Rederived.hostEvent {rs : ReducerState} {now : Time} {faults : Faults}
    (h : Rederived opens db) (hs : RowsStored faults) (host : HostId) (rid : RolloutId)
    (event : Event) : Rederived opens (handleHostEvent rs now faults db host rid event) := by
  refine handleHostEvent_rule h fun manifests prior next effects _ => ?_
  refine hostStateChanged_rule (fun db e _ _ hdb => hdb.event hs e) ?_
  refine List.foldlRecOn (motive := Rederived opens) _ _ ?_ ?_
  · exact h.of_same rfl fun _ => rfl
  · intro db hdb e _
    exact hdb.of_same (applyEffect_rollouts _ db e) (applyEffect_loggedEvents _ db e)

theorem Rederived.openRollout (h : Rederived opens db) (hs : RowsStored ctx.faults)
    {rid : RolloutId} (hrid : opens rid) (channel : ChannelId) (targetRef : ChannelRef) :
    Rederived opens (openRollout ctx db rid channel targetRef) :=
  openRollout_rule (fun _ => h) (fun _ => h.opened hrid channel targetRef ctx.now ctx.now none _)
    (fun _ e _ hdb => hdb.event hs e) (fun _ _ _ _ _ hdb => hdb.of_same rfl fun _ => rfl)
    fun _ _ hdb => hdb.log (by simp)

theorem Rederived.action (h : Rederived opens db) (hs : RowsStored ctx.faults) {a : PlanAction}
    (hopens : ∀ rid channel targetRef, a = .openRollout rid channel targetRef → opens rid) :
    Rederived opens (applyPlanAction ctx db a) := by
  cases a with
  | openRollout rid channel targetRef =>
      exact h.openRollout hs (hopens rid channel targetRef rfl) channel targetRef
  | queueDispatch host rid closure due =>
      simp only [applyPlanAction, queueDispatch]
      split
      · exact h
      · refine Rederived.log ?_ ?_
        · exact h.of_same rfl fun _ => rfl
        · simp
  | deferDispatch => exact h.log (by simp)

end Statements

/-! ## Runs -/

/-- The host of the first wave is dispatched, and its switch waits for a reboot. -/
def deferredFirstWave : List CpInput :=
  stagedRun [["a"], ["b"]] ++ [.plain .planTick 1,
    .plain (.hostEvent "a" (.new "stable" "r1") (.remoteDispatchAck "old" 2 1)) 2,
    .plain (.hostEvent "a" (.new "stable" "r1") (.remoteActivationDeferred "dbus" 3 2)) 3]

end Nixfleet
