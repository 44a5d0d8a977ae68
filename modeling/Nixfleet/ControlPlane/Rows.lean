import Nixfleet.Rollout.Facts
import Nixfleet.ControlPlane.Rules

set_option autoImplicit false

/-!
# The rollout rows

Two facts about the `rollouts` table, kept by every step of the reducer. `RowsOk`: a row is
stored under its own id, a row that is not closed has no closing timestamp, and a terminal one
has the time it ended. `RowsEvolve`:
a row stays, its wave cursor only moves forward, and its state changes only by a transition
that is logged.
-/

namespace Nixfleet

/-- `Terminal`, `Superseded` or `Pruned`: the states with a closing timestamp. -/
def RolloutState.isClosed (s : RolloutState) : Bool :=
  s = .terminal || s = .superseded || s = .pruned

/-- The invariant of a row. -/
structure RowOk (rid : RolloutId) (row : RolloutRow) : Prop where
  keyed : row.rolloutId = rid
  times : row.state.isClosed = false → row.terminalAt = none ∧ row.supersededAt = none
  terminal : row.state = .terminal → row.terminalAt.isSome

/-- The invariant of the table. -/
def Db.RowsOk (db : Db) : Prop := ∀ rid row, db.rollouts.lookup rid = some row → RowOk rid row

/-- The log entry of a transition of the rollout out of a state. -/
def ExitLogged (rid : RolloutId) (src : RolloutState) (entry : EventLogEntry) : Prop :=
  ∃ dst t, entry.payload = .recordRolloutTransition rid src dst t

/-- Rows stay, no wave cursor moves back, and a row whose state changed has left the old state
by a logged transition. -/
def RowsEvolve (db db' : Db) : Prop :=
  ∃ new, db'.eventLog = db.eventLog ++ new ∧
    ∀ rid row, db.rollouts.lookup rid = some row →
      ∃ row', db'.rollouts.lookup rid = some row' ∧ row.currentWave ≤ row'.currentWave ∧
        (row'.state = row.state ∨ ∃ entry ∈ new, ExitLogged rid row.state entry)

theorem RowsEvolve.refl (db : Db) : RowsEvolve db db :=
  ⟨[], (List.append_nil _).symm, fun _ row h => ⟨row, h, le_rfl, .inl rfl⟩⟩

theorem RowsEvolve.trans {db₁ db₂ db₃ : Db} (h₁ : RowsEvolve db₁ db₂)
    (h₂ : RowsEvolve db₂ db₃) : RowsEvolve db₁ db₃ := by
  obtain ⟨new₁, hlog₁, hrows₁⟩ := h₁
  obtain ⟨new₂, hlog₂, hrows₂⟩ := h₂
  refine ⟨new₁ ++ new₂, by rw [hlog₂, hlog₁, List.append_assoc], fun rid row hrow => ?_⟩
  obtain ⟨row₂, hrow₂, hwave₁, hst₁⟩ := hrows₁ rid row hrow
  obtain ⟨row₃, hrow₃, hwave₂, hst₂⟩ := hrows₂ rid row₂ hrow₂
  refine ⟨row₃, hrow₃, hwave₁.trans hwave₂, ?_⟩
  rcases hst₁ with heq₁ | ⟨entry, hmem, hexit⟩
  · rcases hst₂ with heq₂ | ⟨entry, hmem, hexit⟩
    · exact .inl (heq₂.trans heq₁)
    · exact .inr ⟨entry, List.mem_append_right _ hmem, heq₁ ▸ hexit⟩
  · exact .inr ⟨entry, List.mem_append_left _ hmem, hexit⟩

/-- A step that only appends to the log. -/
theorem RowsEvolve.of_log {db db' : Db} {new : List EventLogEntry}
    (hrows : db'.rollouts = db.rollouts) (hlog : db'.eventLog = db.eventLog ++ new) :
    RowsEvolve db db' :=
  ⟨new, hlog, fun rid row h => ⟨row, by rw [hrows]; exact h, le_rfl, .inl rfl⟩⟩

/-! ## Row updates -/

/-- `SET` keeps the invariant when the row moves along the machine. -/
theorem RowOk.setState {rid : RolloutId} {row : RolloutRow} (h : RowOk rid row)
    {dst : RolloutState} (hm : RolloutMove row.state dst) (t : Time) :
    RowOk rid (row.setState dst t) := by
  unfold RolloutRecord.setState
  split
  · exact h
  · generalize hsrc : row.state = src at hm
    have hopen : src.isClosed = false → row.terminalAt = none ∧ row.supersededAt = none :=
      fun hsrc' => h.times (hsrc ▸ hsrc')
    cases hm with
    | superseded => exact ⟨h.keyed, nofun, nofun⟩
    | pruned => exact ⟨h.keyed, nofun, nofun⟩
    | activeTerminal => exact ⟨h.keyed, nofun, fun _ => rfl⟩
    | convergingTerminal => exact ⟨h.keyed, nofun, fun _ => rfl⟩
    | joined | waveDone | nextWave | activeFailed | convergingFailed | activeReverted
    | convergingReverted => exact ⟨h.keyed, fun _ => hopen rfl, nofun⟩

@[simp] theorem setState_state (row : RolloutRow) (dst : RolloutState) (t : Time) :
    (row.setState dst t).state = dst := by
  unfold RolloutRecord.setState
  split
  · assumption
  · split <;> rfl

@[simp] theorem setState_currentWave (row : RolloutRow) (dst : RolloutState) (t : Time) :
    (row.setState dst t).currentWave = row.currentWave := by
  unfold RolloutRecord.setState
  split
  · rfl
  · split <;> rfl

theorem setCurrentWave_lookup (db : Db) (rid rid' : RolloutId) (wave : Nat) :
    (db.setCurrentWave rid wave).rollouts.lookup rid' =
      (db.rollouts.lookup rid').map fun row =>
        if rid' = rid ∧ row.currentWave < wave then { row with currentWave := wave } else row := by
  unfold Db.setCurrentWave
  rw [Table.lookup_modify]
  by_cases h : rid' = rid
  · subst h
    simp
  · cases db.rollouts.lookup rid' <;> simp [h]

theorem setCurrentWave_rowsOk {db : Db} (h : db.RowsOk) (rid : RolloutId) (wave : Nat) :
    (db.setCurrentWave rid wave).RowsOk := by
  intro rid' row' hrow'
  rw [setCurrentWave_lookup, Option.map_eq_some_iff] at hrow'
  obtain ⟨row, hrow, rfl⟩ := hrow'
  have hok := h rid' row hrow
  split
  · exact ⟨hok.keyed, hok.times, hok.terminal⟩
  · exact hok

theorem setCurrentWave_rowsEvolve (db : Db) (rid : RolloutId) (wave : Nat) :
    RowsEvolve db (db.setCurrentWave rid wave) := by
  refine ⟨[], (List.append_nil _).symm, fun rid' row hrow => ?_⟩
  rw [setCurrentWave_lookup, hrow]
  refine ⟨_, rfl, ?_, .inl ?_⟩
  · dsimp only
    split
    · rename_i hcond
      exact Nat.le_of_lt hcond.2
    · exact le_rfl
  · dsimp only
    split <;> rfl

/-! ## Rollout events -/

section Events

variable {ctx : ApplierCtx} {db : Db}

theorem applyTransition_rowsOk (h : db.RowsOk) {rid : RolloutId} {row : RolloutRow}
    (hrow : db.rollouts.lookup rid = some row) {dst : RolloutState}
    (hm : RolloutMove row.state dst) (t : Time) :
    (applyRolloutEffect ctx db (.recordRolloutTransition rid row.state dst t)).RowsOk := by
  simp only [applyRolloutEffect]
  split
  · exact h
  · intro rid' row' hrow'
    simp only [appendEventLog_rollouts, Db.recordRolloutTransition, Table.lookup_modify] at hrow'
    split at hrow'
    · rename_i heq
      subst heq
      rw [hrow] at hrow'
      cases hrow'
      exact (h rid' row hrow).setState hm t
    · exact h rid' row' hrow'

theorem applyTransition_rowsEvolve {rid : RolloutId} {row : RolloutRow}
    (hrow : db.rollouts.lookup rid = some row) (dst : RolloutState) (t : Time) :
    RowsEvolve db (applyRolloutEffect ctx db (.recordRolloutTransition rid row.state dst t)) := by
  refine ⟨[⟨ctx.now, none, some rid, .recordRolloutTransition rid row.state dst t⟩], ?_, ?_⟩
  · simp only [applyRolloutEffect]
    split <;> rfl
  · intro rid' row₁ hrow₁
    by_cases hrid : rid' = rid
    · -- the row that moves: its transition is the new entry
      subst hrid
      rw [hrow] at hrow₁
      cases hrow₁
      have hexit : ∃ entry ∈ [(⟨ctx.now, none, some rid', .recordRolloutTransition rid' row.state
          dst t⟩ : EventLogEntry)], ExitLogged rid' row.state entry :=
        ⟨_, List.mem_singleton.mpr rfl, dst, t, rfl⟩
      simp only [applyRolloutEffect]
      split
      · exact ⟨row, hrow, le_rfl, .inr hexit⟩
      · refine ⟨row.setState dst t, ?_, (setState_currentWave row dst t).ge, .inr hexit⟩
        simp [Db.recordRolloutTransition, Table.lookup_modify, hrow]
    · refine ⟨row₁, ?_, le_rfl, .inl rfl⟩
      simp only [applyRolloutEffect]
      split
      · exact hrow₁
      · simp [Db.recordRolloutTransition, Table.lookup_modify, hrid, hrow₁]

theorem applyWave_rowsOk (h : db.RowsOk) (rid : RolloutId) (wave : Nat) :
    (applyRolloutEffect ctx db (.updateCurrentWave rid wave)).RowsOk := by
  simp only [applyRolloutEffect]
  split
  · exact h
  · exact setCurrentWave_rowsOk h rid wave

theorem applyWave_rowsEvolve (rid : RolloutId) (wave : Nat) :
    RowsEvolve db (applyRolloutEffect ctx db (.updateCurrentWave rid wave)) := by
  simp only [applyRolloutEffect]
  split
  · exact .refl db
  · exact setCurrentWave_rowsEvolve db rid wave

/-- A rollout event keeps the rows' invariant and evolves the rows. -/
theorem processRolloutEvent_rows (h : db.RowsOk) (e : RolloutEvent) :
    (processRolloutEvent ctx db e).RowsOk ∧ RowsEvolve db (processRolloutEvent ctx db e) := by
  unfold processRolloutEvent
  split
  · exact ⟨h, .refl db⟩
  · split
    · exact ⟨h, .refl db⟩
    · rename_i row hrow
      have hlog : RowsEvolve db (db.appendEventLog ctx.now none (some e.rolloutId)
          (.rolloutEvent e)) := .of_log rfl rfl
      dsimp only
      split
      · rename_i record effects hstep
        obtain ⟨move, wave, rfl, hmove⟩ := rolloutStep_spec hstep
        rw [moveEffects, (h _ _ hrow).keyed, List.foldl_append]
        -- first the transition, then the wave
        generalize hdb₁ : db.appendEventLog ctx.now none (some e.rolloutId) (.rolloutEvent e) =
          db₁ at hlog
        have hok₁ : db₁.RowsOk := by
          subst hdb₁
          exact h
        have hrow₁ : db₁.rollouts.lookup e.rolloutId = some row := by
          subst hdb₁
          exact hrow
        have hmv : ((move.map fun x => RolloutEffect.recordRolloutTransition e.rolloutId row.state
            x.1 x.2).toList.foldl (applyRolloutEffect ctx) db₁).RowsOk ∧
            RowsEvolve db₁ ((move.map fun x => RolloutEffect.recordRolloutTransition e.rolloutId
              row.state x.1 x.2).toList.foldl (applyRolloutEffect ctx) db₁) := by
          cases move with
          | none => exact ⟨hok₁, .refl db₁⟩
          | some x =>
              exact ⟨applyTransition_rowsOk hok₁ hrow₁ (hmove x rfl) x.2,
                applyTransition_rowsEvolve hrow₁ x.1 x.2⟩
        cases wave with
        | none => exact ⟨hmv.1, hlog.trans hmv.2⟩
        | some w =>
            exact ⟨applyWave_rowsOk hmv.1 _ _, (hlog.trans hmv.2).trans (applyWave_rowsEvolve _ _)⟩
      · exact ⟨h, hlog⟩

end Events

/-! ## The reducer's steps -/

/-- The rows' invariant and their evolution since `db₀`, as one property of a database. -/
def RowsSince (db₀ db : Db) : Prop := db.RowsOk ∧ RowsEvolve db₀ db

theorem RowsSince.of_log {db₀ db db' : Db} (h : RowsSince db₀ db)
    (hrows : db'.rollouts = db.rollouts)
    (hlog : ∃ new, db'.eventLog = db.eventLog ++ new) : RowsSince db₀ db' := by
  obtain ⟨new, hlog⟩ := hlog
  refine ⟨?_, h.2.trans (.of_log hrows hlog)⟩
  intro rid row hrow
  rw [hrows] at hrow
  exact h.1 rid row hrow

theorem RowsSince.event {db₀ db : Db} (h : RowsSince db₀ db) (ctx : ApplierCtx)
    (e : RolloutEvent) : RowsSince db₀ (processRolloutEvent ctx db e) :=
  ⟨(processRolloutEvent_rows h.1 e).1, h.2.trans (processRolloutEvent_rows h.1 e).2⟩

theorem applyEffect_log (ctx : ApplierCtx) (db : Db) (e : Effect) :
    ∃ new, (applyEffect ctx db e).eventLog = db.eventLog ++ new := by
  cases e with
  | remoteInsertQuarantine channel closure =>
      simp only [applyEffect]
      split
      · exact ⟨[], (List.append_nil _).symm⟩
      · refine ⟨[⟨ctx.now, none, none, .insertQuarantine channel closure⟩], ?_⟩
        simp only [Db.appendEventLog, Db.insertQuarantine]
        split <;> rfl
  | remoteAppendEventLog host rid payload =>
      simp only [applyEffect]
      split <;> exact ⟨_, rfl⟩
  | recordTransition => exact ⟨_, rfl⟩
  | localFireSwitch | localFireRollbackTo | localResetProbeCache | localEmitEvent =>
      exact ⟨[], (List.append_nil _).symm⟩

theorem acceptHostEvent_rows {ctx : ApplierCtx} {db₀ db : Db} {host : HostId} {rid : RolloutId}
    {src : HostState} {next : HostRolloutState} {effects : List Effect}
    (h : RowsSince db₀ db) :
    RowsSince db₀ (acceptHostEvent ctx db host rid src next effects) := by
  refine hostStateChanged_rule (fun _ e _ _ hdb => hdb.event ctx e) ?_
  refine List.foldlRecOn (motive := RowsSince db₀) _ _ ?_ ?_
  · exact h.of_log rfl ⟨[], (List.append_nil _).symm⟩
  · intro db hdb e _
    exact hdb.of_log (applyEffect_rollouts ctx db e) (applyEffect_log ctx db e)

theorem handleHostEvent_rows {rs : ReducerState} {now : Time} {faults : Faults} {db₀ db : Db}
    (h : RowsSince db₀ db) (host : HostId) (rid : RolloutId) (event : Event) :
    RowsSince db₀ (handleHostEvent rs now faults db host rid event) :=
  handleHostEvent_rule h fun _ _ _ _ _ => acceptHostEvent_rows h

theorem recordRolloutOpened_rows {db₀ db : Db} (h : RowsSince db₀ db) (rid : RolloutId)
    (channel : ChannelId) (targetRef : ChannelRef) (t : Time) :
    RowsSince db₀ (db.recordRolloutOpened rid channel targetRef t) := by
  unfold Db.recordRolloutOpened
  split
  · exact h
  · rename_i hnone
    simp only [Bool.not_eq_true, Option.isSome_eq_false_iff, Option.isNone_iff_eq_none] at hnone
    constructor
    · intro rid' row' hrow'
      rw [Table.lookup_insert_eq] at hrow'
      split at hrow'
      · rename_i heq
        subst heq
        cases hrow'
        exact ⟨rfl, fun _ => ⟨rfl, rfl⟩, nofun⟩
      · exact h.1 rid' row' hrow'
    · refine h.2.trans ⟨[], (List.append_nil _).symm, fun rid' row hrow =>
        ⟨row, ?_, le_rfl, .inl rfl⟩⟩
      -- an open rollout is not inserted over
      have hne : rid' ≠ rid := by
        rintro rfl
        rw [hnone] at hrow
        cases hrow
      rw [Table.lookup_insert_eq, if_neg hne]
      exact hrow

theorem openRollout_rows {ctx : ApplierCtx} {db₀ db : Db} (h : RowsSince db₀ db)
    (rid : RolloutId) (channel : ChannelId) (targetRef : ChannelRef) :
    RowsSince db₀ (openRollout ctx db rid channel targetRef) := by
  refine openRollout_rule (fun _ => h) (fun _ => ?_) (fun _ e _ hdb => hdb.event ctx e)
    (fun _ _ hw _ _ hdb => ?_) fun _ _ hdb => hdb.of_log rfl ⟨_, rfl⟩
  · exact (recordRolloutOpened_rows h rid channel targetRef ctx.now).of_log rfl ⟨_, rfl⟩
  · exact hdb.of_log rfl ⟨[], (List.append_nil _).symm⟩

theorem applyPlanAction_rows {ctx : ApplierCtx} {db₀ db : Db} (h : RowsSince db₀ db)
    (a : PlanAction) : RowsSince db₀ (applyPlanAction ctx db a) := by
  cases a with
  | openRollout rid channel targetRef => exact openRollout_rows h rid channel targetRef
  | queueDispatch host rid c due =>
      refine h.of_log (queueDispatch_rollouts ctx db host rid c due) ?_
      simp only [applyPlanAction, queueDispatch]
      split
      · exact ⟨[], (List.append_nil _).symm⟩
      · exact ⟨_, rfl⟩
  | deferDispatch host rid gate reason => exact h.of_log rfl ⟨_, rfl⟩

theorem advanceCurrentWaves_rows {order : MapOrders} {faults : Faults} {fleet : FleetResolved}
    {db₀ db : Db} {fs : FleetState} (h : RowsSince db₀ db) :
    RowsSince db₀ (advanceCurrentWaves order faults fleet db fs).1 := by
  unfold advanceCurrentWaves
  refine List.foldlRecOn (motive := fun acc : Db × FleetState => RowsSince db₀ acc.1) _ _ h ?_
  intro acc hacc bump _
  dsimp only
  split
  · exact hacc
  · exact ⟨setCurrentWave_rowsOk hacc.1 _ _, hacc.2.trans (setCurrentWave_rowsEvolve _ _ _)⟩

theorem runPlan_rows {rs : ReducerState} {order : MapOrders} {now : Time} {faults : Faults}
    {db₀ db : Db} (h : RowsSince db₀ db) : RowsSince db₀ (runPlan rs order now faults db) := by
  refine runPlan_rule h ?_ ?_
  · intro manifests plan _ hplan
    obtain ⟨_, fs, _, _, hdb, _, _⟩ := planOf_eq_some hplan
    rw [hdb]
    exact advanceCurrentWaves_rows h
  · intro manifests plan _ _ db hdb a _
    exact applyPlanAction_rows hdb a

/-- Pruning deletes closed rows only. -/
theorem prune_lookup_of_not_closed {db : Db} (h : db.RowsOk) {rid : RolloutId}
    {row : RolloutRow} (hrow : db.rollouts.lookup rid = some row)
    (hopen : row.state.isClosed = false) (cutoff : Time) :
    (db.pruneFinishedRollouts cutoff).rollouts.lookup rid = some row := by
  have htimes := (h rid row hrow).times hopen
  unfold Db.pruneFinishedRollouts
  rw [Table.lookup_filterRows]
  exact ⟨hrow, by simp [hrow, RolloutRecord.isPrunable, htimes]⟩

/-- The sweep only deletes rows. -/
theorem lookup_of_prune {db : Db} {cutoff : Time} {rid : RolloutId} {row : RolloutRow}
    (h : (db.pruneFinishedRollouts cutoff).rollouts.lookup rid = some row) :
    db.rollouts.lookup rid = some row :=
  ((Table.lookup_filterRows _ _ _ _).mp h).1

theorem prune_rowsOk {db : Db} (h : db.RowsOk) (cutoff : Time) :
    (db.pruneFinishedRollouts cutoff).RowsOk := by
  intro rid row hrow
  exact h rid row (lookup_of_prune hrow)

/-- What every step does to the rows that are not closed: they stay and evolve. -/
def OpenRowsEvolve (db db' : Db) : Prop :=
  ∃ new, db'.eventLog = db.eventLog ++ new ∧
    ∀ rid row, db.rollouts.lookup rid = some row → row.state.isClosed = false →
      ∃ row', db'.rollouts.lookup rid = some row' ∧
        (row'.state = row.state ∨ ∃ entry ∈ new, ExitLogged rid row.state entry)

theorem RowsEvolve.openRows {db db' : Db} (h : RowsEvolve db db') : OpenRowsEvolve db db' := by
  obtain ⟨new, hlog, hrows⟩ := h
  refine ⟨new, hlog, fun rid row hrow _ => ?_⟩
  obtain ⟨row', hrow', -, hst⟩ := hrows rid row hrow
  exact ⟨row', hrow', hst⟩

/-- **Every step keeps the rows' invariant and evolves the rows that are not closed.** -/
theorem cpStep_rows {cp : Cp} (h : cp.db.RowsOk) (i : CpInput) :
    (cpStep cp i).1.db.RowsOk ∧ OpenRowsEvolve cp.db (cpStep cp i).1.db := by
  have hsince : RowsSince cp.db cp.db := ⟨h, .refl _⟩
  have of_since : ∀ {db : Db}, RowsSince cp.db db → db.RowsOk ∧ OpenRowsEvolve cp.db db :=
    fun hdb => ⟨hdb.1, hdb.2.openRows⟩
  unfold cpStep
  split
  · exact of_since (handleHostEvent_rows hsince _ _ _)
  · exact of_since (runPlan_rows hsince)
  · exact of_since (handleHeartbeat_rule (P := RowsSince cp.db) (fun _ host rid event _ hdb =>
      handleHostEvent_rows hdb host rid event) hsince)
  · exact of_since (runPlan_rows hsince)
  · exact of_since hsince
  -- the sweep deletes rows, but only closed ones
  · refine ⟨prune_rowsOk h _, [], (List.append_nil _).symm, fun rid row hrow hopen => ?_⟩
    exact ⟨row, prune_lookup_of_not_closed h hrow hopen _, .inl rfl⟩
  · refine of_since (hsince.of_log (takeForHost_rollouts _ _ _) ⟨[], ?_⟩)
    rw [List.append_nil]
    exact takeForHost_proj _ (f := Db.eventLog) (fun _ _ => rfl) _ _

/-! ## What the row statements keep -/

/-- A property of the `rollouts` table that every statement but the sweep keeps. -/
structure RowWrites (P : Table RolloutId RolloutRow → Prop) : Prop where
  opened : ∀ db rid channel targetRef t, P db.rollouts →
    P (Db.recordRolloutOpened db rid channel targetRef t).rollouts
  moved : ∀ db rid dst t, P db.rollouts → P (Db.recordRolloutTransition db rid dst t).rollouts
  waved : ∀ db rid wave, P db.rollouts → P (Db.setCurrentWave db rid wave).rollouts

/-- A property of the `rollouts` table that every call that writes it keeps, the sweep apart. -/
structure RowCalls (faults : Faults) (P : Table RolloutId RolloutRow → Prop) : Prop where
  opened : ∀ db rid channel targetRef t, P db.rollouts →
    P (Db.recordRolloutOpened db rid channel targetRef t).rollouts
  event : ∀ ctx db e, ctx.faults = faults → P db.rollouts →
    P (processRolloutEvent ctx db e).rollouts
  waved : ∀ db rid wave, P db.rollouts → P (Db.setCurrentWave db rid wave).rollouts

section Rule

variable {P : Table RolloutId RolloutRow → Prop} {faults : Faults} (hP : RowCalls faults P)

include hP

theorem RowCalls.hostEvent {rs : ReducerState} {now : Time} {db : Db} (host : HostId)
    (rid : RolloutId) (event : Event) (h : P db.rollouts) :
    P (handleHostEvent rs now faults db host rid event).rollouts := by
  refine handleHostEvent_rule (P := fun db => P db.rollouts) h ?_
  intro manifests prior next effects _
  refine hostStateChanged_rule (P := fun db => P db.rollouts)
    (fun db e _ _ => hP.event _ db e rfl) ?_
  rw [foldl_applyEffect_rollouts]
  exact h

/-- What holds once the row is there, and is kept, holds after the rollout is opened. -/
theorem RowCalls.openRollout_of_opened {ctx : ApplierCtx} (hctx : ctx.faults = faults) {db : Db}
    {rid : RolloutId} {channel : ChannelId} {targetRef : ChannelRef}
    (hok : ctx.faults (.recordRolloutOpened rid) = false)
    (h : P (db.recordRolloutOpened rid channel targetRef ctx.now).rollouts) :
    P (openRollout ctx db rid channel targetRef).rollouts := by
  refine openRollout_rule (P := fun db => P db.rollouts) (fun hf => ?_) (fun _ => h)
    (fun db e _ => hP.event ctx db e hctx) (fun _ _ _ _ _ hdb => hdb) fun _ _ hdb => hdb
  rw [hok] at hf
  cases hf

theorem RowCalls.openRollout {ctx : ApplierCtx} (hctx : ctx.faults = faults) {db : Db}
    (rid : RolloutId) (channel : ChannelId) (targetRef : ChannelRef) (h : P db.rollouts) :
    P (openRollout ctx db rid channel targetRef).rollouts :=
  openRollout_rule (P := fun db => P db.rollouts) (fun _ => h)
    (fun _ => hP.opened db rid channel targetRef ctx.now h)
    (fun db e _ => hP.event ctx db e hctx) (fun _ _ _ _ _ hdb => hdb) fun _ _ hdb => hdb

theorem RowCalls.advanceCurrentWaves {order : MapOrders} {fleet : FleetResolved} {db : Db}
    {fs : FleetState} (h : P db.rollouts) :
    P (advanceCurrentWaves order faults fleet db fs).1.rollouts := by
  unfold Nixfleet.advanceCurrentWaves
  refine List.foldlRecOn (motive := fun acc : Db × FleetState => P acc.1.rollouts) _ _ h ?_
  intro acc hacc bump _
  dsimp only
  split
  · exact hacc
  · exact hP.waved acc.1 bump.1 bump.2 hacc

/-- A plan tick keeps what the calls keep. -/
theorem RowCalls.plan {rs : ReducerState} {order : MapOrders} {now : Time} {db : Db}
    (h : P db.rollouts) : P (runPlan rs order now faults db).rollouts := by
  refine runPlan_rule (P := fun db => P db.rollouts) h ?_ ?_
  · intro manifests plan _ hplan
    obtain ⟨_, fs, _, _, hdb, _, _⟩ := planOf_eq_some hplan
    rw [hdb]
    exact hP.advanceCurrentWaves h
  · intro manifests plan _ _ db hdb a _
    cases a with
    | openRollout rid channel targetRef => exact hP.openRollout rfl rid channel targetRef hdb
    | queueDispatch host rid closure due =>
        show P (queueDispatch _ db host rid closure due).rollouts
        rw [queueDispatch_rollouts]
        exact hdb
    | deferDispatch => exact hdb

omit hP in
/-- **Row rule.** Only the sweep can take away what the calls keep. -/
theorem RowCalls.step {cp : Cp} {i : CpInput} (hP : RowCalls i.faults P)
    (hsweep : i.event = .pruneSweep → P (cp.db.pruneFinishedRollouts
      (i.now - hours finishedRolloutsRetentionHours)).rollouts)
    (h : P cp.db.rollouts) : P (cpStep cp i).1.db.rollouts := by
  refine cpStep_rule (P := fun db => P db.rollouts) h ?_ (fun _ _ _ _ => hP.plan h) hsweep ?_
  · exact fun _ _ host rid event _ hdb => hP.hostEvent host rid event hdb
  · intro host
    rw [takeForHost_rollouts]
    exact h

end Rule

/-- The calls keep what the row statements keep, whichever of these fail. -/
theorem RowWrites.calls {P : Table RolloutId RolloutRow → Prop} (hP : RowWrites P)
    (faults : Faults) : RowCalls faults P := by
  refine ⟨hP.opened, fun ctx db e _ h => ?_, hP.waved⟩
  unfold processRolloutEvent
  split
  · exact h
  · split
    · exact h
    · dsimp only
      split
      · refine List.foldlRecOn (motive := fun db : Db => P db.rollouts) _ _ h ?_
        intro db hdb effect _
        cases effect with
        | recordRolloutTransition rid src dst t =>
            simp only [applyRolloutEffect]
            split
            · exact hdb
            · exact hP.moved db rid dst t hdb
        | updateCurrentWave rid wave =>
            simp only [applyRolloutEffect]
            split
            · exact hdb
            · exact hP.waved db rid wave hdb
      · exact h

theorem run_rowsOk (is : List CpInput) : (cpMachine.run Cp.initial is).db.RowsOk :=
  cpMachine.run_invariant_of_step (P := fun cp => cp.db.RowsOk)
    (fun _ i h => (cpStep_rows h i).1) (fun _ _ h => by cases h) is

end Nixfleet
