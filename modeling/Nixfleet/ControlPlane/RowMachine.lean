import Nixfleet.ControlPlane.Rederive

set_option autoImplicit false

/-!
# The row writes and the rollout machine

The rollout machine returns the next record and a list of effects. The applier drops the record
and applies the effects to the stored row. Here the two are compared: after every event the row
is what the machine returned (`processRolloutEvent_lookup`, `rolloutStep_written`), also over a
whole list of events (`foldl_processRolloutEvent_view`). `rowMachine` is the `rollouts` table
with its four writers; the rows of every run of the control plane are those of such a run.
-/

namespace Nixfleet

/-- The record after an event: what the machine returns, or the same record when it refuses. -/
def RolloutRecord.next (r : RolloutRecord) (e : RolloutEvent) : RolloutRecord :=
  match rolloutStep r e with
  | .ok (next, _) => next
  | .error _ => r

/-- The effects that the machine returns for an event on a record. -/
def RolloutRecord.effects (r : RolloutRecord) (e : RolloutEvent) : List RolloutEffect :=
  match rolloutStep r e with
  | .ok (_, effects) => effects
  | .error _ => []

/-- The writers of the `rollouts` table. -/
inductive RowWrite where
  | opened (rolloutId : RolloutId) (channel : ChannelId) (targetRef : ChannelRef) (at' : Time)
  | event (ctx : ApplierCtx) (event : RolloutEvent)
  | waveBump (rolloutId : RolloutId) (wave : Nat)
  | sweep (cutoff : Time)

/-- No statement of the write fails. -/
def RowWrite.stored : RowWrite → Prop
  | .event ctx _ => ctx.faults = noFaults
  | _ => True

/-- One write, with the effects of the rollout machine that it applies. -/
def rowStep (db : Db) : RowWrite → Db × List RolloutEffect
  | .opened rid channel targetRef at' => (db.recordRolloutOpened rid channel targetRef at', [])
  | .event ctx e =>
      (processRolloutEvent ctx db e,
        ((db.rollouts.lookup e.rolloutId).map (·.effects e)).getD [])
  | .waveBump rid wave => (db.setCurrentWave rid wave, [])
  | .sweep cutoff => (db.pruneFinishedRollouts cutoff, [])

/-- The `rollouts` table as a machine. -/
def rowMachine : Machine Db RowWrite RolloutEffect := ⟨rowStep⟩

/-- What the write does to the rows. -/
structure RowLaws (db : Db) (w : RowWrite) : Prop where
  /-- After an event, the row of its rollout is the record that the machine returned, and every
  other row is as it was. -/
  agrees : ∀ ctx e, w = .event ctx e → ∀ rid,
    ((rowStep db w).1.rollouts.lookup rid).map (·.view) =
      (db.rollouts.lookup rid).map fun row =>
        if rid = e.rolloutId then (row.next e).view else row.view
  /-- A transition is recorded exactly when the state changes. -/
  recorded : ∀ ctx e row, w = .event ctx e → db.rollouts.lookup e.rolloutId = some row →
    ((∃ rid src dst t, .recordRolloutTransition rid src dst t ∈ (rowStep db w).2) ↔
      (row.next e).state ≠ row.state)
  /-- The wave cursor of a row never moves back. -/
  waves : ∀ rid row row', db.rollouts.lookup rid = some row →
    (rowStep db w).1.rollouts.lookup rid = some row' → row.currentWave ≤ row'.currentWave
  /-- A pruned row stays, and stays pruned. -/
  pruned : ∀ rid row, db.rollouts.lookup rid = some row → row.state = .pruned →
    ∃ row', (rowStep db w).1.rollouts.lookup rid = some row' ∧ row'.state = .pruned

/-- A terminal row has the time it ended, a superseded one the time it was superseded. -/
def RowsClosedAt (rollouts : Table RolloutId RolloutRow) : Prop :=
  ∀ rid row, rollouts.lookup rid = some row →
    (row.state = .terminal → row.terminalAt.isSome = true) ∧
    (row.state = .superseded → row.supersededAt.isSome = true)

/-! ## One event -/

theorem replayEvent_some (r : RolloutRecord) (e : RolloutEvent) :
    replayEvent (some r) e = some (r.next e) := by
  simp only [replayEvent, RolloutRecord.next]
  cases rolloutStep r e <;> rfl

/-- The effects write the record that the machine returns. -/
theorem written_effects (r : RolloutRecord) (e : RolloutEvent) :
    ((r.effects e).foldl RolloutRecord.written r).view = (r.next e).view := by
  unfold RolloutRecord.effects RolloutRecord.next
  cases hstep : rolloutStep r e with
  | ok out => exact rolloutStep_written hstep
  | error => rfl

/-- The state that the effects of a move and a wave leave. -/
theorem foldl_written_moveEffects_state (r row : RolloutRecord)
    (move : Option (RolloutState × Time)) (wave : Option Nat) :
    ((moveEffects r move wave).foldl RolloutRecord.written row).state =
      (move.map Prod.fst).getD row.state := by
  have hwave : ∀ row : RolloutRow, ((wave.map fun w => RolloutEffect.updateCurrentWave
      r.rolloutId w).toList.foldl RolloutRecord.written row).state = row.state := by
    intro row
    cases wave with
    | none => rfl
    | some w =>
        simp only [Option.map_some, Option.toList_some, List.foldl_cons, List.foldl_nil,
          RolloutRecord.written]
        split <;> rfl
  rw [moveEffects, List.foldl_append, hwave]
  cases move with
  | none => rfl
  | some x => exact setState_state row x.1 x.2

theorem RolloutMove.ne {src dst : RolloutState} (h : RolloutMove src dst) : dst ≠ src := by
  cases h with
  | superseded _ h => exact Ne.symm h.1
  | pruned _ h => rintro rfl; simp at h
  | _ => decide

/-- **The effects record what changes.** A transition is among them iff the state changes. -/
theorem recordRolloutTransition_mem_effects {r : RolloutRecord} {e : RolloutEvent} :
    (∃ rid src dst t, .recordRolloutTransition rid src dst t ∈ r.effects e) ↔
      (r.next e).state ≠ r.state := by
  have hview := congrArg RolloutView.state (written_effects r e)
  simp only [RolloutRecord.view] at hview
  unfold RolloutRecord.effects RolloutRecord.next at hview ⊢
  cases hstep : rolloutStep r e with
  | error => simp
  | ok out =>
      obtain ⟨move, wave, heffects, hmove⟩ := rolloutStep_spec hstep
      simp only [hstep, heffects, foldl_written_moveEffects_state] at hview
      simp only [heffects, mem_moveEffects, ← hview]
      cases move with
      | none => simp
      | some x =>
          have hne : x.1 ≠ r.state := (hmove x rfl).ne
          exact ⟨fun _ => hne, fun _ => ⟨_, _, x.1, x.2, rfl, rfl, rfl⟩⟩

/-- The machine accepts nothing in `Pruned`. -/
theorem next_of_pruned {r : RolloutRecord} (h : r.state = .pruned) (e : RolloutEvent) :
    r.next e = r := by
  simp only [RolloutRecord.next, rolloutStep, h, RolloutRecord.illegal]

/-! ## One call -/

section Call

variable {ctx : ApplierCtx} {db : Db}

/-- **The row after an event.** The effects are applied to the row of the event's rollout, and to
no other one. -/
theorem processRolloutEvent_lookup (hstored : ctx.faults = noFaults) (hrows : db.RowsOk)
    (e : RolloutEvent) (rid : RolloutId) :
    (processRolloutEvent ctx db e).rollouts.lookup rid = (db.rollouts.lookup rid).map fun row =>
      if rid = e.rolloutId then (row.effects e).foldl RolloutRecord.written row else row := by
  have hs : RowsStored ctx.faults := by
    rw [hstored]
    exact ⟨fun _ _ => rfl, fun _ _ => rfl⟩
  unfold processRolloutEvent
  rw [hstored]
  simp only [noFaults, Bool.false_eq_true, if_false]
  split
  · rename_i hnone
    by_cases hrid : rid = e.rolloutId
    · subst hrid
      simp [hnone]
    · cases db.rollouts.lookup rid <;> simp [hrid]
  · rename_i row hrow
    cases hstep : rolloutStep row e with
    | ok out =>
        have hown : ∀ effect ∈ out.2, effect.rolloutId = e.rolloutId := fun effect hmem =>
          (rolloutId_of_rolloutStep hstep effect hmem).trans (hrows _ _ hrow).keyed
        dsimp only
        rw [foldl_applyRolloutEffect_lookup hs hown, appendEventLog_rollouts]
        by_cases hrid : rid = e.rolloutId
        · subst hrid
          simp [hrow, RolloutRecord.effects, hstep]
        · simp [hrid]
    | error =>
        dsimp only
        rw [appendEventLog_rollouts]
        by_cases hrid : rid = e.rolloutId
        · subst hrid
          simp [hrow, RolloutRecord.effects, hstep]
        · cases db.rollouts.lookup rid <;> simp [hrid]

/-- The row after an event is the record that the machine returned. -/
theorem processRolloutEvent_view (hstored : ctx.faults = noFaults) (hrows : db.RowsOk)
    (e : RolloutEvent) (rid : RolloutId) :
    ((processRolloutEvent ctx db e).rollouts.lookup rid).map (·.view) =
      (db.rollouts.lookup rid).map fun row =>
        if rid = e.rolloutId then (row.next e).view else row.view := by
  rw [processRolloutEvent_lookup hstored hrows, Option.map_map]
  refine Option.map_congr fun row _ => ?_
  by_cases hrid : rid = e.rolloutId
  · simp only [Function.comp_apply, hrid, if_true]
    exact written_effects row e
  · simp [hrid]

end Call

/-! ## Every write -/

theorem rowStep_rowsOk {db : Db} (h : db.RowsOk) (w : RowWrite) : (rowStep db w).1.RowsOk := by
  cases w with
  | opened rid channel targetRef at' =>
      exact (recordRolloutOpened_rows ⟨h, .refl db⟩ rid channel targetRef at').1
  | event ctx e => exact (processRolloutEvent_rows h e).1
  | waveBump rid wave => exact setCurrentWave_rowsOk h rid wave
  | sweep cutoff => exact prune_rowsOk h cutoff

/-- No write but the sweep loses a row, and none moves a wave cursor back. -/
theorem rowStep_waves {db : Db} (h : db.RowsOk) {w : RowWrite} {rid : RolloutId}
    {row row' : RolloutRow} (hrow : db.rollouts.lookup rid = some row)
    (hrow' : (rowStep db w).1.rollouts.lookup rid = some row') :
    row.currentWave ≤ row'.currentWave := by
  have hevolve : ∀ db', RowsEvolve db db' → db'.rollouts.lookup rid = some row' →
      row.currentWave ≤ row'.currentWave := by
    rintro db' ⟨new, hlog, hrows⟩ hlook
    obtain ⟨row₁, hrow₁, hle, -⟩ := hrows rid row hrow
    rw [hlook] at hrow₁
    cases hrow₁
    exact hle
  cases w with
  | opened rid' channel targetRef at' =>
      exact hevolve _ (recordRolloutOpened_rows ⟨h, .refl db⟩ rid' channel targetRef at').2 hrow'
  | event ctx e => exact hevolve _ (processRolloutEvent_rows h e).2 hrow'
  | waveBump rid' wave => exact hevolve _ (setCurrentWave_rowsEvolve db rid' wave) hrow'
  | sweep cutoff =>
      have hsame := lookup_of_prune hrow'
      rw [hrow] at hsame
      cases hsame
      exact le_rfl

theorem rowStep_pruned {db : Db} (h : db.RowsOk) {w : RowWrite} (hw : w.stored)
    {rid : RolloutId} {row : RolloutRow} (hrow : db.rollouts.lookup rid = some row)
    (hpruned : row.state = .pruned) :
    ∃ row', (rowStep db w).1.rollouts.lookup rid = some row' ∧ row'.state = .pruned := by
  cases w with
  | opened rid' channel targetRef at' =>
      refine ⟨row, ?_, hpruned⟩
      simp only [rowStep, Db.recordRolloutOpened]
      split
      · exact hrow
      · rename_i hnone
        have hne : rid ≠ rid' := by
          rintro rfl
          exact hnone (by rw [hrow]; rfl)
        rw [Table.lookup_insert_eq, if_neg hne]
        exact hrow
  | event ctx e =>
      have hview := processRolloutEvent_view hw h e rid
      rw [hrow, Option.map_some, next_of_pruned hpruned, ite_self] at hview
      obtain ⟨row', hrow', heq⟩ := Option.map_eq_some_iff.mp hview
      exact ⟨row', hrow', (congrArg RolloutView.state heq).trans hpruned⟩
  | waveBump rid' wave =>
      refine ⟨_, by rw [rowStep, setCurrentWave_lookup, hrow]; rfl, ?_⟩
      dsimp only
      split <;> exact hpruned
  | sweep cutoff =>
      refine ⟨row, ?_, hpruned⟩
      simp only [rowStep, Db.pruneFinishedRollouts, Table.lookup_filterRows]
      exact ⟨hrow, by simp [hrow, RolloutRecord.isPrunable, hpruned]⟩

theorem rowLaws {db : Db} (h : db.RowsOk) {w : RowWrite} (hw : w.stored) : RowLaws db w where
  agrees := by
    rintro ctx e rfl rid
    exact processRolloutEvent_view hw h e rid
  recorded := by
    rintro ctx e row rfl hrow
    simp only [rowStep, hrow, Option.map_some, Option.getD_some]
    exact recordRolloutTransition_mem_effects
  waves := fun _ _ _ => rowStep_waves h
  pruned := fun _ _ => rowStep_pruned h hw

/-- The closing times are written with the states they belong to. -/
theorem rowsClosedAt_rowWrites : RowWrites RowsClosedAt where
  opened := by
    intro db rid channel targetRef t h rid' row hrow
    unfold Db.recordRolloutOpened at hrow
    split at hrow
    · exact h rid' row hrow
    · rw [Table.lookup_insert_eq] at hrow
      split at hrow
      · cases hrow
        exact ⟨nofun, nofun⟩
      · exact h rid' row hrow
  moved := by
    intro db rid dst t h rid' row hrow
    simp only [Db.recordRolloutTransition, Table.lookup_modify] at hrow
    split at hrow
    · rename_i heq
      subst heq
      obtain ⟨old, hold, rfl⟩ := Option.map_eq_some_iff.mp hrow
      unfold RolloutRecord.setState
      split
      · exact h rid' old hold
      · cases dst <;> simp
    · exact h rid' row hrow
  waved := by
    intro db rid wave h rid' row hrow
    rw [setCurrentWave_lookup] at hrow
    obtain ⟨old, hold, rfl⟩ := Option.map_eq_some_iff.mp hrow
    split
    · exact h rid' old hold
    · exact h rid' old hold

theorem rowStep_closedAt {db : Db} (h : RowsClosedAt db.rollouts) (w : RowWrite) :
    RowsClosedAt (rowStep db w).1.rollouts := by
  cases w with
  | opened rid channel targetRef at' =>
      exact rowsClosedAt_rowWrites.opened db rid channel targetRef at' h
  | event ctx e => exact (rowsClosedAt_rowWrites.calls ctx.faults).event ctx db e rfl h
  | waveBump rid wave => exact rowsClosedAt_rowWrites.waved db rid wave h
  | sweep cutoff => exact fun rid row hrow => h rid row (lookup_of_prune hrow)

/-! ## Runs -/

/-- Records of one view stay so. -/
theorem foldl_next_view {r r' : RolloutRecord} (h : r.view = r'.view) (es : List RolloutEvent) :
    (es.foldl RolloutRecord.next r).view = (es.foldl RolloutRecord.next r').view := by
  induction es generalizing r r' with
  | nil => exact h
  | cons e es ih =>
      have hone := replayEvent_view h e
      rw [replayEvent_some, replayEvent_some] at hone
      exact ih (by simpa using hone)

/-- **The rows after a sequence of events.** They are the records that the machine makes
of the rows before. -/
theorem foldl_processRolloutEvent_view {calls : List (ApplierCtx × RolloutEvent)}
    (hstored : ∀ call ∈ calls, call.1.faults = noFaults) {db : Db} (hrows : db.RowsOk)
    (rid : RolloutId) :
    ((calls.foldl (fun db call => processRolloutEvent call.1 db call.2) db).rollouts.lookup
      rid).map (·.view) =
    (db.rollouts.lookup rid).map fun row =>
      (((calls.map Prod.snd).filter (·.rolloutId = rid)).foldl RolloutRecord.next row).view := by
  induction calls generalizing db with
  | nil => rfl
  | cons call rest ih =>
      have hcall := hstored call List.mem_cons_self
      have hview := processRolloutEvent_view hcall hrows call.2 rid
      have hnext : (processRolloutEvent call.1 db call.2).RowsOk :=
        (processRolloutEvent_rows hrows call.2).1
      have hrest := ih (fun c hc => hstored c (List.mem_cons_of_mem _ hc)) hnext
      rw [List.foldl_cons, hrest]
      cases hrow : db.rollouts.lookup rid with
      | none =>
          rw [hrow] at hview
          have hnone := Option.map_eq_none_iff.mp hview
          rw [hnone]
          rfl
      | some row =>
          rw [hrow] at hview
          obtain ⟨row', hrow', hlike⟩ := Option.map_eq_some_iff.mp hview
          dsimp only at hlike
          rw [hrow', Option.map_some, Option.map_some, List.map_cons]
          by_cases hrid : rid = call.2.rolloutId
          · rw [if_pos hrid] at hlike
            rw [List.filter_cons_of_pos (by simpa using hrid.symm), List.foldl_cons]
            exact congrArg some (foldl_next_view hlike _)
          · rw [if_neg hrid] at hlike
            rw [List.filter_cons_of_neg (by simpa using Ne.symm hrid)]
            exact congrArg some (foldl_next_view hlike _)

theorem applyRolloutEffect_rollouts_congr {ctx : ApplierCtx} {db db' : Db}
    (h : db.rollouts = db'.rollouts) (effect : RolloutEffect) :
    (applyRolloutEffect ctx db effect).rollouts =
      (applyRolloutEffect ctx db' effect).rollouts := by
  cases effect with
  | recordRolloutTransition rid src dst t =>
      simp only [applyRolloutEffect, appendEventLog_rollouts]
      split
      · exact h
      · simp only [Db.recordRolloutTransition, h]
  | updateCurrentWave rid wave =>
      simp only [applyRolloutEffect]
      split
      · exact h
      · simp only [Db.setCurrentWave, h]

theorem foldl_applyRolloutEffect_rollouts_congr {ctx : ApplierCtx} {db db' : Db}
    (h : db.rollouts = db'.rollouts) (effects : List RolloutEffect) :
    (effects.foldl (applyRolloutEffect ctx) db).rollouts =
      (effects.foldl (applyRolloutEffect ctx) db').rollouts := by
  induction effects generalizing db db' with
  | nil => exact h
  | cons effect rest ih => exact ih (applyRolloutEffect_rollouts_congr h effect)

/-- A write depends on the `rollouts` table only. -/
theorem rowStep_rollouts_congr {db db' : Db} (h : db.rollouts = db'.rollouts) (w : RowWrite) :
    (rowStep db w).1.rollouts = (rowStep db' w).1.rollouts := by
  cases w with
  | opened rid channel targetRef at' =>
      simp only [rowStep, Db.recordRolloutOpened, h]
      split
      · exact h
      · rfl
  | event ctx e =>
      simp only [rowStep, processRolloutEvent, h]
      split
      · exact h
      · split
        · exact h
        · split
          · rename_i effects _
            refine foldl_applyRolloutEffect_rollouts_congr ?_ effects
            exact h
          · exact h
  | waveBump rid wave => simp only [rowStep, Db.setCurrentWave, h]
  | sweep cutoff => simp only [rowStep, Db.pruneFinishedRollouts, h]

/-- The rows are those of a run of writes of which no statement failed. -/
def RowsReached (rollouts : Table RolloutId RolloutRow) : Prop :=
  ∃ ws : List RowWrite, (∀ w ∈ ws, w.stored) ∧ (rowMachine.run Db.empty ws).rollouts = rollouts

theorem RowsReached.write {db : Db} (h : RowsReached db.rollouts) {w : RowWrite}
    (hw : w.stored) : RowsReached (rowStep db w).1.rollouts := by
  obtain ⟨ws, hws, hrows⟩ := h
  refine ⟨ws ++ [w], ?_, ?_⟩
  · intro w' hw'
    rcases List.mem_append.mp hw' with hmem | hmem
    · exact hws w' hmem
    · rwa [List.mem_singleton.mp hmem]
  · rw [rowMachine.run_append]
    exact rowStep_rollouts_congr hrows w

/-- Whatever the control plane does to the rows is a run of their writers. -/
theorem cp_rowsReached {is : List CpInput} (his : ∀ i ∈ is, i.faults = noFaults) :
    RowsReached (cpMachine.run .initial is).db.rollouts := by
  have hcalls : RowCalls noFaults RowsReached := by
    refine ⟨?_, ?_, ?_⟩
    · exact fun db rid channel targetRef t h =>
        h.write (w := .opened rid channel targetRef t) trivial
    · exact fun ctx db e hctx h => h.write (w := .event ctx e) hctx
    · exact fun db rid wave h => h.write (w := .waveBump rid wave) trivial
  refine cpMachine.run_invariant (P := fun cp => RowsReached cp.db.rollouts)
    (fun cp i h hi => ?_) ⟨[], by simp, rfl⟩ (Machine.meets_of_forall cpMachine his .initial)
  have hi' : RowCalls i.faults RowsReached := by
    rw [hi]
    exact hcalls
  exact hi'.step (fun _ => h.write (w := .sweep _) trivial) h

/-- **The rows and the rollout machine.** In every run of the rows' writers of which no statement
fails, the row after an event is the record that the machine returned, a transition is recorded
exactly when the state changes, no wave cursor moves back, a pruned row stays pruned, and terminal
and superseded rows have their times. The rows of every run of the control plane in which no
statement fails are those of such a run. -/
theorem rows_follow_machine :
    (∀ ws : List RowWrite, (∀ w ∈ ws, w.stored) → rowMachine.Meets RowLaws Db.empty ws ∧
      RowsClosedAt (rowMachine.run Db.empty ws).rollouts) ∧
    ∀ is : List CpInput, (∀ i ∈ is, i.faults = noFaults) →
      RowsReached (cpMachine.run .initial is).db.rollouts := by
  refine ⟨fun ws hws => ⟨?_, ?_⟩, fun is his => cp_rowsReached his⟩
  · refine rowMachine.meets_of_invariant (P := Db.RowsOk) (fun db w h _ => rowStep_rowsOk h w)
      (fun db w h hw => rowLaws h hw) ?_ (Machine.meets_of_forall rowMachine hws Db.empty)
    intro rid row hrow
    cases hrow
  · refine rowMachine.run_invariant_of_step (P := fun db => RowsClosedAt db.rollouts)
      (fun db w h => rowStep_closedAt h w) ?_ ws
    intro rid row hrow
    cases hrow

/-- A rollout is opened, its only host joins, and it ends. -/
def endedRollout : List RowWrite :=
  let rid := RolloutId.new "stable" "r1"
  let ctx : ApplierCtx := ⟨stableManifests (stableFleet "r1" [("a", "new")]
    ⟨"all-at-once", [], .halt⟩ [] [] []), 2, noFaults⟩
  [.opened rid "stable" "r1" 1, .event ctx (.hostJoined rid "a" 0 1),
    .event ctx (.rolloutTerminal rid 2)]

theorem endedRollout_follows_machine :
    rowMachine.Meets RowLaws Db.empty endedRollout ∧
    (((rowMachine.run Db.empty endedRollout).rollouts.lookup (.new "stable" "r1")).map (·.view)) =
      some ⟨.terminal, 0, some 2, none⟩ ∧
    RowsReached (cpMachine.run .initial deferredFirstWave).db.rollouts :=
  ⟨(rows_follow_machine.1 endedRollout (by simp [endedRollout, RowWrite.stored])).1, by decide,
    rows_follow_machine.2 deferredFirstWave (by simp [deferredFirstWave, stagedRun,
      CpInput.plain])⟩

end Nixfleet
