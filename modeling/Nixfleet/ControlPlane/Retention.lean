import Nixfleet.ControlPlane.Projection
import Nixfleet.Reconciler.Manifest

set_option autoImplicit false

/-!
# Finished rollouts and the retention sweep

The planner opens a rollout that has no row, so what keeps a finished rollout closed is its
row. Rows are written by three statements, none of which takes an end away (`RowWrites`); the
retention sweep deletes them. A finished rollout is not opened again while its row is there
and the plan ticks can read it (`terminal_stays_closed`), which the sweep ends after ninety
days, also for a ref that is still current.
-/

namespace Nixfleet

/-! ## A row that has ended -/

/-- The rollout has a row, and the row the time it ended. -/
def Ended (rid : RolloutId) (rollouts : Table RolloutId RolloutRow) : Prop :=
  ∃ row, rollouts.lookup rid = some row ∧ row.terminalAt.isSome = true

theorem setState_terminalAt {row : RolloutRow} (h : row.terminalAt.isSome = true)
    (dst : RolloutState) (t : Time) : (row.setState dst t).terminalAt.isSome = true := by
  unfold RolloutRecord.setState
  split
  · exact h
  · split
    · rfl
    · exact h
    · exact h

/-- No row statement takes an end away. -/
theorem ended_rowWrites (rid : RolloutId) : RowWrites (Ended rid) where
  opened := by
    rintro db rid' channel targetRef t ⟨row, hrow, hend⟩
    unfold Db.recordRolloutOpened
    split
    · exact ⟨row, hrow, hend⟩
    · rename_i hnone
      have hne : rid ≠ rid' := by
        rintro rfl
        exact hnone (by rw [hrow]; rfl)
      exact ⟨row, by rw [Table.lookup_insert_eq, if_neg hne]; exact hrow, hend⟩
  moved := by
    rintro db rid' dst t ⟨row, hrow, hend⟩
    unfold Db.recordRolloutTransition Ended
    rw [Table.lookup_modify]
    by_cases heq : rid = rid'
    · subst heq
      exact ⟨row.setState dst t, by rw [if_pos rfl, hrow]; rfl, setState_terminalAt hend dst t⟩
    · exact ⟨row, by rw [if_neg heq]; exact hrow, hend⟩
  waved := by
    rintro db rid' wave ⟨row, hrow, hend⟩
    unfold Ended
    rw [setCurrentWave_lookup, hrow]
    refine ⟨_, rfl, ?_⟩
    dsimp only
    split
    · exact hend
    · exact hend

/-- The step deletes no row of the rollout, and a plan tick reads it. -/
def KeepsRow (rid : RolloutId) (cp : Cp) (i : CpInput) : Prop :=
  match i.event with
  | .pruneSweep => ∀ row ∈ cp.db.rollouts.lookup rid,
      row.isPrunable (i.now - hours finishedRolloutsRetentionHours) = false
  | .manifestSetUpdated _ | .planTick => i.faults (.rolloutSummary rid) = false
  | _ => True

/-- The output opens the rollout, or queues a dispatch for it. -/
def CpOutput.advances (rid : RolloutId) : CpOutput → Bool
  | .planned _ (.openRollout rid' _ _) => rid' = rid
  | .planned _ (.queueDispatch _ rid' _ _) => rid' = rid
  | _ => false

theorem prune_ended {db : Db} {rid : RolloutId} (h : Ended rid db.rollouts) {cutoff : Time}
    (hkept : ∀ row ∈ db.rollouts.lookup rid, row.isPrunable cutoff = false) :
    Ended rid (db.pruneFinishedRollouts cutoff).rollouts := by
  obtain ⟨row, hrow, hend⟩ := h
  refine ⟨row, ?_, hend⟩
  unfold Db.pruneFinishedRollouts
  rw [Table.lookup_filterRows]
  exact ⟨hrow, by simp [hrow, hkept row hrow]⟩

section Step

variable {cp : Cp} {i : CpInput} {rid : RolloutId}

theorem cpStep_ended (h : Ended rid cp.db.rollouts) (hi : KeepsRow rid cp i) :
    Ended rid (cpStep cp i).1.db.rollouts := by
  refine ((ended_rowWrites rid).calls _).step ?_ h
  intro hevent
  unfold KeepsRow at hi
  rw [hevent] at hi
  exact prune_ended h hi

/-- A tick that reads the row of an ended rollout plans nothing for it. -/
theorem not_advances_of_ended (h : Ended rid cp.db.rollouts) (hi : KeepsRow rid cp i)
    {o : CpOutput} (ho : o ∈ (cpStep cp i).2) : o.advances rid = false := by
  obtain ⟨row, hrow, hend⟩ := h
  by_contra hadv
  cases o with
  | planned fs action =>
      obtain ⟨plan, hplan, rfl, hact⟩ := exists_plan_of_planned_mem ho
      obtain ⟨rs, -, -, hpl⟩ := Cp.plan_eq_some hplan
      have hread : i.faults (.rolloutSummary rid) = false := by
        unfold Cp.plan at hplan
        unfold KeepsRow at hi
        split at hplan
        · rename_i heq
          simpa only [heq] using hi
        · rename_i heq
          simpa only [heq] using hi
        · cases hplan
      cases action with
      | openRollout rid' channel targetRef =>
          have hrid : rid' = rid := by simpa [CpOutput.advances] using hadv
          subst hrid
          -- only a rollout without a row is opened
          have hnone := row_none_of_openRollout hpl hread hact
          rw [hrow] at hnone
          cases hnone
      | queueDispatch host rid' closure due =>
          have hrid : rid' = rid := by simpa [CpOutput.advances] using hadv
          subst hrid
          obtain ⟨m, -, -, -, -, -, hactions⟩ := planOf_eq_some hpl
          rw [hactions] at hact
          obtain ⟨c, hc, rfl, -⟩ := exists_candidate_of_queueDispatch hact
          -- only a rollout without an end has candidates
          obtain ⟨row', hrow', hopen⟩ := row_of_candidate hpl hc
          have hsame : row' = row := Option.some.inj (hrow'.symm.trans hrow)
          rw [hsame] at hopen
          rw [hopen] at hend
          cases hend
      | deferDispatch => exact hadv rfl
  | delivered | replied => exact hadv rfl

end Step

/-! ## Runs -/

theorem ended_of_terminal {db : Db} (h : db.RowsOk) {rid : RolloutId} {row : RolloutRow}
    (hrow : db.rollouts.lookup rid = some row) (hterminal : row.state = .terminal) :
    Ended rid db.rollouts :=
  ⟨row, hrow, (h rid row hrow).terminal hterminal⟩

/-- **A finished rollout stays finished** while its row is kept: no plan tick opens it again or
queues a dispatch for it. -/
theorem terminal_stays_closed {earlier later : List CpInput} {rid : RolloutId} {row : RolloutRow}
    (hrow : (cpMachine.run .initial earlier).db.rollouts.lookup rid = some row)
    (hterminal : row.state = .terminal)
    (hkept : cpMachine.Meets (KeepsRow rid) (cpMachine.run .initial earlier) later) :
    ∀ o ∈ cpMachine.trace (cpMachine.run .initial earlier) later, o.advances rid = false := by
  have hstart := ended_of_terminal (run_rowsOk earlier) hrow hterminal
  refine cpMachine.forall_mem_trace.mpr (cpMachine.meets_of_invariant
    (P := fun cp => Ended rid cp.db.rollouts) ?_ ?_ hstart hkept)
  · exact fun cp i h hi => cpStep_ended h hi
  · exact fun cp i h hi o ho => not_advances_of_ended h hi ho

/-- The rollout of one host, to its end after an hour. -/
def finishedRun : List CpInput :=
  let manifests := stableManifests
    (stableFleet "r1" [("host", "new")] ⟨"all-at-once", [], .halt⟩ [] [] [])
  let event (e : Event) (now : Time) : CpInput :=
    .plain (.hostEvent "host" (.new "stable" "r1") e) now
  [.plain (.manifestSetUpdated manifests) 0, event (.remoteDispatchAck "old" 0 1) 0,
   event (.remoteActivationCompleted "new" 0 0 2) 0,
   event (.remoteConverged (minutes 60) "new" 3) (minutes 60)]

/-- A sweep and a plan tick, some days after the start. The manifests stay the same. -/
def sweepAfter (days : Int) : List CpInput :=
  [.plain .pruneSweep (hours (24 * days)), .plain .planTick (hours (24 * days))]

set_option maxRecDepth 4000 in
/-- After eighty days the row is still there. -/
theorem keptRow_stays_closed :
    (cpMachine.trace (cpMachine.run .initial finishedRun) (sweepAfter 80)).all
      (fun o => !o.advances (.new "stable" "r1")) = true := by
  have hended : ((cpMachine.run .initial finishedRun).db.rollouts.lookup
      (.new "stable" "r1")).any (·.state = .terminal) = true := by decide
  obtain ⟨row, hrow, hterminal⟩ := (Option.any_eq_true _ _).mp hended
  have hrowKept : ∀ row ∈ (cpMachine.run .initial finishedRun).db.rollouts.lookup
      (.new "stable" "r1"), row.isPrunable (hours (24 * 80) - hours (24 * 90)) = false := by
    decide
  have hkept : cpMachine.Meets (KeepsRow (.new "stable" "r1"))
      (cpMachine.run .initial finishedRun) (sweepAfter 80) := ⟨hrowKept, rfl, trivial⟩
  refine List.all_eq_true.mpr fun o ho => ?_
  rw [Bool.not_eq_true']
  exact terminal_stays_closed hrow (of_decide_eq_true hterminal) hkept o ho

set_option maxRecDepth 4000 in
/-- After ninety-one days the sweep deletes the row, and the tick opens the rollout again. -/
theorem prunedRow_reopens :
    ((cpMachine.run .initial finishedRun).db.rollouts.lookup (.new "stable" "r1")).any
        (·.state = .terminal) = true ∧
      ∃ o ∈ cpMachine.trace (cpMachine.run .initial finishedRun) (sweepAfter 91),
        o.advances (.new "stable" "r1") = true := by
  constructor
  · decide
  · exact List.any_eq_true.mp (by decide)

end Nixfleet
