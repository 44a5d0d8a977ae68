import Nixfleet.ControlPlane.Retention
import Nixfleet.ControlPlane.RowFollows
import Nixfleet.ControlPlane.RowMachine

set_option autoImplicit false

/-!
# The hosts of a finished rollout

Opening a rollout writes a record for every host of its manifest, and only the retention sweep
deletes records. The row gets its end from one event alone, which the reducer sends when every
record of the rollout is `Converged`, and a `Converged` record accepts no further event
(`EndsConverged`). So the hosts of the manifest are `Converged` from the end of the rollout until
its row is swept (`terminal_all_converged`).
-/

namespace Nixfleet

/-- Every host of the manifest has a record of the rollout that is `Converged`. -/
def Db.AllConverged (db : Db) (rid : RolloutId) (manifest : RolloutManifest) : Prop :=
  ∀ hw ∈ manifest.hostSet, ∃ r ∈ db.loadRecord rid hw.hostname, r.state = .converged

instance (db : Db) (rid : RolloutId) (manifest : RolloutManifest) :
    Decidable (db.AllConverged rid manifest) :=
  inferInstanceAs (Decidable (∀ hw ∈ manifest.hostSet, ∃ r ∈ db.loadRecord _ _, _))

/-- The plan of the step opens the rollout from the manifest. -/
def Cp.Opens (cp : Cp) (i : CpInput) (rid : RolloutId) (manifest : RolloutManifest) : Prop :=
  ∃ m plan channel targetRef, cp.planSet i = some m ∧ cp.plan i = some plan ∧
    .openRollout rid channel targetRef ∈ plan.actions ∧
    m.rollouts.lookup channel = some manifest

/-- Once the rollout has ended, all its records are `Converged`. -/
def EndsConverged (rid : RolloutId) (db : Db) : Prop :=
  Ended rid db.rollouts → ∀ host r, db.loadRecord rid host = some r → r.state = .converged

/-! ## The end of a rollout -/

/-- The event that ends a rollout with all hosts converged. -/
def RolloutEvent.finishes : RolloutEvent → Bool
  | .rolloutTerminal .. => true
  | _ => false

/-- No other event sets the time at which the rollout ended. -/
theorem next_terminalAt {r : RolloutRecord} {e : RolloutEvent} (he : e.finishes = false) :
    (r.next e).terminalAt = r.terminalAt := by
  have hmoved : ∀ (r : RolloutRecord) (dst : HostState) (t : Time) (next : RolloutRecord)
      (effects : List RolloutEffect), r.hostMoved dst t = .ok (next, effects) →
      next.terminalAt = r.terminalAt := by
    intro r dst t next effects h
    cases dst <;> cases h <;> rfl
  unfold RolloutRecord.next
  cases hstep : rolloutStep r e with
  | error => rfl
  | ok out =>
      obtain ⟨next, effects⟩ := out
      unfold rolloutStep at hstep
      cases e with
      | rolloutTerminal => cases he
      | hostStateChanged _ _ _ dst t =>
          cases hs : r.state <;> simp only [hs] at hstep
          case active | converging => exact hmoved r dst t next effects hstep
          all_goals cases hstep <;> rfl
      | waveAdvanced =>
          cases hs : r.state <;> simp only [hs, activeStep, convergingStep] at hstep
          case active | converging =>
            split at hstep
            · split at hstep <;> cases hstep <;> rfl
            · cases hstep
              rfl
          all_goals cases hstep <;> rfl
      | _ => cases hs : r.state <;> simp only [hs] at hstep <;> cases hstep <;> rfl

section Events

variable {ctx : ApplierCtx} {db : Db} {rid rid' : RolloutId} {host : HostId}

theorem ended_of_processRolloutEvent (hstored : ctx.faults = noFaults) (hrows : db.RowsOk)
    {e : RolloutEvent} (h : Ended rid (processRolloutEvent ctx db e).rollouts) :
    Ended rid db.rollouts ∨ e.finishes = true ∧ e.rolloutId = rid := by
  obtain ⟨row', hrow', hend⟩ := h
  have hview := processRolloutEvent_view hstored hrows e rid
  rw [hrow', Option.map_some] at hview
  obtain ⟨row, hrow, hlike⟩ := Option.map_eq_some_iff.mp hview.symm
  by_cases hown : rid = e.rolloutId
  · rw [if_pos hown] at hlike
    cases hfin : e.finishes with
    | true => exact .inr ⟨rfl, hown.symm⟩
    | false =>
        have htime : row.terminalAt = row'.terminalAt :=
          (next_terminalAt hfin).symm.trans (congrArg RolloutView.terminalAt hlike)
        exact .inl ⟨row, hrow, htime ▸ hend⟩
  · rw [if_neg hown] at hlike
    have htime : row.terminalAt = row'.terminalAt := congrArg RolloutView.terminalAt hlike
    exact .inl ⟨row, hrow, htime ▸ hend⟩

/-- **What ends a rollout.** The report of a changed host state ends its rollout only if all its
records are `Converged`. -/
theorem ended_of_hostStateChanged (hstored : ctx.faults = noFaults) (hrows : db.RowsOk)
    {src dst : HostState} (h : Ended rid (hostStateChanged ctx db host rid' src dst).rollouts) :
    Ended rid db.rollouts ∨
      rid' = rid ∧ ∀ host r, db.loadRecord rid host = some r → r.state = .converged := by
  have hchanged : ∀ e : RolloutEvent, e.finishes = false →
      Ended rid (processRolloutEvent ctx db e).rollouts → Ended rid db.rollouts := by
    intro e he hend
    refine (ended_of_processRolloutEvent hstored hrows hend).resolve_right ?_
    rintro ⟨hfin, -⟩
    rw [he] at hfin
    cases hfin
  unfold hostStateChanged at h
  split at h
  · exact .inl h
  · dsimp only at h
    split at h
    · rename_i hcond
      have hnext : (processRolloutEvent ctx db
          (.hostStateChanged rid' host src dst ctx.now)).RowsOk :=
        (processRolloutEvent_rows hrows _).1
      rcases ended_of_processRolloutEvent hstored hnext h with hold | ⟨-, hown⟩
      · exact .inl (hchanged _ rfl hold)
      · -- the records that the check has read
        refine .inr ⟨hown, fun host' r hr => ?_⟩
        have hmem : r ∈ (processRolloutEvent ctx db
            (.hostStateChanged rid' host src dst ctx.now)).allForRollout rid' := by
          unfold Db.allForRollout
          rw [processRolloutEvent_hostRolloutRecords]
          refine List.mem_map.mpr ⟨((rid, host'), r), List.mem_filter.mpr ⟨?_, ?_⟩, rfl⟩
          · exact Table.mem_rows.mpr hr
          · exact decide_eq_true hown.symm
        simpa using List.all_eq_true.mp hcond.2.2.2 r hmem
    · exact .inl (hchanged _ rfl h)

/-- A `Converged` record accepts no event. -/
theorem not_accepted_of_converged {rs : ReducerState} {event : Event} {m : SignedManifestSet}
    {prior next : HostRolloutState} {effects : List Effect}
    (hacc : Accepted rs db host rid event m prior next effects) : prior.state ≠ .converged := by
  intro hs
  obtain ⟨policy, -, hstep⟩ := hacc.step
  have hmove := (hostStep_spec hstep).move
  rw [hs] at hmove
  cases hmove

theorem EndsConverged.hostEvent {rs : ReducerState} {now : Time} {event : Event}
    (h : EndsConverged rid db) (hrows : db.RowsOk) (hkeyed : db.RecordsKeyed) :
    EndsConverged rid (handleHostEvent rs now noFaults db host rid' event) := by
  intro hend host' r hr
  have hcases : Ended rid db.rollouts ∨ r.state = .converged := by
    rcases handleHostEvent_cases rs now noFaults db host rid' event with
      heq | ⟨m, prior, next, effects, hacc, heq⟩
    · rw [heq] at hend
      exact .inl hend
    · rw [heq] at hend hr
      unfold acceptHostEvent at hend
      have hsame : (effects.foldl (applyEffect ⟨m, now, noFaults⟩)
          (db.upsertRecord next)).rollouts = db.rollouts := foldl_applyEffect_rollouts ..
      have hstored : (effects.foldl (applyEffect ⟨m, now, noFaults⟩)
          (db.upsertRecord next)).RowsOk := fun rid row hrow => hrows rid row (hsame ▸ hrow)
      rcases ended_of_hostStateChanged rfl hstored hend with hold | ⟨-, hall⟩
      · exact .inl (hsame ▸ hold)
      · refine .inr (hall host' r ?_)
        rw [loadRecord_congr (acceptHostEvent_hostRolloutRecords ..)] at hr
        rw [loadRecord_congr (foldl_applyEffect_hostRolloutRecords ..)]
        exact hr
  rcases hcases with hold | hconverged
  · rcases handleHostEvent_record hkeyed hr with hrec | ⟨-, -, m, prior, effects, hacc⟩
    · exact h hold host' r hrec
    · exact absurd (h hold host' prior hacc.loaded) (not_accepted_of_converged hacc)
  · exact hconverged

end Events

/-! ## Plan ticks -/

section Plan

variable {ctx : ApplierCtx} {db : Db} {rid : RolloutId}

/-- The rows are in order, and the rollout has ended only if it had so at the start. -/
def NoNewEnd (rid : RolloutId) (db₀ db : Db) : Prop :=
  db.RowsOk ∧ (Ended rid db.rollouts → Ended rid db₀.rollouts)

theorem NoNewEnd.event {db₀ : Db} (h : NoNewEnd rid db₀ db) (hstored : ctx.faults = noFaults)
    {e : RolloutEvent} (he : e.finishes = false) :
    NoNewEnd rid db₀ (processRolloutEvent ctx db e) := by
  refine ⟨(processRolloutEvent_rows h.1 e).1, fun hend => ?_⟩
  rcases ended_of_processRolloutEvent hstored h.1 hend with hold | ⟨hfin, -⟩
  · exact h.2 hold
  · rw [he] at hfin
    cases hfin

theorem NoNewEnd.opened {db₀ : Db} (h : NoNewEnd rid db₀ db) (rid' : RolloutId)
    (channel : ChannelId) (targetRef : ChannelRef) (t : Time) :
    NoNewEnd rid db₀ (db.recordRolloutOpened rid' channel targetRef t) := by
  refine ⟨(recordRolloutOpened_rows ⟨h.1, .refl db⟩ rid' channel targetRef t).1, ?_⟩
  rintro ⟨row, hrow, hend⟩
  unfold Db.recordRolloutOpened at hrow
  split at hrow
  · exact h.2 ⟨row, hrow, hend⟩
  · rw [Table.lookup_insert_eq] at hrow
    split at hrow
    · -- the fresh row has no end
      cases hrow
      cases hend
    · exact h.2 ⟨row, hrow, hend⟩

theorem NoNewEnd.waved {db₀ : Db} (h : NoNewEnd rid db₀ db) (rid' : RolloutId) (wave : Nat) :
    NoNewEnd rid db₀ (db.setCurrentWave rid' wave) := by
  refine ⟨setCurrentWave_rowsOk h.1 rid' wave, ?_⟩
  rintro ⟨row, hrow, hend⟩
  rw [setCurrentWave_lookup, Option.map_eq_some_iff] at hrow
  obtain ⟨old, hold, rfl⟩ := hrow
  refine h.2 ⟨old, hold, ?_⟩
  split at hend
  · exact hend
  · exact hend

/-- No plan tick ends a rollout. -/
theorem NoNewEnd.plan {rs : ReducerState} {order : MapOrders} {now : Time} (hrows : db.RowsOk) :
    NoNewEnd rid db (runPlan rs order now noFaults db) := by
  refine runPlan_rule (P := NoNewEnd rid db) ⟨hrows, id⟩ ?_ ?_
  · intro m plan _ hplan
    obtain ⟨_, fs, _, _, hdb, _, _⟩ := planOf_eq_some hplan
    rw [hdb]
    unfold advanceCurrentWaves
    refine List.foldlRecOn (motive := fun acc : Db × FleetState => NoNewEnd rid db acc.1)
      _ _ ⟨hrows, id⟩ ?_
    intro acc hacc bump _
    exact hacc.waved bump.1 bump.2
  · intro m plan _ _ db' hdb' a _
    cases a with
    | openRollout rid' channel targetRef =>
        refine openRollout_steps (P := NoNewEnd rid db) (fun hf => by cases hf) (fun _ => ?_)
          ?_ ?_ ?_
        · exact hdb'.opened rid' channel targetRef now
        · exact fun _ _ _ _ _ _ hdb => hdb.event rfl rfl
        · intro manifest _ hw _ db₁ hdb₁
          have hstored : NoNewEnd rid db (db₁.upsertRecord
              (pendingRecord ⟨m, now, noFaults⟩ rid' channel hw)) := hdb₁
          exact hstored.event rfl rfl
        · exact fun _ _ hdb => hdb
    | queueDispatch host rid' closure due =>
        have hsame := queueDispatch_rollouts ⟨m, now, noFaults⟩ db' host rid' closure due
        refine ⟨fun rid₁ row hrow => hdb'.1 rid₁ row (hsame ▸ hrow), fun hend => hdb'.2 ?_⟩
        exact hsame ▸ hend
    | deferDispatch => exact hdb'

theorem EndsConverged.plan {rs : ReducerState} {order : MapOrders} {now : Time}
    (h : EndsConverged rid db) (hrows : db.RowsOk) :
    EndsConverged rid (runPlan rs order now noFaults db) := by
  intro hend host r hr
  have hold := (NoNewEnd.plan hrows).2 hend
  rcases runPlan_record hr with hrec | ⟨m, plan, targetRef, -, hplan, hact, -⟩
  · exact h hold host r hrec
  · -- a rollout that has a row is not opened
    obtain ⟨row, hrow, -⟩ := hold
    have hnone := row_none_of_openRollout hplan rfl hact
    rw [hrow] at hnone
    cases hnone

end Plan

/-! ## Every step -/

theorem cpStep_endsConverged {cp : Cp} {i : CpInput} {rid : RolloutId}
    (hstored : i.faults = noFaults) (hrows : cp.db.RowsOk) (hkeyed : cp.db.RecordsKeyed)
    (h : EndsConverged rid cp.db) : EndsConverged rid (cpStep cp i).1.db := by
  refine (cpStep_rule (P := fun db => (db.RowsOk ∧ db.RecordsKeyed) ∧ EndsConverged rid db)
    ⟨⟨hrows, hkeyed⟩, h⟩ ?_ ?_ ?_ ?_).2
  · rintro rs db host rid' event - ⟨⟨hdb, hk⟩, hends⟩
    rw [hstored]
    refine ⟨⟨?_, handleHostEvent_recordsKeyed hk host rid' event⟩, hends.hostEvent hdb hk⟩
    exact (handleHostEvent_rows ⟨hdb, .refl db⟩ host rid' event).1
  · intro rs m _ _
    rw [hstored]
    exact ⟨⟨(runPlan_rows ⟨hrows, .refl _⟩).1, runPlan_recordsKeyed hkeyed⟩, h.plan hrows⟩
  · intro _
    refine ⟨⟨prune_rowsOk hrows _, fun rid host r hr => ?_⟩, ?_⟩
    · exact hkeyed rid host r (loadRecord_of_prune hr)
    · rintro ⟨row, hrow, hend⟩ host r hr
      exact h ⟨row, lookup_of_prune hrow, hend⟩ host r (loadRecord_of_prune hr)
  · intro host
    refine ⟨⟨fun rid row hrow => ?_, fun rid host' r hr => ?_⟩, fun hend host' r hr => ?_⟩
    · rw [takeForHost_rollouts] at hrow
      exact hrows rid row hrow
    · rw [loadRecord_takeForHost] at hr
      exact hkeyed rid host' r hr
    · rw [takeForHost_rollouts] at hend
      rw [loadRecord_takeForHost] at hr
      exact h hend host' r hr

/-- **An ended rollout has converged.** In every run of which no statement fails, all records of a
rollout that has ended are `Converged`. -/
theorem run_endsConverged {is : List CpInput} (hstored : ∀ i ∈ is, i.faults = noFaults)
    (rid : RolloutId) : EndsConverged rid (cpMachine.run .initial is).db := by
  refine (cpMachine.run_invariant (P := fun cp => (cp.db.RowsOk ∧ cp.db.RecordsKeyed) ∧
    EndsConverged rid cp.db) ?_ ?_ (Machine.meets_of_forall cpMachine hstored _)).2
  · rintro cp i ⟨⟨hrows, hkeyed⟩, h⟩ hi
    exact ⟨⟨(cpStep_rows hrows i).1, cpStep_recordsKeyed hkeyed i⟩,
      cpStep_endsConverged hi hrows hkeyed h⟩
  · refine ⟨⟨run_rowsOk [], run_recordsKeyed []⟩, ?_⟩
    rintro ⟨row, hrow, -⟩
    cases hrow

/-! ## The records of an opened rollout -/

/-- The host has a record of the rollout. -/
def HasRecord (rid : RolloutId) (host : HostId) (db : Db) : Prop :=
  (db.loadRecord rid host).isSome = true

section Records

variable {ctx : ApplierCtx} {db : Db} {rid : RolloutId} {host : HostId}

theorem HasRecord.congr {db' : Db} (h : HasRecord rid host db)
    (hrecords : db'.hostRolloutRecords = db.hostRolloutRecords) : HasRecord rid host db' := by
  unfold HasRecord
  rw [loadRecord_congr hrecords]
  exact h

theorem HasRecord.upsert (h : HasRecord rid host db) (s : HostRolloutState) :
    HasRecord rid host (db.upsertRecord s) := Table.isSome_lookup_insert h

theorem HasRecord.openHost (h : HasRecord rid host db) (rid' : RolloutId) (channel : ChannelId)
    (hw : HostWave) : HasRecord rid host (openHost ctx rid' channel db hw) := by
  unfold Nixfleet.openHost
  split
  · exact h
  · exact (h.upsert _).congr (processRolloutEvent_hostRolloutRecords ..)

theorem HasRecord.action (h : HasRecord rid host db) (a : PlanAction) :
    HasRecord rid host (applyPlanAction ctx db a) := by
  cases a with
  | openRollout rid' channel targetRef =>
      refine openRollout_rule (P := HasRecord rid host) (fun _ => h) (fun _ => ?_)
        (fun _ _ _ hdb => hdb.congr (processRolloutEvent_hostRolloutRecords ..))
        (fun _ _ _ _ _ hdb => hdb.upsert _) fun _ _ hdb => hdb
      refine h.congr ?_
      unfold Db.recordRolloutOpened
      split <;> rfl
  | queueDispatch => exact h.congr (queueDispatch_hostRolloutRecords ..)
  | deferDispatch => exact h

theorem HasRecord.plan {rs : ReducerState} {order : MapOrders} {now : Time} {faults : Faults}
    (h : HasRecord rid host db) : HasRecord rid host (runPlan rs order now faults db) := by
  refine runPlan_rule (P := HasRecord rid host) h ?_ fun _ _ _ _ _ hdb a _ => hdb.action a
  intro m plan _ hplan
  obtain ⟨_, fs, _, _, hdb, _, _⟩ := planOf_eq_some hplan
  rw [hdb]
  exact h.congr (advanceCurrentWaves_hostRolloutRecords ..)

theorem HasRecord.hostEvent {rs : ReducerState} {now : Time} {faults : Faults} {host' : HostId}
    {rid' : RolloutId} {event : Event} (h : HasRecord rid host db) :
    HasRecord rid host (handleHostEvent rs now faults db host' rid' event) :=
  handleHostEvent_rule h fun _ _ next _ _ =>
    (h.upsert next).congr (acceptHostEvent_hostRolloutRecords ..)

/-- Opening writes a record for every host of the manifest. -/
theorem hasRecord_of_openRollout (hstored : ctx.faults = noFaults) {channel : ChannelId}
    {targetRef : ChannelRef} {manifest : RolloutManifest}
    (hm : ctx.manifests.rollouts.lookup channel = some manifest) {hw : HostWave}
    (hmem : hw ∈ manifest.hostSet) :
    HasRecord rid hw.hostname (openRollout ctx db rid channel targetRef) := by
  obtain ⟨before, after, hset⟩ := List.append_of_mem hmem
  unfold openRollout
  simp only [hstored, noFaults, Bool.false_eq_true, if_false, hm]
  generalize List.foldl (fun db predecessor => processRolloutEvent ctx db _) _ _ = db₁
  rw [hset, List.foldl_append, List.foldl_cons]
  refine List.foldlRecOn (motive := HasRecord rid hw.hostname) after (openHost ctx rid channel) ?_
    fun _ hdb hw' _ => hdb.openHost rid channel hw'
  unfold openHost
  rw [if_neg (by simp [hstored, noFaults])]
  refine HasRecord.congr ?_ (processRolloutEvent_hostRolloutRecords ..)
  unfold HasRecord
  rw [loadRecord_upsertRecord, if_pos ⟨rfl, rfl⟩]
  rfl

/-- A tick that opens the rollout leaves a record for every host of its manifest. -/
theorem hasRecord_of_runPlan {rs : ReducerState} {order : MapOrders} {now : Time}
    {m : SignedManifestSet} {plan : Plan} {channel : ChannelId} {targetRef : ChannelRef}
    {manifest : RolloutManifest} (hrs : rs.manifests = some m)
    (hplan : planOf rs order now noFaults db = some plan)
    (hact : .openRollout rid channel targetRef ∈ plan.actions)
    (hm : m.rollouts.lookup channel = some manifest) {hw : HostWave}
    (hmem : hw ∈ manifest.hostSet) :
    HasRecord rid hw.hostname (runPlan rs order now noFaults db) := by
  obtain ⟨before, after, hactions⟩ := List.append_of_mem hact
  unfold runPlan
  simp only [hrs, hplan, hactions]
  rw [List.foldl_append, List.foldl_cons]
  refine List.foldlRecOn (motive := HasRecord rid hw.hostname) after
    (applyPlanAction ⟨m, now, noFaults⟩) ?_ fun _ hdb a _ => hdb.action a
  exact hasRecord_of_openRollout rfl hm hmem

theorem cpStep_hasRecord {cp : Cp} {i : CpInput} (h : HasRecord rid host cp.db)
    (hkept : KeepsRow rid cp i) : HasRecord rid host (cpStep cp i).1.db := by
  refine cpStep_rule (P := HasRecord rid host) h (fun _ _ _ _ _ _ hdb => hdb.hostEvent)
    (fun _ _ _ _ => h.plan) ?_ fun host' => ?_
  · -- the records of a rollout go with its row
    intro hsweep
    unfold KeepsRow at hkept
    rw [hsweep] at hkept
    obtain ⟨r, hr⟩ := Option.isSome_iff_exists.mp h
    refine Option.isSome_iff_exists.mpr ⟨r, (Table.lookup_filterRows _ _ _ _).mpr ⟨hr, ?_⟩⟩
    cases hrow : cp.db.rollouts.lookup rid with
    | none => simp [hrow]
    | some row => simp [hrow, hkept row hrow]
  · exact h.congr (takeForHost_hostRolloutRecords ..)

end Records

/-! ## Runs -/

/-- The step that opens a rollout leaves a record for every host of the manifest. -/
theorem hasRecord_of_opens {cp : Cp} {i : CpInput} (hstored : i.faults = noFaults)
    {rid : RolloutId} {manifest : RolloutManifest} (h : cp.Opens i rid manifest) {hw : HostWave}
    (hmem : hw ∈ manifest.hostSet) : HasRecord rid hw.hostname (cpStep cp i).1.db := by
  obtain ⟨m, plan, channel, targetRef, hset, hplan, hact, hm⟩ := h
  unfold Cp.planSet at hset
  unfold Cp.plan at hplan
  rw [hstored] at hplan
  unfold cpStep
  split at hplan
  · rename_i set hi
    simp only [hi] at hset ⊢
    cases hset
    rw [hstored]
    exact hasRecord_of_runPlan rfl hplan hact hm hmem
  · rename_i hi
    simp only [hi] at hset ⊢
    rw [hstored]
    exact hasRecord_of_runPlan hset hplan hact hm hmem
  · cases hplan

/-- **A finished rollout has converged.** In a run of which no statement fails, a rollout is opened
from a manifest, and its row becomes `Terminal`. Then every host of the manifest has a record in
`Converged`, and keeps it as long as the sweep does not delete the rollout. -/
theorem terminal_all_converged (before later later' : List CpInput) (i : CpInput)
    (rid : RolloutId) (manifest : RolloutManifest)
    (hstored : ∀ j ∈ before ++ i :: (later ++ later'), j.faults = noFaults)
    (hopens : (cpMachine.run .initial before).Opens i rid manifest)
    (hkept : cpMachine.Meets (KeepsRow rid) (cpMachine.run .initial (before ++ [i]))
      (later ++ later'))
    (hterminal : (cpMachine.run .initial (before ++ i :: later)).db.RolloutIs rid .terminal) :
    (cpMachine.run .initial (before ++ i :: (later ++ later'))).db.AllConverged rid manifest := by
  have hrun : ∀ js, cpMachine.run .initial (before ++ i :: js) =
      cpMachine.run (cpMachine.run .initial (before ++ [i])) js := by
    intro js
    rw [← cpMachine.run_append, List.append_assoc, List.singleton_append]
  -- the rollout has ended, and stays so
  have hended : Ended rid
      (cpMachine.run .initial (before ++ i :: (later ++ later'))).db.rollouts := by
    obtain ⟨row, hrow, hs⟩ := hterminal
    have hmid := ended_of_terminal (run_rowsOk (before ++ i :: later)) hrow hs
    have hlater := ((cpMachine.meets_append _ _ later later').mp hkept).2
    rw [hrun] at hmid
    rw [hrun, cpMachine.run_append]
    exact cpMachine.run_invariant (P := fun cp => Ended rid cp.db.rollouts)
      (fun cp j h hj => cpStep_ended h hj) hmid hlater
  intro hw hmem
  have hrecord : HasRecord rid hw.hostname
      (cpMachine.run .initial (before ++ i :: (later ++ later'))).db := by
    rw [hrun]
    refine cpMachine.run_invariant (P := fun cp => HasRecord rid hw.hostname cp.db)
      (fun cp j h hj => cpStep_hasRecord h hj) ?_ hkept
    rw [cpMachine.run_append]
    exact hasRecord_of_opens (hstored i (by simp)) hopens hmem
  obtain ⟨r, hr⟩ := Option.isSome_iff_exists.mp hrecord
  exact ⟨r, hr, run_endsConverged hstored rid hended hw.hostname r hr⟩

/-- The manifest that `finishedRun` opens its rollout from. -/
def finishedManifest : RolloutManifest :=
  ⟨1, "stable@r1", "stable", "r1", "", [⟨"host", 0, "new"⟩], [],
    ⟨1, some 0, some "r1", some "ed25519"⟩⟩

/-- The input that brings it. -/
def finishedSet : CpInput :=
  .plain (.manifestSetUpdated (stableManifests
    (stableFleet "r1" [("host", "new")] ⟨"all-at-once", [], .halt⟩ [] [] []))) 0

theorem finishedSet_opens : Cp.initial.Opens finishedSet (.new "stable" "r1") finishedManifest := by
  have hplan : (Cp.initial.plan finishedSet).any (fun plan =>
      .openRollout (.new "stable" "r1") "stable" "r1" ∈ plan.actions) = true := by decide
  obtain ⟨plan, hplan, hact⟩ := (Option.any_eq_true _ _).mp hplan
  exact ⟨_, plan, "stable", "r1", rfl, hplan, of_decide_eq_true hact, by decide⟩

theorem finishedRun_stored (more : List CpInput) (h : ∀ i ∈ more, i.faults = noFaults) :
    ∀ i ∈ finishedRun ++ more, i.faults = noFaults := by
  have hall : ∀ i ∈ finishedRun, i.faults = noFaults := by simp [finishedRun, CpInput.plain]
  intro i hi
  rcases List.mem_append.mp hi with hrun | hmore
  · exact hall i hrun
  · exact h i hmore

set_option maxRecDepth 4000 in
/-- The host is `Converged` when its rollout ends, and eighty days later. -/
theorem finishedRun_all_converged :
    (cpMachine.run .initial (finishedRun ++ sweepAfter 80)).db.AllConverged (.new "stable" "r1")
      finishedManifest := by
  refine terminal_all_converged [] finishedRun.tail (sweepAfter 80) finishedSet _ _
    (finishedRun_stored (sweepAfter 80) (by simp [sweepAfter, CpInput.plain])) finishedSet_opens
    ⟨trivial, trivial, trivial, ?_, rfl, trivial⟩ ?_
  · show ∀ row ∈ _, _ = false
    decide
  · show (cpMachine.run .initial finishedRun).db.RolloutIs _ _
    decide

set_option maxRecDepth 4000 in
/-- Ninety-one days later the sweep deletes the rollout with the record of its host. -/
theorem sweptRun_not_all_converged :
    (∀ i ∈ finishedRun ++ [.plain .pruneSweep (hours (24 * 91))], i.faults = noFaults) ∧
    Cp.initial.Opens finishedSet (.new "stable" "r1") finishedManifest ∧
    finishedRun.head? = some finishedSet ∧
    (cpMachine.run .initial finishedRun).db.RolloutIs (.new "stable" "r1") .terminal ∧
    ¬ (cpMachine.run .initial
        (finishedRun ++ [.plain .pruneSweep (hours (24 * 91))])).db.AllConverged
      (.new "stable" "r1") finishedManifest :=
  ⟨finishedRun_stored _ (by simp [CpInput.plain]), finishedSet_opens, rfl, by decide, by decide⟩

end Nixfleet
