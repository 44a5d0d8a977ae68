import Nixfleet.ControlPlane.Supersession

set_option autoImplicit false

/-!
# The row of a rollout and its hosts

What the row of a rollout says of its hosts when no statement fails. The first host that joins
takes the row out of `Opening`, and the first one that fails takes it to `Failed`, from where only
a successor moves it (`Follows`). A host is rolled back out of its own `Failed`, so its rollback
never finds the row running, and no row is ever `Reverted`.
-/

namespace Nixfleet

/-- The rollout has a row in the state. -/
def Db.RolloutIs (db : Db) (rid : RolloutId) (s : RolloutState) : Prop :=
  ∃ row ∈ db.rollouts.lookup rid, row.state = s

instance (db : Db) (rid : RolloutId) (s : RolloutState) : Decidable (db.RolloutIs rid s) :=
  inferInstanceAs (Decidable (∃ row ∈ db.rollouts.lookup rid, _))

/-- A failed host, and one that was rolled back: the states that halt a rollout. -/
def HostState.halts (s : HostState) : Bool := s = .failed || s = .reverted

/-! ## Rows in step with their hosts -/

/-- The row of the rollout has left `Opening` with the first host, is not running once a host has
failed, and is neither `Reverted` nor `Pruned`. -/
structure Follows (rid : RolloutId) (db : Db) : Prop where
  rows : db.RowsOk
  keyed : db.RecordsKeyed
  unreached : ∀ row, db.rollouts.lookup rid = some row →
    row.state ≠ .reverted ∧ row.state ≠ .pruned
  joined : ∀ host r, db.loadRecord rid host = some r →
    ∃ row, db.rollouts.lookup rid = some row ∧ row.state ≠ .opening
  halted : ∀ host r, db.loadRecord rid host = some r → r.state.halts = true →
    ∀ row, db.rollouts.lookup rid = some row → row.state.isRunning = false

/-- The row follows its hosts, and is still superseded if it was so at the start. -/
structure FollowsSince (db₀ : Db) (rid : RolloutId) (db : Db) : Prop where
  follows : Follows rid db
  ended : db₀.RolloutIs rid .superseded → db.RolloutIs rid .superseded

/-- The row's state stays, or moves along the machine, to neither `Reverted` nor `Pruned`. -/
def RowStep (src dst : RolloutState) : Prop :=
  dst = src ∨ RolloutMove src dst ∧ dst ≠ .reverted ∧ dst ≠ .pruned

theorem RowStep.superseded {dst : RolloutState} (h : RowStep .superseded dst) :
    dst = .superseded := by
  rcases h with heq | ⟨hmove, -, hne⟩
  · exact heq
  · cases hmove with
    | superseded => rfl
    | pruned => exact absurd rfl hne

/-- A host that has not failed halts its rollout by failing. -/
theorem HostMove.failed_of_halts {src dst : HostState} (h : HostMove src dst)
    (hhalts : dst.halts = true) (hsrc : src ≠ .failed) : dst = .failed := by
  cases h with
  | activationFailed | bootFailed | soakFailed => rfl
  | reverted => exact absurd rfl hsrc
  | _ => cases hhalts

theorem Db.RecordsKeyed.upsert {db : Db} (h : db.RecordsKeyed) (s : HostRolloutState) :
    (db.upsertRecord s).RecordsKeyed := by
  intro rid host r hr
  rw [loadRecord_upsertRecord] at hr
  split at hr
  · rename_i hkey
    cases hr
    exact ⟨hkey.1.symm, hkey.2.symm⟩
  · exact h rid host r hr

section Rows

variable {db₀ db db' : Db} {rid : RolloutId}

/-- The records stay, and the row makes a step. -/
theorem FollowsSince.of_rowStep (h : FollowsSince db₀ rid db) (hrows : db'.RowsOk)
    (hrecords : db'.hostRolloutRecords = db.hostRolloutRecords)
    (hsome : (db'.rollouts.lookup rid).isSome = (db.rollouts.lookup rid).isSome)
    (hstep : ∀ row', db'.rollouts.lookup rid = some row' →
      ∃ row, db.rollouts.lookup rid = some row ∧ RowStep row.state row'.state) :
    FollowsSince db₀ rid db' := by
  have hload : ∀ host, db'.loadRecord rid host = db.loadRecord rid host :=
    loadRecord_congr hrecords rid
  have hforth : ∀ row, db.rollouts.lookup rid = some row →
      ∃ row', db'.rollouts.lookup rid = some row' ∧ RowStep row.state row'.state := by
    intro row hrow
    obtain ⟨row', hrow'⟩ := Option.isSome_iff_exists.mp (hsome.trans (by rw [hrow]; rfl))
    obtain ⟨row₁, hrow₁, hmove⟩ := hstep row' hrow'
    rw [hrow] at hrow₁
    cases hrow₁
    exact ⟨row', hrow', hmove⟩
  refine ⟨⟨hrows, ?_, ?_, ?_, ?_⟩, ?_⟩
  · intro rid' host r hr
    rw [loadRecord_congr hrecords] at hr
    exact h.follows.keyed rid' host r hr
  · intro row' hrow'
    obtain ⟨row, hrow, heq | ⟨-, hne⟩⟩ := hstep row' hrow'
    · rw [heq]
      exact h.follows.unreached row hrow
    · exact hne
  · intro host r hr
    rw [hload] at hr
    obtain ⟨row, hrow, hopening⟩ := h.follows.joined host r hr
    obtain ⟨row', hrow', heq | ⟨hmove, -⟩⟩ := hforth row hrow
    · exact ⟨row', hrow', heq ▸ hopening⟩
    · exact ⟨row', hrow', hmove.ne_opening⟩
  · intro host r hr hhalts row' hrow'
    rw [hload] at hr
    obtain ⟨row, hrow, heq | ⟨hmove, -⟩⟩ := hstep row' hrow'
    · rw [heq]
      exact h.follows.halted host r hr hhalts row hrow
    · -- the machine leads to running states from running states only
      by_contra hrun
      rw [Bool.not_eq_false] at hrun
      have hbefore := h.follows.halted host r hr hhalts row hrow
      rw [hmove.isRunning hrun] at hbefore
      cases hbefore
  · intro hended
    obtain ⟨row, hrow, hstate⟩ := h.ended hended
    obtain ⟨row', hrow', hmove⟩ := hforth row hrow
    rw [hstate] at hmove
    exact ⟨row', hrow', hmove.superseded⟩

/-- A step that changes neither the records nor the rows. -/
theorem FollowsSince.congr (h : FollowsSince db₀ rid db)
    (hrecords : db'.hostRolloutRecords = db.hostRolloutRecords)
    (hrows : db'.rollouts = db.rollouts) : FollowsSince db₀ rid db' := by
  refine h.of_rowStep ?_ hrecords (by rw [hrows]) fun row' hrow' => ?_
  · exact fun rid' row hrow => h.follows.rows rid' row (hrows ▸ hrow)
  · exact ⟨row', hrows ▸ hrow', .inl rfl⟩

/-- A rollout event, unless it ends the retention or reverts a running rollout. -/
theorem FollowsSince.event {ctx : ApplierCtx} {e : RolloutEvent} (h : FollowsSince db₀ rid db)
    (hexpires : e.expires = false) (hreverts : e.reverts = true → e.rolloutId = rid →
      ∀ row, db.rollouts.lookup rid = some row → row.state.isRunning = false) :
    FollowsSince db₀ rid (processRolloutEvent ctx db e) := by
  refine h.of_rowStep (processRolloutEvent_rows h.follows.rows e).1
    (processRolloutEvent_hostRolloutRecords ctx db e) (processRolloutEvent_isSome rid) ?_
  intro row' hrow'
  obtain ⟨row, hrow, -, hmoved⟩ := processRolloutEvent_moved h.follows.rows hrow'
  refine ⟨row, hrow, ?_⟩
  rcases hmoved with heq | ⟨hown, next, effects, hok, rid', src, t, hmem⟩
  · exact .inl heq
  · obtain ⟨move, wave, heffects, hmachine⟩ := rolloutStep_spec hok
    have hmove : RolloutMove row.state row'.state :=
      hmachine _ (mem_moveEffects.mp (heffects ▸ hmem)).2.2
    refine .inr ⟨hmove, ?_, ne_pruned_of_mem_effects hok hexpires hmem⟩
    intro hreverted
    rw [hreverted] at hmem hmove
    have hstopped := hreverts (reverts_of_mem_effects hok hmem) hown.symm row hrow
    rw [hmove.running_of_reverted] at hstopped
    cases hstopped

/-- A record is written whose rollout, if it is this one, has a row that has left `Opening`, and
that is not running if the record halts it. -/
theorem FollowsSince.upsert (h : FollowsSince db₀ rid db) {s : HostRolloutState}
    (hrow : s.rolloutId = rid → (∃ row, db.rollouts.lookup rid = some row ∧
      row.state ≠ .opening) ∧ (s.state.halts = true → ∀ row, db.rollouts.lookup rid = some row →
        row.state.isRunning = false)) :
    FollowsSince db₀ rid (db.upsertRecord s) := by
  refine ⟨⟨h.follows.rows, h.follows.keyed.upsert s, h.follows.unreached, ?_, ?_⟩, h.ended⟩
  · intro host r hr
    rw [loadRecord_upsertRecord] at hr
    split at hr
    · rename_i hkey
      exact (hrow hkey.1.symm).1
    · exact h.follows.joined host r hr
  · intro host r hr hhalts row hrow'
    rw [loadRecord_upsertRecord] at hr
    split at hr
    · rename_i hkey
      cases hr
      exact (hrow hkey.1.symm).2 hhalts row hrow'
    · exact h.follows.halted host r hr hhalts row hrow'

/-- The row is written in a state that the machine reaches by a failure or a first host. -/
theorem FollowsSince.of_written (h : FollowsSince db₀ rid db) (hrows : db'.RowsOk)
    (hkeyed : db'.RecordsKeyed) {row : RolloutRow} (hrow : db'.rollouts.lookup rid = some row)
    (hstate : row.state = .failed ∨ row.state = .active)
    (hhalted : row.state = .active → ∀ host r, db'.loadRecord rid host = some r →
      r.state.halts = false) (hended : ¬ db.RolloutIs rid .superseded) :
    FollowsSince db₀ rid db' := by
  refine ⟨⟨hrows, hkeyed, ?_, ?_, ?_⟩, ?_⟩
  · intro row' hrow'
    rw [hrow] at hrow'
    cases hrow'
    rcases hstate with hs | hs <;> rw [hs] <;> exact ⟨nofun, nofun⟩
  · intro host r _
    refine ⟨row, hrow, ?_⟩
    rcases hstate with hs | hs <;> rw [hs] <;> nofun
  · intro host r hr hhalts row' hrow'
    rw [hrow] at hrow'
    cases hrow'
    rcases hstate with hs | hs
    · rw [hs]
      rfl
    · rw [hhalted hs host r hr] at hhalts
      cases hhalts
  · exact fun hstart => absurd (h.ended hstart) hended

end Rows

/-! ## Host events -/

section HostEvent

variable {ctx : ApplierCtx} {db₀ db : Db} {rid rid' : RolloutId} {host : HostId}

theorem hostStateChanged_of_failed {src : HostState} (hsrc : src ≠ .failed) :
    hostStateChanged ctx db host rid src .failed =
      processRolloutEvent ctx db (.hostStateChanged rid host src .failed ctx.now) := by
  simp [hostStateChanged, hsrc]

/-- The report of a changed host state, unless it reverts a running rollout. -/
theorem FollowsSince.hostStateChanged {src dst : HostState} (h : FollowsSince db₀ rid db)
    (hreverts : dst = .reverted → rid' = rid →
      ∀ row, db.rollouts.lookup rid = some row → row.state.isRunning = false) :
    FollowsSince db₀ rid (hostStateChanged ctx db host rid' src dst) := by
  unfold Nixfleet.hostStateChanged
  split
  · exact h
  · have hchanged : FollowsSince db₀ rid
        (processRolloutEvent ctx db (.hostStateChanged rid' host src dst ctx.now)) :=
      h.event rfl fun hdst hrid => hreverts (of_decide_eq_true hdst) hrid
    dsimp only
    split
    · exact hchanged.event rfl nofun
    · exact hchanged

/-- A host that fails takes the running row to `Failed`. -/
theorem failed_row (h : db.RowsOk) (hfaults : ctx.faults = noFaults) {row : RolloutRow}
    (hrow : db.rollouts.lookup rid = some row) (hrun : row.state.isRunning = true)
    (hopening : row.state ≠ .opening) (src : HostState) :
    (processRolloutEvent ctx db
      (.hostStateChanged rid host src .failed ctx.now)).rollouts.lookup rid =
        some (row.setState .failed ctx.now) := by
  have hstep : rolloutStep row (.hostStateChanged rid host src .failed ctx.now) =
      row.moveTo .failed ctx.now := by
    unfold rolloutStep
    cases hs : row.state with
    | opening => exact absurd hs hopening
    | active | converging => rfl
    | _ =>
        rw [hs] at hrun
        cases hrun
  exact processRolloutEvent_of_moveTo h hfaults hrow hstep rfl

/-- A host of the running rollout fails: its record is stored, then the failure is reported. -/
theorem FollowsSince.hostFailed {stored : Db} (h : FollowsSince db₀ rid db)
    (hfaults : ctx.faults = noFaults) (hrows : stored.rollouts = db.rollouts)
    (hkeyed : stored.RecordsKeyed) {row : RolloutRow} (hrow : db.rollouts.lookup rid = some row)
    (hrun : row.state.isRunning = true) (hopening : row.state ≠ .opening) (src : HostState) :
    FollowsSince db₀ rid
      (processRolloutEvent ctx stored (.hostStateChanged rid host src .failed ctx.now)) := by
  have hok : stored.RowsOk := fun rid row hrow => h.follows.rows rid row (hrows ▸ hrow)
  refine h.of_written (processRolloutEvent_rows hok _).1 ?_
    (failed_row hok hfaults (hrows.symm ▸ hrow) hrun hopening src)
    (.inl (setState_state row .failed ctx.now)) ?_ ?_
  · intro rid host r hr
    rw [loadRecord_congr (processRolloutEvent_hostRolloutRecords ..)] at hr
    exact hkeyed rid host r hr
  · intro hactive
    rw [setState_state] at hactive
    cases hactive
  · rintro ⟨row', hrow', hs⟩
    rw [Option.mem_def, hrow] at hrow'
    cases hrow'
    rw [hs] at hrun
    cases hrun

/-- **A host event** keeps the row in step with the hosts. -/
theorem FollowsSince.hostEvent {rs : ReducerState} {now : Time} (h : FollowsSince db₀ rid db)
    (rid' : RolloutId) (event : Event) :
    FollowsSince db₀ rid (handleHostEvent rs now noFaults db host rid' event) := by
  refine handleHostEvent_rule h fun m prior next effects hacc => ?_
  obtain ⟨policy, -, hstep⟩ := hacc.step
  have hspec := hostStep_spec hstep
  have hnext : next.rolloutId = rid' :=
    hspec.same.rolloutId.trans (h.follows.keyed _ _ _ hacc.loaded).1
  have hrows : (effects.foldl (applyEffect ⟨m, now, noFaults⟩) (db.upsertRecord next)).rollouts =
      db.rollouts := foldl_applyEffect_rollouts ..
  have hrecords : (effects.foldl (applyEffect ⟨m, now, noFaults⟩)
      (db.upsertRecord next)).hostRolloutRecords = (db.upsertRecord next).hostRolloutRecords :=
    foldl_applyEffect_hostRolloutRecords ..
  unfold acceptHostEvent
  by_cases hcalm : rid' = rid → next.state.halts = true →
      ∀ row, db.rollouts.lookup rid = some row → row.state.isRunning = false
  · have hstored : FollowsSince db₀ rid (db.upsertRecord next) := by
      refine h.upsert fun hrid => ⟨?_, hcalm (hnext.symm.trans hrid)⟩
      rw [hnext] at hrid
      exact h.follows.joined host prior (hrid ▸ hacc.loaded)
    refine (hstored.congr hrecords hrows).hostStateChanged fun hdst hrid row hrow => ?_
    rw [hrows] at hrow
    exact hcalm hrid (by rw [hdst]; rfl) row hrow
  · -- the host fails while its rollout is running
    push Not at hcalm
    obtain ⟨hrid, hhalts, row, hrow, hrun⟩ := hcalm
    rw [Bool.ne_false_iff] at hrun
    subst hrid
    have hprior : prior.state ≠ .failed := by
      intro hs
      have hstopped := h.follows.halted host prior hacc.loaded (by rw [hs]; rfl) row hrow
      rw [hrun] at hstopped
      cases hstopped
    have hfailed : next.state = .failed := hspec.move.failed_of_halts hhalts hprior
    obtain ⟨row', hrow', hopening⟩ := h.follows.joined host prior hacc.loaded
    rw [hrow] at hrow'
    cases hrow'
    rw [hfailed, hostStateChanged_of_failed hprior]
    refine h.hostFailed rfl hrows (fun rid host r hr => ?_) hrow hrun hopening prior.state
    rw [loadRecord_congr hrecords] at hr
    exact h.follows.keyed.upsert next rid host r hr

end HostEvent

/-! ## Plan ticks -/

section Plan

variable {ctx : ApplierCtx} {db₀ db : Db} {rid : RolloutId}

/-- A row is inserted: of another rollout, or of this one before it has records. -/
theorem FollowsSince.opened (h : FollowsSince db₀ rid db) (rid' : RolloutId)
    (channel : ChannelId) (targetRef : ChannelRef) (t : Time) :
    FollowsSince db₀ rid (db.recordRolloutOpened rid' channel targetRef t) := by
  have hrows : (db.recordRolloutOpened rid' channel targetRef t).RowsOk :=
    (recordRolloutOpened_rows ⟨h.follows.rows, .refl db⟩ rid' channel targetRef t).1
  unfold Db.recordRolloutOpened at hrows ⊢
  split at hrows
  · rename_i hsome
    rw [if_pos hsome]
    exact h
  · rename_i hnone
    rw [if_neg hnone]
    by_cases hrid : rid = rid'
    · subst hrid
      simp only [Bool.not_eq_true, Option.isSome_eq_false_iff, Option.isNone_iff_eq_none] at hnone
      have hfresh : ∀ host r, db.loadRecord rid host ≠ some r := by
        intro host r hr
        obtain ⟨row, hrow, -⟩ := h.follows.joined host r hr
        rw [hnone] at hrow
        cases hrow
      refine ⟨⟨hrows, h.follows.keyed, ?_, ?_, ?_⟩, ?_⟩
      · intro row hrow
        rw [Table.lookup_insert_eq, if_pos rfl] at hrow
        cases hrow
        exact ⟨nofun, nofun⟩
      · exact fun host r hr => absurd hr (hfresh host r)
      · exact fun host r hr => absurd hr (hfresh host r)
      · intro hstart
        obtain ⟨row, hrow, -⟩ := h.ended hstart
        rw [hnone] at hrow
        cases hrow
    · have hlookup : ∀ row, (db.rollouts.insert rid' row).lookup rid = db.rollouts.lookup rid :=
        fun row => by rw [Table.lookup_insert_eq, if_neg hrid]
      refine h.of_rowStep hrows rfl (by rw [hlookup]) fun row hrow => ?_
      rw [hlookup] at hrow
      exact ⟨row, hrow, .inl rfl⟩

/-- A host joins a rollout that has a row. -/
theorem FollowsSince.join (h : FollowsSince db₀ rid db) (hfaults : ctx.faults = noFaults)
    {rid' : RolloutId} (hrow : (db.rollouts.lookup rid').isSome = true) (channel : ChannelId)
    (hw : HostWave) :
    FollowsSince db₀ rid (processRolloutEvent ctx (db.upsertRecord (pendingRecord ctx rid' channel
      hw)) (.hostJoined rid' hw.hostname hw.waveIndex ctx.now)) := by
  by_cases hopening : ∃ row, rid' = rid ∧ db.rollouts.lookup rid = some row ∧ row.state = .opening
  · -- the first host: the rollout has no record yet
    obtain ⟨row, rfl, hlook, hs⟩ := hopening
    have hok : (db.upsertRecord (pendingRecord ctx rid' channel hw)).RowsOk := h.follows.rows
    have hstep : rolloutStep row (.hostJoined rid' hw.hostname hw.waveIndex ctx.now) =
        row.moveTo .active ctx.now := by
      unfold rolloutStep
      rw [hs]
      rfl
    refine h.of_written (processRolloutEvent_rows hok _).1 ?_
      (processRolloutEvent_of_moveTo hok hfaults hlook hstep rfl)
      (.inr (setState_state row .active ctx.now)) ?_ ?_
    · intro rid host r hr
      rw [loadRecord_congr (processRolloutEvent_hostRolloutRecords ..)] at hr
      exact h.follows.keyed.upsert _ rid host r hr
    · intro _ host r hr
      rw [loadRecord_congr (processRolloutEvent_hostRolloutRecords ..),
        loadRecord_upsertRecord] at hr
      split at hr
      · cases hr
        rfl
      · obtain ⟨row', hrow', hleft⟩ := h.follows.joined host r hr
        rw [hlook] at hrow'
        cases hrow'
        exact absurd hs hleft
    · rintro ⟨row', hrow', hended⟩
      rw [Option.mem_def, hlook] at hrow'
      cases hrow'
      rw [hs] at hended
      cases hended
  · refine (h.upsert fun hrid => ⟨?_, fun hhalts => ?_⟩).event rfl nofun
    · obtain ⟨row, hlook⟩ := Option.isSome_iff_exists.mp hrow
      have hrid' : rid' = rid := hrid
      rw [hrid'] at hlook
      exact ⟨row, hlook, fun hs => hopening ⟨row, hrid', hlook, hs⟩⟩
    · -- the record is `Pending`
      cases hhalts

/-- **Opening a rollout** keeps the row in step with the hosts. -/
theorem FollowsSince.openRollout (h : FollowsSince db₀ rid db) (hfaults : ctx.faults = noFaults)
    (rid' : RolloutId) (channel : ChannelId) (targetRef : ChannelRef) :
    FollowsSince db₀ rid (openRollout ctx db rid' channel targetRef) := by
  refine (openRollout_steps (P := fun db' => FollowsSince db₀ rid db' ∧
    (db'.rollouts.lookup rid').isSome = true) ?_ ?_ ?_ ?_ ?_).1
  · intro hf
    rw [hfaults] at hf
    cases hf
  · intro _
    refine ⟨(h.opened rid' channel targetRef ctx.now).congr rfl rfl, ?_⟩
    rw [appendEventLog_rollouts]
    unfold Db.recordRolloutOpened
    split
    · assumption
    · rw [Table.lookup_insert_eq, if_pos rfl]
      rfl
  · rintro predecessor row - - - db' ⟨hdb', hsome⟩
    exact ⟨hdb'.event rfl nofun, (processRolloutEvent_isSome rid').trans hsome⟩
  · rintro manifest - hw - db' ⟨hdb', hsome⟩
    exact ⟨hdb'.join hfaults hsome channel hw, (processRolloutEvent_isSome rid').trans hsome⟩
  · rintro db' hosts ⟨hdb', hsome⟩
    exact ⟨hdb'.congr rfl rfl, hsome⟩

theorem FollowsSince.advanceCurrentWaves {order : MapOrders} {faults : Faults}
    {fleet : FleetResolved} {fs : FleetState} (h : FollowsSince db₀ rid db) :
    FollowsSince db₀ rid (advanceCurrentWaves order faults fleet db fs).1 := by
  unfold Nixfleet.advanceCurrentWaves
  refine List.foldlRecOn (motive := fun acc : Db × FleetState => FollowsSince db₀ rid acc.1)
    _ _ h ?_
  intro acc hacc bump _
  dsimp only
  split
  · exact hacc
  · refine hacc.of_rowStep (setCurrentWave_rowsOk hacc.follows.rows _ _) rfl ?_ fun row' hrow' => ?_
    · rw [setCurrentWave_lookup, Option.isSome_map]
    · rw [setCurrentWave_lookup, Option.map_eq_some_iff] at hrow'
      obtain ⟨row, hrow, rfl⟩ := hrow'
      refine ⟨row, hrow, .inl ?_⟩
      split <;> rfl

/-- **A plan tick** keeps the row in step with the hosts. -/
theorem FollowsSince.plan {rs : ReducerState} {order : MapOrders} {now : Time}
    (h : FollowsSince db₀ rid db) : FollowsSince db₀ rid (runPlan rs order now noFaults db) := by
  refine runPlan_rule h ?_ ?_
  · intro manifests plan _ hplan
    obtain ⟨_, fs, _, _, hdb, _, _⟩ := planOf_eq_some hplan
    rw [hdb]
    exact h.advanceCurrentWaves
  · intro manifests plan _ _ db hdb a _
    cases a with
    | openRollout rid' channel targetRef =>
        show FollowsSince db₀ rid (Nixfleet.openRollout ⟨manifests, now, noFaults⟩ db _ _ _)
        exact hdb.openRollout rfl rid' channel targetRef
    | queueDispatch host rid' closure due =>
        exact hdb.congr (queueDispatch_hostRolloutRecords ..) (queueDispatch_rollouts ..)
    | deferDispatch => exact hdb.congr rfl rfl

end Plan

/-! ## Any step -/

section Step

variable {cp : Cp} {i : CpInput} {rid : RolloutId}

/-- Every step but a sweep keeps the row in step with the hosts, and a superseded rollout so. -/
theorem cpStep_followsSince (h : Follows rid cp.db) (hfaults : i.faults = noFaults)
    (hi : i.event ≠ .pruneSweep) : FollowsSince cp.db rid (cpStep cp i).1.db := by
  have hstart : FollowsSince cp.db rid cp.db := ⟨h, id⟩
  refine cpStep_rule (P := FollowsSince cp.db rid) hstart ?_ ?_ (fun hsweep => absurd hsweep hi) ?_
  · intro rs db host rid' event _ hdb
    rw [hfaults]
    exact hdb.hostEvent rid' event
  · intro rs m _ _
    rw [hfaults]
    exact hstart.plan
  · exact fun host => hstart.congr (takeForHost_hostRolloutRecords ..) (takeForHost_rollouts ..)

/-- The sweep deletes a rollout with its records. -/
theorem Follows.prune {db : Db} (h : Follows rid db) (cutoff : Time) :
    Follows rid (db.pruneFinishedRollouts cutoff) where
  rows := prune_rowsOk h.rows cutoff
  keyed := fun rid' host r hr => h.keyed rid' host r (loadRecord_of_prune hr)
  unreached := fun row hrow => h.unreached row (lookup_of_prune hrow)
  joined := by
    intro host r hr
    dsimp only [Db.pruneFinishedRollouts, Db.loadRecord] at hr ⊢
    obtain ⟨hload, hkept⟩ := (Table.lookup_filterRows _ _ _ _).mp hr
    obtain ⟨row, hrow, hopening⟩ := h.joined host r hload
    exact ⟨row, (Table.lookup_filterRows _ _ _ _).mpr ⟨hrow, hkept⟩, hopening⟩
  halted := fun host r hr hhalts row hrow =>
    h.halted host r (loadRecord_of_prune hr) hhalts row (lookup_of_prune hrow)

/-- **Every step** without a failing statement keeps the row in step with the hosts. -/
theorem cpStep_follows (h : Follows rid cp.db) (hfaults : i.faults = noFaults) :
    Follows rid (cpStep cp i).1.db := by
  by_cases hi : i.event = .pruneSweep
  · unfold cpStep
    simp only [hi]
    exact h.prune _
  · exact (cpStep_followsSince h hfaults hi).follows

end Step

end Nixfleet
