import Nixfleet.ControlPlane.RowFollows
import Nixfleet.ControlPlane.Synthesis

set_option autoImplicit false

/-!
# Reverted rollouts

A rollout with a reverted host, no failed host and no successor should be `Reverted`
(`RevertedShows`). As its row never is, this holds only as long as no rollback takes the last
failed host of such a rollout out of `Failed` (`revertedShows_iff`).
-/

namespace Nixfleet

/-- A host record of the rollout is in the state. -/
def Db.SomeHost (db : Db) (rid : RolloutId) (s : HostState) : Prop :=
  ∃ r ∈ db.allForRollout rid, r.state = s

instance (db : Db) (rid : RolloutId) (s : HostState) : Decidable (db.SomeHost rid s) :=
  inferInstanceAs (Decidable (∃ r ∈ db.allForRollout rid, _))

/-- A rollout that no successor superseded, with a reverted host and no failed one any more, is
`Reverted`. -/
def Db.RevertedShows (db : Db) (rid : RolloutId) : Prop :=
  ¬ db.RolloutIs rid .superseded → db.SomeHost rid .reverted → ¬ db.SomeHost rid .failed →
    db.RolloutIs rid .reverted

instance (db : Db) (rid : RolloutId) : Decidable (db.RevertedShows rid) :=
  inferInstanceAs (Decidable (_ → _ → _ → _))

/-- The event confirms the rollback of the record: a report with a new number, or a heartbeat from
the closure of before the dispatch. -/
def CpEvent.Confirms (r : HostRolloutState) : CpEvent → Prop
  | .hostEvent host rid event => host = r.hostname ∧ rid = r.rolloutId ∧
      event.confirmsRollback = true ∧ r.lastEventSeq < event.seq
  | .heartbeatReceived hb => hb.host = r.hostname ∧ hb.currentClosure.isSome = true ∧
      r.currentClosureAtDispatch = hb.currentClosure
  | _ => False

instance (r : HostRolloutState) : (e : CpEvent) → Decidable (e.Confirms r)
  | .hostEvent _ _ _ => inferInstanceAs (Decidable (_ ∧ _ ∧ _ ∧ _))
  | .heartbeatReceived _ => inferInstanceAs (Decidable (_ ∧ _ ∧ _))
  | .manifestSetUpdated _ | .planTick | .restart | .pruneSweep | .takeDispatch _ => isFalse id

/-- An event confirms rollbacks of one host. -/
theorem CpEvent.Confirms.hostname_eq {r r' : HostRolloutState} {e : CpEvent}
    (h : e.Confirms r) (h' : e.Confirms r') : r.hostname = r'.hostname := by
  cases e with
  | hostEvent | heartbeatReceived => exact h.1.symm.trans h'.1
  | _ => exact h.elim

/-- The step takes the record from `Failed` to `Reverted`: its rollback is confirmed, and the
reducer has a policy for its channel. -/
def Cp.RollsBack (cp : Cp) (i : CpInput) (r : HostRolloutState) : Prop :=
  r.state = .failed ∧ (cp.rs.manifests.bind (resolvePolicy · r.channel)).isSome = true ∧
    i.event.Confirms r

instance (cp : Cp) (i : CpInput) (r : HostRolloutState) : Decidable (cp.RollsBack i r) :=
  inferInstanceAs (Decidable (_ ∧ _ ∧ _))

/-- A rollback of a host leaves another host of the rollout failed, unless the rollout is
superseded. -/
def LeavesFailed (rid : RolloutId) (cp : Cp) (i : CpInput) : Prop :=
  ¬ cp.db.RolloutIs rid .superseded → ∀ r ∈ cp.db.allForRollout rid, cp.RollsBack i r →
    ∃ r' ∈ cp.db.allForRollout rid, r'.hostname ≠ r.hostname ∧ r'.state = .failed

instance (rid : RolloutId) (cp : Cp) (i : CpInput) : Decidable (LeavesFailed rid cp i) :=
  inferInstanceAs (Decidable (_ → ∀ r ∈ _, _ → ∃ r' ∈ _, _))

/-! ## What a step does to the records of a rollout -/

/-- A step leaves the rollout without reverted records, rolls one record back, or rolls none
back and keeps the failed ones. -/
inductive RollbackStep (rid : RolloutId) (cp : Cp) (i : CpInput) (db : Db) : Prop
  | fresh (hnone : ∀ host r, cp.db.loadRecord rid host = some r → ¬ cp.RollsBack i r)
      (hfresh : ∀ host r, db.loadRecord rid host = some r → r.state ≠ .reverted)
  | rolledBack {host : HostId} {r next : HostRolloutState}
      (hload : cp.db.loadRecord rid host = some r) (hrolls : cp.RollsBack i r)
      (hnext : db.loadRecord rid host = some next) (hstate : next.state = .reverted)
      (hothers : ∀ host', host' ≠ host →
        db.loadRecord rid host' = cp.db.loadRecord rid host')
      (hended : db.RolloutIs rid .superseded ↔ cp.db.RolloutIs rid .superseded)
  | kept (hnone : ∀ host r, cp.db.loadRecord rid host = some r → ¬ cp.RollsBack i r)
      (hfailed : ∀ host r, cp.db.loadRecord rid host = some r → r.state = .failed →
        db.loadRecord rid host = some r)
      (hreverted : ∀ host r, db.loadRecord rid host = some r → r.state = .reverted →
        cp.db.loadRecord rid host = some r)
      (hended : cp.db.RolloutIs rid .superseded → db.RolloutIs rid .superseded)

/-- A step that keeps the records and rolls none of them back. -/
theorem RollbackStep.of_same {rid : RolloutId} {cp : Cp} {i : CpInput} {db : Db}
    (hnone : ∀ host r, cp.db.loadRecord rid host = some r → ¬ cp.RollsBack i r)
    (hsame : ∀ host, db.loadRecord rid host = cp.db.loadRecord rid host)
    (hended : cp.db.RolloutIs rid .superseded → db.RolloutIs rid .superseded) :
    RollbackStep rid cp i db := by
  refine .kept hnone (fun host r hload _ => ?_) (fun host r hload _ => ?_) hended
  · rw [hsame]
    exact hload
  · rw [← hsame]
    exact hload

section Superseded

variable {rs : ReducerState} {order : MapOrders} {now : Time} {faults : Faults} {db₀ db : Db}
  {rid : RolloutId}

/-- The rows are in order, and the rollout is superseded iff it was so at the start. -/
def SupersededAs (db₀ : Db) (rid : RolloutId) (db : Db) : Prop :=
  db.RowsOk ∧ (db.RolloutIs rid .superseded ↔ db₀.RolloutIs rid .superseded)

/-- An event that ends no rollout supersedes none, and brings none back. -/
theorem SupersededAs.event {ctx : ApplierCtx} {e : RolloutEvent} (h : SupersededAs db₀ rid db)
    (he : e.ends = false) : SupersededAs db₀ rid (processRolloutEvent ctx db e) := by
  refine ⟨(processRolloutEvent_rows h.1 e).1, Iff.trans ⟨?_, ?_⟩ h.2⟩
  · rintro ⟨row', hrow', hs⟩
    obtain ⟨row, hrow, hmoved⟩ := processRolloutEvent_moved h.1 hrow'
    rcases hmoved.same_or_isLive he with heq | hlive
    · exact ⟨row, hrow, heq ▸ hs⟩
    · rw [hs] at hlive
      cases hlive
  · rintro ⟨row, hrow, hs⟩
    obtain ⟨row', hrow', hmoved⟩ := exists_rowMoved h.1 hrow
    rcases hmoved.same_or_isLive he with heq | hlive
    · exact ⟨row', hrow', heq.trans hs⟩
    · have hbefore := hmoved.isLive hlive
      rw [hs] at hbefore
      cases hbefore

theorem SupersededAs.hostEvent (h : SupersededAs db₀ rid db) (host : HostId) (rid' : RolloutId)
    (event : Event) : SupersededAs db₀ rid (handleHostEvent rs now faults db host rid' event) := by
  refine handleHostEvent_rule h fun m prior next effects _ => ?_
  refine hostStateChanged_rule (fun db e _ he hdb => hdb.event he) ?_
  unfold SupersededAs Db.RowsOk Db.RolloutIs
  rw [foldl_applyEffect_rollouts]
  exact h

end Superseded

section Step

variable {cp : Cp} {i : CpInput} {rid : RolloutId}

theorem policy_isSome_iff {rs : ReducerState} {channel : ChannelId} :
    (rs.manifests.bind (resolvePolicy · channel)).isSome = true ↔
      ∃ m policy, rs.manifests = some m ∧ resolvePolicy m channel = some policy := by
  simp only [Option.isSome_iff_exists, Option.bind_eq_some_iff]
  constructor
  · rintro ⟨policy, m, hm, hp⟩
    exact ⟨m, policy, hm, hp⟩
  · rintro ⟨m, policy, hm, hp⟩
    exact ⟨policy, m, hm, hp⟩

/-- An accepted event that reverts its record rolls it back. -/
theorem rollsBack_of_accepted {host : HostId} {event : Event} {m : SignedManifestSet}
    {prior next : HostRolloutState} {effects : List Effect} (hk : cp.db.RecordsKeyed)
    (hi : i.event = .hostEvent host rid event)
    (hacc : Accepted cp.rs cp.db host rid event m prior next effects)
    (hs : next.state = .reverted) : cp.RollsBack i prior := by
  obtain ⟨policy, hpolicy, hstep⟩ := hacc.step
  obtain ⟨hfailed, hconfirms⟩ := hostStep_reverted hstep hs
  obtain ⟨hrid, hhost⟩ := hk _ _ _ hacc.loaded
  refine ⟨hfailed, ?_, ?_⟩
  · rw [hacc.cached, Option.bind_some, hpolicy]
    rfl
  · rw [hi]
    exact ⟨hhost.symm, hrid.symm, hconfirms, hacc.fresh⟩

theorem cpStep_hostEvent {host : HostId} {rid' : RolloutId} {event : Event}
    (hi : i.event = .hostEvent host rid' event) :
    (cpStep cp i).1.db = handleHostEvent cp.rs i.now i.faults cp.db host rid' event := by
  unfold cpStep
  simp only [hi]

/-- A host event rolls its own record back, or none. -/
theorem rollbackStep_hostEvent (h : Follows rid cp.db) (hfaults : i.faults = noFaults)
    {host : HostId} {rid' : RolloutId} {event : Event}
    (hi : i.event = .hostEvent host rid' event) : RollbackStep rid cp i (cpStep cp i).1.db := by
  have hk := h.keyed
  have hended : SupersededAs cp.db rid (handleHostEvent cp.rs i.now i.faults cp.db host rid'
      event) := SupersededAs.hostEvent ⟨h.rows, Iff.rfl⟩ host rid' event
  rw [cpStep_hostEvent hi]
  by_cases hrolls : ∃ host r, cp.db.loadRecord rid host = some r ∧ cp.RollsBack i r
  · obtain ⟨host', r, hload, hrolls⟩ := hrolls
    obtain ⟨hs, hpolicy, hconf⟩ := hrolls
    rw [hi] at hconf
    obtain ⟨hhost, hrid, hconfirms, hfresh⟩ := hconf
    obtain ⟨hrid₀, hhost₀⟩ := hk _ _ _ hload
    rw [hrid₀] at hrid
    rw [hhost₀] at hhost
    subst hrid hhost
    obtain ⟨m, policy, hm, hp⟩ := policy_isSome_iff.mp hpolicy
    obtain ⟨next, effects, hstep, hnext⟩ := hostStep_of_confirmsRollback hs hconfirms hfresh policy
    refine .rolledBack hload ⟨hs, hpolicy, ?_⟩ (handleHostEvent_moves hk hload hfresh hm hp hstep
      (by rw [hfaults]; rfl) (by rw [hfaults]; rfl)) hnext ?_ hended.2
    · rw [hi]
      exact ⟨hhost₀.symm, hrid₀.symm, hconfirms, hfresh⟩
    · exact fun host' hne => loadRecord_handleHostEvent_of_ne hk fun hsame => hne hsame.2
  · have hnone : ∀ host r, cp.db.loadRecord rid host = some r → ¬ cp.RollsBack i r :=
      fun host r hload hr => hrolls ⟨host, r, hload, hr⟩
    refine .kept hnone ?_ ?_ hended.2.mpr
    · intro host' r hload hs
      by_cases hown : rid = rid' ∧ host' = host
      · obtain ⟨rfl, rfl⟩ := hown
        -- the only move of the record would be its rollback
        rw [handleHostEvent_of_not_accepted, hload]
        intro m prior next effects hacc
        have hprior : prior = r := Option.some.inj (hacc.loaded.symm.trans hload)
        subst hprior
        obtain ⟨policy, -, hstep⟩ := hacc.step
        have hmove := (hostStep_spec hstep).move
        rw [hs] at hmove
        exact hnone host' prior hload (rollsBack_of_accepted hk hi hacc hmove.from_failed)
      · rw [loadRecord_handleHostEvent_of_ne hk hown]
        exact hload
    · intro host' r hload hs
      rcases handleHostEvent_record hk hload with hold | ⟨rfl, rfl, m, prior, effects, hacc⟩
      · exact hold
      · exact absurd (rollsBack_of_accepted hk hi hacc hs) (hnone host' prior hacc.loaded)

/-- The records are keyed, and the host's record, if it is reverted, is as it was at the start. -/
def RevertedWithin (db₀ : Db) (rid : RolloutId) (host : HostId) (db : Db) : Prop :=
  db.RecordsKeyed ∧ ∀ r, db.loadRecord rid host = some r → r.state = .reverted →
    db₀.loadRecord rid host = some r

/-- A heartbeat reverts no record of the rollout, if none of its host can be rolled back. -/
theorem turns_reverted (hk : cp.db.RecordsKeyed) {hb : Heartbeat} {agentCurrent : ClosureHash}
    {host : HostId} {r : HostRolloutState}
    (hload : (cp.turns i hb agentCurrent).loadRecord rid host = some r)
    (hs : r.state = .reverted)
    (h : ∀ prior, cp.db.loadRecord rid hb.host = some prior → prior.state = .failed →
      prior.currentClosureAtDispatch = some agentCurrent → ¬ Storable cp.rs i.faults prior) :
    cp.db.loadRecord rid host = some r := by
  have hinv : RevertedWithin cp.db rid host (cp.turns i hb agentCurrent) := by
    refine turns_invariant (P := RevertedWithin cp.db rid host) ?_
      (agenda_activeForHost hk hb.host) ⟨hk, fun r hr _ => hr⟩
    intro db record hrecord hk' hload' hdb
    have hhost : record.hostname = hb.host := (hk' _ _ _ hload').2
    by_cases hown : rid = record.rolloutId ∧ host = hb.host
    · obtain ⟨rfl, rfl⟩ := hown
      by_cases hfailed : record.state = .failed
      · -- a failed record whose rollback cannot be stored stays
        obtain ⟨rid, hread, -⟩ := mem_activeForHost.mp hrecord
        have hrid : record.rolloutId = rid := (hk _ _ _ hread).1
        have hheld : record.currentClosureAtDispatch = some agentCurrent →
            ¬ Storable (cp.memoryAt hb) i.faults record := fun hc hstore =>
          h record (hrid ▸ hread) hfailed hc ⟨hstore.loads, hstore.stores, hstore.policy⟩
        rw [synthesizeFor_of_halted hk' hload' hfailed hheld]
        exact hdb
      · refine synthesizeFor_of_not_failed (P := RevertedWithin cp.db record.rolloutId hb.host)
          hfailed hdb fun db' host' rid' event he hdb' => ?_
        refine ⟨handleHostEvent_recordsKeyed hdb'.1 host' rid' event, fun r hr hs => ?_⟩
        rcases handleHostEvent_record hdb'.1 hr with hold | ⟨-, -, m, prior, effects, hacc⟩
        · exact hdb'.2 r hold hs
        · obtain ⟨policy, -, hstep⟩ := hacc.step
          rw [(hostStep_reverted hstep hs).2] at he
          cases he
    · obtain ⟨hkeyed, hothers⟩ : OthersKept record.rolloutId hb.host db
          (synthesizeFor (cp.memoryAt hb) i.order i.now i.faults hb.host agentCurrent hb.sentAt db
            record) := synthesizeFor_othersKept hk' hhost
      refine ⟨hkeyed, fun r hr => hdb.2 r ?_⟩
      rw [← hothers rid host hown]
      exact hr
  exact hinv.2 r hload hs

/-- A heartbeat that reports no closure leaves the database as it is. -/
theorem cpStep_silentHeartbeat {hb : Heartbeat} (hi : i.event = .heartbeatReceived hb)
    (hc : hb.currentClosure = none) : (cpStep cp i).1.db = cp.db := by
  unfold cpStep
  simp only [hi, handleHeartbeat, hc]

/-- A heartbeat rolls the host's record of the rollout back, or none. -/
theorem rollbackStep_heartbeat (h : Follows rid cp.db) (hfaults : i.faults = noFaults)
    {hb : Heartbeat} (hi : i.event = .heartbeatReceived hb) :
    RollbackStep rid cp i (cpStep cp i).1.db := by
  have hk := h.keyed
  cases hc : hb.currentClosure with
  | none =>
      rw [cpStep_silentHeartbeat hi hc]
      refine .of_same (fun host r _ hrolls => ?_) (fun _ => rfl) id
      have hconf := hrolls.2.2
      rw [hi] at hconf
      have hreports := hconf.2.1
      rw [hc] at hreports
      cases hreports
  | some agentCurrent =>
      have hstored : ∀ r : HostRolloutState,
          (cp.rs.manifests.bind (resolvePolicy · r.channel)).isSome = true ↔
            Storable cp.rs i.faults r := by
        intro r
        rw [policy_isSome_iff, hfaults]
        exact ⟨fun hp => ⟨rfl, rfl, hp⟩, fun hstore => hstore.policy⟩
      have hended : SupersededAs cp.db rid (cpStep cp i).1.db := by
        unfold cpStep
        simp only [hi]
        exact handleHeartbeat_rule (P := SupersededAs cp.db rid)
          (fun db host rid' event _ hdb => hdb.hostEvent host rid' event) ⟨h.rows, Iff.rfl⟩
      rw [cpStep_turns hi hc (by rw [hfaults]; rfl)] at hended ⊢
      by_cases hrolls : ∃ host r, cp.db.loadRecord rid host = some r ∧ cp.RollsBack i r
      · obtain ⟨host, r, hload, hrolls⟩ := hrolls
        have hconf := hrolls.2.2
        rw [hi] at hconf
        obtain ⟨hhost, -, hprior⟩ := hconf
        rw [(hk _ _ _ hload).2] at hhost
        subst hhost
        obtain ⟨next, hnext, hstate⟩ := turns_revert (i := i) hk hload hrolls.1
          (hprior.trans hc) ((hstored r).mp hrolls.2.1)
        refine .rolledBack hload hrolls hnext hstate (fun host' hne => ?_) hended.2
        -- the turns are those of the heartbeat's host
        refine turns_invariant (P := fun db => db.loadRecord rid host' =
          cp.db.loadRecord rid host') ?_ (agenda_activeForHost hk hb.host) rfl
        intro db record _ hk' hload' hdb
        rw [(synthesizeFor_othersKept hk' (hk' _ _ _ hload').2).2 rid host' fun heq => hne heq.2]
        exact hdb
      · have hheld : ∀ r, cp.db.loadRecord rid hb.host = some r → r.state = .failed →
            r.currentClosureAtDispatch = some agentCurrent → ¬ Storable cp.rs i.faults r := by
          intro r hload hs hprior hstore
          refine hrolls ⟨hb.host, r, hload, hs, (hstored r).mpr hstore, ?_⟩
          rw [hi]
          exact ⟨(hk _ _ _ hload).2.symm, by rw [hc]; rfl, hprior.trans hc.symm⟩
        refine .kept (fun host r hload hr => hrolls ⟨host, r, hload, hr⟩) ?_ ?_ hended.2.mpr
        · intro host r hload hs
          refine turns_keep_failed hk hload hs fun hhost => ?_
          exact hheld r (hhost ▸ hload) hs
        · exact fun host r hload hs => turns_reverted hk hload hs hheld

/-- A plan tick leaves the records of a rollout with a row alone. -/
theorem runPlan_loadRecord {rs : ReducerState} {order : MapOrders} {now : Time} {db : Db}
    (hrow : (db.rollouts.lookup rid).isSome = true) (host : HostId) :
    (runPlan rs order now noFaults db).loadRecord rid host = db.loadRecord rid host := by
  refine runPlan_rule (P := fun db' => db'.loadRecord rid host = db.loadRecord rid host) rfl ?_ ?_
  · intro manifests plan _ hplan
    obtain ⟨_, _, _, _, hdb, _, _⟩ := planOf_eq_some hplan
    rw [hdb]
    exact loadRecord_congr (advanceCurrentWaves_hostRolloutRecords ..) rid host
  · intro manifests plan _ hplan db' hdb' a ha
    cases a with
    | openRollout rid' channel targetRef =>
        -- a rollout is opened only before it has a row
        have hne : rid ≠ rid' := by
          rintro rfl
          rw [row_none_of_openRollout hplan rfl ha] at hrow
          cases hrow
        rw [applyPlanAction, openRollout_loadRecord_of_ne hne]
        exact hdb'
    | queueDispatch host' rid' closure due =>
        rw [applyPlanAction, loadRecord_congr (queueDispatch_hostRolloutRecords ..)]
        exact hdb'
    | deferDispatch => exact hdb'

/-- A plan tick rolls nothing back. -/
theorem rollbackStep_plan (h : Follows rid cp.db) (hfaults : i.faults = noFaults)
    {m : SignedManifestSet} (hset : cp.planSet i = some m) :
    RollbackStep rid cp i (cpStep cp i).1.db := by
  have hnone : ∀ r, ¬ cp.RollsBack i r := by
    intro r hrolls
    have hconf := hrolls.2.2
    unfold Cp.planSet at hset
    cases hi : i.event <;> rw [hi] at hconf hset <;> first | exact hconf | cases hset
  have hsweep : i.event ≠ .pruneSweep := by
    intro hi
    rw [Cp.planSet, hi] at hset
    cases hset
  have hended := (cpStep_followsSince h hfaults hsweep).ended
  obtain ⟨rs, -, hdb⟩ := cpStep_of_planSet hset
  rw [hfaults] at hdb
  rw [hdb] at hended ⊢
  by_cases hrow : (cp.db.rollouts.lookup rid).isSome = true
  · exact .of_same (fun _ r _ => hnone r) (fun host => runPlan_loadRecord hrow host) hended
  · -- without a row there was no record, and new records are `Pending`
    refine .fresh (fun _ r _ => hnone r) fun host r hr => ?_
    rcases runPlan_record hr with hold | ⟨_, _, _, -, -, -, _, _, -, _, -, -, rfl⟩
    · obtain ⟨row, hlook, -⟩ := h.joined host r hold
      rw [hlook] at hrow
      exact absurd rfl hrow
    · intro hstate
      cases hstate

/-- A sweep deletes the records of a rollout, or leaves the rollout alone. -/
theorem rollbackStep_sweep (hi : i.event = .pruneSweep) :
    RollbackStep rid cp i (cpStep cp i).1.db := by
  have hnone : ∀ r, ¬ cp.RollsBack i r := by
    intro r hrolls
    have hconf := hrolls.2.2
    rw [hi] at hconf
    exact hconf
  unfold cpStep
  simp only [hi]
  generalize i.now - hours finishedRolloutsRetentionHours = cutoff
  by_cases hprune : (cp.db.rollouts.lookup rid).any (·.isPrunable cutoff) = true
  · refine .fresh (fun _ r _ => hnone r) fun host r hr => ?_
    dsimp only [Db.pruneFinishedRollouts, Db.loadRecord] at hr
    obtain ⟨-, hkept⟩ := (Table.lookup_filterRows _ _ _ _).mp hr
    rw [hprune] at hkept
    cases hkept
  · rw [Bool.not_eq_true] at hprune
    refine .of_same (fun _ r _ => hnone r) (fun host => ?_) ?_
    · refine Option.ext fun r => ?_
      dsimp only [Db.pruneFinishedRollouts, Db.loadRecord]
      rw [Table.lookup_filterRows, hprune]
      exact and_iff_left rfl
    · rintro ⟨row, hrow, hs⟩
      refine ⟨row, ?_, hs⟩
      dsimp only [Db.pruneFinishedRollouts]
      rw [Option.mem_def, Table.lookup_filterRows, hprune]
      exact ⟨hrow, rfl⟩

/-- A step that neither writes records or rows nor confirms a rollback. -/
theorem rollbackStep_idle {db : Db} (hquiet : ∀ r, ¬ i.event.Confirms r)
    (hrecords : db.hostRolloutRecords = cp.db.hostRolloutRecords)
    (hrows : db.rollouts = cp.db.rollouts) : RollbackStep rid cp i db := by
  refine .of_same (fun _ r _ hrolls => hquiet r hrolls.2.2) (loadRecord_congr hrecords rid) ?_
  unfold Db.RolloutIs
  rw [hrows]
  exact id

/-- **What a step does to the records of a rollout** when no statement fails. -/
theorem cpStep_rollback (h : Follows rid cp.db) (hfaults : i.faults = noFaults) :
    RollbackStep rid cp i (cpStep cp i).1.db := by
  cases hi : i.event with
  | hostEvent host rid' event => exact rollbackStep_hostEvent h hfaults hi
  | manifestSetUpdated set => exact rollbackStep_plan h hfaults (by rw [Cp.planSet, hi])
  | heartbeatReceived hb => exact rollbackStep_heartbeat h hfaults hi
  | planTick =>
      cases hm : cp.rs.manifests with
      | some m => exact rollbackStep_plan h hfaults (by rw [Cp.planSet, hi, hm])
      | none =>
          have hsame : (cpStep cp i).1.db = cp.db := by
            unfold cpStep
            simp only [hi, runPlan, hm]
          rw [hsame]
          exact rollbackStep_idle (by rw [hi]; exact fun _ => id) rfl rfl
  | restart =>
      have hsame : (cpStep cp i).1.db = cp.db := by
        unfold cpStep
        simp only [hi]
      rw [hsame]
      exact rollbackStep_idle (by rw [hi]; exact fun _ => id) rfl rfl
  | pruneSweep => exact rollbackStep_sweep hi
  | takeDispatch host =>
      have htaken : (cpStep cp i).1.db = (cp.db.takeForHost i.rank host).2 := by
        unfold cpStep
        simp only [hi]
      rw [htaken]
      exact rollbackStep_idle (by rw [hi]; exact fun _ => id)
        (takeForHost_hostRolloutRecords ..) (takeForHost_rollouts ..)

end Step

/-! ## Runs -/

theorem someHost_iff {db : Db} {rid : RolloutId} {s : HostState} :
    db.SomeHost rid s ↔ ∃ host r, db.loadRecord rid host = some r ∧ r.state = s := by
  simp only [Db.SomeHost, mem_allForRollout]
  constructor
  · rintro ⟨r, ⟨host, hload⟩, hs⟩
    exact ⟨host, r, hload, hs⟩
  · rintro ⟨host, r, hload, hs⟩
    exact ⟨r, ⟨host, hload⟩, hs⟩

/-- As no row is `Reverted`, a rollout that is not superseded shows its reverted hosts iff one of
its hosts is still failed. -/
theorem Follows.shows_iff {db : Db} {rid : RolloutId} (h : Follows rid db) :
    db.RevertedShows rid ↔ (¬ db.RolloutIs rid .superseded → db.SomeHost rid .reverted →
      db.SomeHost rid .failed) := by
  have hnever : ¬ db.RolloutIs rid .reverted := by
    rintro ⟨row, hrow, hs⟩
    exact (h.unreached row hrow).1 hs
  constructor
  · intro hshows hlive hreverted
    by_contra hfailed
    exact hnever (hshows hlive hreverted hfailed)
  · intro hwhile hlive hreverted hfailed
    exact absurd (hwhile hlive hreverted) hfailed

section Run

variable {rid : RolloutId}

/-- A rollback of the last failed host is not shown by the row, and every other step keeps the
rollout as it is shown. -/
theorem RollbackStep.shows_iff {cp : Cp} {i : CpInput} {db : Db} (h : RollbackStep rid cp i db)
    (hk : cp.db.RecordsKeyed) (hwhile : ¬ cp.db.RolloutIs rid .superseded →
      cp.db.SomeHost rid .reverted → cp.db.SomeHost rid .failed) :
    (¬ db.RolloutIs rid .superseded → db.SomeHost rid .reverted → db.SomeHost rid .failed) ↔
      LeavesFailed rid cp i := by
  have quiet : (∀ host r, cp.db.loadRecord rid host = some r → ¬ cp.RollsBack i r) →
      LeavesFailed rid cp i := by
    intro hnone _ r hr hrolls
    obtain ⟨host, hload⟩ := mem_allForRollout.mp hr
    exact absurd hrolls (hnone host r hload)
  cases h with
  | fresh hnone hfresh =>
      refine ⟨fun _ => quiet hnone, fun _ _ hreverted => ?_⟩
      obtain ⟨host, r, hload, hs⟩ := someHost_iff.mp hreverted
      exact absurd hs (hfresh host r hload)
  | kept hnone hfailed hreverted hended =>
      refine ⟨fun _ => quiet hnone, fun _ hlive hafter => ?_⟩
      obtain ⟨host, r, hload, hs⟩ := someHost_iff.mp hafter
      have hbefore : cp.db.SomeHost rid .reverted :=
        someHost_iff.mpr ⟨host, r, hreverted host r hload hs, hs⟩
      obtain ⟨host', r', hload', hs'⟩ :=
        someHost_iff.mp (hwhile (fun hsuper => hlive (hended hsuper)) hbefore)
      exact someHost_iff.mpr ⟨host', r', hfailed host' r' hload' hs', hs'⟩
  | @rolledBack host r next hload hrolls hnext hstate hothers hended =>
      have hshown : db.SomeHost rid .reverted := someHost_iff.mpr ⟨host, next, hnext, hstate⟩
      constructor
      · intro hafter hlive r₁ _ hrolls₁
        obtain ⟨host', r', hload', hs'⟩ :=
          someHost_iff.mp (hafter (fun hsuper => hlive (hended.mp hsuper)) hshown)
        have hne : host' ≠ host := by
          rintro rfl
          rw [hnext] at hload'
          cases hload'
          rw [hstate] at hs'
          cases hs'
        rw [hothers host' hne] at hload'
        refine ⟨r', mem_allForRollout.mpr ⟨host', hload'⟩, ?_, hs'⟩
        rw [(hk _ _ _ hload').2, hrolls₁.2.2.hostname_eq hrolls.2.2, (hk _ _ _ hload).2]
        exact hne
      · intro hleaves hlive _
        have hr : r ∈ cp.db.allForRollout rid := mem_allForRollout.mpr ⟨host, hload⟩
        obtain ⟨r', hr', hne, hs'⟩ := hleaves (fun hsuper => hlive (hended.mpr hsuper)) r hr hrolls
        obtain ⟨host', hload'⟩ := mem_allForRollout.mp hr'
        refine someHost_iff.mpr ⟨host', r', ?_, hs'⟩
        rw [hothers host' ?_]
        · exact hload'
        · rintro rfl
          rw [hload] at hload'
          cases hload'
          exact hne rfl

/-- **Reverted hosts, as their rollout shows them.** In every run without a failing statement, every
state that is reached shows the rollout's reverted hosts iff no step rolls back the last failed
host of a rollout that is not superseded. -/
theorem revertedShows_iff (rid : RolloutId) {is : List CpInput}
    (hstored : ∀ i ∈ is, i.faults = noFaults) :
    cpMachine.Meets (fun cp i => (cpStep cp i).1.db.RevertedShows rid) .initial is ↔
      cpMachine.Meets (LeavesFailed rid) .initial is := by
  refine cpMachine.meets_congr_of_invariant
    (P := fun cp => Follows rid cp.db ∧ cp.db.RevertedShows rid) ?_ ?_ ?_
  · intro cp i hi h hshows
    exact ⟨cpStep_follows h.1 (hstored i hi), hshows⟩
  · rintro cp i hi ⟨h, hshows⟩
    rw [(cpStep_follows h (hstored i hi)).shows_iff]
    exact (cpStep_rollback h (hstored i hi)).shows_iff h.keyed (h.shows_iff.mp hshows)
  · refine ⟨⟨?_, ?_, ?_, ?_, ?_⟩, ?_⟩
    · exact fun rid row hrow => by cases hrow
    · exact fun rid host r hr => by cases hr
    · exact fun row hrow => by cases hrow
    · exact fun host r hr => by cases hr
    · exact fun host r hr => by cases hr
    · rintro - ⟨r, hr, -⟩
      cases hr

end Run

/-- The hosts acknowledge the rollout of `bad` and fail under `rollback-and-halt`; then the hosts
of the second list report that they are back on `good`. -/
def rollbackRun (hosts back : List HostId) : List CpInput :=
  let manifests := stableManifests
    (stableFleet "r1" (hosts.map (·, "bad")) ⟨"staged", [], .rollbackAndHalt⟩ [] [] [])
  let event (e : Event) (host : HostId) : CpInput :=
    .plain (.hostEvent host (.new "stable" "r1") e) 1
  [.plain (.manifestSetUpdated manifests) 0] ++ hosts.map (event (.remoteDispatchAck "good" 1 1)) ++
    hosts.map (event (.remoteActivationFailed 1 "" 1 2)) ++
    back.map (event (.remoteRollbackComplete "good" 0 1 3))

theorem rollbackRun_stored (hosts back : List HostId) :
    ∀ i ∈ rollbackRun hosts back, i.faults = noFaults := by
  simp only [rollbackRun, List.mem_append, List.mem_map, List.mem_singleton]
  rintro i (((rfl | ⟨_, -, rfl⟩) | ⟨_, -, rfl⟩) | ⟨_, -, rfl⟩) <;> rfl

set_option maxRecDepth 4000 in
/-- The rollback of host `a` leaves host `b` failed. -/
theorem oneOfTwo_shows : cpMachine.Meets
    (fun cp i => (cpStep cp i).1.db.RevertedShows (.new "stable" "r1")) .initial
      (rollbackRun ["a", "b"] ["a"]) :=
  (revertedShows_iff _ (rollbackRun_stored _ _)).mpr (by decide)

set_option maxRecDepth 4000 in
/-- The rollback of the only host leaves the rollout `Failed`, although no statement failed. -/
theorem onlyHost_not_shown : (∀ i ∈ rollbackRun ["a"] ["a"], i.faults = noFaults) ∧
    ¬ (cpMachine.run .initial (rollbackRun ["a"] ["a"])).db.RevertedShows
      (.new "stable" "r1") :=
  ⟨rollbackRun_stored _ _, by decide⟩

end Nixfleet
