import Nixfleet.ControlPlane.Projection
import Nixfleet.Reconciler.TickBudget

set_option autoImplicit false

/-!
# The hosts that the budget gate counts

The gate counts the hosts in flight of the rollouts that the cached manifests name; the records
of other rollouts stay in the database. The count covers every host in flight as long as the
manifests name every rollout with a host in flight: no new set drops one, and no host of a
dropped rollout gets in flight afterwards (`gate_sees_inFlight`).
-/

namespace Nixfleet

/-! ## The gate's view -/

/-- A fleet state that gates are asked with in a step: what it builds from the database, or
what a tick makes of that by its wave bumps. -/
def Db.Views (db : Db) (i : CpInput) (m : SignedManifestSet) (fs : FleetState) : Prop :=
  ∃ fs₀, buildFleetState i.order i.faults db m = some fs₀ ∧
    (fs = fs₀ ∨ fs = (advanceCurrentWaves i.order i.faults m.fleet db fs₀).2)

/-- For every budget that a gate may ask about, the count is at least the number of the
budget's hosts that are in flight under any rollout. -/
def GateSees (cp : Cp) (i : CpInput) : Prop :=
  ∀ m ∈ cp.manifestsAt i, ∀ fs, cp.db.Views i m fs →
    ∀ rid summary, fs.rollouts.lookup rid = some summary → ∀ b ∈ summary.budgets,
      (hostsInFlight cp.db.hostRolloutRecords b.hosts).length ≤ inFlightCount fs b.selector

/-- Every record belongs to a rollout with a row. -/
def Db.RecordsOpened (db : Db) : Prop :=
  ∀ rid host r, db.loadRecord rid host = some r → (db.rollouts.lookup rid).isSome = true

/-- A budget of the fleet covers the host. -/
def SignedManifestSet.Budgeted (m : SignedManifestSet) (host : HostId) : Prop :=
  ∃ b ∈ budgetSnapshots m.fleet, host ∈ b.hosts

/-- A budget that covers the host finds its record of the rollout. -/
def SignedManifestSet.Sees (m : SignedManifestSet) (rid : RolloutId) (host : HostId) : Prop :=
  m.Budgeted host → m.Names rid

instance (m : SignedManifestSet) (rid : RolloutId) : Decidable (m.Names rid) :=
  decidable_of_iff (∃ e ∈ m.rollouts.rows, rid = .new e.1 e.2.channelRef) (by
    simp only [SignedManifestSet.Names, Prod.exists, Table.mem_rows])

instance (m : SignedManifestSet) (rid : RolloutId) (host : HostId) :
    Decidable (m.Sees rid host) :=
  inferInstanceAs (Decidable ((∃ b ∈ budgetSnapshots m.fleet, host ∈ b.hosts) → m.Names rid))

/-- The budgets find every host in flight. -/
def InFlightSeen (m : SignedManifestSet) (db : Db) : Prop :=
  ∀ rid host r, db.loadRecord rid host = some r → r.state.isInFlight = true → m.Sees rid host

/-- Every row of a named rollout is read. -/
def RowsRead (m : SignedManifestSet) (faults : Faults) : Prop :=
  ∀ e ∈ m.rollouts.rows, faults (.rolloutSummary (.new e.1 e.2.channelRef)) = false

instance (m : SignedManifestSet) (faults : Faults) : Decidable (RowsRead m faults) :=
  inferInstanceAs (Decidable (∀ e ∈ m.rollouts.rows, _ = false))

section View

variable {db : Db} {i : CpInput} {m : SignedManifestSet} {fs : FleetState}

/-- A view shows every named rollout. -/
theorem Db.Views.summary (h : db.Views i m fs) (hread : RowsRead m i.faults) {rid : RolloutId}
    (hn : m.Names rid) (hrow : (db.rollouts.lookup rid).isSome = true) :
    (fs.rollouts.lookup rid).isSome = true := by
  have hok : i.faults (.rolloutSummary rid) = false := by
    obtain ⟨channel, manifest, hlook, rfl⟩ := hn
    exact hread (channel, manifest) (Table.mem_rows.mpr hlook)
  obtain ⟨fs₀, hbuild, rfl | rfl⟩ := h
  · exact buildFleetState_isSome_summary hbuild hok hn hrow
  · exact advanceCurrentWaves_isSome_summary (buildFleetState_isSome_summary hbuild hok hn hrow)

/-- A view shows the records of the named rollouts. -/
theorem Db.Views.hostState (h : db.Views i m fs) (hk : db.RecordsKeyed) {rid : RolloutId}
    {host : HostId} {r : HostRolloutState} :
    fs.hostStates.lookup (rid, host) = some r ↔ m.Names rid ∧ db.loadRecord rid host = some r := by
  obtain ⟨fs₀, hbuild, rfl | rfl⟩ := h
  · exact buildFleetState_hostState hbuild hk
  · rw [advanceCurrentWaves_hostStates]
    exact buildFleetState_hostState hbuild hk

/-- The budgets of a summary are the snapshots of the fleet. -/
theorem Db.Views.budgets (h : db.Views i m fs) (hm : m.Projected) {rid : RolloutId}
    {summary : RolloutSummary} (hs : fs.rollouts.lookup rid = some summary) :
    summary.budgets = budgetSnapshots m.fleet := by
  obtain ⟨fs₀, hbuild, hfs⟩ := h
  have hbuilt : ∀ summary₀, fs₀.rollouts.lookup rid = some summary₀ →
      summary₀.budgets = budgetSnapshots m.fleet := by
    intro summary₀ hs₀
    obtain ⟨channel, manifest, row, hlook, -, -, rfl⟩ := buildFleetState_summary hbuild hs₀
    obtain ⟨hash, signedAt, commit, algorithm, hp⟩ := hm channel manifest hlook
    exact (projectManifest_spec hp).2.2
  rcases hfs with rfl | rfl
  · exact hbuilt summary hs
  · -- a wave bump keeps the budgets
    obtain ⟨summary₀, hs₀, wave, -, rfl⟩ := advanceCurrentWaves_summary hs
    exact hbuilt summary₀ hs₀

/-- **The count of a view.** It covers the hosts in flight when the budgets find them. -/
theorem Db.Views.counts (h : db.Views i m fs) (hread : RowsRead m i.faults) (hm : m.Projected)
    (hk : db.RecordsKeyed) (hopened : db.RecordsOpened) (hseen : InFlightSeen m db)
    {rid : RolloutId} {summary : RolloutSummary} (hs : fs.rollouts.lookup rid = some summary)
    {b : RolloutBudget} (hb : b ∈ summary.budgets) :
    (hostsInFlight db.hostRolloutRecords b.hosts).length ≤ inFlightCount fs b.selector := by
  rw [h.budgets hm hs] at hb
  obtain ⟨first, hfind, hsame⟩ := budgetSnapshots_find hb
  refine length_le_inFlightCount ((List.nodup_dedup _).filter _) ?_
  intro host hhost
  obtain ⟨hmem, rid', r, hr, hflight⟩ := mem_hostsInFlight.mp hhost
  -- the gate looks in the rollout of the record, which is in view and has the same budgets
  have hn : m.Names rid' := hseen rid' host r hr hflight ⟨b, hb, hmem⟩
  obtain ⟨summary', hs'⟩ :=
    Option.isSome_iff_exists.mp (h.summary hread hn (hopened rid' host r hr))
  have hbudgets' : summary'.budgets = budgetSnapshots m.fleet := h.budgets hm hs'
  refine ⟨rid', summary', first, r, hs', ?_, ?_, (h.hostState hk).mpr ⟨hn, hr⟩, hflight⟩
  · rw [hbudgets']
    exact hfind
  · rw [hsame]
    exact hmem

end View

/-! ## Getting in flight -/

/-- The event takes a host that is not in flight to a state in which it is. -/
def HostState.entersBy : HostState → Event → Bool
  | .pending, .localActivate .. => true
  | .pending, .remoteDispatchAck .. => true
  | .deferred, .localActivationCompleted .. => true
  | .deferred, .remoteActivationCompleted .. => true
  | _, _ => false

/-- The host is waiting for its dispatch, or for its reboot. -/
def HostState.isWaiting (s : HostState) : Bool := s = .pending || s = .deferred

theorem HostState.isWaiting_of_entersBy {s : HostState} {e : Event}
    (h : s.entersBy e = true) : s.isWaiting = true := by
  unfold HostState.entersBy at h
  split at h <;> first | rfl | cases h

/-- A host in flight was so before, or the event took it there. -/
theorem hostStep_inFlight {s s' : HostRolloutState} {e : Event} {p : RolloutPolicy}
    {effects : List Effect} (h : hostStep s e p = .ok (s', effects))
    (hflight : s'.state.isInFlight = true) :
    s.state.isInFlight = true ∨ s.state.entersBy e = true := by
  have hafter := hostStep_after h
  generalize s.state = src at hafter
  generalize s'.state = dst at hafter hflight
  unfold HostState.after at hafter
  split at hafter <;> cases hafter
  -- an arrow of the diagram starts in flight, is one of the four events, or ends elsewhere
  all_goals first
    | exact .inl rfl
    | exact .inr rfl
    | exact absurd hflight (by decide)

/-! ## Host events -/

section HostEvent

variable {rs : ReducerState} {now : Time} {faults : Faults} {db : Db} {host : HostId}
  {rid : RolloutId} {event : Event}

/-- Of what a host event puts in flight, the record was in flight or enters by the event. -/
theorem handleHostEvent_inFlightSeen {m : SignedManifestSet} (hk : db.RecordsKeyed)
    (h : InFlightSeen m db)
    (henters : ∀ r, db.loadRecord rid host = some r → r.state.entersBy event = true →
      m.Sees rid host) :
    InFlightSeen m (handleHostEvent rs now faults db host rid event) := by
  intro rid' host' r hr hflight
  rcases handleHostEvent_record hk hr with hold | ⟨rfl, rfl, _, prior, effects, hacc⟩
  · exact h rid' host' r hold hflight
  · obtain ⟨policy, -, hok⟩ := hacc.step
    rcases hostStep_inFlight hok hflight with hprior | hby
    · exact h rid' host' prior hacc.loaded hprior
    · exact henters prior hacc.loaded hby

/-- The rollouts with a row keep it. -/
theorem hasRow_rowWrites (rid : RolloutId) :
    RowWrites fun rollouts => (rollouts.lookup rid).isSome = true where
  opened := by
    intro db rid' channel targetRef t h
    unfold Db.recordRolloutOpened
    split
    · exact h
    · exact Table.isSome_lookup_insert h
  moved := by
    intro db rid' dst t h
    unfold Db.recordRolloutTransition
    rw [Table.lookup_modify]
    split
    · rename_i heq
      rw [← heq, Option.isSome_map]
      exact h
    · exact h
  waved := by
    intro db rid' wave h
    rw [setCurrentWave_lookup, Option.isSome_map]
    exact h

theorem handleHostEvent_recordsOpened (hk : db.RecordsKeyed) (h : db.RecordsOpened) :
    (handleHostEvent rs now faults db host rid event).RecordsOpened := by
  intro rid' host' r hr
  refine ((hasRow_rowWrites rid').calls _).hostEvent host rid event ?_
  rcases handleHostEvent_record hk hr with hold | ⟨-, -, _, prior, _, hacc⟩
  · exact h rid' host' r hold
  · exact h rid' host' prior hacc.loaded

end HostEvent

/-! ## Plan ticks -/

section Plan

variable {db : Db}

theorem openRollout_recordsOpened {ctx : ApplierCtx} (h : db.RecordsOpened) (rid : RolloutId)
    (channel : ChannelId) (targetRef : ChannelRef) :
    (openRollout ctx db rid channel targetRef).RecordsOpened := by
  intro rid' host r hr
  by_cases hfault : ctx.faults (.recordRolloutOpened rid) = true
  · unfold openRollout at hr ⊢
    dsimp only at hr ⊢
    rw [if_pos hfault] at hr ⊢
    exact h rid' host r hr
  · rcases openRollout_record hr with hold | ⟨rfl, -⟩
    · exact ((hasRow_rowWrites rid').calls _).openRollout rfl rid channel targetRef
        (h rid' host r hold)
    · -- the row is written before the records
      refine ((hasRow_rowWrites rid').calls _).openRollout_of_opened rfl
        (by simpa using hfault) ?_
      unfold Db.recordRolloutOpened
      split
      · assumption
      · rw [Table.lookup_insert_eq, if_pos rfl]
        rfl

theorem runPlan_recordsOpened {rs : ReducerState} {order : MapOrders} {now : Time}
    {faults : Faults} (h : db.RecordsOpened) :
    (runPlan rs order now faults db).RecordsOpened := by
  refine runPlan_rule (P := Db.RecordsOpened) h ?_ ?_
  · intro manifests plan _ hplan rid host r hr
    obtain ⟨_, fs, _, _, hdb, _, _⟩ := planOf_eq_some hplan
    rw [hdb] at hr ⊢
    rw [loadRecord_congr (advanceCurrentWaves_hostRolloutRecords ..)] at hr
    exact ((hasRow_rowWrites rid).calls _).advanceCurrentWaves (h rid host r hr)
  · intro manifests plan _ _ db hdb a _
    cases a with
    | openRollout rid channel targetRef => exact openRollout_recordsOpened hdb rid channel targetRef
    | queueDispatch host rid closure due =>
        intro rid' host' r hr
        show ((queueDispatch _ db host rid closure due).rollouts.lookup rid').isSome = true
        rw [queueDispatch_rollouts]
        rw [applyPlanAction, loadRecord_congr (queueDispatch_hostRolloutRecords ..)] at hr
        exact hdb rid' host' r hr
    | deferDispatch => exact hdb

/-- The records that a plan tick writes are not in flight. -/
theorem runPlan_inFlightSeen {rs : ReducerState} {order : MapOrders} {now : Time}
    {faults : Faults} {m : SignedManifestSet} (h : InFlightSeen m db) :
    InFlightSeen m (runPlan rs order now faults db) := by
  intro rid host r hr hflight
  rcases runPlan_record hr with hold | ⟨_, _, _, -, -, -, _, _, -, _, -, -, rfl⟩
  · exact h rid host r hold hflight
  · cases hflight

end Plan

/-! ## Heartbeats -/

/-- The event stages an activation for the next boot. -/
def Event.stages : Event → Bool
  | .localActivationDeferred .. => true
  | .remoteActivationDeferred .. => true
  | _ => false

/-- No other event makes a host wait. -/
theorem hostStep_not_isWaiting {s s' : HostRolloutState} {e : Event} {p : RolloutPolicy}
    {effects : List Effect} (h : hostStep s e p = .ok (s', effects)) (he : e.stages = false) :
    s'.state.isWaiting = false := by
  have hafter := hostStep_after h
  generalize s.state = src at hafter
  generalize s'.state = dst at hafter
  unfold HostState.after at hafter
  split at hafter <;> cases hafter
  all_goals first
    | rfl
    | cases he

/-- The records that wait are those that waited when the loop began. -/
def WaitedSince (db₀ db : Db) : Prop :=
  ∀ rid host r, db.loadRecord rid host = some r → r.state.isWaiting = true →
    db₀.loadRecord rid host = some r

/-- What the loop of a heartbeat keeps. -/
structure Synthesizing (m : SignedManifestSet) (db₀ db : Db) : Prop where
  keyed : db.RecordsKeyed
  waited : WaitedSince db₀ db
  seen : InFlightSeen m db

section Heartbeat

variable {rs : ReducerState} {now : Time} {faults : Faults} {m : SignedManifestSet}
  {db₀ db : Db}

theorem Synthesizing.event (h : Synthesizing m db₀ db) {host : HostId} {rid : RolloutId}
    {event : Event} (he : event.stages = false)
    (henters : ∀ r, db₀.loadRecord rid host = some r → r.state.entersBy event = true →
      m.Sees rid host) :
    Synthesizing m db₀ (handleHostEvent rs now faults db host rid event) where
  keyed := handleHostEvent_recordsKeyed h.keyed host rid event
  waited := by
    intro rid' host' r hr hwait
    rcases handleHostEvent_record h.keyed hr with hold | ⟨-, -, _, prior, effects, hacc⟩
    · exact h.waited rid' host' r hold hwait
    · obtain ⟨policy, -, hok⟩ := hacc.step
      rw [hostStep_not_isWaiting hok he] at hwait
      cases hwait
  seen := handleHostEvent_inFlightSeen h.keyed h.seen fun r hr hby =>
    henters r (h.waited rid host r hr (HostState.isWaiting_of_entersBy hby)) hby

/-- A waiting host whose target is the closure that the heartbeat reports. -/
def HeartbeatSees (m : SignedManifestSet) (db : Db) (hb : Heartbeat) : Prop :=
  ∀ r ∈ db.activeForHost hb.host, r.state.isWaiting = true →
    hb.currentClosure = some r.targetClosure → m.Sees r.rolloutId hb.host

theorem Synthesizing.record {order : MapOrders} {hb : Heartbeat} {agentCurrent : ClosureHash}
    (hkeyed : db₀.RecordsKeyed) (hsees : HeartbeatSees m db₀ hb)
    (hclosure : hb.currentClosure = some agentCurrent) (h : Synthesizing m db₀ db)
    {record : HostRolloutState} (hrecord : record ∈ db₀.activeForHost hb.host) (at' : Time) :
    Synthesizing m db₀ (synthesizeFor rs order now faults hb.host agentCurrent at' db record) := by
  obtain ⟨rid, hload, hactive⟩ := mem_activeForHost.mp hrecord
  obtain ⟨hrid, hhost⟩ := hkeyed rid hb.host record hload
  -- a record that enters is the one that was read, so its target is the reported closure
  have henters : ∀ event, record.targetClosure = agentCurrent →
      ∀ r, db₀.loadRecord record.rolloutId hb.host = some r →
        r.state.entersBy event = true → m.Sees record.rolloutId hb.host := by
    intro event htarget r hr hby
    rw [hrid, hload] at hr
    cases hr
    exact hsees record hrecord (HostState.isWaiting_of_entersBy hby) (by rw [hclosure, htarget])
  refine synthesizeFor_rule h (fun htarget => h.event rfl (henters _ htarget)) ?_ fun htarget => ?_
  · -- a confirmation enters from no state
    refine h.event rfl fun r _ hby => ?_
    cases hs : r.state <;> rw [hs] at hby <;> cases hby
  · -- the acknowledgement and the completion, then the convergence
    refine synthesizePendingToConverged_rule ?_ fun db' convergedAt hdb' => ?_
    · rw [hhost]
      exact (h.event rfl (henters _ htarget)).event rfl (henters _ htarget)
    · rw [hhost]
      exact hdb'.event rfl (henters _ htarget)

theorem handleHeartbeat_inFlightSeen {order : MapOrders} {hb : Heartbeat}
    (hk : db.RecordsKeyed) (h : InFlightSeen m db) (hsees : HeartbeatSees m db hb) :
    InFlightSeen m (handleHeartbeat rs order now faults db hb).1 := by
  refine (handleHeartbeat_steps (P := Synthesizing m db) ⟨hk, fun _ _ _ hr _ => hr, h⟩ ?_).seen
  intro agentCurrent hclosure record hrecord db' hdb'
  exact hdb'.record hk hsees hclosure hrecord hb.sentAt

end Heartbeat

/-! ## Runs -/

/-- The manifests of a new set are projections of its fleet. -/
def CpInput.Projected (i : CpInput) : Prop :=
  ∀ set, i.event = .manifestSetUpdated set → set.Projected

/-- No new set drops a rollout in which a budget still has a host in flight, and no event puts a
budgeted host of a dropped rollout in flight. -/
def CpEvent.KeepsSight (cp : Cp) : CpEvent → Prop
  | .manifestSetUpdated set => ∀ e ∈ cp.db.hostRolloutRecords.rows,
      e.2.state.isInFlight = true → set.Sees e.1.1 e.1.2
  | .hostEvent host rid event => ∀ m ∈ cp.rs.manifests, ∀ r ∈ cp.db.loadRecord rid host,
      r.state.entersBy event = true → m.Sees rid host
  | .heartbeatReceived hb => ∀ m ∈ cp.rs.manifests, HeartbeatSees m cp.db hb
  | _ => True

/-- The step reads the rows of the named rollouts, and its event keeps the hosts in sight. -/
def KeepsSight (cp : Cp) (i : CpInput) : Prop :=
  (∀ m ∈ cp.manifestsAt i, RowsRead m i.faults) ∧ i.event.KeepsSight cp

instance (m : SignedManifestSet) (db : Db) (hb : Heartbeat) : Decidable (HeartbeatSees m db hb) :=
  inferInstanceAs (Decidable (∀ r ∈ db.activeForHost hb.host, _ = true → _ = _ → _))

instance (cp : Cp) : (e : CpEvent) → Decidable (e.KeepsSight cp)
  | .manifestSetUpdated _ => inferInstanceAs (Decidable (∀ e ∈ _, _ = true → _))
  | .hostEvent _ _ _ => inferInstanceAs (Decidable (∀ m ∈ _, ∀ r ∈ _, _ = true → _))
  | .heartbeatReceived _ => inferInstanceAs (Decidable (∀ m ∈ _, _))
  | .planTick | .restart | .pruneSweep | .takeDispatch _ => isTrue trivial

instance (cp : Cp) (i : CpInput) : Decidable (KeepsSight cp i) :=
  inferInstanceAs (Decidable ((∀ m ∈ cp.manifestsAt i, _) ∧ _))

/-- The invariant of the runs. -/
structure Cp.SightOk (cp : Cp) : Prop where
  keyed : cp.db.RecordsKeyed
  opened : cp.db.RecordsOpened
  seen : ∀ m ∈ cp.rs.manifests, m.Projected ∧ InFlightSeen m cp.db

section Step

variable {cp : Cp} {i : CpInput}

theorem cpStep_recordsOpened (hk : cp.db.RecordsKeyed) (h : cp.db.RecordsOpened) :
    (cpStep cp i).1.db.RecordsOpened := by
  refine (cpStep_rule (P := fun db => db.RecordsKeyed ∧ db.RecordsOpened) ⟨hk, h⟩
    ?_ ?_ ?_ ?_).2
  · rintro rs db host rid event - ⟨hk', h'⟩
    exact ⟨handleHostEvent_recordsKeyed hk' host rid event, handleHostEvent_recordsOpened hk' h'⟩
  · exact fun rs m hset hm => ⟨runPlan_recordsKeyed hk, runPlan_recordsOpened h⟩
  · -- the sweep deletes the records with the row
    intro _
    refine ⟨fun rid host r hr => hk rid host r (loadRecord_of_prune hr), fun rid host r hr => ?_⟩
    dsimp only [Db.pruneFinishedRollouts, Db.loadRecord] at hr ⊢
    obtain ⟨hload, hkept⟩ := (Table.lookup_filterRows _ _ _ _).mp hr
    obtain ⟨row, hrow⟩ := Option.isSome_iff_exists.mp (h rid host r hload)
    exact Option.isSome_iff_exists.mpr ⟨row, (Table.lookup_filterRows _ _ _ _).mpr ⟨hrow, hkept⟩⟩
  · refine fun host' => ⟨fun rid host r hr => ?_, fun rid host r hr => ?_⟩
    · rw [loadRecord_takeForHost] at hr
      exact hk rid host r hr
    · rw [loadRecord_takeForHost] at hr
      rw [takeForHost_rollouts]
      exact h rid host r hr

/-- The manifests that an input is handled with see the hosts in flight. -/
theorem Cp.SightOk.manifestsAt (h : cp.SightOk) (hp : i.Projected) (hi : KeepsSight cp i) :
    ∀ m ∈ cp.manifestsAt i, m.Projected ∧ InFlightSeen m cp.db := by
  intro m hm
  unfold Cp.manifestsAt at hm
  split at hm
  · rename_i hevent
    cases hm
    have hset := hi.2
    rw [hevent] at hset
    exact ⟨hp m hevent, fun rid host r hr hflight =>
      hset ((rid, host), r) (Table.mem_rows.mpr hr) hflight⟩
  · exact h.seen m hm

/-- What a step holds afterwards it has been handled with. -/
theorem cpStep_manifests {m : SignedManifestSet} (hm : m ∈ (cpStep cp i).1.rs.manifests) :
    m ∈ cp.manifestsAt i := by
  unfold Cp.manifestsAt
  unfold cpStep at hm
  cases hevent : i.event with
  | restart =>
      simp only [hevent] at hm
      cases hm
  | _ => simpa only [hevent] using hm

theorem cpStep_inFlightSeen (h : cp.SightOk) (hi : KeepsSight cp i) {m : SignedManifestSet}
    (hm : m ∈ cp.manifestsAt i) (hseen : InFlightSeen m cp.db) :
    InFlightSeen m (cpStep cp i).1.db := by
  have hsight := hi.2
  unfold Cp.manifestsAt at hm
  unfold cpStep
  cases hevent : i.event with
  | hostEvent host rid event =>
      simp only [hevent] at hsight hm
      exact handleHostEvent_inFlightSeen h.keyed hseen (hsight m hm)
  | manifestSetUpdated set => exact runPlan_inFlightSeen hseen
  | heartbeatReceived hb =>
      simp only [hevent] at hsight hm
      exact handleHeartbeat_inFlightSeen h.keyed hseen (hsight m hm)
  | planTick => exact runPlan_inFlightSeen hseen
  | restart => exact hseen
  | pruneSweep => exact fun rid host r hr => hseen rid host r (loadRecord_of_prune hr)
  | takeDispatch host =>
      intro rid host' r hr
      rw [loadRecord_takeForHost] at hr
      exact hseen rid host' r hr

theorem cpStep_sightOk (h : cp.SightOk) (hp : i.Projected) (hi : KeepsSight cp i) :
    (cpStep cp i).1.SightOk where
  keyed := cpStep_recordsKeyed h.keyed i
  opened := cpStep_recordsOpened h.keyed h.opened
  seen := by
    intro m hm
    obtain ⟨hproj, hseen⟩ := h.manifestsAt hp hi m (cpStep_manifests hm)
    exact ⟨hproj, cpStep_inFlightSeen h hi (cpStep_manifests hm) hseen⟩

theorem gateSees_of_sightOk (h : cp.SightOk) (hp : i.Projected) (hi : KeepsSight cp i) :
    GateSees cp i := by
  intro m hm fs hfs rid summary hs b hb
  obtain ⟨hproj, hseen⟩ := h.manifestsAt hp hi m hm
  exact hfs.counts (hi.1 m hm) hproj h.keyed h.opened hseen hs hb

end Step

/-- **The gate sees every host in flight** in a run that keeps them in sight. -/
theorem gate_sees_inFlight (is : List CpInput) (hprojected : ∀ i ∈ is, i.Projected)
    (hsight : cpMachine.Meets KeepsSight .initial is) : cpMachine.Meets GateSees .initial is := by
  have hstart : Cp.SightOk .initial := by
    constructor
    · intro rid host r hr
      cases hr
    · intro rid host r hr
      cases hr
    · intro m hm
      cases hm
  have hboth : cpMachine.Meets (fun cp i => i.Projected ∧ KeepsSight cp i) .initial is :=
    Machine.Meets.and cpMachine (cpMachine.meets_of_forall hprojected _) hsight
  refine cpMachine.meets_of_invariant ?_ ?_ hstart hboth
  · exact fun cp i h hi => cpStep_sightOk h hi.1 hi.2
  · exact fun cp i h hi => gateSees_of_sightOk h hi.1 hi.2

/-- Two hosts under a budget of one, at a commit. -/
def sightManifests (commit : String) : SignedManifestSet :=
  stableManifests (stableFleet commit [("a", "new"), ("b", "new")] ⟨"all-at-once", [], .halt⟩
    [] [] [⟨{ Selector.empty with all := true }, some 1, none⟩])

/-- Host `a` acknowledges the rollout of the first commit; then comes the set of a second one,
and a plan tick. -/
def supersedingRun (second : String) : List CpInput :=
  [.plain (.manifestSetUpdated (sightManifests "r1")) 0,
   .plain (.hostEvent "a" (.new "stable" "r1") (.remoteDispatchAck "old" 1 1)) 1,
   .plain (.manifestSetUpdated (sightManifests second)) 2,
   .plain .planTick 3]

/-- The same commit again keeps host `a` in sight. -/
theorem sameCommit_seen : cpMachine.Meets GateSees .initial (supersedingRun "r1") := by
  refine gate_sees_inFlight _ ?_ (by decide)
  intro i hi set hset
  simp only [supersedingRun, List.mem_cons, List.not_mem_nil, or_false] at hi
  rcases hi with rfl | rfl | rfl | rfl <;> cases hset
  all_goals exact stableManifests_projected _

/-- A new commit supersedes the rollout: host `a` is in flight and not counted. -/
theorem supersededHost_unseen : ¬ cpMachine.Meets GateSees .initial (supersedingRun "r2") := by
  intro h
  have htick := h.2.2.2.1
  have hcount := htick (sightManifests "r2") rfl _ ⟨_, rfl, .inl rfl⟩ (.new "stable" "r2") _ rfl _
    List.mem_cons_self
  exact absurd hcount (by decide)

end Nixfleet
