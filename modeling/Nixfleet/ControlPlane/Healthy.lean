import Nixfleet.ControlPlane.Compliance
import Nixfleet.ControlPlane.Deployment
import Nixfleet.ControlPlane.Progress
import Nixfleet.ControlPlane.Reverted
import Nixfleet.ControlPlane.TerminalHosts

set_option autoImplicit false

/-!
# Deployments in which no host fails

A deployment of one release whose hosts report no failure stays `Healthy`: the rollouts of the
release are open or finished, all their hosts have a record, none of which is `Failed`, a record
leaves `Pending` only once its dispatch was taken, and a rollout is `Terminal` exactly when all its
hosts are `Converged`. The plan ticks after the first one open nothing, so they change wave cursors
and the queue only (`planTick_quiet`).
-/

namespace Nixfleet

/-- The host reports a failure: of its activation, of its probes for too long, or of a control that
gates. -/
def Event.fails : Event → Bool
  | .localActivationFailed .. | .remoteActivationFailed .. => true
  | .localSustainedFailureCrossed .. | .remoteFailed .. => true
  | e => e.logged?.any fun payload => payload.results.any (·.failsEnforced)

/-- A host event of the step reports no failure. -/
def DeploymentEvent.Calm : DeploymentEvent → Prop
  | .hostEvent _ _ event => event.fails = false
  | _ => True

/-- The states of a rollout whose hosts have joined and none of which has failed. -/
def RolloutState.isGoing (s : RolloutState) : Bool :=
  s = .active || s = .converging || s = .terminal

/-- The record is one of a host of a rollout that the manifests name, and has not failed. It is
`Pending` until the dispatch was taken. -/
structure HealthyRecord (m : SignedManifestSet) (taken : List (HostId × RolloutId))
    (rid : RolloutId) (host : HostId) (r : HostRolloutState) : Prop where
  declared : ∃ channel manifest, m.rollouts.lookup channel = some manifest ∧
    rid = .new channel manifest.channelRef ∧ host ∈ manifest.hosts
  calm : r.state.halts = false
  unacked : r.Unacked
  taken : r.state = .pending ∨ (host, rid) ∈ taken

/-- The row of the rollout, whose hosts have records. -/
structure HealthyRollout (db : Db) (rid : RolloutId) (manifest : RolloutManifest) : Prop where
  recorded : ∀ host ∈ manifest.hosts, HasRecord rid host db
  going : ∃ row, db.rollouts.lookup rid = some row ∧ row.state.isGoing = true
  finished : (∀ host r, db.loadRecord rid host = some r → r.state = .converged) →
    db.RolloutIs rid .terminal

/-- What every state of a deployment without failures satisfies. -/
structure Deployment.Healthy (m : SignedManifestSet) (s : Deployment) : Prop
    extends s.Ok m where
  quarantines : s.cp.rs.quarantines = QuarantineSet.new
  noFailures : s.cp.db.probeFailures = []
  rollouts : ∀ channel manifest, m.rollouts.lookup channel = some manifest →
    HealthyRollout s.cp.db (.new channel manifest.channelRef) manifest
  healthy : ∀ rid host r, s.cp.db.loadRecord rid host = some r →
    HealthyRecord m s.taken rid host r
  outstanding : ∀ host rid, s.Outstanding host rid → HasRecord rid host s.cp.db
  ends : ∀ rid, EndsConverged rid s.cp.db

/-! ## Events without failures -/

/-- An accepted event that is no failure does not halt the host. -/
theorem hostStep_calm {s s' : HostRolloutState} {e : Event} {p : RolloutPolicy}
    {effects : List Effect} (h : hostStep s e p = .ok (s', effects)) (he : e.fails = false)
    (hs : s.state.halts = false) : s'.state.halts = false := by
  have hafter := hostStep_after h
  generalize s.state = src at hafter hs
  generalize s'.state = dst at hafter
  unfold HostState.after at hafter
  split at hafter <;> cases hafter <;> first | rfl | exact absurd hs (by decide) | cases he

/-- Its payload brings no row of `probe_failures`. -/
theorem probeFailureRows_of_calm {e : Event} {payload : OutboundAgentEvent}
    (hlogged : e.logged? = some payload) (he : e.fails = false) (host : HostId)
    (rid : RolloutId) : probeFailureRows host rid payload = [] := by
  have hresults : payload.results.any (·.failsEnforced) = false := by
    cases e <;> cases hlogged <;> first | exact he | rfl
  have hnone : everFailed payload.results = [] := by
    unfold everFailed
    rw [List.filter_eq_nil_iff.mpr, List.map_nil]
    intro r hr
    simpa using List.any_eq_false.mp hresults r hr
  have hmap : (probeFailureRows host rid payload).map ProbeFailure.counted = [] := by
    rw [counted_probeFailureRows, hnone]
  exact List.map_eq_nil_iff.mp hmap

theorem handleHostEvent_noFailures {rs : ReducerState} {now : Time} {faults : Faults} {db : Db}
    {event : Event} (he : event.fails = false) (h : db.probeFailures = []) (host : HostId)
    (rid : RolloutId) :
    (handleHostEvent rs now faults db host rid event).probeFailures = [] := by
  refine handleHostEvent_rule (P := fun db => db.probeFailures = []) h ?_
  intro manifests prior next effects hacc
  obtain ⟨policy, -, hstep⟩ := hacc.step
  refine hostStateChanged_rule (P := fun db => db.probeFailures = []) ?_ ?_
  · intro db' e _ _ hdb'
    rw [processRolloutEvent_probeFailures]
    exact hdb'
  · refine List.foldlRecOn (motive := fun db : Db => db.probeFailures = []) effects _ h ?_
    intro db' hdb' e hmem
    cases e with
    | remoteAppendEventLog host' rid' payload =>
        have hrows : probeFailureRows host' rid' payload = [] :=
          probeFailureRows_of_calm ((hostStep_logged hstep).mp hmem).2.2 he host' rid'
        simp only [applyEffect, hrows, Db.insertProbeFailures, List.append_nil]
        split <;> exact hdb'
    | remoteInsertQuarantine channel closure =>
        simp only [applyEffect, Db.insertQuarantine]
        split
        · exact hdb'
        · split <;> exact hdb'
    | recordTransition | localFireSwitch | localFireRollbackTo | localResetProbeCache
    | localEmitEvent => exact hdb'

/-! ## Rows without failures -/

section Rows

variable {ctx : ApplierCtx} {db : Db} {rid rid' : RolloutId} {row : RolloutRow}

/-- A host that does not fail leaves the row of its rollout as it is. -/
theorem next_hostStateChanged (hrow : row.state.isGoing = true) {dst : HostState}
    (hdst : dst.halts = false) (host : HostId) (src : HostState) (t : Time) :
    row.next (.hostStateChanged rid host src dst t) = row := by
  unfold RolloutRecord.next rolloutStep
  cases hs : row.state with
  | active | converging => cases dst <;> first | rfl | cases hdst
  | terminal => rfl
  | _ => simp [hs, RolloutState.isGoing] at hrow

/-- The end of a rollout that is not halted makes it `Terminal`. -/
theorem next_rolloutTerminal (hrow : row.state.isGoing = true) (t : Time) :
    (row.next (.rolloutTerminal rid t)).state = .terminal := by
  unfold RolloutRecord.next rolloutStep
  cases hs : row.state with
  | active | converging => rfl
  | terminal => exact hs
  | _ => simp [hs, RolloutState.isGoing] at hrow

theorem processRolloutEvent_state (hstored : ctx.faults = noFaults) (hrows : db.RowsOk)
    (hrow : db.rollouts.lookup rid = some row) (e : RolloutEvent) :
    ∃ row', (processRolloutEvent ctx db e).rollouts.lookup rid = some row' ∧
      row'.state = if rid = e.rolloutId then (row.next e).state else row.state := by
  have hview := processRolloutEvent_view hstored hrows e rid
  rw [hrow, Option.map_some] at hview
  obtain ⟨row', hrow', hlike⟩ := Option.map_eq_some_iff.mp hview
  refine ⟨row', hrow', ?_⟩
  have hstate := congrArg RolloutView.state hlike
  split at hstate
  · rename_i hrid
    rw [if_pos hrid]
    exact hstate
  · rename_i hrid
    rw [if_neg hrid]
    exact hstate

/-- **The report of a host that has not failed.** The row keeps going, stays `Terminal` if it was,
and is so once all its records are `Converged`. -/
theorem hostStateChanged_going (hstored : ctx.faults = noFaults) (hrows : db.RowsOk)
    (hrow : db.rollouts.lookup rid = some row) (hgoing : row.state.isGoing = true)
    {src dst : HostState} (hdst : dst.halts = false) (host : HostId) :
    ∃ row', (hostStateChanged ctx db host rid' src dst).rollouts.lookup rid = some row' ∧
      row'.state.isGoing = true ∧ (row.state = .terminal → row'.state = .terminal) ∧
      (rid' = rid → src ≠ dst → dst = .converged → HasRecord rid host db →
        (∀ host r, db.loadRecord rid host = some r → r.state = .converged) →
          row'.state = .terminal) := by
  unfold hostStateChanged
  split
  · rename_i hsame
    exact ⟨row, hrow, hgoing, id, fun _ hne => absurd hsame hne⟩
  · dsimp only
    obtain ⟨row₁, hrow₁, hstate₁⟩ := processRolloutEvent_state hstored hrows hrow
      (.hostStateChanged rid' host src dst ctx.now)
    rw [next_hostStateChanged hgoing hdst, ite_self] at hstate₁
    have hgoing₁ : row₁.state.isGoing = true := by rw [hstate₁, hgoing]
    have hrows₁ : (processRolloutEvent ctx db
        (.hostStateChanged rid' host src dst ctx.now)).RowsOk :=
      (processRolloutEvent_rows hrows _).1
    split
    · -- the check has found all records of its rollout converged
      obtain ⟨row₂, hrow₂, hstate₂⟩ := processRolloutEvent_state hstored hrows₁ hrow₁
        (.rolloutTerminal rid' ctx.now)
      rw [next_rolloutTerminal hgoing₁, hstate₁] at hstate₂
      refine ⟨row₂, hrow₂, ?_, ?_, ?_⟩
      · rw [hstate₂]
        split
        · rfl
        · exact hgoing
      · intro hterminal
        rw [hstate₂, hterminal, ite_self]
      · rintro rfl - - - -
        rw [hstate₂]
        exact if_pos rfl
    · rename_i hcheck
      refine ⟨row₁, hrow₁, hgoing₁, fun hterminal => hstate₁.trans hterminal, ?_⟩
      -- the check would have found them so
      rintro rfl - hconverged hhas hall
      refine absurd ⟨hconverged, ?_, ?_, ?_⟩ hcheck
      · rw [hstored]
        exact Bool.false_ne_true
      · obtain ⟨r, hr⟩ := Option.isSome_iff_exists.mp hhas
        refine List.ne_nil_of_mem (a := r) (mem_allForRollout.mpr ⟨host, ?_⟩)
        rw [loadRecord_congr (processRolloutEvent_hostRolloutRecords ..)]
        exact hr
      · refine List.all_eq_true.mpr fun r hmem => decide_eq_true ?_
        obtain ⟨host', hr⟩ := mem_allForRollout.mp hmem
        rw [loadRecord_congr (processRolloutEvent_hostRolloutRecords ..)] at hr
        exact hall host' r hr

end Rows

/-! ## One rollout -/

section Rollout

variable {db db' : Db} {rid : RolloutId} {manifest : RolloutManifest}

/-- A step that changes neither the records nor the states of the rows. -/
theorem HealthyRollout.of_same (h : HealthyRollout db rid manifest)
    (hrecords : db'.hostRolloutRecords = db.hostRolloutRecords)
    (hstates : (db'.rollouts.lookup rid).map (·.state) = (db.rollouts.lookup rid).map (·.state)) :
    HealthyRollout db' rid manifest := by
  have hrow : ∀ row, db.rollouts.lookup rid = some row →
      ∃ row', db'.rollouts.lookup rid = some row' ∧ row'.state = row.state := by
    intro row hrow
    rw [hrow, Option.map_some] at hstates
    exact Option.map_eq_some_iff.mp hstates
  refine ⟨fun host hhost => (h.recorded host hhost).congr hrecords, ?_, ?_⟩
  · obtain ⟨row, hlook, hgoing⟩ := h.going
    obtain ⟨row', hlook', hstate⟩ := hrow row hlook
    exact ⟨row', hlook', by rw [hstate, hgoing]⟩
  · intro hall
    have hbefore : ∀ host r, db.loadRecord rid host = some r → r.state = .converged := by
      intro host r hr
      rw [← loadRecord_congr hrecords] at hr
      exact hall host r hr
    obtain ⟨row, hlook, hterminal⟩ := h.finished hbefore
    obtain ⟨row', hlook', hstate⟩ := hrow row hlook
    exact ⟨row', hlook', hstate.trans hterminal⟩

/-- **A host event without a failure** keeps the rollout going, and finishes it with its last
host. -/
theorem HealthyRollout.hostEvent {rs : ReducerState} {now : Time} {host' : HostId}
    {rid' : RolloutId} {event : Event} (h : HealthyRollout db rid manifest) (hrows : db.RowsOk)
    (hkeyed : db.RecordsKeyed) (he : event.fails = false)
    (hcalm : ∀ r, db.loadRecord rid' host' = some r → r.state.halts = false) :
    HealthyRollout (handleHostEvent rs now noFaults db host' rid' event) rid manifest := by
  rcases handleHostEvent_cases rs now noFaults db host' rid' event with
    heq | ⟨m, prior, next, effects, hacc, heq⟩
  · rw [heq]
    exact h
  · obtain ⟨policy, -, hstep⟩ := hacc.step
    have hsame := (hostStep_spec hstep).same
    obtain ⟨hpriorRid, hpriorHost⟩ := hkeyed _ _ _ hacc.loaded
    have hnext : next.state.halts = false := hostStep_calm hstep he (hcalm prior hacc.loaded)
    -- the record is stored first, and the effects touch neither records nor rows
    obtain ⟨stored, hstored⟩ : ∃ stored, stored =
        effects.foldl (applyEffect ⟨m, now, noFaults⟩) (db.upsertRecord next) := ⟨_, rfl⟩
    have hstoredRows : stored.rollouts = db.rollouts := by
      rw [hstored]
      exact foldl_applyEffect_rollouts ..
    have hstoredRecords :
        stored.hostRolloutRecords = (db.upsertRecord next).hostRolloutRecords := by
      rw [hstored]
      exact foldl_applyEffect_hostRolloutRecords ..
    have hok : stored.RowsOk := fun rid row hrow => hrows rid row (hstoredRows ▸ hrow)
    have hload : ∀ rid host, (handleHostEvent rs now noFaults db host' rid' event).loadRecord rid
        host = stored.loadRecord rid host := by
      intro rid host
      rw [heq, loadRecord_congr (acceptHostEvent_hostRolloutRecords ..),
        ← loadRecord_congr hstoredRecords]
    obtain ⟨row, hrow, hgoing⟩ := h.going
    have hfollows : ∃ row', (hostStateChanged ⟨m, now, noFaults⟩ stored host' rid' prior.state
        next.state).rollouts.lookup rid = some row' ∧
        row'.state.isGoing = true ∧ (row.state = .terminal → row'.state = .terminal) ∧
        (rid' = rid → prior.state ≠ next.state → next.state = .converged →
          HasRecord rid host' stored →
          (∀ host r, stored.loadRecord rid host = some r → r.state = .converged) →
            row'.state = .terminal) :=
      hostStateChanged_going rfl hok (hstoredRows ▸ hrow) hgoing hnext host'
    obtain ⟨row', hrow', hgoing', hstays, hends⟩ := hfollows
    have hlook : (handleHostEvent rs now noFaults db host' rid' event).rollouts.lookup rid =
        some row' := by
      rw [heq, acceptHostEvent, ← hstored]
      exact hrow'
    refine ⟨fun host hhost => (h.recorded host hhost).hostEvent, ⟨row', hlook, hgoing'⟩, ?_⟩
    intro hall
    refine ⟨row', hlook, ?_⟩
    by_cases hrid : rid' = rid
    · -- the moved record is among those that have converged
      have hown : stored.loadRecord rid host' = some next := by
        rw [loadRecord_congr hstoredRecords, loadRecord_upsertRecord, if_pos]
        exact ⟨by rw [hsame.rolloutId, hpriorRid, hrid], by rw [hsame.hostname, hpriorHost]⟩
      have hconverged : next.state = .converged := hall host' next ((hload rid host').trans hown)
      have hprior : prior.state ≠ next.state := by
        rw [hconverged]
        exact not_accepted_of_converged hacc
      refine hends hrid hprior hconverged (Option.isSome_iff_exists.mpr ⟨next, hown⟩) ?_
      exact fun host r hr => hall host r ((hload rid host).trans hr)
    · -- another rollout's record
      have hbefore : ∀ host r, db.loadRecord rid host = some r → r.state = .converged := by
        intro host r hr
        refine hall host r ?_
        rw [hload, loadRecord_congr hstoredRecords, loadRecord_upsertRecord, if_neg]
        · exact hr
        · rintro ⟨hrid', -⟩
          exact hrid (by rw [hrid', hsame.rolloutId, hpriorRid])
      obtain ⟨row₀, hrow₀, hterminal⟩ := h.finished hbefore
      rw [Option.mem_def, hrow] at hrow₀
      cases hrow₀
      exact hstays hterminal

end Rollout

/-! ## Plan ticks that open nothing -/

section Quiet

variable {rs : ReducerState} {order : MapOrders} {now : Time} {db : Db} {m : SignedManifestSet}

/-- With a row for every rollout of the manifests, a plan opens none. -/
theorem openRollout_not_mem_plan {plan : Plan} (hrs : rs.manifests = some m)
    (hplan : planOf rs order now noFaults db = some plan)
    (hopened : ∀ channel manifest, m.rollouts.lookup channel = some manifest →
      (db.rollouts.lookup (.new channel manifest.channelRef)).isSome = true) {rid : RolloutId}
    {channel : ChannelId} {targetRef : ChannelRef} :
    .openRollout rid channel targetRef ∉ plan.actions := by
  intro hmem
  have hnone := row_none_of_openRollout hplan rfl hmem
  obtain ⟨m', fs, hm', -, -, -, hactions⟩ := planOf_eq_some hplan
  rw [hrs] at hm'
  cases hm'
  rw [hactions, openRollout_mem_planNext] at hmem
  obtain ⟨manifest, hlook, rfl, -, -⟩ := hmem
  have hsome := hopened channel manifest hlook
  rw [hnone] at hsome
  cases hsome

/-- A wave bump leaves the states of the rows alone. -/
theorem advanceCurrentWaves_state {faults : Faults} {fleet : FleetResolved} {fs : FleetState}
    (rid : RolloutId) :
    ((advanceCurrentWaves order faults fleet db fs).1.rollouts.lookup rid).map (·.state) =
      (db.rollouts.lookup rid).map (·.state) := by
  refine advanceCurrentWaves_proj _ _ _ _ _
    (f := fun db => (db.rollouts.lookup rid).map (·.state)) fun db rid' wave => ?_
  rw [setCurrentWave_lookup, Option.map_map]
  refine Option.map_congr fun row _ => ?_
  simp only [Function.comp_apply]
  split <;> rfl

/-- **A quiet tick.** It leaves the records and the states of the rows as they are. -/
theorem runPlan_quiet (hrs : rs.manifests = some m)
    (hopened : ∀ channel manifest, m.rollouts.lookup channel = some manifest →
      (db.rollouts.lookup (.new channel manifest.channelRef)).isSome = true) :
    (runPlan rs order now noFaults db).hostRolloutRecords = db.hostRolloutRecords ∧
    ∀ rid, ((runPlan rs order now noFaults db).rollouts.lookup rid).map (·.state) =
      (db.rollouts.lookup rid).map (·.state) := by
  refine runPlan_rule (P := fun db' => db'.hostRolloutRecords = db.hostRolloutRecords ∧
    ∀ rid, (db'.rollouts.lookup rid).map (·.state) = (db.rollouts.lookup rid).map (·.state))
    ⟨rfl, fun _ => rfl⟩ ?_ ?_
  · intro m' plan _ hplan
    obtain ⟨_, fs, _, _, hdb, _, _⟩ := planOf_eq_some hplan
    rw [hdb]
    exact ⟨advanceCurrentWaves_hostRolloutRecords .., advanceCurrentWaves_state⟩
  · rintro m' plan - hplan db' ⟨hrecords, hstates⟩ a ha
    cases a with
    | openRollout rid channel targetRef =>
        exact absurd ha (openRollout_not_mem_plan hrs hplan hopened)
    | queueDispatch host rid closure due =>
        refine ⟨(queueDispatch_hostRolloutRecords ..).trans hrecords, fun rid' => ?_⟩
        rw [applyPlanAction, queueDispatch_rollouts]
        exact hstates rid'
    | deferDispatch => exact ⟨hrecords, hstates⟩

end Quiet

/-! ## Every step -/

section Steps

variable {m : SignedManifestSet} {s : Deployment} {i : DeploymentInput}

/-- No step of a deployment deletes a record. -/
theorem deploymentStep_hasRecord {rid : RolloutId} {host : HostId}
    (h : HasRecord rid host s.cp.db) : HasRecord rid host (deploymentStep s i).1.cp.db := by
  rcases deploymentStep_cp s i with heq | heq
  · rw [heq]
    refine cpStep_hasRecord h ?_
    unfold KeepsRow
    cases hev : i.event <;> simp [DeploymentInput.toCp, DeploymentEvent.toCp, hev, noFaults]
  · rw [heq]
    exact h

/-- The dispatches that a step plans are of hosts with records. -/
theorem deploymentStep_outstanding_recorded (h : s.Healthy m) {rid : RolloutId} {host : HostId}
    (hout : (deploymentStep s i).1.Outstanding host rid) :
    HasRecord rid host (deploymentStep s i).1.cp.db := by
  refine deploymentStep_hasRecord ?_
  rcases deploymentStep_outstanding h.toOk hout with hold | ⟨-, plan, closure, due, hplan, ha⟩
  · exact h.outstanding host rid hold
  · obtain ⟨c, hc, rfl, rfl, -⟩ :=
      exists_candidate_of_mem_plan (planOf_of_plan hplan) h.manifests ha
    have hload := loadRecord_of_candidate (planOf_of_plan hplan) h.records hc
    exact Option.isSome_iff_exists.mpr ⟨c.record, hload⟩

theorem Deployment.Healthy.hasRow (h : s.Healthy m) {channel : ChannelId}
    {manifest : RolloutManifest} (hm : m.rollouts.lookup channel = some manifest) :
    (s.cp.db.rollouts.lookup (.new channel manifest.channelRef)).isSome = true := by
  obtain ⟨row, hrow, -⟩ := (h.rollouts channel manifest hm).going
  rw [hrow]
  rfl

/-- **Where a record comes from.** A step leaves it as it is, or it is the one that the step's host
event has moved. -/
theorem deploymentStep_record (h : s.Healthy m) {rid : RolloutId} {host : HostId}
    {r : HostRolloutState} (hr : (deploymentStep s i).1.cp.db.loadRecord rid host = some r) :
    s.cp.db.loadRecord rid host = some r ∨ ∃ event manifests prior effects,
      i.event = .hostEvent host rid event ∧ (host, rid) ∈ s.taken ∧
      Accepted s.cp.rs s.cp.db host rid event manifests prior r effects := by
  cases hev : i.event with
  | planTick =>
      left
      simp only [deploymentStep, hev, cpStep, DeploymentInput.toCp, DeploymentEvent.toCp] at hr
      have hrecords : (runPlan s.cp.rs i.order i.now noFaults s.cp.db).hostRolloutRecords =
          s.cp.db.hostRolloutRecords :=
        (runPlan_quiet h.manifests fun channel manifest hm => h.hasRow hm).1
      rw [loadRecord_congr hrecords] at hr
      exact hr
  | takeDispatch host' =>
      left
      simp only [deploymentStep, hev, cpStep, DeploymentInput.toCp, DeploymentEvent.toCp] at hr
      rw [loadRecord_takeForHost] at hr
      exact hr
  | hostEvent host' rid' event =>
      simp only [deploymentStep, hev] at hr
      split at hr
      · rename_i htaken
        simp only [cpStep, DeploymentInput.toCp, hev, DeploymentEvent.toCp] at hr
        rcases handleHostEvent_record h.records hr with
          hold | ⟨rfl, rfl, manifests, prior, effects, hacc⟩
        · exact .inl hold
        · exact .inr ⟨event, manifests, prior, effects, rfl, htaken, hacc⟩
      · exact .inl hr

/-- The agents only take dispatches. -/
theorem taken_subset_step (s : Deployment) (i : DeploymentInput) :
    s.taken ⊆ (deploymentStep s i).1.taken := by
  unfold deploymentStep
  split
  · exact List.Subset.refl _
  · exact List.subset_append_left _ _
  · split <;> exact List.Subset.refl _

theorem HealthyRecord.step (h : s.Healthy m) (hi : i.event.Calm) {rid : RolloutId}
    {host : HostId} {r : HostRolloutState}
    (hr : (deploymentStep s i).1.cp.db.loadRecord rid host = some r) :
    HealthyRecord m (deploymentStep s i).1.taken rid host r := by
  have htaken : s.taken ⊆ (deploymentStep s i).1.taken := taken_subset_step s i
  rcases deploymentStep_record h hr with
    hold | ⟨event, manifests, prior, effects, hev, hmem, hacc⟩
  · have hbefore := h.healthy rid host r hold
    exact ⟨hbefore.declared, hbefore.calm, hbefore.unacked,
      hbefore.taken.imp_right fun hmem => htaken hmem⟩
  · -- the record that the event has moved
    have hprior := h.healthy _ _ _ hacc.loaded
    obtain ⟨policy, -, hstep⟩ := hacc.step
    rw [hev] at hi
    refine ⟨hprior.declared, hostStep_calm hstep hi hprior.calm, ?_, .inr (htaken hmem)⟩
    intro hpending
    exact absurd hpending (hostStep_spec hstep).move.ne_pending

theorem deploymentStep_noFailures (h : s.Healthy m) (hi : i.event.Calm) :
    (deploymentStep s i).1.cp.db.probeFailures = [] := by
  cases hev : i.event with
  | planTick =>
      simp only [deploymentStep, hev, cpStep, DeploymentInput.toCp, DeploymentEvent.toCp]
      rw [runPlan_probeFailures]
      exact h.noFailures
  | takeDispatch host =>
      simp only [deploymentStep, hev, cpStep, DeploymentInput.toCp, DeploymentEvent.toCp]
      rw [takeForHost_proj _ (f := Db.probeFailures) fun _ _ => rfl]
      exact h.noFailures
  | hostEvent host rid event =>
      rw [hev] at hi
      simp only [deploymentStep, hev]
      split
      · simp only [cpStep, DeploymentInput.toCp, hev, DeploymentEvent.toCp]
        exact handleHostEvent_noFailures hi h.noFailures host rid
      · exact h.noFailures

theorem HealthyRollout.step (h : s.Healthy m) (hi : i.event.Calm) {channel : ChannelId}
    {manifest : RolloutManifest} (hm : m.rollouts.lookup channel = some manifest) :
    HealthyRollout (deploymentStep s i).1.cp.db (.new channel manifest.channelRef) manifest := by
  have hbefore := h.rollouts channel manifest hm
  cases hev : i.event with
  | planTick =>
      simp only [deploymentStep, hev, cpStep, DeploymentInput.toCp, DeploymentEvent.toCp]
      have hquiet : (runPlan s.cp.rs i.order i.now noFaults s.cp.db).hostRolloutRecords =
          s.cp.db.hostRolloutRecords ∧
          ∀ rid, ((runPlan s.cp.rs i.order i.now noFaults s.cp.db).rollouts.lookup rid).map
            (·.state) = (s.cp.db.rollouts.lookup rid).map (·.state) :=
        runPlan_quiet h.manifests fun channel manifest hm => h.hasRow hm
      exact hbefore.of_same hquiet.1 (hquiet.2 _)
  | takeDispatch host =>
      simp only [deploymentStep, hev, cpStep, DeploymentInput.toCp, DeploymentEvent.toCp]
      exact hbefore.of_same (takeForHost_hostRolloutRecords ..) (by rw [takeForHost_rollouts])
  | hostEvent host rid event =>
      rw [hev] at hi
      simp only [deploymentStep, hev]
      split
      · simp only [cpStep, DeploymentInput.toCp, hev, DeploymentEvent.toCp]
        exact hbefore.hostEvent h.rows h.records hi fun r hr => (h.healthy rid host r hr).calm
      · exact hbefore

/-- **Every step without a failure** keeps the deployment healthy. -/
theorem deploymentStep_healthy (h : s.Healthy m) (hi : i.event.Calm) :
    (deploymentStep s i).1.Healthy m where
  toOk := deploymentStep_ok h.toOk i
  quarantines := by
    rcases deploymentStep_cp s i with heq | heq
    · rw [heq]
      exact cpStep_quarantines h.quarantines _
    · rw [heq]
      exact h.quarantines
  noFailures := deploymentStep_noFailures h hi
  rollouts _ _ hm := HealthyRollout.step h hi hm
  healthy _ _ _ hr := HealthyRecord.step h hi hr
  outstanding _ _ hout := deploymentStep_outstanding_recorded h hout
  ends rid := by
    rcases deploymentStep_cp s i with heq | heq
    · rw [heq]
      exact cpStep_endsConverged rfl h.rows h.records (h.ends rid)
    · rw [heq]
      exact h.ends rid

end Steps

/-! ## The start -/

/-- The states of a rollout before any of its hosts reports. -/
def RolloutState.isYoung (s : RolloutState) : Bool :=
  s = .opening || s = .active || s = .superseded

/-- A host joins, or a successor is opened. -/
def RolloutEvent.opens : RolloutEvent → Bool
  | .hostJoined .. | .successorOpened .. => true
  | _ => false

theorem next_isYoung {row : RolloutRow} (hrow : row.state.isYoung = true) {e : RolloutEvent}
    (he : e.opens = true) : (row.next e).state.isYoung = true := by
  unfold RolloutRecord.next rolloutStep
  cases e with
  | hostJoined | successorOpened =>
      cases hs : row.state with
      | opening | active => first | rfl | exact hrow
      | superseded => exact hrow
      | _ => simp [hs, RolloutState.isYoung] at hrow
  | _ => cases he

/-- The rows are in order, and no host of theirs has reported. -/
def Db.YoungRows (db : Db) : Prop :=
  db.RowsOk ∧ ∀ rid row, db.rollouts.lookup rid = some row → row.state.isYoung = true

section Start

variable {ctx : ApplierCtx} {db : Db}

theorem Db.YoungRows.event (h : db.YoungRows) (hstored : ctx.faults = noFaults)
    {e : RolloutEvent} (he : e.opens = true) : (processRolloutEvent ctx db e).YoungRows := by
  refine ⟨(processRolloutEvent_rows h.1 e).1, fun rid row' hrow' => ?_⟩
  have hsome : (db.rollouts.lookup rid).isSome = true := by
    have hkept : ((processRolloutEvent ctx db e).rollouts.lookup rid).isSome =
        (db.rollouts.lookup rid).isSome := processRolloutEvent_isSome rid
    rw [← hkept, hrow']
    rfl
  obtain ⟨row, hrow⟩ := Option.isSome_iff_exists.mp hsome
  obtain ⟨row₁, hrow₁, hstate⟩ := processRolloutEvent_state hstored h.1 hrow e
  rw [hrow'] at hrow₁
  cases hrow₁
  rw [hstate]
  split
  · exact next_isYoung (h.2 rid row hrow) he
  · exact h.2 rid row hrow

theorem Db.YoungRows.opened (h : db.YoungRows) (rid : RolloutId) (channel : ChannelId)
    (targetRef : ChannelRef) (t : Time) :
    (db.recordRolloutOpened rid channel targetRef t).YoungRows := by
  refine ⟨(recordRolloutOpened_rows ⟨h.1, .refl db⟩ rid channel targetRef t).1, ?_⟩
  intro rid' row hrow
  unfold Db.recordRolloutOpened at hrow
  split at hrow
  · exact h.2 rid' row hrow
  · rw [Table.lookup_insert_eq] at hrow
    split at hrow
    · cases hrow
      rfl
    · exact h.2 rid' row hrow

/-- A tick on rows whose hosts have not reported. -/
theorem Db.YoungRows.plan {rs : ReducerState} {order : MapOrders} {now : Time}
    (h : db.YoungRows) : (runPlan rs order now noFaults db).YoungRows := by
  refine runPlan_rule (P := Db.YoungRows) h ?_ ?_
  · intro m plan _ hplan
    obtain ⟨m', fs, _, _, hdb, _, _⟩ := planOf_eq_some hplan
    rw [hdb]
    refine ⟨(advanceCurrentWaves_rows ⟨h.1, .refl db⟩).1, ?_⟩
    have hstate : ∀ rid, ((advanceCurrentWaves order noFaults m'.fleet db
        fs).1.rollouts.lookup rid).map (·.state) = (db.rollouts.lookup rid).map (·.state) :=
      advanceCurrentWaves_state
    intro rid row' hrow'
    have hsame := hstate rid
    rw [hrow', Option.map_some] at hsame
    obtain ⟨row, hrow, heq⟩ := Option.map_eq_some_iff.mp hsame.symm
    rw [← heq]
    exact h.2 rid row hrow
  · intro m plan _ _ db' hdb' a _
    cases a with
    | openRollout rid channel targetRef =>
        refine openRollout_steps (P := Db.YoungRows) (fun hf => by cases hf) (fun _ => ?_) ?_ ?_ ?_
        · exact hdb'.opened rid channel targetRef now
        · exact fun _ _ _ _ _ _ hdb => hdb.event rfl rfl
        · intro manifest _ hw _ db₁ hdb₁
          have hstored : (db₁.upsertRecord
              (pendingRecord ⟨m, now, noFaults⟩ rid channel hw)).YoungRows := hdb₁
          exact hstored.event rfl rfl
        · exact fun _ _ hdb => hdb
    | queueDispatch host rid closure due =>
        have hsame := queueDispatch_rollouts ⟨m, now, noFaults⟩ db' host rid closure due
        exact ⟨fun rid row hrow => hdb'.1 rid row (hsame ▸ hrow),
          fun rid row hrow => hdb'.2 rid row (hsame ▸ hrow)⟩
    | deferDispatch => exact hdb'

end Start

/-- A manifest has a host. -/
theorem ReleasedFrom.hosts_ne_nil {cfg : FleetConfig} {m : SignedManifestSet}
    (h : ReleasedFrom cfg m) {channel : ChannelId} {manifest : RolloutManifest}
    (hm : m.rollouts.lookup channel = some manifest) : manifest.hosts ≠ [] := by
  obtain ⟨resolved, hashes, signedAt, commit, algorithm, -, -, hproject⟩ := h
  obtain ⟨hash, hp⟩ := hproject channel manifest hm
  have hset := (projectManifest_spec hp).1
  unfold projectManifest at hp
  split at hp
  · cases hp
  · split at hp
    · cases hp
    · split at hp
      · cases hp
      · rename_i hempty
        rw [RolloutManifest.hosts, hset]
        simpa using hempty

theorem ReleasedFrom.distinctIds {cfg : FleetConfig} {m : SignedManifestSet}
    (h : ReleasedFrom cfg m) : m.DistinctIds := fun _ he _ he' hid =>
  h.channel_eq (Table.mem_rows.mp he) (Table.mem_rows.mp he') hid

section FirstTick

variable {cfg : FleetConfig} {m : SignedManifestSet} {rs : ReducerState} {order : MapOrders}
  {now : Time}

theorem youngRows_empty : Db.empty.YoungRows :=
  ⟨fun _ _ hrow => (by cases hrow), fun _ _ hrow => (by cases hrow)⟩

/-- The records after the first tick are those that it opens. -/
theorem firstTick_record (hrs : rs.manifests = some m) {rid : RolloutId} {host : HostId}
    {r : HostRolloutState}
    (hr : (runPlan rs order now noFaults Db.empty).loadRecord rid host = some r) :
    (∃ channel manifest, m.rollouts.lookup channel = some manifest ∧
      rid = .new channel manifest.channelRef ∧ host ∈ manifest.hosts) ∧
    r.state = .pending ∧ r.dispatchAckedAt = none := by
  rcases runPlan_record hr with hold | ⟨m', plan, targetRef, hm', hplan, hact, hfresh⟩
  · cases hold
  · rw [hrs] at hm'
    cases hm'
    obtain ⟨channel, manifest, hlook, hw, hmem, rfl, rfl⟩ := hfresh
    obtain ⟨m', fs, hm', -, -, -, hactions⟩ := planOf_eq_some hplan
    rw [hrs] at hm'
    cases hm'
    rw [hactions, openRollout_mem_planNext] at hact
    obtain ⟨manifest', hlook', hid, -, -⟩ := hact
    have hsame : manifest' = manifest := Option.some.inj (hlook'.symm.trans hlook)
    rw [hsame] at hid
    exact ⟨⟨channel, manifest, hlook, hid, List.mem_map_of_mem hmem⟩, rfl, rfl⟩

/-- The first tick writes a record for every host of every manifest. -/
theorem firstTick_recorded (hrs : rs.manifests = some m) {channel : ChannelId}
    {manifest : RolloutManifest} (hm : m.rollouts.lookup channel = some manifest) {host : HostId}
    (hhost : host ∈ manifest.hosts) :
    HasRecord (.new channel manifest.channelRef) host
      (runPlan rs order now noFaults Db.empty) := by
  obtain ⟨hw, hmem, rfl⟩ := List.mem_map.mp hhost
  obtain ⟨fs, hfs⟩ := Option.isSome_iff_exists.mp (buildFleetState_isSome order Db.empty m)
  obtain ⟨plan, hplan⟩ : ∃ plan, planOf rs order now noFaults Db.empty = some plan := by
    simp only [planOf, hrs, hfs]
    exact ⟨_, rfl⟩
  obtain ⟨m', fs', hm', -, -, -, hactions⟩ := planOf_eq_some hplan
  rw [hrs] at hm'
  cases hm'
  have hact : .openRollout (.new channel manifest.channelRef) channel manifest.channelRef ∈
      plan.actions := by
    rw [hactions, openRollout_mem_planNext]
    refine ⟨manifest, hm, rfl, rfl, ?_⟩
    -- there is no row yet that the planner could see
    by_contra hsummary
    obtain ⟨summary, hs⟩ := Option.ne_none_iff_exists'.mp hsummary
    obtain ⟨-, row, hrow, -⟩ := terminalAt_of_summary hplan hs
    cases hrow
  exact hasRecord_of_runPlan hrs hplan hact hm hmem

/-- After the first tick a rollout has its hosts, and its row is `Active`. -/
theorem firstTick_rollout (hrel : ReleasedFrom cfg m) (hrs : rs.manifests = some m)
    {channel : ChannelId} {manifest : RolloutManifest}
    (hm : m.rollouts.lookup channel = some manifest) :
    HealthyRollout (runPlan rs order now noFaults Db.empty) (.new channel manifest.channelRef)
      manifest := by
  obtain ⟨host, hhost⟩ := List.exists_mem_of_ne_nil _ (hrel.hosts_ne_nil hm)
  have hrecorded : HasRecord (.new channel manifest.channelRef) host
      (runPlan rs order now noFaults Db.empty) := firstTick_recorded hrs hm hhost
  obtain ⟨r, hr⟩ := Option.isSome_iff_exists.mp hrecorded
  refine ⟨fun host hhost => firstTick_recorded hrs hm hhost, ?_, fun hall => ?_⟩
  · have hstart : FollowsSince Db.empty (.new channel manifest.channelRef) Db.empty :=
      ⟨⟨youngRows_empty.1, fun _ _ _ h => (by cases h), fun _ h => (by cases h),
        fun _ _ h => (by cases h), fun _ _ h => (by cases h)⟩, id⟩
    have htick : TickInv m Db.empty :=
      ⟨youngRows_empty.1, fun _ _ _ ⟨_, h, _⟩ => (by cases h), fun _ _ _ h => (by cases h)⟩
    obtain ⟨row, hrow, -, hlive⟩ := (runPlan_current order now hrs hrel.distinctIds htick).2
      channel manifest hm
    have hyoung : row.state.isYoung = true := youngRows_empty.plan.2 _ row hrow
    -- its first host has joined, and nothing supersedes it
    have hticked : FollowsSince Db.empty (.new channel manifest.channelRef)
        (runPlan rs order now noFaults Db.empty) := hstart.plan
    obtain ⟨row', hrow', hopening⟩ := hticked.follows.joined host r hr
    rw [Option.mem_def.mp hrow] at hrow'
    cases hrow'
    refine ⟨row, hrow, ?_⟩
    cases hs : row.state with
    | active => rfl
    | opening => exact absurd hs hopening
    | superseded => simp [hs, RolloutState.isLive] at hlive
    | _ => simp [hs, RolloutState.isYoung] at hyoung
  · -- the host is still `Pending`
    have hpending : r.state = .pending := (firstTick_record hrs hr).2.1
    have hconverged := hall host r hr
    rw [hpending] at hconverged
    cases hconverged

/-- **The start is healthy.** The first tick opens every rollout of the release, whose hosts are all
`Pending`. -/
theorem start_healthy (hrel : ReleasedFrom cfg m) (now : Time) :
    (Deployment.start m now).Healthy m := by
  have hdb : (Deployment.start m now).cp.db =
      runPlan { ReducerState.initial with manifests := some m } .stored now noFaults Db.empty := rfl
  refine ⟨start_ok m now, rfl, ?_, ?_, ?_, ?_, ?_⟩
  · rw [hdb, runPlan_probeFailures]
    rfl
  · intro channel manifest hm
    rw [hdb]
    exact firstTick_rollout hrel rfl hm
  · intro rid host r hr
    rw [hdb] at hr
    obtain ⟨hdeclared, hpending, hunacked⟩ := firstTick_record rfl hr
    exact ⟨hdeclared, by rw [hpending]; rfl, fun _ => hunacked, .inl hpending⟩
  · rintro host rid (hq | htaken)
    · obtain ⟨q, hq⟩ := Option.isSome_iff_exists.mp hq
      exact absurd hq start_outstanding
    · cases htaken
  · intro rid
    rw [hdb]
    have hstart : EndsConverged rid Db.empty := by
      rintro ⟨row, hrow, -⟩
      cases hrow
    exact hstart.plan youngRows_empty.1

end FirstTick

end Nixfleet
