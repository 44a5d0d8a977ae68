import Mathlib.Algebra.Order.BigOperators.Group.List
import Mathlib.Algebra.Order.Ring.Nat
import Nixfleet.Lib.Schedule
import Nixfleet.ControlPlane.Healthy

set_option autoImplicit false

/-!
# Every rollout of a release finishes

A release whose gates do not wait for one another (`Finishable`) is rolled out to the end on every
fair schedule: no host fails, ticks and polls keep coming, and a host that took a dispatch converges
some time later. Nothing is said about the order of the steps, the iteration orders of the maps or
the clock. A host is on its way (`Busy`), or its dispatch is queued (`Queued`), or the next tick
raises a wave or queues a dispatch (`Deployment.Healthy.tick`), so the work that is left
(`remaining`) goes down until there is none (`rollouts_finish`).

A fleet of which the gates do wait for one another can be accepted and released:
`emptyWave_blocks`.
-/

namespace Nixfleet

/-- The gates of the release do not wait for one another: every host has a closure, no budget is
empty, a wave but the last lists a host, and only hosts of its rollout, the waves leave out no host,
and no host edge leads to a later wave. -/
structure SignedManifestSet.Finishable (m : SignedManifestSet) : Prop where
  closures : ∀ e ∈ m.fleet.hosts.rows, e.2.closureHash.isSome = true
  budgets : ∀ e ∈ m.rollouts.rows, ∀ b ∈ e.2.disruptionBudgets, ∀ max ∈ b.maxInFlight, 0 < max
  waves : ∀ e ∈ m.rollouts.rows, ∀ wave ∈ (m.fleet.channelWaves e.1).dropLast,
    wave.hosts ≠ [] ∧ ∀ host ∈ wave.hosts, host ∈ e.2.hosts
  listed : ∀ e ∈ m.rollouts.rows, m.fleet.channelWaves e.1 ≠ [] →
    ∀ host ∈ e.2.hosts, (waveOf (m.fleet.channelWaves e.1) host).isSome = true
  edges : ∀ e ∈ m.rollouts.rows, ∀ edge ∈ m.fleet.edges, edge.gated ∈ e.2.hosts →
    edge.gates ∈ e.2.hosts → ∀ wave ∈ waveOf (m.fleet.channelWaves e.1) edge.gated,
      ∀ wave' ∈ waveOf (m.fleet.channelWaves e.1) edge.gates, wave' ≤ wave

/-- The host's record of the rollout is `Converged`. -/
def Db.HostConverged (db : Db) (rid : RolloutId) (host : HostId) : Prop :=
  ∃ r ∈ db.loadRecord rid host, r.state = .converged

instance (db : Db) (rid : RolloutId) (host : HostId) : Decidable (db.HostConverged rid host) :=
  inferInstanceAs (Decidable (∃ r ∈ db.loadRecord rid host, r.state = .converged))

/-- Every rollout of the release is `Terminal`, and all its hosts are `Converged`. -/
def Deployment.Finished (m : SignedManifestSet) (s : Deployment) : Prop :=
  ∀ channel manifest, m.rollouts.lookup channel = some manifest →
    s.cp.db.RolloutIs (.new channel manifest.channelRef) .terminal ∧
    ∀ host ∈ manifest.hosts, s.cp.db.HostConverged (.new channel manifest.channelRef) host

/-- No host of the schedule fails, ticks keep coming and so do the polls of every host, and a host
that took a dispatch converges. -/
structure Fair (m : SignedManifestSet) (s : Deployment) (inputs : Nat → DeploymentInput) :
    Prop where
  calm : ∀ n, (inputs n).event.Calm
  ticks : Machine.Recurs inputs fun i => i.event = .planTick
  polls : ∀ host, (m.fleet.hosts.lookup host).isSome = true →
    Machine.Recurs inputs fun i => i.event = .takeDispatch host
  converges : ∀ n host rid, (host, rid) ∈ (deploymentMachine.after s inputs n).taken →
    ∃ k, n ≤ k ∧ (deploymentMachine.after s inputs k).cp.db.HostConverged rid host

/-! ## The queue -/

section Queue

variable {m : SignedManifestSet} {s : Deployment} {i : DeploymentInput} {host : HostId}
  {rid : RolloutId}

theorem isSome_queue_applyPlanAction {ctx : ApplierCtx} {db : Db}
    (h : (db.dispatchQueue.lookup (host, rid)).isSome = true) (a : PlanAction) :
    ((applyPlanAction ctx db a).dispatchQueue.lookup (host, rid)).isSome = true := by
  cases a with
  | openRollout rid' channel targetRef =>
      rw [applyPlanAction, openRollout_dispatchQueue]
      exact h
  | queueDispatch host' rid' closure due =>
      simp only [applyPlanAction, queueDispatch]
      split
      · exact h
      · exact Table.isSome_lookup_insert h
  | deferDispatch => exact h

/-- The planned dispatches are in the queue after the actions of the plan. -/
theorem queued_of_mem_actions {ctx : ApplierCtx} (hstored : ctx.faults = noFaults)
    {actions : List PlanAction} {closure : ClosureHash} {due : Time}
    (h : .queueDispatch host rid closure due ∈ actions) (db : Db) :
    ((actions.foldl (applyPlanAction ctx) db).dispatchQueue.lookup (host, rid)).isSome = true := by
  obtain ⟨before, after, rfl⟩ := List.append_of_mem h
  rw [List.foldl_append, List.foldl_cons]
  refine List.foldlRecOn (motive := fun db : Db =>
    (db.dispatchQueue.lookup (host, rid)).isSome = true) after _ ?_
    fun db hdb a _ => isSome_queue_applyPlanAction hdb a
  simp only [applyPlanAction, queueDispatch, hstored, noFaults, Bool.false_eq_true, if_false]
  rw [appendEventLog_dispatchQueue, Db.upsertDispatch, Table.lookup_insert_eq, if_pos rfl]
  rfl

/-- A queued dispatch stays in the queue until it is taken. -/
theorem deploymentStep_queued (h : (s.cp.db.dispatchQueue.lookup (host, rid)).isSome = true) :
    ((deploymentStep s i).1.cp.db.dispatchQueue.lookup (host, rid)).isSome = true ∨
      (host, rid) ∈ (deploymentStep s i).1.taken := by
  cases hev : i.event with
  | planTick =>
      left
      simp only [deploymentStep, hev, cpStep, DeploymentInput.toCp, DeploymentEvent.toCp]
      refine runPlan_rule (P := fun db => (db.dispatchQueue.lookup (host, rid)).isSome = true) h
        ?_ fun _ _ _ _ db hdb a _ => isSome_queue_applyPlanAction hdb a
      intro m plan _ hplan
      obtain ⟨_, fs, _, _, hdb, _, _⟩ := planOf_eq_some hplan
      rw [hdb, advanceCurrentWaves_dispatchQueue]
      exact h
  | takeDispatch host' =>
      simp only [deploymentStep, hev, cpStep, DeploymentInput.toCp, DeploymentEvent.toCp,
        Db.takeForHost]
      cases hnext : s.cp.db.nextDispatch i.rank host' with
      | none => exact .inl h
      | some q =>
          by_cases hkey : (host, rid) = (q.hostname, q.rolloutId)
          · right
            rw [hkey]
            exact List.mem_append_right _ (List.mem_singleton.mpr rfl)
          · left
            dsimp only
            rw [AList.lookup_erase_ne hkey]
            exact h
  | hostEvent host' rid' event =>
      left
      simp only [deploymentStep, hev]
      split
      · simp only [cpStep, DeploymentInput.toCp, hev, DeploymentEvent.toCp,
          handleHostEvent_dispatchQueue]
        exact h
      · exact h

/-- A poll takes the dispatch that is queued for the host, if there is only one. -/
theorem deploymentStep_takes (hok : s.Ok m) (hi : i.event = .takeDispatch host)
    (h : (s.cp.db.dispatchQueue.lookup (host, rid)).isSome = true)
    (hunique : ∀ rid', (s.cp.db.dispatchQueue.lookup (host, rid')).isSome = true → rid' = rid) :
    (host, rid) ∈ (deploymentStep s i).1.taken := by
  simp only [deploymentStep, hi, Db.takeForHost]
  cases hnext : s.cp.db.nextDispatch i.rank host with
  | none =>
      -- there is a row to take
      exfalso
      obtain ⟨q, hq⟩ := Option.isSome_iff_exists.mp h
      unfold Db.nextDispatch at hnext
      have hlength := congrArg List.length (List.head?_eq_none_iff.mp hnext)
      rw [List.length_insertionSort, List.length_nil] at hlength
      have hmem : q ∈ (s.cp.db.dispatchQueue.rows.filter fun r => r.1.1 = host).map Prod.snd :=
        List.mem_map.mpr ⟨((host, rid), q), List.mem_filter.mpr
          ⟨Table.mem_rows.mpr hq, decide_eq_true rfl⟩, rfl⟩
      rw [List.length_eq_zero_iff.mp hlength] at hmem
      cases hmem
  | some q =>
      obtain ⟨rid', hlook⟩ := lookup_of_nextDispatch hnext
      have hrid : rid' = rid := hunique rid' (by rw [hlook]; rfl)
      obtain ⟨hhost', hrid'⟩ := hok.queue _ _ _ hlook
      refine List.mem_append_right _ (List.mem_singleton.mpr ?_)
      show (host, rid) = (q.hostname, q.rolloutId)
      rw [hhost', hrid', hrid]

end Queue

/-! ## An idle state -/

/-- Every host that took a dispatch has converged. -/
def Deployment.Idle (s : Deployment) : Prop :=
  ∀ host rid, (host, rid) ∈ s.taken → s.cp.db.HostConverged rid host

section Idle

variable {cfg : FleetConfig} {m : SignedManifestSet} {s : Deployment} {channel : ChannelId}
  {manifest : RolloutManifest}

/-- The records of a rollout are of hosts of its manifest. -/
theorem Deployment.Healthy.mem_hosts (h : s.Healthy m) (hrel : ReleasedFrom cfg m)
    (hm : m.rollouts.lookup channel = some manifest) {host : HostId} {r : HostRolloutState}
    (hr : s.cp.db.loadRecord (.new channel manifest.channelRef) host = some r) :
    host ∈ manifest.hosts := by
  obtain ⟨channel', manifest', hm', hid, hhost⟩ := (h.healthy _ host r hr).declared
  have hch : channel' = channel := hrel.channel_eq hm' hm hid.symm
  rw [hch, hm] at hm'
  cases hm'
  exact hhost

/-- A host has records of one rollout only: its channel's. -/
theorem Deployment.Healthy.rolloutId_eq (h : s.Healthy m) (hrel : ReleasedFrom cfg m)
    (hfin : m.Finishable) {host : HostId} {rid rid' : RolloutId}
    (hr : HasRecord rid host s.cp.db) (hr' : HasRecord rid' host s.cp.db) : rid' = rid := by
  obtain ⟨r, hr⟩ := Option.isSome_iff_exists.mp hr
  obtain ⟨r', hr'⟩ := Option.isSome_iff_exists.mp hr'
  obtain ⟨channel, manifest, hm, hid, hhost⟩ := (h.healthy _ host r hr).declared
  obtain ⟨channel', manifest', hm', hid', hhost'⟩ := (h.healthy _ host r' hr').declared
  obtain ⟨def', hlook, hch⟩ := (Nixfleet.mem_hosts hrel hfin.closures hm).mp hhost
  obtain ⟨def'', hlook', hch'⟩ := (Nixfleet.mem_hosts hrel hfin.closures hm').mp hhost'
  rw [hlook] at hlook'
  cases hlook'
  subst hch
  subst hch'
  rw [hm] at hm'
  cases hm'
  rw [hid, hid']

/-- Before its dispatch is taken a host is `Pending`, and in an idle state it has converged
after. -/
theorem Deployment.Healthy.settled (h : s.Healthy m) (hidle : s.Idle) {rid : RolloutId}
    {host : HostId} {r : HostRolloutState} (hr : s.cp.db.loadRecord rid host = some r) :
    r.state = .pending ∨ r.state = .converged := by
  rcases (h.healthy rid host r hr).taken with hpending | htaken
  · exact .inl hpending
  · obtain ⟨r', hr', hconverged⟩ := hidle host rid htaken
    rw [Option.mem_def, hr] at hr'
    cases hr'
    exact .inr hconverged

/-- A rollout none of whose hosts is `Pending` has ended. -/
theorem Deployment.Healthy.ended_of_no_pending (h : s.Healthy m) (hrel : ReleasedFrom cfg m)
    (hidle : s.Idle) (hm : m.rollouts.lookup channel = some manifest)
    (hnone : ∀ host ∈ manifest.hosts,
      ¬ s.cp.PendingHost (.new channel manifest.channelRef) host) :
    s.cp.db.RolloutIs (.new channel manifest.channelRef) .terminal ∧
    ∀ host ∈ manifest.hosts, s.cp.db.HostConverged (.new channel manifest.channelRef) host := by
  have hrollout := h.rollouts channel manifest hm
  have hconverged : ∀ host ∈ manifest.hosts, ∀ r,
      s.cp.db.loadRecord (.new channel manifest.channelRef) host = some r →
        r.state = .converged := by
    intro host hhost r hr
    exact (h.settled hidle hr).resolve_left fun hp => hnone host hhost ⟨r, hr, hp⟩
  refine ⟨hrollout.finished fun host r hr => ?_, fun host hhost => ?_⟩
  · exact hconverged host (h.mem_hosts hrel hm hr) r hr
  · obtain ⟨r, hr⟩ := Option.isSome_iff_exists.mp (hrollout.recorded host hhost)
    exact ⟨r, hr, hconverged host hhost r hr⟩

/-- Following the gating channels of a rollout that waits for a dispatch ends at one whose gating
channels have finished. -/
theorem Deployment.Healthy.exists_first (h : s.Healthy m) (hrel : ReleasedFrom cfg m)
    (hidle : s.Idle)
    (hground : Grounded (m.fleet.channelEdges.map fun e => (e.gated, e.gates)) channel)
    (hm : m.rollouts.lookup channel = some manifest)
    (hpending : ∃ host ∈ manifest.hosts,
      s.cp.PendingHost (.new channel manifest.channelRef) host) :
    ∃ first manifest', m.rollouts.lookup first = some manifest' ∧
      (∃ host ∈ manifest'.hosts, s.cp.PendingHost (.new first manifest'.channelRef) host) ∧
      ∀ e ∈ m.fleet.channelEdges, e.gated = first →
        ∀ before ∈ m.rollouts.lookup e.gates,
          s.cp.db.RolloutIs (.new e.gates before.channelRef) .terminal := by
  induction hground generalizing manifest with
  | intro channel _ ih =>
      by_cases hgate : ∃ e ∈ m.fleet.channelEdges, e.gated = channel ∧
          ∃ before ∈ m.rollouts.lookup e.gates, ∃ host ∈ before.hosts,
            s.cp.PendingHost (.new e.gates before.channelRef) host
      · obtain ⟨e, he, rfl, before, hbefore, hhost⟩ := hgate
        have hedge : (e.gated, e.gates) ∈
            m.fleet.channelEdges.map fun e => (e.gated, e.gates) := List.mem_map_of_mem he
        exact ih e.gates hedge hbefore hhost
      · refine ⟨channel, manifest, hm, hpending, fun e he hgated before hbefore => ?_⟩
        refine (h.ended_of_no_pending hrel hidle hbefore fun host hhost hp => ?_).1
        exact hgate ⟨e, he, hgated, before, hbefore, host, hhost, hp⟩

/-- The first of these rollouts waits for dispatches only. -/
theorem Deployment.Healthy.waiting (h : s.Healthy m) (hidle : s.Idle)
    (hm : m.rollouts.lookup channel = some manifest)
    (hpending : ∃ host ∈ manifest.hosts,
      s.cp.PendingHost (.new channel manifest.channelRef) host)
    (hbefore : ∀ e ∈ m.fleet.channelEdges, e.gated = channel →
      ∀ before ∈ m.rollouts.lookup e.gates,
        s.cp.db.RolloutIs (.new e.gates before.channelRef) .terminal) :
    Waiting s.cp m channel manifest (.new channel manifest.channelRef) where
  cached := h.manifests
  named := hm
  id := rfl
  opened := by
    obtain ⟨row, hrow, hgoing⟩ := (h.rollouts channel manifest hm).going
    refine ⟨row, hrow, ?_⟩
    cases hs : row.state with
    | active | converging => rfl
    | terminal =>
        -- a finished rollout has no host that is `Pending`
        obtain ⟨host, -, r, hr, hstate⟩ := hpending
        have hended : Ended (.new channel manifest.channelRef) s.cp.db.rollouts :=
          ended_of_terminal h.rows hrow hs
        have hconverged := h.ends _ hended host r hr
        rw [hstate] at hconverged
        cases hconverged
    | _ => simp [hs, RolloutState.isGoing] at hgoing
  pending := hpending
  settled := by
    intro host hhost
    obtain ⟨r, hr⟩ := Option.isSome_iff_exists.mp ((h.rollouts channel manifest hm).recorded
      host hhost)
    refine ⟨r, hr, (h.settled hidle hr).imp_right fun hconverged => ?_⟩
    rw [hconverged]
    rfl
  noFailures := by
    rw [h.noFailures]
    exact fun p hp => (by cases hp)
  predecessors := hbefore

/-- Its waves and host edges do not wait for one another. -/
theorem SignedManifestSet.Finishable.orderly (hfin : m.Finishable) (cp : Cp)
    (hm : m.rollouts.lookup channel = some manifest) :
    Orderly cp m channel manifest (.new channel manifest.channelRef) where
  currentWave := by
    intro row _ hlt wave hwave
    refine hfin.waves (channel, manifest) (Table.mem_rows.mpr hm) wave ?_
    have hlook : (m.fleet.channelWaves channel).dropLast[row.currentWave]? = some wave := by
      rw [List.getElem?_dropLast, if_pos (by omega)]
      exact hwave
    exact List.mem_of_getElem? hlook
  listed := hfin.listed (channel, manifest) (Table.mem_rows.mpr hm)
  edges := hfin.edges (channel, manifest) (Table.mem_rows.mpr hm)

/-- No host is in flight, so every budget has room. -/
theorem Deployment.Healthy.budgetsHaveRoom (h : s.Healthy m) (hfin : m.Finishable)
    (hidle : s.Idle) (hm : m.rollouts.lookup channel = some manifest) (i : DeploymentInput)
    (rid : RolloutId) : BudgetsHaveRoom s.cp i.toCp manifest rid := by
  intro plan hplan b hb _ max hmax
  have hzero : inFlightCount plan.fleetState b.selector = 0 := by
    obtain ⟨m', fs, -, hfs, -, hseen, -⟩ := planOf_eq_some (planOf_of_plan hplan)
    unfold inFlightCount
    refine List.sum_eq_zero fun n hn => ?_
    obtain ⟨r, -, rfl⟩ := List.mem_map.mp hn
    split
    · rfl
    · rw [List.length_eq_zero_iff]
      refine List.filter_eq_nil_iff.mpr fun e he hin => ?_
      obtain ⟨-, -, hflight⟩ := of_decide_eq_true hin
      -- the planner sees the record, which is `Pending` or `Converged`
      have hlook : plan.fleetState.hostStates.lookup (e.1.1, e.1.2) = some e.2 :=
        Table.mem_rows.mp he
      rw [hseen, advanceCurrentWaves_hostStates] at hlook
      have hload := ((buildFleetState_hostState hfs h.records).mp hlook).2
      rcases h.settled hidle hload with hs | hs <;> rw [hs] at hflight <;> cases hflight
  rw [hzero]
  exact hfin.budgets (channel, manifest) (Table.mem_rows.mpr hm) b hb max hmax

theorem nextWave_lt_length {fs : FleetState} {rid : RolloutId} {summary : RolloutSummary}
    {wave : Nat} (h : nextWave m.fleet fs rid summary = some wave) :
    summary.currentWave + 1 < (m.fleet.channelWaves summary.channel).length := by
  unfold nextWave at h
  unfold FleetResolved.channelWaves
  split at h
  · cases h
  · split at h
    · cases h
    · rename_i waves hwaves
      split at h
      · cases h
      · rename_i hlt
        rw [hwaves, Option.getD_some]
        omega

/-- The tick has raised the wave of a rollout of the release. -/
def WaveRaised (m : SignedManifestSet) (s s' : Deployment) : Prop :=
  ∃ channel manifest row row', m.rollouts.lookup channel = some manifest ∧
    s.cp.db.rollouts.lookup (.new channel manifest.channelRef) = some row ∧
    s'.cp.db.rollouts.lookup (.new channel manifest.channelRef) = some row' ∧
    row.currentWave < row'.currentWave ∧
    row.currentWave < (m.fleet.channelWaves channel).length

/-- A dispatch is queued for a host that has not converged. -/
def Deployment.QueuedHost (s : Deployment) (host : HostId) (rid : RolloutId) : Prop :=
  (s.cp.db.dispatchQueue.lookup (host, rid)).isSome = true ∧ ¬ s.cp.db.HostConverged rid host

/-- **One tick.** In an idle state in which a rollout has not finished, the tick raises a wave or
queues a dispatch. -/
theorem Deployment.Healthy.tick (h : s.Healthy m) (hrel : ReleasedFrom cfg m)
    (hfin : m.Finishable) (hidle : s.Idle) (hunfinished : ¬ s.Finished m) {i : DeploymentInput}
    (hi : i.event = .planTick) :
    WaveRaised m s (deploymentStep s i).1 ∨
      ∃ host rid, (deploymentStep s i).1.QueuedHost host rid := by
  -- a rollout with a `Pending` host, all of whose gating channels have finished
  obtain ⟨start, manifest₀, hm₀, hpending₀⟩ : ∃ channel manifest,
      m.rollouts.lookup channel = some manifest ∧ ∃ host ∈ manifest.hosts,
        s.cp.PendingHost (.new channel manifest.channelRef) host := by
    by_contra hnone
    refine hunfinished fun channel manifest hm => ?_
    refine h.ended_of_no_pending hrel hidle hm fun host hhost hp => ?_
    exact hnone ⟨channel, manifest, hm, host, hhost, hp⟩
  obtain ⟨channel, manifest, hm, hpending, hbefore⟩ :=
    h.exists_first hrel hidle (hrel.channelGrounded start) hm₀ hpending₀
  have hwait := h.waiting hidle hm hpending hbefore
  have hord := hfin.orderly s.cp hm
  have hstep : (deploymentStep s i).1.cp = (cpStep s.cp i.toCp).1 := by
    simp only [deploymentStep, hi]
  have hunacked : s.cp.db.RecordsAll HostRolloutState.Unacked :=
    fun rid host r hr => ⟨h.records rid host r hr, (h.healthy rid host r hr).unacked⟩
  obtain ⟨plan, fs, htick⟩ := exists_tickPlan (i := i.toCp)
    (by rw [DeploymentInput.toCp, hi]; rfl) rfl h.manifests
  obtain ⟨row, hrow, hopen⟩ := hwait.opened
  have hterminal : row.terminalAt = none := ((h.rows _ row hrow).times hopen).1
  have hn : m.Names (.new channel manifest.channelRef) := ⟨channel, manifest, hm, rfl⟩
  obtain ⟨hs₀, wave, hle, hs⟩ := htick.summary_of_named hrel hm rfl hrow
  cases hnext : nextWave m.fleet fs (.new channel manifest.channelRef)
      (summaryOf channel manifest row) with
  | some next =>
      left
      have hlt : row.currentWave + 1 < (m.fleet.channelWaves channel).length :=
        nextWave_lt_length hnext
      obtain ⟨row₁, hrow₁, row', hrow', hraised⟩ := htick.raisesWave h.rows hrow hs₀ rfl hnext
      rw [Option.mem_def, hrow] at hrow₁
      cases hrow₁
      exact ⟨channel, manifest, row, row', hm, hrow, by rw [hstep]; exact hrow', hraised,
        by omega⟩
  | none =>
      right
      obtain ⟨reached, hreached, hreachedPending, hreachedWave⟩ := exists_reached hwait hord hrow
        hterminal (fun host r hr => (htick.hostState h.records hn hr).1) hnext
      obtain ⟨host, hhost, ⟨r, hr, hstate⟩, hwave, hready⟩ := exists_ready hwait hord
        (hrel.grounded reached) hreached hreachedPending hreachedWave
      -- the ready host is a candidate, and no gate holds it back
      have hc : (⟨.new channel manifest.channelRef,
          { summaryOf channel manifest row with currentWave := wave }, host, r⟩ : Candidate) ∈
          candidates i.toCp.order plan.fleetState :=
        mem_candidates.mpr ⟨hs, hterminal, (htick.hostState h.records hn hr).2,
          awaitsDispatch_of_pending hunacked hr hstate⟩
      obtain ⟨fs', host', rid', closure, due, hout, ⟨r', hr', hstate'⟩, -⟩ :=
        htick.dispatches h.records hc (htick.evaluate_eq_none hrel hfin.closures h.records h.rows
          h.quarantines hwait (h.budgetsHaveRoom hfin hidle hm i _) hle hs hhost
          ⟨r, hr, hstate⟩ hwave hready _)
      refine ⟨host', rid', ?_, ?_⟩
      · obtain ⟨plan', hplan', -, ha⟩ := exists_plan_of_planned_mem hout
        rw [htick.planned] at hplan'
        cases hplan'
        rw [hstep, htick.final]
        exact queued_of_mem_actions rfl ha _
      · -- the tick leaves its record alone
        rintro ⟨r'', hr'', hconverged⟩
        rcases deploymentStep_record h hr'' with hold | ⟨event, _, _, _, hev, -⟩
        · rw [hr'] at hold
          cases hold
          rw [hstate'] at hconverged
          cases hconverged
        · rw [hi] at hev
          cases hev

end Idle

/-! ## The work that is left -/

/-- What is to be done: a host converges, or the cursor of a rollout passes the waves of its
channel. -/
inductive Task where
  | converge (rid : RolloutId) (host : HostId)
  | waves (rid : RolloutId) (channel : ChannelId)

/-- The tasks of a release. -/
def SignedManifestSet.tasks (m : SignedManifestSet) : List Task :=
  m.rollouts.rows.flatMap fun e =>
    .waves (.new e.1 e.2.channelRef) e.1 ::
      e.2.hosts.map fun host => .converge (.new e.1 e.2.channelRef) host

/-- What is left of a task. -/
def Deployment.cost (m : SignedManifestSet) (s : Deployment) : Task → Nat
  | .converge rid host => if s.cp.db.HostConverged rid host then 0 else 1
  | .waves rid channel => (m.fleet.channelWaves channel).length -
      ((s.cp.db.rollouts.lookup rid).map (·.currentWave)).getD 0

/-- What is left of all tasks. -/
def Deployment.remaining (m : SignedManifestSet) (s : Deployment) : Nat :=
  (m.tasks.map (s.cost m)).sum

section Work

variable {m : SignedManifestSet} {s s' : Deployment} {i : DeploymentInput}

theorem cost_of_converged {rid : RolloutId} {host : HostId}
    (h : s.cp.db.HostConverged rid host) : s.cost m (.converge rid host) = 0 := if_pos h

theorem cost_of_not_converged {rid : RolloutId} {host : HostId}
    (h : ¬ s.cp.db.HostConverged rid host) : s.cost m (.converge rid host) = 1 := if_neg h

theorem cost_waves {rid : RolloutId} {row : RolloutRow}
    (hrow : s.cp.db.rollouts.lookup rid = some row) (channel : ChannelId) :
    s.cost m (.waves rid channel) =
      (m.fleet.channelWaves channel).length - row.currentWave := by
  simp only [Deployment.cost, hrow, Option.map_some, Option.getD_some]

theorem waves_mem_tasks {channel : ChannelId} {manifest : RolloutManifest}
    (hm : m.rollouts.lookup channel = some manifest) :
    .waves (.new channel manifest.channelRef) channel ∈ m.tasks :=
  List.mem_flatMap.mpr ⟨(channel, manifest), Table.mem_rows.mpr hm, List.mem_cons_self⟩

theorem converge_mem_tasks {channel : ChannelId} {manifest : RolloutManifest}
    (hm : m.rollouts.lookup channel = some manifest) {host : HostId}
    (hhost : host ∈ manifest.hosts) :
    .converge (.new channel manifest.channelRef) host ∈ m.tasks :=
  List.mem_flatMap.mpr ⟨(channel, manifest), Table.mem_rows.mpr hm,
    List.mem_cons_of_mem _ (List.mem_map_of_mem hhost)⟩

/-- A host that has converged stays so. -/
theorem Deployment.Healthy.converged_step (h : s.Healthy m) {rid : RolloutId} {host : HostId}
    (hc : s.cp.db.HostConverged rid host) :
    (deploymentStep s i).1.cp.db.HostConverged rid host := by
  obtain ⟨r, hr, hconverged⟩ := hc
  obtain ⟨r', hr'⟩ := Option.isSome_iff_exists.mp
    (deploymentStep_hasRecord (i := i) (Option.isSome_iff_exists.mpr ⟨r, hr⟩))
  rcases deploymentStep_record h hr' with hold | ⟨event, manifests, prior, effects, -, -, hacc⟩
  · rw [Option.mem_def, hold] at hr
    cases hr
    exact ⟨r, hr', hconverged⟩
  · -- no event moves its record
    have hloaded := hacc.loaded
    rw [Option.mem_def.mp hr] at hloaded
    cases hloaded
    exact absurd hconverged (not_accepted_of_converged hacc)

/-- **No step adds work.** -/
theorem Deployment.Healthy.cost_step (h : s.Healthy m) (task : Task) :
    (deploymentStep s i).1.cost m task ≤ s.cost m task := by
  cases task with
  | converge rid host =>
      by_cases hafter : (deploymentStep s i).1.cp.db.HostConverged rid host
      · rw [cost_of_converged hafter]
        exact Nat.zero_le _
      · have hbefore : ¬ s.cp.db.HostConverged rid host := fun hc => hafter (h.converged_step hc)
        rw [cost_of_not_converged hafter, cost_of_not_converged hbefore]
  | waves rid channel =>
      cases hrow : s.cp.db.rollouts.lookup rid with
      | none =>
          have hall : s.cost m (.waves rid channel) = (m.fleet.channelWaves channel).length := by
            simp only [Deployment.cost, hrow, Option.map_none, Option.getD_none, Nat.sub_zero]
          rw [hall]
          exact Nat.sub_le _ _
      | some row =>
          obtain ⟨new, -, hrows⟩ := deploymentStep_evolve h.toOk i
          obtain ⟨row', hrow', hle, -⟩ := hrows rid row hrow
          rw [cost_waves hrow, cost_waves hrow']
          omega

theorem remaining_le (h : ∀ task, s'.cost m task ≤ s.cost m task) :
    s'.remaining m ≤ s.remaining m := List.sum_le_sum fun task _ => h task

/-- A host that converges is work done. -/
theorem remaining_lt_of_converged (h : ∀ task, s'.cost m task ≤ s.cost m task)
    {channel : ChannelId} {manifest : RolloutManifest}
    (hm : m.rollouts.lookup channel = some manifest) {host : HostId}
    (hhost : host ∈ manifest.hosts)
    (hbefore : ¬ s.cp.db.HostConverged (.new channel manifest.channelRef) host)
    (hafter : s'.cp.db.HostConverged (.new channel manifest.channelRef) host) :
    s'.remaining m < s.remaining m := by
  refine List.sum_lt_sum _ _ (fun task _ => h task) ⟨_, converge_mem_tasks hm hhost, ?_⟩
  rw [cost_of_converged hafter, cost_of_not_converged hbefore]
  omega

/-- A wave that is raised is work done. -/
theorem remaining_lt_of_waveRaised (h : ∀ task, s'.cost m task ≤ s.cost m task)
    (hraised : WaveRaised m s s') : s'.remaining m < s.remaining m := by
  obtain ⟨channel, manifest, row, row', hm, hrow, hrow', hlt, hlen⟩ := hraised
  refine List.sum_lt_sum _ _ (fun task _ => h task) ⟨_, waves_mem_tasks hm, ?_⟩
  rw [cost_waves hrow, cost_waves hrow']
  omega

end Work

/-! ## Fair schedules -/

/-- A host that took a dispatch has not converged. -/
def Deployment.Busy (s : Deployment) : Prop :=
  ∃ host rid, (host, rid) ∈ s.taken ∧ ¬ s.cp.db.HostConverged rid host

section Fair

variable {cfg : FleetConfig} {m : SignedManifestSet} {s : Deployment}
  {inputs : Nat → DeploymentInput} {bound : Nat}

theorem after_healthy (hcalm : ∀ n, (inputs n).event.Calm) (hs : s.Healthy m) (n : Nat) :
    (deploymentMachine.after s inputs n).Healthy m := by
  refine Machine.after_invariant (P := Deployment.Healthy m) (fun n h => ?_) hs n
  exact deploymentStep_healthy h (hcalm n)

theorem Fair.healthy (hfair : Fair m s inputs) (hs : s.Healthy m) (n : Nat) :
    (deploymentMachine.after s inputs n).Healthy m := after_healthy hfair.calm hs n

/-- What is left of a task never grows. -/
theorem Fair.cost_le (hfair : Fair m s inputs) (hs : s.Healthy m) {n k : Nat} (hle : n ≤ k)
    (task : Task) : (deploymentMachine.after s inputs k).cost m task ≤
      (deploymentMachine.after s inputs n).cost m task := by
  induction hle with
  | refl => exact le_rfl
  | step _ ih => exact ((hfair.healthy hs _).cost_step task).trans ih

theorem Fair.remaining_le (hfair : Fair m s inputs) (hs : s.Healthy m) (n : Nat) :
    (deploymentMachine.after s inputs (n + 1)).remaining m ≤
      (deploymentMachine.after s inputs n).remaining m :=
  Nixfleet.remaining_le fun task => hfair.cost_le hs (Nat.le_succ n) task

/-- A host that converges between two moments is work done. -/
theorem Fair.remaining_lt (hfair : Fair m s inputs) (hs : s.Healthy m) {n k : Nat} (hle : n ≤ k)
    {rid : RolloutId} {host : HostId}
    (hrecord : HasRecord rid host (deploymentMachine.after s inputs n).cp.db)
    (hbefore : ¬ (deploymentMachine.after s inputs n).cp.db.HostConverged rid host)
    (hafter : (deploymentMachine.after s inputs k).cp.db.HostConverged rid host) :
    (deploymentMachine.after s inputs k).remaining m <
      (deploymentMachine.after s inputs n).remaining m := by
  obtain ⟨r, hr⟩ := Option.isSome_iff_exists.mp hrecord
  obtain ⟨channel, manifest, hm, rfl, hhost⟩ := ((hfair.healthy hs n).healthy _ _ _ hr).declared
  exact remaining_lt_of_converged (fun task => hfair.cost_le hs hle task) hm hhost hbefore hafter

/-- A host on its way arrives. -/
theorem Fair.busy_leadsTo (hfair : Fair m s inputs) (hs : s.Healthy m) :
    deploymentMachine.LeadsTo s inputs (fun a => a.Busy ∧ a.remaining m = bound)
      fun a => a.remaining m < bound := by
  rintro n ⟨⟨host, rid, htaken, hbefore⟩, rfl⟩
  obtain ⟨k, hnk, hafter⟩ := hfair.converges n host rid htaken
  have hrecord := (hfair.healthy hs n).outstanding host rid (.inr htaken)
  exact ⟨k, hnk, hfair.remaining_lt hs hnk hrecord hbefore hafter⟩

/-- A queued dispatch is taken. -/
theorem Fair.queued_leadsTo (hfair : Fair m s inputs) (hs : s.Healthy m)
    (hrel : ReleasedFrom cfg m) (hfin : m.Finishable) (host : HostId) (rid : RolloutId) :
    deploymentMachine.LeadsTo s inputs (fun a => a.QueuedHost host rid ∧ a.remaining m = bound)
      fun a => a.remaining m < bound ∨ (a.Busy ∧ a.remaining m = bound) := by
  -- a host with a dispatch is one of the fleet, so it polls
  by_cases hnever : ∃ n, (deploymentMachine.after s inputs n).QueuedHost host rid
  · obtain ⟨n₀, hqueued₀, -⟩ := hnever
    have hrecord₀ := (hfair.healthy hs n₀).outstanding host rid (.inl hqueued₀)
    have hknown : (m.fleet.hosts.lookup host).isSome = true := by
      obtain ⟨r, hr⟩ := Option.isSome_iff_exists.mp hrecord₀
      obtain ⟨channel, manifest, hm, -, hhost⟩ := ((hfair.healthy hs n₀).healthy _ _ _ hr).declared
      obtain ⟨hostDef, hlook, -⟩ := (mem_hosts hrel hfin.closures hm).mp hhost
      rw [hlook]
      rfl
    -- at the next state there is less to do, or the host has still not converged
    have hnext : ∀ n, (deploymentMachine.after s inputs n).QueuedHost host rid ∧
        (deploymentMachine.after s inputs n).remaining m = bound →
        (deploymentMachine.after s inputs (n + 1)).remaining m < bound ∨
        ((deploymentMachine.after s inputs (n + 1)).remaining m = bound ∧
          ¬ (deploymentMachine.after s inputs (n + 1)).cp.db.HostConverged rid host) := by
      rintro n ⟨⟨hqueued, hbefore⟩, rfl⟩
      have hle := hfair.remaining_le hs n
      by_cases hafter : (deploymentMachine.after s inputs (n + 1)).cp.db.HostConverged rid host
      · left
        exact hfair.remaining_lt hs (Nat.le_succ n)
          ((hfair.healthy hs n).outstanding host rid (.inl hqueued)) hbefore hafter
      · rcases Nat.lt_or_eq_of_le hle with hlt | heq
        · exact .inl hlt
        · exact .inr ⟨heq, hafter⟩
    refine Machine.leadsTo_of_wait (hfair.polls host hknown) ?_ ?_
    · intro n hP
      rcases hnext n hP with hlt | ⟨heq, hafter⟩
      · exact .inr (.inl hlt)
      · rcases deploymentStep_queued (i := inputs n) hP.1.1 with hqueued | htaken
        · exact .inl ⟨⟨hqueued, hafter⟩, heq⟩
        · exact .inr (.inr ⟨⟨host, rid, htaken, hafter⟩, heq⟩)
    · intro n hP hpoll
      have hhealthy := hfair.healthy hs n
      rcases hnext n hP with hlt | ⟨heq, hafter⟩
      · exact .inl hlt
      · refine .inr ⟨⟨host, rid, ?_, hafter⟩, heq⟩
        refine deploymentStep_takes hhealthy.toOk hpoll hP.1.1 fun rid' hqueued' => ?_
        exact hhealthy.rolloutId_eq hrel hfin (hhealthy.outstanding host rid (.inl hP.1.1))
          (hhealthy.outstanding host rid' (.inl hqueued'))
  · exact fun n hP => absurd ⟨n, hP.1⟩ hnever

/-- In an idle state the next tick makes progress. -/
theorem Fair.idle_leadsTo (hfair : Fair m s inputs) (hs : s.Healthy m)
    (hrel : ReleasedFrom cfg m) (hfin : m.Finishable) :
    deploymentMachine.LeadsTo s inputs
      (fun a => (a.Idle ∧ ¬ a.Finished m) ∧ a.remaining m = bound)
      fun a => (a.Finished m ∨ a.remaining m < bound) ∨
        ((a.Busy ∨ ∃ host rid, a.QueuedHost host rid) ∧ a.remaining m = bound) := by
  refine Machine.leadsTo_of_wait hfair.ticks ?_ ?_
  · rintro n ⟨-, rfl⟩
    rcases Nat.lt_or_eq_of_le (hfair.remaining_le hs n) with hlt | heq
    · exact .inr (.inl (.inr hlt))
    · by_cases hfinished : (deploymentMachine.after s inputs (n + 1)).Finished m
      · exact .inr (.inl (.inl hfinished))
      · by_cases hbusy : (deploymentMachine.after s inputs (n + 1)).Busy
        · exact .inr (.inr ⟨.inl hbusy, heq⟩)
        · refine .inl ⟨⟨fun host rid htaken => ?_, hfinished⟩, heq⟩
          by_contra hnot
          exact hbusy ⟨host, rid, htaken, hnot⟩
  · rintro n ⟨⟨hidle, hunfinished⟩, rfl⟩ htick
    rcases (hfair.healthy hs n).tick hrel hfin hidle hunfinished htick with hraised | hqueued
    · left
      right
      exact remaining_lt_of_waveRaised
        (fun task => hfair.cost_le hs (Nat.le_succ n) task) hraised
    · rcases Nat.lt_or_eq_of_le (hfair.remaining_le hs n) with hlt | heq
      · exact .inl (.inr hlt)
      · exact .inr ⟨.inr hqueued, heq⟩

/-- **There is less to do some time later**, as long as a rollout has not finished. -/
theorem Fair.unfinished_leadsTo (hfair : Fair m s inputs) (hs : s.Healthy m)
    (hrel : ReleasedFrom cfg m) (hfin : m.Finishable) (bound : Nat) :
    deploymentMachine.LeadsTo s inputs (fun a => ¬ a.Finished m ∧ a.remaining m = bound)
      fun a => a.Finished m ∨ (¬ a.Finished m ∧ a.remaining m < bound) := by
  have done : deploymentMachine.LeadsTo s inputs
      (fun a => a.Finished m ∨ a.remaining m < bound)
      fun a => a.Finished m ∨ (¬ a.Finished m ∧ a.remaining m < bound) := by
    refine Machine.LeadsTo.of_imp fun n hlt => ?_
    by_cases hfinished : (deploymentMachine.after s inputs n).Finished m
    · exact .inl hfinished
    · exact .inr ⟨hfinished, hlt.resolve_left hfinished⟩
  have busy : deploymentMachine.LeadsTo s inputs (fun a => a.Busy ∧ a.remaining m = bound)
      fun a => a.Finished m ∨ (¬ a.Finished m ∧ a.remaining m < bound) := by
    refine Machine.LeadsTo.trans (hfair.busy_leadsTo hs) (Machine.LeadsTo.trans ?_ done)
    exact Machine.LeadsTo.of_imp fun n hlt => .inr hlt
  have queued : ∀ host rid, deploymentMachine.LeadsTo s inputs
      (fun a => a.QueuedHost host rid ∧ a.remaining m = bound)
      fun a => a.Finished m ∨ (¬ a.Finished m ∧ a.remaining m < bound) := by
    intro host rid
    refine Machine.LeadsTo.trans (hfair.queued_leadsTo hs hrel hfin host rid) ?_
    refine Machine.LeadsTo.or (Machine.LeadsTo.trans ?_ done) busy
    exact Machine.LeadsTo.of_imp fun n hlt => .inr hlt
  -- on its way, or idle until the next tick
  rintro n ⟨hunfinished, hbound⟩
  by_cases hbusy : (deploymentMachine.after s inputs n).Busy
  · exact busy n ⟨hbusy, hbound⟩
  · have hidle : (deploymentMachine.after s inputs n).Idle := by
      intro host rid htaken
      by_contra hnot
      exact hbusy ⟨host, rid, htaken, hnot⟩
    refine Machine.LeadsTo.trans (hfair.idle_leadsTo hs hrel hfin) (Machine.LeadsTo.or done ?_) n
      ⟨⟨hidle, hunfinished⟩, hbound⟩
    rintro k ⟨hbusy | ⟨host, rid, hqueued⟩, hbound⟩
    · exact busy k ⟨hbusy, hbound⟩
    · exact queued host rid k ⟨hqueued, hbound⟩

/-- A finished release stays finished. -/
theorem Fair.finished_succ (hfair : Fair m s inputs) (hs : s.Healthy m)
    (hrel : ReleasedFrom cfg m) (n : Nat)
    (h : (deploymentMachine.after s inputs n).Finished m) :
    (deploymentMachine.after s inputs (n + 1)).Finished m := by
  intro channel manifest hm
  have hconverged : ∀ host ∈ manifest.hosts, (deploymentMachine.after s inputs
      (n + 1)).cp.db.HostConverged (.new channel manifest.channelRef) host := fun host hhost =>
    (hfair.healthy hs n).converged_step ((h channel manifest hm).2 host hhost)
  refine ⟨((hfair.healthy hs (n + 1)).rollouts channel manifest hm).finished ?_, hconverged⟩
  intro host r hr
  obtain ⟨r', hr', hstate⟩ := hconverged host ((hfair.healthy hs (n + 1)).mem_hosts hrel hm hr)
  rw [Option.mem_def, hr] at hr'
  cases hr'
  exact hstate

end Fair

/-- **Every rollout of a release finishes.** On every fair schedule that starts from the release of
an accepted fleet whose gates do not wait for one another, there is a moment from which on all
rollouts are `Terminal` and all their hosts `Converged`. -/
theorem rollouts_finish {cfg : FleetConfig} {m : SignedManifestSet} (hrel : ReleasedFrom cfg m)
    (hfin : m.Finishable) (now : Time) (inputs : Nat → DeploymentInput)
    (hfair : Fair m (.start m now) inputs) :
    ∃ n, ∀ k, n ≤ k → (deploymentMachine.after (.start m now) inputs k).Finished m := by
  have hs : (Deployment.start m now).Healthy m := start_healthy hrel now
  obtain ⟨n, -, hn⟩ : ∃ n, 0 ≤ n ∧
      (deploymentMachine.after (.start m now) inputs n).Finished m := by
    by_cases hstart : (Deployment.start m now).Finished m
    · exact ⟨0, Nat.le_refl 0, hstart⟩
    · exact Machine.leadsTo_of_descent (P := fun a => ¬ a.Finished m) (·.remaining m)
        (hfair.unfinished_leadsTo hs hrel hfin) 0 hstart
  exact ⟨n, fun k hle => Machine.after_mono (hfair.finished_succ hs hrel) hle hn⟩

/-! ## A schedule of two waves -/

/-- The host takes its dispatch, switches and converges after an hour. -/
def hostRollsOut (host : HostId) : List DeploymentInput :=
  let rid := RolloutId.new "stable" "r1"
  [.plain .planTick 1, .plain (.takeDispatch host) 2,
    .plain (.hostEvent host rid (.remoteDispatchAck "old" 2 1)) 2,
    .plain (.hostEvent host rid (.remoteActivationCompleted "new" 0 3 2)) 3,
    .plain (.hostEvent host rid (.remoteConverged (minutes 61) "new" 3)) (minutes 61)]

/-- One host after the other is rolled out; then the ticks and polls go on. -/
def stagedSchedule (n : Nat) : DeploymentInput :=
  match (hostRollsOut "a" ++ hostRollsOut "b")[n]? with
  | some i => i
  | none => .plain (if n % 3 = 0 then .planTick else .takeDispatch (if n % 3 = 1 then "a" else "b"))
      (minutes 62)

/-- The release of two hosts, one in each wave. -/
def twoWaves : SignedManifestSet := stagedSet [["a"], ["b"]]

theorem twoWaves_finishable : twoWaves.Finishable :=
  ⟨by decide, by decide, by decide, by decide, by decide⟩

theorem stagedSchedule_calm (n : Nat) : (stagedSchedule n).event.Calm := by
  unfold stagedSchedule
  split
  · rename_i i hi
    have hmem := List.mem_of_getElem? hi
    simp only [hostRollsOut, DeploymentInput.plain, List.cons_append, List.nil_append,
      List.mem_cons, List.not_mem_nil, or_false] at hmem
    rcases hmem with rfl | rfl | rfl | rfl | rfl | rfl | rfl | rfl | rfl | rfl <;> trivial
  · simp only [DeploymentInput.plain]
    split <;> trivial

theorem stagedSchedule_late {n : Nat} (h : 10 ≤ n) :
    stagedSchedule n = .plain (if n % 3 = 0 then .planTick else
      .takeDispatch (if n % 3 = 1 then "a" else "b")) (minutes 62) := by
  unfold stagedSchedule
  rw [List.getElem?_eq_none (by simpa [hostRollsOut] using h)]

set_option maxRecDepth 8000 in
theorem stagedSchedule_converged (host : HostId) (hhost : host ∈ ["a", "b"]) :
    (deploymentMachine.after (.start twoWaves 0) stagedSchedule 10).cp.db.HostConverged
      (.new "stable" "r1") host := by
  simp only [List.mem_cons, List.not_mem_nil, or_false] at hhost
  rcases hhost with rfl | rfl <;> decide

theorem stagedSchedule_fair : Fair twoWaves (.start twoWaves 0) stagedSchedule := by
  have hrel : ReleasedFrom (stagedConfig [["a"], ["b"]]) twoWaves :=
    stagedSet_released (by decide)
  have hhealthy := after_healthy stagedSchedule_calm (start_healthy hrel 0)
  refine ⟨stagedSchedule_calm, fun n => ⟨3 * (n + 10), by omega, ?_⟩, fun host hhost n => ?_,
    fun n host rid htaken => ?_⟩
  · rw [stagedSchedule_late (by omega), if_pos (by omega)]
    rfl
  · obtain ⟨hostDef, hlook⟩ := Option.isSome_iff_exists.mp hhost
    have hkeys : twoWaves.fleet.hosts.rows.map Prod.fst = ["b", "a"] := by decide
    have hmem : host ∈ twoWaves.fleet.hosts.rows.map Prod.fst :=
      List.mem_map.mpr ⟨(host, hostDef), Table.mem_rows.mpr hlook, rfl⟩
    rw [hkeys] at hmem
    simp only [List.mem_cons, List.not_mem_nil, or_false] at hmem
    rcases hmem with rfl | rfl
    · refine ⟨3 * (n + 10) + 2, by omega, ?_⟩
      rw [stagedSchedule_late (by omega), if_neg (by omega), if_neg (by omega)]
      rfl
    · refine ⟨3 * (n + 10) + 1, by omega, ?_⟩
      rw [stagedSchedule_late (by omega), if_neg (by omega), if_pos (by omega)]
      rfl
  · -- a host that took a dispatch is one of the two, which have converged after ten steps
    obtain ⟨r, hr⟩ := Option.isSome_iff_exists.mp ((hhealthy n).outstanding host rid (.inr htaken))
    obtain ⟨channel, manifest, hm, rfl, hhost⟩ := ((hhealthy n).healthy _ _ _ hr).declared
    have hrows : twoWaves.rollouts.rows = [("stable", stagedManifest 0 1)] := by decide
    have hmem : (channel, manifest) ∈ twoWaves.rollouts.rows := Table.mem_rows.mpr hm
    rw [hrows, List.mem_singleton] at hmem
    cases hmem
    have hstays : ∀ k, 10 ≤ k → (deploymentMachine.after (.start twoWaves 0) stagedSchedule
        k).cp.db.HostConverged (.new "stable" "r1") host := by
      intro k hk
      induction hk with
      | refl => exact stagedSchedule_converged host hhost
      | step _ ih => exact (hhealthy _).converged_step ih
    exact ⟨n + 10, by omega, hstays _ (by omega)⟩

/-- Both hosts end up `Converged`, and their rollout `Terminal`. -/
theorem stagedSchedule_finishes :
    ∃ n, ∀ k, n ≤ k → (deploymentMachine.after (.start twoWaves 0) stagedSchedule k).Finished
      twoWaves :=
  rollouts_finish (stagedSet_released (by decide)) twoWaves_finishable 0 stagedSchedule
    stagedSchedule_fair

end Nixfleet
