import Nixfleet.Reconciler.GateFacts
import Nixfleet.Release.Delivery
import Nixfleet.ControlPlane.Halt
import Nixfleet.ControlPlane.Quarantine
import Nixfleet.ControlPlane.Projection

set_option autoImplicit false

/-!
# Progress of a rollout that waits for dispatches only

The wave, edge and budget gates each hold a host back for their own reason. When nothing else
is in the way (`Waiting`), the next tick makes progress as long as the declaration does not
make the gates wait for one another (`Orderly`): the current wave can be finished, no host is
left out of the waves, no host waits for one of a later wave, and its budgets have room. The
argument takes a `Pending` host whose wave is reached and follows its gating hosts, whose
chain ends because the host edges have no cycle.

Without these conditions a rollout can stand still: `emptyWave_blocks` is a fleet that
`mkFleet` accepts whose first wave selects no host.
-/

namespace Nixfleet

/-- The hosts of a rollout. -/
def RolloutManifest.hosts (manifest : RolloutManifest) : List HostId :=
  manifest.hostSet.map (·.hostname)

/-- The waves of a channel. -/
def FleetResolved.channelWaves (fleet : FleetResolved) (channel : ChannelId) : List Wave :=
  (fleet.waves.lookup channel).getD []

/-- The host waits for its dispatch. -/
def Cp.PendingHost (cp : Cp) (rid : RolloutId) (host : HostId) : Prop :=
  ∃ r ∈ cp.db.loadRecord rid host, r.state = .pending

/-- The rollout of a channel is open, has a `Pending` host and waits for nothing but
dispatches. -/
structure Waiting (cp : Cp) (m : SignedManifestSet) (channel : ChannelId)
    (manifest : RolloutManifest) (rid : RolloutId) : Prop where
  cached : cp.rs.manifests = some m
  named : manifest ∈ m.rollouts.lookup channel
  id : rid = .new channel manifest.channelRef
  opened : ∃ row ∈ cp.db.rollouts.lookup rid, row.state.isClosed = false
  pending : ∃ host ∈ manifest.hosts, cp.PendingHost rid host
  settled : ∀ host ∈ manifest.hosts, ∃ r ∈ cp.db.loadRecord rid host,
    r.state = .pending ∨ r.state.orderingEligible = true
  noFailures : ∀ p ∈ cp.db.probeFailures, p.rolloutId ≠ rid
  predecessors : ∀ e ∈ m.fleet.channelEdges, e.gated = channel →
    ∀ manifest' ∈ m.rollouts.lookup e.gates,
      ∃ row ∈ cp.db.rollouts.lookup (.new e.gates manifest'.channelRef), row.state = .terminal

/-- The waves and the host edges of the rollout do not wait for one another. -/
structure Orderly (cp : Cp) (m : SignedManifestSet) (channel : ChannelId)
    (manifest : RolloutManifest) (rid : RolloutId) : Prop where
  currentWave : ∀ row ∈ cp.db.rollouts.lookup rid,
    row.currentWave + 1 < (m.fleet.channelWaves channel).length →
      ∀ wave ∈ (m.fleet.channelWaves channel)[row.currentWave]?,
        wave.hosts ≠ [] ∧ ∀ host ∈ wave.hosts, host ∈ manifest.hosts
  listed : m.fleet.channelWaves channel ≠ [] →
    ∀ host ∈ manifest.hosts, (waveOf (m.fleet.channelWaves channel) host).isSome = true
  edges : ∀ e ∈ m.fleet.edges, e.gated ∈ manifest.hosts → e.gates ∈ manifest.hosts →
    ∀ wave ∈ waveOf (m.fleet.channelWaves channel) e.gated,
      ∀ wave' ∈ waveOf (m.fleet.channelWaves channel) e.gates, wave' ≤ wave

/-- No budget with a limit that lists a `Pending` host of the rollout is used up. -/
def BudgetsHaveRoom (cp : Cp) (i : CpInput) (manifest : RolloutManifest) (rid : RolloutId) :
    Prop :=
  ∀ plan ∈ cp.plan i, ∀ b ∈ manifest.disruptionBudgets,
    (∃ host ∈ b.hosts, cp.PendingHost rid host) →
      ∀ max ∈ b.maxInFlight, inFlightCount plan.fleetState b.selector < max

/-- The step moves the wave cursor of the rollout forward. -/
def RaisesWave (cp : Cp) (i : CpInput) (rid : RolloutId) : Prop :=
  ∃ row ∈ cp.db.rollouts.lookup rid, ∃ row' ∈ (cpStep cp i).1.db.rollouts.lookup rid,
    row.currentWave < row'.currentWave

/-- A host of another rollout is listed by a budget with the selector of one that lists the
host. -/
def SharesBudget (fs : FleetState) (rid' : RolloutId) (host' : HostId) (rid : RolloutId)
    (host : HostId) : Prop :=
  ∃ summary ∈ fs.rollouts.lookup rid, ∃ b ∈ summary.budgets, host ∈ b.hosts ∧
    ∃ summary' ∈ fs.rollouts.lookup rid', ∃ b' ∈ summary'.budgets, host' ∈ b'.hosts ∧
      b'.selector = b.selector

/-- The step dispatches a `Pending` host: one of the rollout, or one of another rollout that
takes up a budget of a `Pending` host of this one. -/
def DispatchesPending (cp : Cp) (i : CpInput) (rid : RolloutId) : Prop :=
  ∃ fs host' rid' closure due,
    .planned fs (.queueDispatch host' rid' closure due) ∈ (cpStep cp i).2 ∧
    cp.PendingHost rid' host' ∧
    (rid' = rid ∨ ∃ host, cp.PendingHost rid host ∧ SharesBudget fs rid' host' rid host)

instance (cp : Cp) (rid : RolloutId) (host : HostId) : Decidable (cp.PendingHost rid host) :=
  inferInstanceAs (Decidable (∃ r ∈ cp.db.loadRecord rid host, r.state = .pending))

/-! ## Runs -/

/-- A `Pending` record is not acknowledged. -/
def HostRolloutState.Unacked (s : HostRolloutState) : Prop :=
  s.state = .pending → s.dispatchAckedAt = none

theorem run_unacked (is : List CpInput) :
    (cpMachine.run Cp.initial is).db.RecordsAll HostRolloutState.Unacked := by
  refine cpMachine.run_invariant_of_step
    (P := fun cp => cp.db.RecordsAll HostRolloutState.Unacked) ?_ ?_ is
  · intro cp i h
    refine cpStep_records (fun _ _ _ _ _ => rfl) ?_ h i
    intro s e p s' effects _ hstep hpending
    exact absurd hpending (hostStep_spec hstep).move.ne_pending
  · intro rid host r hr
    cases hr

theorem awaitsDispatch_of_pending {db : Db} (h : db.RecordsAll HostRolloutState.Unacked)
    {rid : RolloutId} {host : HostId} {r : HostRolloutState}
    (hr : db.loadRecord rid host = some r) (hp : r.state = .pending) :
    r.awaitsDispatch = true := awaitsDispatch_iff.mpr ⟨hp, (h rid host r hr).2 hp⟩

/-! ## The wave cursor -/

/-- A wave without a successor, or what keeps the current wave from being finished. -/
theorem nextWave_eq_none {fleet : FleetResolved} {fs : FleetState} {rid : RolloutId}
    {summary : RolloutSummary} (hopen : summary.terminalAt = none)
    (h : nextWave fleet fs rid summary = none) :
    (fleet.channelWaves summary.channel).length ≤ summary.currentWave + 1 ∨
      ∃ wave, (fleet.channelWaves summary.channel)[summary.currentWave]? = some wave ∧
        (wave.hosts = [] ∨ ∃ host ∈ wave.hosts, ∀ s,
          fs.hostStates.lookup (rid, host) = some s → s.state.orderingEligible = false) := by
  unfold nextWave at h
  simp only [hopen, Option.isSome_none, Bool.false_eq_true, if_false] at h
  unfold FleetResolved.channelWaves
  cases hw : fleet.waves.lookup summary.channel with
  | none => exact .inl (by simp)
  | some waves =>
      simp only [hw] at h
      simp only [Option.getD_some]
      by_cases hlen : summary.currentWave + 1 ≥ waves.length
      · exact .inl hlen
      · right
        rw [if_neg hlen] at h
        have hlt : summary.currentWave < waves.length := by omega
        refine ⟨waves[summary.currentWave], List.getElem?_eq_getElem hlt, ?_⟩
        simp only [List.getElem?_eq_getElem hlt] at h
        by_cases hempty : waves[summary.currentWave].hosts = []
        · exact .inl hempty
        · right
          have hnot : waves[summary.currentWave].hosts.isEmpty = false := by simpa using hempty
          simp only [hnot, Bool.false_eq_true, if_false, ite_eq_right_iff, reduceCtorEq,
            imp_false, Bool.not_eq_true, List.all_eq_false] at h
          obtain ⟨host, hmem, hhost⟩ := h
          refine ⟨host, hmem, fun s hs => ?_⟩
          simpa [hs] using hhost

/-! ## The hosts of a rollout -/

section Hosts

variable {cfg : FleetConfig} {m : SignedManifestSet} {cp : Cp} {channel : ChannelId}
  {manifest : RolloutManifest} {rid : RolloutId} {row : RolloutRow}

/-- When every host has a closure, a rollout has the hosts of its channel. -/
theorem mem_hosts (hrel : ReleasedFrom cfg m)
    (hclosures : ∀ e ∈ m.fleet.hosts.rows, e.2.closureHash.isSome = true)
    (hm : m.rollouts.lookup channel = some manifest) {host : HostId} :
    host ∈ manifest.hosts ↔ ∃ h, m.fleet.hosts.lookup host = some h ∧ h.channel = channel := by
  rw [RolloutManifest.hosts, hrel.hostSet hm, List.mem_map]
  constructor
  · rintro ⟨hw, hmem, rfl⟩
    obtain ⟨h, hh, hch, -, -⟩ := mem_hostSetOf.mp hmem
    exact ⟨h, hh, hch⟩
  · rintro ⟨h, hh, hch⟩
    obtain ⟨c, hc⟩ := Option.isSome_iff_exists.mp (hclosures (host, h) (Table.mem_rows.mpr hh))
    exact ⟨⟨host, waveIndexOf (m.fleet.waves.lookup channel) host, c⟩,
      mem_hostSetOf.mpr ⟨h, hh, hch, hc, rfl⟩, rfl⟩

/-- The rollout has reached the host's wave. -/
def Reached (m : SignedManifestSet) (channel : ChannelId) (row : RolloutRow) (host : HostId) :
    Prop :=
  m.fleet.channelWaves channel = [] ∨
    ∃ wave, waveOf (m.fleet.channelWaves channel) host = some wave ∧ wave ≤ row.currentWave

/-- A gating host's wave is reached with the wave of the host it gates. -/
theorem Reached.gates (hord : Orderly cp m channel manifest rid) {e : Edge}
    (he : e ∈ m.fleet.edges) (hgated : e.gated ∈ manifest.hosts)
    (hgates : e.gates ∈ manifest.hosts) (h : Reached m channel row e.gated) :
    Reached m channel row e.gates := by
  by_cases hnone : m.fleet.channelWaves channel = []
  · exact .inl hnone
  · obtain ⟨wave, hwave, hle⟩ := h.resolve_left hnone
    obtain ⟨wave', hwave'⟩ := Option.isSome_iff_exists.mp (hord.listed hnone e.gates hgates)
    have horder : wave' ≤ wave := hord.edges e he hgated hgates wave hwave wave' hwave'
    exact .inr ⟨wave', hwave', horder.trans hle⟩

/-- If the wave cannot be raised, a `Pending` host's wave is reached. -/
theorem exists_reached {fs : FleetState} (hwait : Waiting cp m channel manifest rid)
    (hord : Orderly cp m channel manifest rid) (hrow : cp.db.rollouts.lookup rid = some row)
    (hopen : row.terminalAt = none)
    (hstates : ∀ host r, cp.db.loadRecord rid host = some r →
      fs.hostStates.lookup (rid, host) = some r)
    (hnext : nextWave m.fleet fs rid (summaryOf channel manifest row) = none) :
    ∃ host ∈ manifest.hosts, cp.PendingHost rid host ∧ Reached m channel row host := by
  by_cases hlast : (m.fleet.channelWaves channel).length ≤ row.currentWave + 1
  · -- no wave is left to be reached
    obtain ⟨host, hhost, hpending⟩ := hwait.pending
    refine ⟨host, hhost, hpending, ?_⟩
    by_cases hnone : m.fleet.channelWaves channel = []
    · exact .inl hnone
    · obtain ⟨wave, hwave⟩ := Option.isSome_iff_exists.mp (hord.listed hnone host hhost)
      have hlt := waveOf_lt_length hwave
      exact .inr ⟨wave, hwave, by omega⟩
  -- a host of the current wave is not eligible, and it is `Pending` as nothing else is left
  · have hblock := (nextWave_eq_none hopen hnext).resolve_left hlast
    obtain ⟨wave, hwave, hblock⟩ := hblock
    obtain ⟨hne, hours⟩ := hord.currentWave row hrow (by omega) wave hwave
    obtain ⟨host, hmem, hnot⟩ := hblock.resolve_left hne
    obtain ⟨r, hr, hsettled⟩ := hwait.settled host (hours host hmem)
    have hfalse := hnot r (hstates host r hr)
    have hpending : r.state = .pending := hsettled.resolve_right (by simp [hfalse])
    obtain ⟨k, hk, hle⟩ := waveOf_le_of_mem hwave hmem
    exact ⟨host, hours host hmem, ⟨r, hr, hpending⟩, .inr ⟨k, hk, hle⟩⟩

/-- Following the gating hosts of a `Pending` host ends at one that nothing gates. -/
theorem exists_ready (hwait : Waiting cp m channel manifest rid)
    (hord : Orderly cp m channel manifest rid) {host : HostId}
    (hground : Grounded (m.fleet.edges.map fun e => (e.gated, e.gates)) host)
    (hhost : host ∈ manifest.hosts) (hpending : cp.PendingHost rid host)
    (hreached : Reached m channel row host) :
    ∃ ready ∈ manifest.hosts, cp.PendingHost rid ready ∧ Reached m channel row ready ∧
      ∀ e ∈ m.fleet.edges, e.gated = ready → e.gates ∈ manifest.hosts →
        ∃ r, cp.db.loadRecord rid e.gates = some r ∧ r.state.orderingEligible = true := by
  induction hground with
  | intro host _ ih =>
      -- a `Pending` gating host is one step down the chain, which is well founded
      by_cases hgate : ∃ e ∈ m.fleet.edges, e.gated = host ∧ e.gates ∈ manifest.hosts ∧
          cp.PendingHost rid e.gates
      · obtain ⟨e, he, rfl, hgates, hgatesPending⟩ := hgate
        have hedge : (e.gated, e.gates) ∈ m.fleet.edges.map fun e => (e.gated, e.gates) :=
          List.mem_map_of_mem he
        exact ih e.gates hedge hgates hgatesPending (hreached.gates hord he hhost hgates)
      · refine ⟨host, hhost, hpending, hreached, fun e he hgated hgates => ?_⟩
        obtain ⟨r, hr, hsettled⟩ := hwait.settled e.gates hgates
        have hnot : r.state ≠ .pending := fun hp => hgate ⟨e, he, hgated, hgates, r, hr, hp⟩
        exact ⟨r, hr, hsettled.resolve_left hnot⟩

end Hosts

/-! ## One tick -/

section Tick

variable {cfg : FleetConfig} {m : SignedManifestSet} {cp : Cp} {i : CpInput}
  {channel : ChannelId} {manifest : RolloutManifest} {rid : RolloutId}

/-- What a plan tick without failing statements computes. -/
structure TickPlan (cp : Cp) (i : CpInput) (m : SignedManifestSet) (plan : Plan)
    (fs : FleetState) : Prop where
  planned : cp.plan i = some plan
  built : buildFleetState i.order noFaults cp.db m = some fs
  raised : plan.db = (advanceCurrentWaves i.order noFaults m.fleet cp.db fs).1
  seen : plan.fleetState = (advanceCurrentWaves i.order noFaults m.fleet cp.db fs).2
  actions : plan.actions = planNext i.order m plan.fleetState cp.rs.quarantines i.now
  final : (cpStep cp i).1.db = plan.actions.foldl (applyPlanAction ⟨m, i.now, noFaults⟩) plan.db
  outputs : (cpStep cp i).2 = plan.actions.map (.planned plan.fleetState)

theorem exists_tickPlan (hi : i.event = .planTick) (hfaults : i.faults = noFaults)
    (hm : cp.rs.manifests = some m) : ∃ plan fs, TickPlan cp i m plan fs := by
  obtain ⟨fs, hfs⟩ := Option.isSome_iff_exists.mp (buildFleetState_isSome i.order cp.db m)
  obtain ⟨plan, hplan⟩ : ∃ plan, planOf cp.rs i.order i.now noFaults cp.db = some plan := by
    simp only [planOf, hm, hfs]
    exact ⟨_, rfl⟩
  obtain ⟨m', fs', hm', hfs', hraised, hseen, hactions⟩ := planOf_eq_some hplan
  have hsame : m' = m := Option.some.inj (hm'.symm.trans hm)
  subst hsame
  have hcp : cp.plan i = some plan := by
    simp only [Cp.plan, hi, hfaults]
    exact hplan
  refine ⟨plan, fs', ⟨hcp, hfs', hraised, hseen, hactions, ?_, ?_⟩⟩
  · simp only [cpStep, hi, runPlan, hfaults, hm, hplan]
  · simp only [cpStep, hi, hcp, planOutputs]

variable {plan : Plan} {fs : FleetState}

/-- The planner sees the row of every rollout that a manifest names. -/
theorem TickPlan.summary (h : TickPlan cp i m plan fs) (hn : m.Names rid) {row : RolloutRow}
    (hrow : cp.db.rollouts.lookup rid = some row) :
    ∃ channel manifest wave, m.rollouts.lookup channel = some manifest ∧
      rid = .new channel manifest.channelRef ∧
      fs.rollouts.lookup rid = some (summaryOf channel manifest row) ∧
      row.currentWave ≤ wave ∧ plan.fleetState.rollouts.lookup rid =
        some { summaryOf channel manifest row with currentWave := wave } := by
  have hsome : (fs.rollouts.lookup rid).isSome = true :=
    buildFleetState_isSome_summary h.built rfl hn (by rw [hrow]; rfl)
  have hsome' : (plan.fleetState.rollouts.lookup rid).isSome = true := by
    rw [h.seen]
    exact advanceCurrentWaves_isSome_summary hsome
  obtain ⟨summary, hs⟩ := Option.isSome_iff_exists.mp hsome'
  have hadvanced := hs
  rw [h.seen] at hadvanced
  obtain ⟨summary₀, hs₀, wave, hle, rfl⟩ := advanceCurrentWaves_summary hadvanced
  obtain ⟨channel, manifest, row', hlook, hid, hrow', rfl⟩ :=
    buildFleetState_summary h.built hs₀
  rw [hrow] at hrow'
  cases hrow'
  exact ⟨channel, manifest, wave, hlook, hid, hs₀, hle, hs⟩

/-- A released rollout id names its own channel only. -/
theorem TickPlan.summary_of_named (h : TickPlan cp i m plan fs) (hrel : ReleasedFrom cfg m)
    (hm : m.rollouts.lookup channel = some manifest)
    (hid : rid = .new channel manifest.channelRef) {row : RolloutRow}
    (hrow : cp.db.rollouts.lookup rid = some row) :
    fs.rollouts.lookup rid = some (summaryOf channel manifest row) ∧ ∃ wave,
      row.currentWave ≤ wave ∧ plan.fleetState.rollouts.lookup rid =
        some { summaryOf channel manifest row with currentWave := wave } := by
  obtain ⟨channel', manifest', wave, hm', hid', hs₀, hle, hs⟩ :=
    h.summary ⟨channel, manifest, hm, hid⟩ hrow
  have hch : channel' = channel := hrel.channel_eq hm' hm (hid'.symm.trans hid)
  subst hch
  have hman : manifest' = manifest := Option.some.inj (hm'.symm.trans hm)
  subst hman
  exact ⟨hs₀, wave, hle, hs⟩

/-- The planner sees the records of every rollout that a manifest names. -/
theorem TickPlan.hostState (h : TickPlan cp i m plan fs) (hk : cp.db.RecordsKeyed)
    (hn : m.Names rid) {host : HostId} {r : HostRolloutState}
    (hr : cp.db.loadRecord rid host = some r) :
    fs.hostStates.lookup (rid, host) = some r ∧
      plan.fleetState.hostStates.lookup (rid, host) = some r := by
  have hfs := (buildFleetState_hostState h.built hk).mpr ⟨hn, hr⟩
  exact ⟨hfs, by rw [h.seen, advanceCurrentWaves_hostStates]; exact hfs⟩

/-- A bump of the tick shows in the database after its actions. -/
theorem TickPlan.raisesWave (h : TickPlan cp i m plan fs) (hok : cp.db.RowsOk)
    {row : RolloutRow} (hrow : cp.db.rollouts.lookup rid = some row) {summary : RolloutSummary}
    (hs : fs.rollouts.lookup rid = some summary) (hsame : summary.currentWave = row.currentWave)
    {wave : Nat} (hnext : nextWave m.fleet fs rid summary = some wave) : RaisesWave cp i rid := by
  obtain ⟨row₁, hrow₁, hle⟩ : ∃ row₁, (advanceCurrentWaves i.order noFaults m.fleet cp.db
      fs).1.rollouts.lookup rid = some row₁ ∧ wave ≤ row₁.currentWave :=
    advanceCurrentWaves_raises hs hnext (by rw [hrow]; rfl)
  have hwave := (nextWave_eq_some hnext).1
  -- the other bumps of the tick keep the rows in order
  have hok₁ : plan.db.RowsOk := by
    rw [h.raised]
    exact (advanceCurrentWaves_rows ⟨hok, .refl _⟩).1
  -- the actions of the plan do not move the cursor back
  have hevolve : RowsSince plan.db (cpStep cp i).1.db := by
    rw [h.final]
    exact List.foldlRecOn (motive := RowsSince plan.db) _ _ ⟨hok₁, .refl _⟩
      fun db hdb a _ => applyPlanAction_rows hdb a
  obtain ⟨-, _, -, hrows⟩ := hevolve
  obtain ⟨row₂, hrow₂, hle₂, -⟩ := hrows rid row₁ (by rw [h.raised]; exact hrow₁)
  exact ⟨row, hrow, row₂, hrow₂, by omega⟩

/-- The gates let a ready host pass at the empty counter. -/
theorem TickPlan.evaluate_eq_none (h : TickPlan cp i m plan fs) (hrel : ReleasedFrom cfg m)
    (hclosures : ∀ e ∈ m.fleet.hosts.rows, e.2.closureHash.isSome = true)
    (hk : cp.db.RecordsKeyed) (hok : cp.db.RowsOk)
    (hq : cp.rs.quarantines = QuarantineSet.new) (hwait : Waiting cp m channel manifest rid)
    (hroom : BudgetsHaveRoom cp i manifest rid) {row : RolloutRow} {wave : Nat}
    (hle : row.currentWave ≤ wave)
    (hs : plan.fleetState.rollouts.lookup rid =
      some { summaryOf channel manifest row with currentWave := wave }) {host : HostId}
    (hhost : host ∈ manifest.hosts) (hpending : cp.PendingHost rid host)
    (hreached : Reached m channel row host)
    (hready : ∀ e ∈ m.fleet.edges, e.gated = host → e.gates ∈ manifest.hosts →
      ∃ r, cp.db.loadRecord rid e.gates = some r ∧ r.state.orderingEligible = true)
    (closure : ClosureHash) :
    evaluateForDispatch plan.fleetState m cp.rs.quarantines rid host closure channel
      (fun _ => 0) = none := by
  have hn : m.Names rid := ⟨channel, manifest, hwait.named, hwait.id⟩
  obtain ⟨hostDef, hlook, hch⟩ := (mem_hosts hrel hclosures hwait.named).mp hhost
  -- one goal for each gate, in the order in which the dispatcher asks them
  rw [evaluateForDispatch_eq_none]
  refine ⟨?_, ?_, ?_, ?_, ?_, ?_⟩
  · rw [hq, quarantineCheck_new]
  · rw [channelEdgesCheck_eq_none]
    intro e he hgated
    rw [predecessorActive_eq_false]
    intro manifest' hm'
    obtain ⟨row', hrow', hterminal⟩ := hwait.predecessors e he hgated manifest' hm'
    obtain ⟨channel'', manifest'', wave', -, -, -, -, hs'⟩ :=
      h.summary ⟨e.gates, manifest', hm', rfl⟩ hrow'
    exact ⟨_, hs', (hok _ _ hrow').terminal hterminal⟩
  · rw [wavePromotionCheck_eq_none hlook hs, hch]
    rcases hreached with hnone | ⟨k, hk', hle'⟩
    · exact .inl hnone
    · exact .inr ⟨k, hk', hle'.trans hle⟩
  · rw [hostEdgesCheck_eq_none hlook]
    intro e he hgated g hg hgch
    obtain ⟨r, hr, helig⟩ := hready e he hgated
      ((mem_hosts hrel hclosures hwait.named).mpr ⟨g, hg, hgch.trans hch⟩)
    exact ⟨r, (h.hostState hk hn hr).2, helig⟩
  · rw [disruptionBudgetCheck_eq_none]
    intro summary hsummary b hb hbhost max hmax
    rw [hs] at hsummary
    cases hsummary
    exact hroom plan h.planned b hb ⟨host, hbhost, hpending⟩ max hmax
  · refine complianceWaveCheck_eq_none ?_
    rw [h.seen, advanceCurrentWaves_outstandingFailingEnforceProbes,
      buildFleetState_outstanding h.built rfl]
    exact outstanding_eq_none hwait.noFailures

/-- A candidate that passes is dispatched, or one that shares a budget with it is. -/
theorem TickPlan.dispatches (h : TickPlan cp i m plan fs) (hk : cp.db.RecordsKeyed)
    {c : Candidate} (hc : c ∈ candidates i.order plan.fleetState)
    (heval : c.evaluate m plan.fleetState cp.rs.quarantines (fun _ => 0) = none) :
    DispatchesPending cp i c.rolloutId := by
  -- the planner's records are those of the database before the tick
  have record : ∀ d ∈ candidates i.order plan.fleetState, cp.PendingHost d.rolloutId d.host := by
    intro d hd
    obtain ⟨-, -, hstate, hawaits⟩ := mem_candidates.mp hd
    rw [h.seen, advanceCurrentWaves_hostStates] at hstate
    exact ⟨d.record, ((buildFleetState_hostState h.built hk).mp hstate).2,
      (awaitsDispatch_iff.mp hawaits).1⟩
  have hlook := (mem_candidates.mp hc).1
  obtain ⟨c', hc', hqueued, hwhich⟩ : ∃ c' ∈ candidates i.order plan.fleetState,
      .queueDispatch c'.host c'.rolloutId c'.record.targetClosure
          (c'.record.soakDueAt.getD i.now) ∈ dispatchActions m plan.fleetState cp.rs.quarantines
            i.now (fun _ => 0) (candidates i.order plan.fleetState) ∧
        (c' = c ∨ c'.SharesBudget c) := exists_dispatch_of_evaluate hc hlook heval
  refine ⟨plan.fleetState, c'.host, c'.rolloutId, c'.record.targetClosure,
    c'.record.soakDueAt.getD i.now, ?_, record c' hc', ?_⟩
  · rw [h.outputs, h.actions, planNext]
    exact List.mem_map_of_mem (List.mem_append_right _ hqueued)
  · rcases hwhich with rfl | ⟨b, hb, hhost, b', hb', hhost', hsel⟩
    · exact .inl rfl
    · exact .inr ⟨c.host, record c hc, c.summary, hlook, b, hb, hhost, c'.summary,
        (mem_candidates.mp hc').1, b', hb', hhost', hsel⟩

end Tick

/-- **Progress.** In every reachable state in which an open rollout waits for dispatches only,
its waves and edges are in order and its budgets have room, the next plan tick raises its wave
or dispatches a `Pending` host. -/
theorem planTick_progresses {cfg : FleetConfig} {m : SignedManifestSet}
    (hrel : ReleasedFrom cfg m)
    (hclosures : ∀ e ∈ m.fleet.hosts.rows, e.2.closureHash.isSome = true) (is : List CpInput)
    {channel : ChannelId} {manifest : RolloutManifest} {rid : RolloutId}
    (hwait : Waiting (cpMachine.run Cp.initial is) m channel manifest rid)
    (hord : Orderly (cpMachine.run Cp.initial is) m channel manifest rid)
    (i : CpInput) (hi : i.event = .planTick) (hfaults : i.faults = noFaults)
    (hroom : BudgetsHaveRoom (cpMachine.run Cp.initial is) i manifest rid) :
    RaisesWave (cpMachine.run Cp.initial is) i rid ∨
      DispatchesPending (cpMachine.run Cp.initial is) i rid := by
  have hunacked := run_unacked is
  have hok := run_rowsOk is
  have hq : (cpMachine.run Cp.initial is).rs.quarantines = QuarantineSet.new :=
    run_quarantines Db.empty is
  generalize cpMachine.run Cp.initial is = cp at *
  obtain ⟨plan, fs, htick⟩ := exists_tickPlan hi hfaults hwait.cached
  obtain ⟨row, hrow, hopen⟩ := hwait.opened
  have hterminal : row.terminalAt = none := ((hok rid row hrow).times hopen).1
  have hn : m.Names rid := ⟨channel, manifest, hwait.named, hwait.id⟩
  obtain ⟨hs₀, wave, hle, hs⟩ := htick.summary_of_named hrel hwait.named hwait.id hrow
  cases hnext : nextWave m.fleet fs rid (summaryOf channel manifest row) with
  | some next => exact .inl (htick.raisesWave hok hrow hs₀ rfl hnext)
  | none =>
      right
      obtain ⟨start, hstart, hstartPending, hstartReached⟩ := exists_reached hwait hord hrow
        hterminal (fun host r hr => (htick.hostState hunacked.keyed hn hr).1) hnext
      obtain ⟨host, hhost, hpending, hreached, hready⟩ := exists_ready hwait hord
        (hrel.grounded start) hstart hstartPending hstartReached
      obtain ⟨r, hr, hstate⟩ := hpending
      -- the ready host is a candidate, and no gate holds it back
      have hc : (⟨rid, { summaryOf channel manifest row with currentWave := wave }, host, r⟩ :
          Candidate) ∈ candidates i.order plan.fleetState :=
        mem_candidates.mpr ⟨hs, hterminal, (htick.hostState hunacked.keyed hn hr).2,
          awaitsDispatch_of_pending hunacked hr hstate⟩
      exact htick.dispatches hunacked.keyed hc (htick.evaluate_eq_none hrel hclosures
        hunacked.keyed hok hq hwait hroom hle hs hhost ⟨r, hr, hstate⟩ hreached hready _)

/-! ## Two fleets -/

/-- Two hosts on one channel with the waves of the policy, `b` gated by `a` and a budget of one
host in flight. -/
def stagedConfig (waves : List (List HostId)) : FleetConfig :=
  let host : HostConfig := ⟨"x86_64-linux", none, [], "stable", none, none, ∅⟩
  let selector (hosts : List HostId) : NixSelector := .mk [] [] hosts none false [] none
  { hosts := ((∅ : Table HostId HostConfig).insert "a" host).insert "b" host
    tags := ∅
    channels := (∅ : Table ChannelId ChannelConfig).insert "stable"
      ⟨"staged", 5, 30, 60, ∅, ⟨[], .enforce⟩⟩
    rolloutPolicies := (∅ : Table String PolicyConfig).insert "staged"
      ⟨"staged", waves.map fun hosts => ⟨selector hosts, 60⟩, .halt⟩
    edges := [⟨"b", "a", ""⟩]
    channelEdges := []
    disruptionBudgets := [⟨selector ["a", "b"], some 1, none⟩]
    healthChecks := ∅ }

/-- The release of a staged fleet. -/
def stagedSet (waves : List (List HostId)) : SignedManifestSet :=
  match deliver (stagedConfig waves) [("a", "new"), ("b", "new")] 0 "r1" with
  | .ok m => m
  | .error _ => stableManifests (stableFleet "" [] ⟨"", [], .halt⟩ [] [] [])

theorem stagedSet_released {waves : List (List HostId)}
    (h : (deliver (stagedConfig waves) [("a", "new"), ("b", "new")] 0 "r1").isOk = true) :
    ReleasedFrom (stagedConfig waves) (stagedSet waves) := by
  unfold stagedSet
  cases hd : deliver (stagedConfig waves) [("a", "new"), ("b", "new")] 0 "r1" with
  | ok m => exact releasedFrom_of_deliver hd
  | error err => simp [hd, Except.isOk, Except.toBool] at h

/-- The control plane after it received the release. -/
def stagedRun (waves : List (List HostId)) : List CpInput :=
  [.plain (.manifestSetUpdated (stagedSet waves)) 0]

/-- The manifest of a staged release, with the waves of its hosts. -/
def stagedManifest (a b : Nat) : RolloutManifest :=
  ⟨1, "stable@r1", "stable", "r1", "", [⟨"a", a, "new"⟩, ⟨"b", b, "new"⟩],
    [⟨⟨[], [], ["a", "b"], none, false⟩, ["a", "b"], some 1, none⟩],
    ⟨1, some 0, some "r1", some "ed25519"⟩⟩

set_option maxRecDepth 4000 in
/-- One host in each wave: the tick dispatches the host of the first wave. -/
theorem stagedRun_progresses :
    RaisesWave (cpMachine.run Cp.initial (stagedRun [["a"], ["b"]])) (.plain .planTick 1)
        (.new "stable" "r1") ∨
      DispatchesPending (cpMachine.run Cp.initial (stagedRun [["a"], ["b"]])) (.plain .planTick 1)
        (.new "stable" "r1") := by
  have hwait : Waiting (cpMachine.run Cp.initial (stagedRun [["a"], ["b"]]))
      (stagedSet [["a"], ["b"]]) "stable" (stagedManifest 0 1) (.new "stable" "r1") :=
    ⟨rfl, by decide, by decide, by decide, by decide, by decide, by decide, by decide⟩
  exact planTick_progresses (stagedSet_released (by decide)) (by decide) _ hwait
    ⟨by decide, by decide, by decide⟩ (.plain .planTick 1) rfl rfl
    (by unfold BudgetsHaveRoom; decide)

/-- The action queues a dispatch. -/
def PlanAction.isDispatch : PlanAction → Bool
  | .queueDispatch .. => true
  | _ => false

set_option maxRecDepth 4000 in
/-- With a first wave that selects no host, the accepted fleet stands still. -/
theorem emptyWave_blocks :
    ReleasedFrom (stagedConfig [[], ["a", "b"]]) (stagedSet [[], ["a", "b"]]) ∧
    (∀ e ∈ (stagedSet [[], ["a", "b"]]).fleet.hosts.rows, e.2.closureHash.isSome = true) ∧
    (∀ b ∈ (stagedManifest 1 1).disruptionBudgets, ∀ max ∈ b.maxInFlight, 0 < max) ∧
    Waiting (cpMachine.run Cp.initial (stagedRun [[], ["a", "b"]]))
      (stagedSet [[], ["a", "b"]]) "stable" (stagedManifest 1 1) (.new "stable" "r1") ∧
    (cpMachine.run Cp.initial (stagedRun [[], ["a", "b"]])).db.quarantinedClosures.rows = [] ∧
    ¬ RaisesWave (cpMachine.run Cp.initial (stagedRun [[], ["a", "b"]])) (.plain .planTick 1)
      (.new "stable" "r1") ∧
    ∀ fs host rid closure due, .planned fs (.queueDispatch host rid closure due) ∉
      (cpStep (cpMachine.run Cp.initial (stagedRun [[], ["a", "b"]])) (.plain .planTick 1)).2 := by
  refine ⟨stagedSet_released (by decide), by decide, by decide, ?_, by decide,
    by unfold RaisesWave; decide, ?_⟩
  · exact ⟨rfl, by decide, by decide, by decide, by decide, by decide, by decide, by decide⟩
  · intro fs host rid closure due hmem
    obtain ⟨plan, hplan, -, ha⟩ := exists_plan_of_planned_mem hmem
    have hnone : ((cpMachine.run Cp.initial (stagedRun [[], ["a", "b"]])).plan
        (.plain .planTick 1)).all (fun plan => plan.actions.all fun a => !a.isDispatch) = true := by
      decide
    rw [hplan, Option.all_some] at hnone
    have hnot := List.all_eq_true.mp hnone _ ha
    simp [PlanAction.isDispatch] at hnot

end Nixfleet
