import Mathlib.Data.List.Dedup
import Mathlib.Data.List.Perm.Subperm
import Nixfleet.Reconciler.TickBudget
import Nixfleet.ControlPlane.Deployment

set_option autoImplicit false

/-!
# Disruption budgets over whole runs

The budget gate counts the hosts in flight and what the tick itself has queued. It sees neither
a dispatch that an earlier tick queued and nobody has acknowledged yet, nor a host that waits
for its reboot and will soak afterwards. `exposedHosts` counts both, and a budget holds as long
as no tick queues beyond it, which is what `BudgetTick` asks.
-/

namespace Nixfleet

/-- The budgets with a limit, of all manifests. -/
def SignedManifestSet.limits (m : SignedManifestSet) : List (RolloutBudget × Nat) :=
  m.rollouts.rows.flatMap fun e =>
    e.2.disruptionBudgets.filterMap fun b => b.maxInFlight.map fun max => (b, max)

/-- In flight, or bound to be without another plan tick: waiting for the reboot, or `Pending`
with a dispatch that is outstanding. -/
def Deployment.Exposes (s : Deployment) (rid : RolloutId) (host : HostId)
    (r : HostRolloutState) : Prop :=
  r.state.isInFlight = true ∨ r.state = .deferred ∨ r.state = .pending ∧ s.Outstanding host rid

instance (s : Deployment) (rid : RolloutId) (host : HostId) (r : HostRolloutState) :
    Decidable (s.Exposes rid host r) :=
  inferInstanceAs (Decidable (_ ∨ _ ∨ _ ∧ _))

/-- The hosts of a list that are exposed in some rollout, and those of `more`. -/
def Deployment.exposedHosts (s : Deployment) (hosts more : List HostId) : List HostId :=
  hosts.dedup.filter fun h => h ∈ more ∨
    ∃ e ∈ s.cp.db.hostRolloutRecords.rows, e.1.2 = h ∧ s.Exposes e.1.1 h e.2

/-- After every number of steps at most `max_in_flight` hosts of a budget's list are
`Activating` or `Soaking`. -/
def BudgetsHold (m : SignedManifestSet) (s : Deployment) (is : List DeploymentInput) : Prop :=
  ∀ earlier later, is = earlier ++ later → ∀ l ∈ m.limits,
    (hostsInFlight (deploymentMachine.run s earlier).cp.db.hostRolloutRecords
      l.1.hosts).length ≤ l.2

/-- What a plan tick may queue stays within the budget: either the gate's count covers all
exposed hosts and a budget of the same selector and at most the same limit guards every
candidate, or the exposed hosts and the admitted candidates fit together. -/
def BudgetTick (m : SignedManifestSet) (s : Deployment) (i : DeploymentInput) : Prop :=
  ∀ plan ∈ s.cp.plan i.toCp, ∀ l ∈ m.limits,
    let cs := admitted i.order m plan.fleetState s.cp.rs.quarantines l.1.hosts
    ((s.exposedHosts l.1.hosts []).length ≤ inFlightCount plan.fleetState l.1.selector ∧
      ∀ c ∈ cs, ∃ b ∈ c.summary.budgets, b.selector = l.1.selector ∧ c.host ∈ b.hosts ∧
        ∃ max ∈ b.maxInFlight, max ≤ l.2) ∨
    (s.exposedHosts l.1.hosts (cs.map (·.host))).length ≤ l.2

instance (m : SignedManifestSet) (s : Deployment) (i : DeploymentInput) :
    Decidable (BudgetTick m s i) :=
  inferInstanceAs (Decidable (∀ plan ∈ s.cp.plan i.toCp, ∀ l ∈ m.limits, _ ∧ _ ∨ _))

/-- The exposed hosts are within every budget. -/
def Deployment.WithinBudgets (m : SignedManifestSet) (s : Deployment) : Prop :=
  ∀ l ∈ m.limits, (s.exposedHosts l.1.hosts []).length ≤ l.2

instance (m : SignedManifestSet) (s : Deployment) : Decidable (s.WithinBudgets m) :=
  inferInstanceAs (Decidable (∀ l ∈ m.limits, _ ≤ _))

/-! ## Dispatches -/

/-- Where a budget guards every admitted candidate of a list, the dispatches to the list stay
within the limit. -/
theorem countP_dispatchActions_limit (m : SignedManifestSet) {fs : FleetState}
    (q : QuarantineSet) (now : Time) {hosts : List HostId} {selector : Selector} {max : Nat}
    {cs : List Candidate} (hcs : ∀ c ∈ cs, fs.rollouts.lookup c.rolloutId = some c.summary)
    (hguard : ∀ c ∈ cs, c.admittedOf m fs q hosts = true →
      ∃ b ∈ c.summary.budgets, b.selector = selector ∧ c.host ∈ b.hosts ∧
        ∃ max' ∈ b.maxInFlight, max' ≤ max) (tick : TickDispatched) :
    (dispatchActions m fs q now tick cs).countP (·.dispatchesTo hosts) = 0 ∨
    (dispatchActions m fs q now tick cs).countP (·.dispatchesTo hosts) +
      (inFlightCount fs selector + tick selector) ≤ max := by
  simp only [dispatchesTo_eq_dispatchesIn]
  exact countP_dispatchActions_within m q now hcs (fun c hc _ => hguard c hc) tick

/-! ## Exposed hosts -/

theorem mem_exposedHosts {s : Deployment} {hosts more : List HostId} {h : HostId} :
    h ∈ s.exposedHosts hosts more ↔ h ∈ hosts ∧
      (h ∈ more ∨ ∃ rid r, s.cp.db.loadRecord rid h = some r ∧ s.Exposes rid h r) := by
  simp only [Deployment.exposedHosts, List.mem_filter, List.mem_dedup, decide_eq_true_eq,
    Prod.exists, Table.mem_rows, Db.loadRecord]
  refine and_congr_right fun _ => or_congr_right ⟨?_, ?_⟩
  · rintro ⟨rid, host, r, hr, rfl, hex⟩
    exact ⟨rid, r, hr, hex⟩
  · rintro ⟨rid, r, hr, hex⟩
    exact ⟨rid, h, r, hr, rfl, hex⟩

theorem exposedHosts_nodup (s : Deployment) (hosts more : List HostId) :
    (s.exposedHosts hosts more).Nodup := (List.nodup_dedup hosts).filter _

/-- Hosts in flight are exposed. -/
theorem hostsInFlight_length_le (s : Deployment) (hosts : List HostId) :
    (hostsInFlight s.cp.db.hostRolloutRecords hosts).length ≤ (s.exposedHosts hosts []).length := by
  refine (List.Nodup.subperm ((List.nodup_dedup hosts).filter _) ?_).length_le
  intro h hh
  obtain ⟨hmem, rid, r, hr, hfl⟩ := mem_hostsInFlight.mp hh
  exact mem_exposedHosts.mpr ⟨hmem, .inr ⟨rid, r, hr, .inl hfl⟩⟩

/-- An exposed host stays exposed along the host machine only from an exposed state. -/
theorem exposes_of_move {s : Deployment} {rid : RolloutId} {host : HostId}
    {r r' : HostRolloutState} (hmove : HostMove r.state r'.state)
    (htaken : (host, rid) ∈ s.taken) (h : s.Exposes rid host r') : s.Exposes rid host r := by
  unfold Deployment.Exposes at h ⊢
  generalize r.state = src at hmove ⊢
  generalize r'.state = dst at hmove h
  cases hmove with
  | acked => exact .inr (.inr ⟨rfl, .inr htaken⟩)
  | started | completed | probed => exact .inl rfl
  | staged | activationFailed => exact .inl rfl
  | rebooted | bootFailed => exact .inr (.inl rfl)
  | converged | soakFailed => exact .inl rfl
  | reverted => simp [HostState.isInFlight] at h

/-- The hosts to which a plan dispatches. -/
def dispatchedHosts (actions : List PlanAction) : List HostId :=
  actions.filterMap fun
    | .queueDispatch host _ _ _ => some host
    | _ => none

theorem mem_dispatchedHosts {actions : List PlanAction} {host : HostId} :
    host ∈ dispatchedHosts actions ↔
      ∃ rid closure due, .queueDispatch host rid closure due ∈ actions := by
  simp only [dispatchedHosts, List.mem_filterMap]
  constructor
  · rintro ⟨a, ha, heq⟩
    cases a with
    | queueDispatch host' rid closure due =>
        cases heq
        exact ⟨rid, closure, due, ha⟩
    | openRollout | deferDispatch => cases heq
  · rintro ⟨rid, closure, due, ha⟩
    exact ⟨_, ha, rfl⟩

/-- **What a step exposes.** A host that is exposed after a step was so before, or the step is
a plan tick that dispatches to it. -/
theorem exposedHosts_step {m : SignedManifestSet} {s : Deployment} (h : s.Ok m)
    (i : DeploymentInput) (hosts : List HostId) :
    (deploymentStep s i).1.exposedHosts hosts [] ⊆
      s.exposedHosts hosts
        ((s.cp.plan i.toCp).toList.flatMap fun p => dispatchedHosts p.actions) := by
  intro host hhost
  obtain ⟨hmem, hex⟩ := mem_exposedHosts.mp hhost
  obtain ⟨rid, r, hr, hex⟩ := hex.resolve_left (by simp)
  refine mem_exposedHosts.mpr ⟨hmem, ?_⟩
  -- an outstanding dispatch was outstanding before, or is one of the plan
  have hpast : (deploymentStep s i).1.Outstanding host rid → s.Outstanding host rid ∨
      host ∈ (s.cp.plan i.toCp).toList.flatMap fun p => dispatchedHosts p.actions := by
    intro hout
    rcases deploymentStep_outstanding h hout with hold | ⟨-, plan, closure, due, hplan, ha⟩
    · exact .inl hold
    · refine .inr (List.mem_flatMap.mpr ⟨plan, by simp [hplan], ?_⟩)
      exact mem_dispatchedHosts.mpr ⟨rid, closure, due, ha⟩
  have hsame : s.cp.db.loadRecord rid host = some r →
      (host ∈ (s.cp.plan i.toCp).toList.flatMap fun p => dispatchedHosts p.actions) ∨
      ∃ rid r, s.cp.db.loadRecord rid host = some r ∧ s.Exposes rid host r := by
    intro hold
    rcases hex with hfl | hdef | ⟨hpend, hout⟩
    · exact .inr ⟨rid, r, hold, .inl hfl⟩
    · exact .inr ⟨rid, r, hold, .inr (.inl hdef)⟩
    · rcases hpast hout with hout' | hplan
      · exact .inr ⟨rid, r, hold, .inr (.inr ⟨hpend, hout'⟩)⟩
      · exact .inl hplan
  cases hev : i.event with
  | planTick =>
      simp only [deploymentStep, hev, cpStep, DeploymentInput.toCp, DeploymentEvent.toCp] at hr
      rcases runPlan_record hr with hold | ⟨m', plan, ref, hm', hplan, ha, hfresh⟩
      · exact hsame hold
      · -- a rollout that is opened had no row, so nothing of it is outstanding
        exfalso
        have hnone := row_none_of_openRollout hplan rfl ha
        obtain ⟨_, _, _, _, _, _, rfl⟩ := hfresh
        rcases hex with hfl | hdef | ⟨-, hout⟩
        · cases hfl
        · cases hdef
        · have hrow : (s.cp.db.rollouts.lookup rid).isSome = true := by
            rcases deploymentStep_outstanding h hout with hold | ⟨-, plan', _, _, hplan', ha'⟩
            · exact h.opened host rid hold
            · obtain ⟨c, hc, rfl, -, -⟩ :=
                exists_candidate_of_mem_plan (planOf_of_plan hplan') h.manifests ha'
              obtain ⟨row, hrow, -⟩ := row_of_candidate (planOf_of_plan hplan') hc
              exact Option.isSome_iff_exists.mpr ⟨row, hrow⟩
          rw [hnone] at hrow
          cases hrow
  | takeDispatch host' =>
      simp only [deploymentStep, hev, cpStep, DeploymentInput.toCp, DeploymentEvent.toCp] at hr
      rw [loadRecord_takeForHost] at hr
      exact hsame hr
  | hostEvent host' rid' event =>
      simp only [deploymentStep, hev] at hr
      split at hr
      · rename_i htaken
        simp only [cpStep, DeploymentInput.toCp, hev, DeploymentEvent.toCp] at hr
        rcases handleHostEvent_record h.records hr with hold | ⟨rfl, rfl, _, prior, _, hacc⟩
        · exact hsame hold
        · obtain ⟨policy, -, hok⟩ := hacc.step
          have hex' : s.Exposes rid host r := by
            rcases hex with hfl | hdef | ⟨hpend, -⟩
            · exact .inl hfl
            · exact .inr (.inl hdef)
            · exact .inr (.inr ⟨hpend, .inr htaken⟩)
          exact .inr ⟨rid, prior, hacc.loaded,
            exposes_of_move (hostStep_spec hok).move htaken hex'⟩
      · exact hsame hr

theorem length_filter_dispatchedHosts (actions : List PlanAction) (hosts : List HostId) :
    ((dispatchedHosts actions).filter (· ∈ hosts)).length =
      actions.countP (·.dispatchesTo hosts) := by
  induction actions with
  | nil => rfl
  | cons a rest ih =>
      cases a with
      | queueDispatch host rid closure due =>
          by_cases hhost : host ∈ hosts
          · rw [List.countP_cons_of_pos (by simpa [PlanAction.dispatchesTo] using hhost), ← ih]
            simp [dispatchedHosts, hhost]
          · rw [List.countP_cons_of_neg (by simpa [PlanAction.dispatchesTo] using hhost), ← ih]
            simp [dispatchedHosts, hhost]
      | openRollout | deferDispatch =>
          rw [List.countP_cons_of_neg (by simp [PlanAction.dispatchesTo]), ← ih]
          simp [dispatchedHosts]

section Step

variable {m : SignedManifestSet} {s : Deployment} {i : DeploymentInput} {plan : Plan}
  {hosts : List HostId}

/-- When the gate's count covers the exposed hosts, its counter bounds what is added. -/
theorem exposed_le_of_counted (h : s.Ok m) (hplan : s.cp.plan i.toCp = some plan)
    {selector : Selector} {max : Nat}
    (hwithin : (s.exposedHosts hosts []).length ≤ max)
    (hcount : (s.exposedHosts hosts []).length ≤ inFlightCount plan.fleetState selector)
    (hguard : ∀ c ∈ admitted i.order m plan.fleetState s.cp.rs.quarantines hosts,
      ∃ b ∈ c.summary.budgets, b.selector = selector ∧ c.host ∈ b.hosts ∧
        ∃ max' ∈ b.maxInFlight, max' ≤ max) :
    ((deploymentStep s i).1.exposedHosts hosts []).length ≤ max := by
  have hsub : (deploymentStep s i).1.exposedHosts hosts [] ⊆
      s.exposedHosts hosts [] ++ (dispatchedHosts plan.actions).filter (· ∈ hosts) := by
    intro host hhost
    obtain ⟨hmem, hcase⟩ := mem_exposedHosts.mp (exposedHosts_step h i hosts hhost)
    rw [hplan] at hcase
    simp only [Option.toList_some, List.flatMap_singleton] at hcase
    rcases hcase with hdisp | hex
    · refine List.mem_append_right _ (List.mem_filter.mpr ⟨hdisp, ?_⟩)
      simpa using hmem
    · exact List.mem_append_left _ (mem_exposedHosts.mpr ⟨hmem, .inr hex⟩)
  have hlen := (List.Nodup.subperm (exposedHosts_nodup _ hosts []) hsub).length_le
  rw [List.length_append, length_filter_dispatchedHosts] at hlen
  obtain ⟨m', -, hm', -, -, -, hact⟩ := planOf_eq_some (planOf_of_plan hplan)
  rw [h.manifests] at hm'
  cases hm'
  rw [hact, planNext, List.countP_append, countP_openActions, Nat.zero_add] at hlen
  have hlimit := countP_dispatchActions_limit m s.cp.rs.quarantines i.now
    (fun c hc => (mem_candidates.mp hc).1)
    (fun c hc hadm => hguard c (List.mem_filter.mpr ⟨hc, hadm⟩)) (fun _ => 0)
  omega

/-- When the exposed hosts and the admitted candidates fit together, nothing can go over. -/
theorem exposed_le_of_fits (h : s.Ok m) (hplan : s.cp.plan i.toCp = some plan) :
    ((deploymentStep s i).1.exposedHosts hosts []).length ≤
      (s.exposedHosts hosts ((admitted i.order m plan.fleetState s.cp.rs.quarantines hosts).map
        (·.host))).length := by
  refine (List.Nodup.subperm (exposedHosts_nodup _ hosts []) ?_).length_le
  intro host hhost
  obtain ⟨hmem, hcase⟩ := mem_exposedHosts.mp (exposedHosts_step h i hosts hhost)
  refine mem_exposedHosts.mpr ⟨hmem, hcase.imp_left fun hdisp => ?_⟩
  rw [hplan] at hdisp
  simp only [Option.toList_some, List.flatMap_singleton] at hdisp
  obtain ⟨rid, closure, due, ha⟩ := mem_dispatchedHosts.mp hdisp
  obtain ⟨c, hc, -, rfl, heval⟩ :=
    exists_candidate_of_mem_plan (planOf_of_plan hplan) h.manifests ha
  refine List.mem_map.mpr ⟨c, List.mem_filter.mpr ⟨hc, ?_⟩, rfl⟩
  simp [Candidate.admittedOf, hmem, heval]

theorem withinBudgets_step (h : s.Ok m) (hwithin : s.WithinBudgets m) (htick : BudgetTick m s i) :
    (deploymentStep s i).1.WithinBudgets m := by
  intro l hl
  cases hplan : s.cp.plan i.toCp with
  | none =>
      have hsub := exposedHosts_step h i l.1.hosts
      rw [hplan] at hsub
      exact le_trans (List.Nodup.subperm (exposedHosts_nodup _ _ _) hsub).length_le (hwithin l hl)
  | some plan =>
      rcases htick plan hplan l hl with ⟨hcount, hguard⟩ | hfits
      · exact exposed_le_of_counted h hplan (hwithin l hl) hcount hguard
      · exact le_trans (exposed_le_of_fits h hplan) hfits

end Step

/-- **Budgets hold where the ticks stay within them.** -/
theorem budgetsHold_of_ticks (m : SignedManifestSet) (s : Deployment) (h : s.Ok m)
    (hwithin : s.WithinBudgets m) (is : List DeploymentInput)
    (hticks : deploymentMachine.Meets (BudgetTick m) s is) : BudgetsHold m s is := by
  rintro earlier later rfl l hl
  have hstep : ∀ s i, s.Ok m ∧ s.WithinBudgets m → BudgetTick m s i →
      (deploymentMachine.step s i).1.Ok m ∧ (deploymentMachine.step s i).1.WithinBudgets m :=
    fun s i hs hi => ⟨deploymentStep_ok hs.1 i, withinBudgets_step hs.1 hs.2 hi⟩
  have hrun := deploymentMachine.run_invariant hstep ⟨h, hwithin⟩
    (Machine.Meets.of_append deploymentMachine hticks)
  exact le_trans (hostsInFlight_length_le _ _) (hrun.2 l hl)

/-- Two hosts under a budget of one. -/
def budgetManifests : SignedManifestSet :=
  stableManifests (stableFleet "r1" [("a", "new"), ("b", "new")] ⟨"all-at-once", [], .halt⟩ [] []
    [⟨{ Selector.empty with all := true }, some 1, none⟩])

/-- An input whose plan tick finds the given host first. -/
def DeploymentInput.first (host : HostId) (event : DeploymentEvent) (now : Time) :
    DeploymentInput :=
  ⟨event, now, ⟨fun _ => 0, fun _ => 0, fun k => if k.2 = host then 0 else 1⟩, fun _ => 0⟩

/-- Two plan ticks, the second after the first dispatch was acknowledged. -/
def ackedRun : List DeploymentInput :=
  let rid := RolloutId.new "stable" "r1"
  [.first "a" .planTick 1, .plain (.takeDispatch "a") 2,
   .plain (.hostEvent "a" rid (.remoteDispatchAck "old" 3 1)) 3, .first "b" .planTick 4]

/-- Two plan ticks in a row, then both hosts take their dispatch and acknowledge it. -/
def unackedRun : List DeploymentInput :=
  let rid := RolloutId.new "stable" "r1"
  [.first "a" .planTick 1, .first "b" .planTick 2,
   .plain (.takeDispatch "a") 3, .plain (.takeDispatch "b") 3,
   .plain (.hostEvent "a" rid (.remoteDispatchAck "old" 4 1)) 4,
   .plain (.hostEvent "b" rid (.remoteDispatchAck "old" 4 1)) 4]

set_option maxRecDepth 8000 in
/-- The second tick sees the first host in flight and queues nothing. -/
theorem ackedRun_budgetsHold :
    BudgetsHold budgetManifests (.start budgetManifests 0) ackedRun :=
  budgetsHold_of_ticks _ _ (start_ok _ _) (by decide) _ (by decide)

set_option maxRecDepth 8000 in
/-- Between queueing and acknowledgement neither host is in flight, and the second tick, which
finds the other host first, queues that one too. -/
theorem unackedRun_not_budgetsHold :
    (Deployment.start budgetManifests 0).WithinBudgets budgetManifests ∧
    ¬ BudgetsHold budgetManifests (.start budgetManifests 0) unackedRun := by
  refine ⟨by decide, fun h => ?_⟩
  have hle := h unackedRun [] (List.append_nil _).symm
    (⟨{ Selector.empty with all := true }, ["a", "b"], some 1, none⟩, 1) (by decide)
  exact absurd hle (by decide)

end Nixfleet
