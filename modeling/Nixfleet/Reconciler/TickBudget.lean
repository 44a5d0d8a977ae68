import Mathlib.Data.List.Perm.Subperm
import Nixfleet.Reconciler.PctBudget

set_option autoImplicit false

/-!
# One budget within one plan

Several rollouts may carry the same budget: the same selector, host list and limit. One call of
the planner counts the hosts in flight over all of them, and a counter by selector adds what the
call itself has dispatched. `dispatchesIn_le` bounds the dispatches of the rollouts that carry
the budget. A rollout without it is neither counted nor held back, which
`budget_within_tick` makes explicit.
-/

namespace Nixfleet

/-- The rollout has a row, and a budget with the selector. -/
def FleetState.carries (fs : FleetState) (selector : Selector) (rid : RolloutId) : Bool :=
  match fs.rollouts.lookup rid with
  | none => false
  | some summary => summary.budgets.any (·.selector = selector)

/-- All budgets with the selector have this host list and this limit. -/
def FleetState.SharedBudget (fs : FleetState) (selector : Selector) (hosts : List HostId)
    (max : Nat) : Prop :=
  ∀ r ∈ fs.rollouts.rows, ∀ b ∈ r.2.budgets, b.selector = selector →
    b.hosts = hosts ∧ b.maxInFlight = some max

instance (fs : FleetState) (selector : Selector) (hosts : List HostId) (max : Nat) :
    Decidable (fs.SharedBudget selector hosts max) :=
  inferInstanceAs (Decidable (∀ r ∈ fs.rollouts.rows, ∀ b ∈ r.2.budgets, _ → _ ∧ _))

/-- The records of the rollouts that carry a budget with the selector. -/
def FleetState.carriedStates (fs : FleetState) (selector : Selector) :
    Table (RolloutId × HostId) HostRolloutState :=
  fs.hostStates.filterRows fun k _ => fs.carries selector k.1

/-- Every record of the hosts that waits for a dispatch or is in flight belongs to a rollout
that carries the budget. -/
def FleetState.OnlyCarried (fs : FleetState) (selector : Selector) (hosts : List HostId) : Prop :=
  ∀ e ∈ fs.hostStates.rows, e.1.2 ∈ hosts →
    e.2.awaitsDispatch = true ∨ e.2.state.isInFlight = true → fs.carries selector e.1.1 = true

instance (fs : FleetState) (selector : Selector) (hosts : List HostId) :
    Decidable (fs.OnlyCarried selector hosts) :=
  inferInstanceAs (Decidable (∀ e ∈ fs.hostStates.rows, _ ∈ hosts → _ ∨ _ → _ = true))

/-- The action dispatches to a host of the list in one of the rollouts. -/
def PlanAction.dispatchesIn (rollouts : RolloutId → Bool) (hosts : List HostId) :
    PlanAction → Bool
  | .queueDispatch host rid _ _ => rollouts rid && host ∈ hosts
  | _ => false

/-- What the hosts in flight leave of the budget bounds the dispatches of the plan. -/
def BudgetWithinTick (fs : FleetState) (hosts : List HostId) (max : Nat)
    (actions : List PlanAction) : Prop :=
  actions.countP (·.dispatchesTo hosts) ≤ max - (hostsInFlight fs.hostStates hosts).length

instance (fs : FleetState) (hosts : List HostId) (max : Nat) (actions : List PlanAction) :
    Decidable (BudgetWithinTick fs hosts max actions) :=
  inferInstanceAs (Decidable (_ ≤ _))

theorem dispatchesTo_eq_dispatchesIn (hosts : List HostId) (a : PlanAction) :
    a.dispatchesTo hosts = a.dispatchesIn (fun _ => true) hosts := by
  cases a with
  | queueDispatch => simp [PlanAction.dispatchesTo, PlanAction.dispatchesIn]
  | openRollout | deferDispatch => rfl

/-! ## Dispatches -/

/-- **The budget bounds its dispatches.** Where a budget with the selector guards every admitted
candidate of some rollouts and hosts, the dispatches to these stay within the limit. -/
theorem countP_dispatchActions_within (m : SignedManifestSet) {fs : FleetState}
    (q : QuarantineSet) (now : Time) {rollouts : RolloutId → Bool} {hosts : List HostId}
    {selector : Selector} {max : Nat} {cs : List Candidate}
    (hcs : ∀ c ∈ cs, fs.rollouts.lookup c.rolloutId = some c.summary)
    (hguard : ∀ c ∈ cs, rollouts c.rolloutId = true → c.admittedOf m fs q hosts = true →
      ∃ b ∈ c.summary.budgets, b.selector = selector ∧ c.host ∈ b.hosts ∧
        ∃ max' ∈ b.maxInFlight, max' ≤ max) (tick : TickDispatched) :
    (dispatchActions m fs q now tick cs).countP (·.dispatchesIn rollouts hosts) = 0 ∨
    (dispatchActions m fs q now tick cs).countP (·.dispatchesIn rollouts hosts) +
      (inFlightCount fs selector + tick selector) ≤ max := by
  induction cs generalizing tick with
  | nil => simp [dispatchActions]
  | cons c rest ih =>
      have ih := ih (fun c hc => hcs c (List.mem_cons_of_mem _ hc))
        (fun c hc => hguard c (List.mem_cons_of_mem _ hc))
      simp only [dispatchActions]
      split
      · have hrest := ih tick
        rwa [List.countP_cons_of_neg (by simp [PlanAction.dispatchesIn])]
      · rename_i heval
        have hrest := ih (countDispatch c.summary.budgets c.host tick)
        rw [countDispatch_apply] at hrest
        by_cases hp : rollouts c.rolloutId = true ∧ c.host ∈ hosts
        · have hadm : c.admittedOf m fs q hosts = true := by
            have hzero : c.evaluate m fs q (fun _ => 0) = none :=
              evaluateForDispatch_mono (fun _ => Nat.zero_le _) heval
            simp [Candidate.admittedOf, hp.2, hzero]
          obtain ⟨b, hb, rfl, hbhost, max', hmax', hle⟩ :=
            hguard c List.mem_cons_self hp.1 hadm
          -- the gate saw room for this host, and the counter grows
          have hroom := disruptionBudgetCheck_eq_none.mp
            (evaluateForDispatch_eq_none.mp heval).2.2.2.2.1 c.summary
            (hcs c List.mem_cons_self) b hb hbhost max' hmax'
          have hcount := listings_pos hb hbhost
          rw [List.countP_cons_of_pos (by simpa [PlanAction.dispatchesIn] using hp)]
          omega
        · rw [List.countP_cons_of_neg (by simpa [PlanAction.dispatchesIn] using hp)]
          omega

theorem countP_openActions_dispatchesIn (order : MapOrders) (m : SignedManifestSet)
    (fs : FleetState) (rollouts : RolloutId → Bool) (hosts : List HostId) :
    (openActions order m fs).countP (·.dispatchesIn rollouts hosts) = 0 := by
  have hzero : (openActions order m fs).countP (·.dispatchesTo hosts) = 0 := countP_openActions
  refine Nat.le_zero.mp (le_of_le_of_eq (List.countP_mono_left fun a _ ha => ?_) hzero)
  cases a with
  | queueDispatch => simp_all [PlanAction.dispatchesTo, PlanAction.dispatchesIn]
  | openRollout | deferDispatch => cases ha

/-! ## Hosts in flight -/

/-- The hosts that the gate counts for one rollout. -/
def countedHosts (fs : FleetState) (selector : Selector) (row : RolloutId × RolloutSummary) :
    List HostId :=
  match row.2.budgets.find? (·.selector = selector) with
  | none => []
  | some budget => (inFlightRows fs row.1 budget.hosts).map (·.1.2)

theorem inFlightCount_eq_length (fs : FleetState) (selector : Selector) :
    inFlightCount fs selector = (fs.rollouts.rows.flatMap (countedHosts fs selector)).length := by
  rw [List.length_flatMap]
  unfold inFlightCount countedHosts
  refine congrArg List.sum (List.map_congr_left fun row _ => ?_)
  cases row.2.budgets.find? (·.selector = selector) with
  | none => rfl
  | some budget => rw [List.length_map]

/-- Distinct hosts that are in flight under a budget of the selector are all counted. -/
theorem length_le_inFlightCount {fs : FleetState} {selector : Selector} {hosts : List HostId}
    (hnodup : hosts.Nodup) (hcounted : ∀ host ∈ hosts, ∃ rid summary budget r,
      fs.rollouts.lookup rid = some summary ∧
      summary.budgets.find? (·.selector = selector) = some budget ∧ host ∈ budget.hosts ∧
      fs.hostStates.lookup (rid, host) = some r ∧ r.state.isInFlight = true) :
    hosts.length ≤ inFlightCount fs selector := by
  have hsubset : hosts ⊆ fs.rollouts.rows.flatMap (countedHosts fs selector) := by
    intro host hhost
    obtain ⟨rid, summary, budget, r, hsummary, hfind, hmem, hr, hflight⟩ := hcounted host hhost
    refine List.mem_flatMap.mpr ⟨(rid, summary), Table.mem_rows.mpr hsummary, ?_⟩
    have hrow : ((rid, host), r) ∈ inFlightRows fs rid budget.hosts := by
      refine List.mem_filter.mpr ⟨Table.mem_rows.mpr hr, ?_⟩
      simp [hmem, hflight]
    unfold countedHosts
    rw [hfind]
    exact List.mem_map.mpr ⟨((rid, host), r), hrow, rfl⟩
  rw [inFlightCount_eq_length]
  exact (List.subperm_of_subset hnodup hsubset).length_le

section Shared

variable {fs : FleetState} {selector : Selector} {hosts : List HostId} {max : Nat}

theorem carries_eq_true {rid : RolloutId} :
    fs.carries selector rid = true ↔
      ∃ summary, fs.rollouts.lookup rid = some summary ∧
        ∃ b ∈ summary.budgets, b.selector = selector := by
  unfold FleetState.carries
  cases fs.rollouts.lookup rid with
  | none => simp
  | some summary => simp

/-- The gate counts every host in flight of a rollout that carries the budget. -/
theorem hostsInFlight_carried_le (hshared : fs.SharedBudget selector hosts max) :
    (hostsInFlight (fs.carriedStates selector) hosts).length ≤ inFlightCount fs selector := by
  refine length_le_inFlightCount ((List.nodup_dedup hosts).filter _) fun h hh => ?_
  obtain ⟨hmem, rid, r, hr, hfl⟩ := mem_hostsInFlight.mp hh
  obtain ⟨hlook, hcar⟩ := (Table.lookup_filterRows _ _ _ _).mp hr
  obtain ⟨summary, hs, b, hb, hsel⟩ := carries_eq_true.mp hcar
  cases hfind : summary.budgets.find? (·.selector = selector) with
  | none => exact absurd hsel (by simpa using List.find?_eq_none.mp hfind b hb)
  | some budget =>
      have hbud := hshared _ (Table.mem_rows.mpr hs) budget (List.mem_of_find?_eq_some hfind)
        (by simpa using List.find?_some hfind)
      exact ⟨rid, summary, budget, r, hs, hfind, hbud.1 ▸ hmem, hlook, hfl⟩

/-- **Dispatches of the rollouts that carry the budget.** -/
theorem dispatchesIn_le (order : MapOrders) (m : SignedManifestSet) (q : QuarantineSet)
    (now : Time) (hshared : fs.SharedBudget selector hosts max) :
    (planNext order m fs q now).countP (·.dispatchesIn (fs.carries selector) hosts) ≤
      max - (hostsInFlight (fs.carriedStates selector) hosts).length := by
  have hguard : ∀ c ∈ candidates order fs, fs.carries selector c.rolloutId = true →
      c.admittedOf m fs q hosts = true → ∃ b ∈ c.summary.budgets, b.selector = selector ∧
        c.host ∈ b.hosts ∧ ∃ max' ∈ b.maxInFlight, max' ≤ max := by
    intro c hc hcar hadm
    have hrow := (mem_candidates.mp hc).1
    obtain ⟨summary, hs, b, hb, hsel⟩ := carries_eq_true.mp hcar
    rw [hrow] at hs
    cases hs
    obtain ⟨hhosts, hmax⟩ := hshared _ (Table.mem_rows.mpr hrow) b hb hsel
    have hhost : c.host ∈ hosts := by
      simp only [Candidate.admittedOf, Bool.and_eq_true, decide_eq_true_eq] at hadm
      exact hadm.1
    exact ⟨b, hb, hsel, hhosts ▸ hhost, max, hmax, le_rfl⟩
  have hlimit := countP_dispatchActions_within m q now
    (fun c hc => (mem_candidates.mp hc).1) hguard fun _ => 0
  have hflight := hostsInFlight_carried_le hshared
  rw [planNext, List.countP_append, countP_openActions_dispatchesIn]
  omega

theorem hostsInFlight_carriedStates (honly : fs.OnlyCarried selector hosts) :
    hostsInFlight (fs.carriedStates selector) hosts = hostsInFlight fs.hostStates hosts := by
  refine List.filter_congr fun h hh => ?_
  rw [Bool.eq_iff_iff]
  simp only [List.any_eq_true, decide_eq_true_eq, Prod.exists, Table.mem_rows,
    FleetState.carriedStates, Table.lookup_filterRows]
  constructor
  · rintro ⟨rid, host, r, ⟨hr, -⟩, heq⟩
    exact ⟨rid, host, r, hr, heq⟩
  · rintro ⟨rid, host, r, hr, rfl, hfl⟩
    exact ⟨rid, host, r, ⟨hr, honly _ (Table.mem_rows.mpr hr) (List.mem_dedup.mp hh) (.inr hfl)⟩,
      rfl, hfl⟩

theorem countP_dispatchesTo_eq_dispatchesIn (order : MapOrders) (m : SignedManifestSet)
    (q : QuarantineSet) (now : Time) (honly : fs.OnlyCarried selector hosts) :
    (planNext order m fs q now).countP (·.dispatchesTo hosts) =
      (planNext order m fs q now).countP (·.dispatchesIn (fs.carries selector) hosts) := by
  refine List.countP_congr fun a ha => ?_
  cases a with
  | openRollout | deferDispatch => simp [PlanAction.dispatchesTo, PlanAction.dispatchesIn]
  | queueDispatch host rid closure due =>
      simp only [PlanAction.dispatchesTo, PlanAction.dispatchesIn, Bool.and_eq_true,
        decide_eq_true_eq, iff_and_self]
      intro hhost
      obtain ⟨c, hc, rfl, rfl, -⟩ := exists_candidate_of_queueDispatch ha
      obtain ⟨-, -, hstate, hwait⟩ := mem_candidates.mp hc
      exact honly _ (Table.mem_rows.mpr hstate) hhost (.inl hwait)

end Shared

/-- **A shared budget within one plan.** When all budgets with a selector have one host list and
one limit, the rollouts that carry it get at most as many dispatches to its hosts as their hosts
in flight leave of the limit. Where all work on these hosts belongs to such rollouts, the bound
is one for all dispatches to the hosts, and counts all of them that are in flight. -/
theorem budget_within_tick (order : MapOrders) (m : SignedManifestSet) (fs : FleetState)
    (q : QuarantineSet) (now : Time) (selector : Selector) (hosts : List HostId) (max : Nat)
    (hshared : fs.SharedBudget selector hosts max) :
    (planNext order m fs q now).countP (·.dispatchesIn (fs.carries selector) hosts) ≤
        max - (hostsInFlight (fs.carriedStates selector) hosts).length ∧
    (fs.OnlyCarried selector hosts →
      BudgetWithinTick fs hosts max (planNext order m fs q now)) := by
  have hle := dispatchesIn_le order m q now hshared
  refine ⟨hle, fun honly => ?_⟩
  unfold BudgetWithinTick
  rwa [countP_dispatchesTo_eq_dispatchesIn order m q now honly,
    ← hostsInFlight_carriedStates honly]

/-- The budget of at most one of the hosts `a` and `b`. -/
def oneOfTwo : RolloutBudget := ⟨{ Selector.empty with all := true }, ["a", "b"], some 1, none⟩

/-- A fleet of two hosts with that budget. -/
def oneOfTwoManifests : SignedManifestSet :=
  stableManifests (stableFleet "r1" [("a", "new"), ("b", "new")] ⟨"all-at-once", [], .halt⟩ [] []
    [⟨{ Selector.empty with all := true }, some 1, none⟩])

/-- Both hosts wait in one rollout that carries the budget, and one of them is dispatched. -/
theorem oneOfTwo_within_tick :
    (stableOpened oneOfTwoManifests).SharedBudget oneOfTwo.selector ["a", "b"] 1 ∧
    BudgetWithinTick (stableOpened oneOfTwoManifests) ["a", "b"] 1
      (planNext .stored oneOfTwoManifests (stableOpened oneOfTwoManifests) .new 0) := by
  have hshared : (stableOpened oneOfTwoManifests).SharedBudget oneOfTwo.selector ["a", "b"] 1 := by
    decide
  exact ⟨hshared, (budget_within_tick .stored oneOfTwoManifests (stableOpened oneOfTwoManifests)
    .new 0 oneOfTwo.selector ["a", "b"] 1 hshared).2 (by decide)⟩

/-- The host `b` is on a channel whose rollout was resolved before the budget was declared. -/
def mixedState : FleetState :=
  let stable := RolloutId.new "stable" "r1"
  let edge := RolloutId.new "edge" "r0"
  { hostStates := ((∅ : Table (RolloutId × HostId) HostRolloutState).insert (stable, "a")
      (.newPending stable "a" "stable" "new" 0 0)).insert (edge, "b")
      (.newPending edge "b" "edge" "new" 0 0)
    rollouts := ((∅ : Table RolloutId RolloutSummary).insert stable
      ⟨stable, "stable", "r1", 0, none, 0, [oneOfTwo]⟩).insert edge
      ⟨edge, "edge", "r0", 0, none, 0, []⟩
    outstandingFailingEnforceProbes := ∅ }

/-- All budgets of the selector agree, and yet one plan dispatches to both hosts. -/
theorem mixedState_not_within_tick :
    mixedState.SharedBudget oneOfTwo.selector ["a", "b"] 1 ∧
    ¬ BudgetWithinTick mixedState ["a", "b"] 1
      (planNext .stored oneOfTwoManifests mixedState .new 0) := by
  decide

end Nixfleet
