import Mathlib.Data.List.Dedup
import Nixfleet.Reconciler.Manifest
import Nixfleet.Reconciler.PlannerFacts

set_option autoImplicit false

/-!
# Percentage budgets

A budget may give its limit as a percentage of its hosts. The budget gate reads
`max_in_flight` only, so such a budget holds nobody back. `pctBudgetBinds_of_fits` says when
the limit is respected all the same: the other gates admit few enough of its hosts.
-/

namespace Nixfleet

/-- The hosts of a list that are `Activating` or `Soaking` in some rollout. -/
def hostsInFlight (records : Table (RolloutId × HostId) HostRolloutState) (hosts : List HostId) :
    List HostId :=
  hosts.dedup.filter fun h => records.rows.any fun r => r.1.2 = h ∧ r.2.state.isInFlight

theorem mem_hostsInFlight {records : Table (RolloutId × HostId) HostRolloutState}
    {hosts : List HostId} {h : HostId} :
    h ∈ hostsInFlight records hosts ↔
      h ∈ hosts ∧ ∃ rid r, records.lookup (rid, h) = some r ∧ r.state.isInFlight = true := by
  simp only [hostsInFlight, List.mem_filter, List.mem_dedup, List.any_eq_true,
    decide_eq_true_eq, Prod.exists, Table.mem_rows]
  refine and_congr_right fun _ => ⟨?_, ?_⟩
  · rintro ⟨rid, host, r, hr, rfl, hfl⟩
    exact ⟨rid, r, hr, hfl⟩
  · rintro ⟨rid, r, hr, hfl⟩
    exact ⟨rid, h, r, hr, rfl, hfl⟩

/-- The action dispatches to a host of the list. -/
def PlanAction.dispatchesTo (hosts : List HostId) : PlanAction → Bool
  | .queueDispatch host _ _ _ => host ∈ hosts
  | _ => false

/-- The limit of a percentage budget, as `mk-fleet` computes it. -/
def pctLimit (hosts : List HostId) (pct : Nat) : Nat := max 1 (hosts.length * pct / 100)

/-- No action dispatches to a host of the budget once the hosts in flight and the dispatches
before it in the same plan have reached the limit. -/
def PctBudgetBinds (fs : FleetState) (b : RolloutBudget) (actions : List PlanAction) : Prop :=
  ∀ pct, b.maxInFlightPct = some pct → b.maxInFlight = none →
    ∀ before a after, actions = before ++ a :: after → a.dispatchesTo b.hosts = true →
      (hostsInFlight fs.hostStates b.hosts).length + before.countP (·.dispatchesTo b.hosts) <
        pctLimit b.hosts pct

/-- The candidate is one of the hosts, and passes every gate when nothing is dispatched yet. -/
def Candidate.admittedOf (c : Candidate) (m : SignedManifestSet) (fs : FleetState)
    (q : QuarantineSet) (hosts : List HostId) : Bool :=
  c.host ∈ hosts && (c.evaluate m fs q fun _ => 0).isNone

/-- The candidates among the hosts that pass every gate when nothing is dispatched yet. -/
def admitted (order : MapOrders) (m : SignedManifestSet) (fs : FleetState) (q : QuarantineSet)
    (hosts : List HostId) : List Candidate :=
  (candidates order fs).filter (·.admittedOf m fs q hosts)

/-- The hosts in flight and all admitted candidates together stay within the limit. -/
def PctBudgetFits (order : MapOrders) (m : SignedManifestSet) (fs : FleetState)
    (q : QuarantineSet) (b : RolloutBudget) : Prop :=
  ∀ pct, b.maxInFlightPct = some pct → b.maxInFlight = none →
    admitted order m fs q b.hosts = [] ∨
    (hostsInFlight fs.hostStates b.hosts).length + (admitted order m fs q b.hosts).length ≤
      pctLimit b.hosts pct

/-- No budget with a `max_in_flight` lists one of the hosts. -/
def NoLimitOn (fs : FleetState) (hosts : List HostId) : Prop :=
  ∀ rid summary, fs.rollouts.lookup rid = some summary → ∀ b ∈ summary.budgets,
    b.maxInFlight.isSome → ∀ host ∈ hosts, host ∉ b.hosts

/-! ## Counting dispatches -/

section Count

variable {order : MapOrders} {m : SignedManifestSet} {fs : FleetState} {q : QuarantineSet}
  {now : Time} {hosts : List HostId}

/-- A plan dispatches at most once for every admitted candidate. -/
theorem countP_dispatchActions_le (tick : TickDispatched) (cs : List Candidate) :
    (dispatchActions m fs q now tick cs).countP (·.dispatchesTo hosts) ≤
      cs.countP (·.admittedOf m fs q hosts) := by
  induction cs generalizing tick with
  | nil => simp [dispatchActions]
  | cons c rest ih =>
      simp only [dispatchActions]
      split
      · have hrest := ih tick
        rw [List.countP_cons, List.countP_cons]
        simp only [PlanAction.dispatchesTo, Bool.false_eq_true, if_false, Nat.add_zero]
        exact Nat.le_add_right_of_le hrest
      · rename_i heval
        have hrest := ih (countDispatch c.summary.budgets c.host tick)
        have hzero : c.evaluate m fs q (fun _ => 0) = none :=
          evaluateForDispatch_mono (fun _ => Nat.zero_le _) heval
        rw [List.countP_cons, List.countP_cons]
        simp only [PlanAction.dispatchesTo, Candidate.admittedOf, hzero, Option.isNone_none,
          Bool.and_true]
        exact Nat.add_le_add_right hrest _

/-- Without a limit on the hosts it dispatches exactly once for each. -/
theorem countP_dispatchActions_eq (hfree : NoLimitOn fs hosts) (tick : TickDispatched)
    (cs : List Candidate) (hcs : ∀ c ∈ cs, fs.rollouts.lookup c.rolloutId = some c.summary) :
    (dispatchActions m fs q now tick cs).countP (·.dispatchesTo hosts) =
      cs.countP (·.admittedOf m fs q hosts) := by
  induction cs generalizing tick with
  | nil => simp [dispatchActions]
  | cons c rest ih =>
      have hrest := fun t => ih t fun c hc => hcs c (List.mem_cons_of_mem _ hc)
      simp only [dispatchActions]
      split
      · rename_i block heval
        have hnot : c.admittedOf m fs q hosts = false := by
          by_contra hadm
          simp only [Candidate.admittedOf, Bool.not_eq_false, Bool.and_eq_true,
            decide_eq_true_eq, Option.isNone_iff_eq_none] at hadm
          have hfree' : ∀ summary, fs.rollouts.lookup c.rolloutId = some summary →
              ∀ b ∈ summary.budgets, b.maxInFlight.isSome → c.host ∉ b.hosts :=
            fun summary hs b hb hmax => hfree c.rolloutId summary hs b hb hmax c.host hadm.1
          have hpass : c.evaluate m fs q tick = none := evaluateForDispatch_congr hfree' hadm.2
          rw [heval] at hpass
          cases hpass
        rw [List.countP_cons, List.countP_cons, hrest, hnot]
        simp [PlanAction.dispatchesTo]
      · rename_i heval
        have hzero : c.evaluate m fs q (fun _ => 0) = none :=
          evaluateForDispatch_mono (fun _ => Nat.zero_le _) heval
        rw [List.countP_cons, List.countP_cons, hrest]
        simp [PlanAction.dispatchesTo, Candidate.admittedOf, hzero]

theorem countP_openActions : (openActions order m fs).countP (·.dispatchesTo hosts) = 0 := by
  rw [List.countP_eq_zero]
  intro a ha
  simp only [openActions, List.mem_filterMap] at ha
  obtain ⟨e, -, he⟩ := ha
  split at he
  · cases he
  · cases he
    simp [PlanAction.dispatchesTo]

theorem countP_planNext_le :
    (planNext order m fs q now).countP (·.dispatchesTo hosts) ≤
      (admitted order m fs q hosts).length := by
  rw [planNext, List.countP_append, countP_openActions, Nat.zero_add, admitted,
    ← List.countP_eq_length_filter]
  exact countP_dispatchActions_le _ _

theorem countP_planNext_eq (hfree : NoLimitOn fs hosts) :
    (planNext order m fs q now).countP (·.dispatchesTo hosts) =
      (admitted order m fs q hosts).length := by
  rw [planNext, List.countP_append, countP_openActions, Nat.zero_add, admitted,
    ← List.countP_eq_length_filter]
  exact countP_dispatchActions_eq hfree _ _ fun c hc => (mem_candidates.mp hc).1

end Count

/-- The last element of a list that satisfies `p`: all the others stand before it. -/
theorem exists_split_of_countP {α : Type*} {p : α → Bool} {l : List α} {n : Nat}
    (h : l.countP p = n + 1) :
    ∃ before a after, l = before ++ a :: after ∧ p a = true ∧ before.countP p = n := by
  induction l generalizing n with
  | nil => simp at h
  | cons x xs ih =>
      by_cases hx : p x = true
      · rw [List.countP_cons_of_pos hx] at h
        cases n with
        | zero => exact ⟨[], x, xs, rfl, hx, rfl⟩
        | succ k =>
            obtain ⟨before, a, after, rfl, ha, hk⟩ := ih (Nat.succ.inj h)
            exact ⟨x :: before, a, after, rfl, ha, by rw [List.countP_cons_of_pos hx, hk]⟩
      · rw [List.countP_cons_of_neg hx] at h
        obtain ⟨before, a, after, rfl, ha, hk⟩ := ih h
        exact ⟨x :: before, a, after, rfl, ha, by rw [List.countP_cons_of_neg hx, hk]⟩

theorem pctBudgetBinds_of_fits {order : MapOrders} {m : SignedManifestSet} {fs : FleetState}
    {q : QuarantineSet} {now : Time} {b : RolloutBudget} (hfits : PctBudgetFits order m fs q b) :
    PctBudgetBinds fs b (planNext order m fs q now) := by
  intro pct hpct hmax before a after hsplit ha
  have hcount : before.countP (·.dispatchesTo b.hosts) + 1 ≤
      (admitted order m fs q b.hosts).length := by
    have hle : (planNext order m fs q now).countP (·.dispatchesTo b.hosts) ≤
        (admitted order m fs q b.hosts).length := countP_planNext_le
    refine le_trans ?_ hle
    rw [hsplit, List.countP_append, List.countP_cons_of_pos ha]
    omega
  rcases hfits pct hpct hmax with hnil | hle
  · rw [hnil] at hcount
    simp at hcount
  · omega

theorem pctBudgetFits_of_binds {order : MapOrders} {m : SignedManifestSet} {fs : FleetState}
    {q : QuarantineSet} {now : Time} {b : RolloutBudget} (hfree : NoLimitOn fs b.hosts)
    (hbinds : PctBudgetBinds fs b (planNext order m fs q now)) :
    PctBudgetFits order m fs q b := by
  intro pct hpct hmax
  -- the last dispatch stands after all the others
  cases hn : (admitted order m fs q b.hosts).length with
  | zero => exact .inl (List.length_eq_zero_iff.mp hn)
  | succ n =>
      right
      have hcount : (planNext order m fs q now).countP (·.dispatchesTo b.hosts) =
          (admitted order m fs q b.hosts).length := countP_planNext_eq hfree
      obtain ⟨before, a, after, hsplit, ha, hk⟩ := exists_split_of_countP (hcount.trans hn)
      have hlt := hbinds pct hpct hmax before a after hsplit ha
      omega

/-- **When percentage budgets bind.** The limit is respected when the hosts in flight and the
admitted candidates fit into it; and where no other budget limits the hosts, only then. -/
theorem pctBudgetBinds_iff_fits (order : MapOrders) (m : SignedManifestSet) (fs : FleetState)
    (q : QuarantineSet) (now : Time) (b : RolloutBudget) :
    (PctBudgetFits order m fs q b → PctBudgetBinds fs b (planNext order m fs q now)) ∧
    (NoLimitOn fs b.hosts →
      (PctBudgetBinds fs b (planNext order m fs q now) ↔ PctBudgetFits order m fs q b)) :=
  ⟨pctBudgetBinds_of_fits, fun hfree => ⟨pctBudgetFits_of_binds hfree, pctBudgetBinds_of_fits⟩⟩

/-- Two hosts, both to be dispatched, under one percentage budget. -/
def pctFleet (pct : Nat) : SignedManifestSet :=
  stableManifests (stableFleet "r1" [("a", "new"), ("b", "new")] ⟨"all-at-once", [], .halt⟩ [] []
    [⟨{ Selector.empty with all := true }, none, some pct⟩])

/-- The budget of `pctFleet`, as its manifest carries it. -/
def pctBudget (pct : Nat) : RolloutBudget :=
  ⟨{ Selector.empty with all := true }, ["a", "b"], none, some pct⟩

theorem noLimitOn_of_rows {fs : FleetState} {hosts : List HostId}
    (h : ∀ r ∈ fs.rollouts.rows, ∀ b ∈ r.2.budgets, b.maxInFlight = none) :
    NoLimitOn fs hosts := by
  intro rid summary hs b hb hmax
  rw [h _ (Table.mem_rows.mpr hs) b hb] at hmax
  cases hmax

/-- With a limit of all hosts the two candidates fit, so the limit is respected. -/
theorem pctBudget_whole_binds :
    PctBudgetBinds (stableOpened (pctFleet 100)) (pctBudget 100)
      (planNext .stored (pctFleet 100) (stableOpened (pctFleet 100)) .new 0) ∧
    PctBudgetFits .stored (pctFleet 100) (stableOpened (pctFleet 100)) .new (pctBudget 100) := by
  have hfits : PctBudgetFits .stored (pctFleet 100) (stableOpened (pctFleet 100)) .new
      (pctBudget 100) := by
    rintro pct hpct -
    cases hpct
    exact .inr (by decide)
  have hspec := pctBudgetBinds_iff_fits .stored (pctFleet 100) (stableOpened (pctFleet 100)) .new
    0 (pctBudget 100)
  exact ⟨hspec.1 hfits, (hspec.2 (noLimitOn_of_rows (by decide))).mp (hspec.1 hfits)⟩

/-- A budget of 50 percent of two hosts allows one; the plan dispatches to both. -/
theorem pctBudget_half_exceeded :
    pctBudget 50 ∈ budgetSnapshots (pctFleet 50).fleet ∧
    ¬ PctBudgetBinds (stableOpened (pctFleet 50)) (pctBudget 50)
      (planNext .stored (pctFleet 50) (stableOpened (pctFleet 50)) .new 0) := by
  refine ⟨by decide, fun hbinds => ?_⟩
  have hplan : planNext .stored (pctFleet 50) (stableOpened (pctFleet 50)) .new 0 =
      [.queueDispatch "b" (.new "stable" "r1") "new" 0] ++
        .queueDispatch "a" (.new "stable" "r1") "new" 0 :: [] := by decide
  exact absurd (hbinds 50 rfl rfl _ _ _ hplan (by decide)) (by decide)

end Nixfleet
