import Nixfleet.Reconciler.Planner

set_option autoImplicit false

/-!
# What a plan contains

A queued dispatch comes from a candidate that every gate let pass at its turn
(`exists_candidate_of_queueDispatch`). The gates only get stricter as the counter of the call
grows, so the candidate also passes with the empty counter. In the other direction a candidate
that passes is dispatched, unless the dispatch of another one uses up a budget that both share
(`exists_dispatch_of_evaluate`).
-/

namespace Nixfleet

/-! ## Gates -/

theorem evaluateForDispatch_eq_none {fs : FleetState} {m : SignedManifestSet}
    {q : QuarantineSet} {rid : RolloutId} {host : HostId} {c : ClosureHash} {ch : ChannelId}
    {tick : TickDispatched} :
    evaluateForDispatch fs m q rid host c ch tick = none ↔
      quarantineCheck q ch c = none ∧ channelEdgesCheck fs m ch = none ∧
      wavePromotionCheck fs m host rid = none ∧ hostEdgesCheck fs m host rid = none ∧
      disruptionBudgetCheck fs rid host tick = none ∧
      complianceWaveCheck fs m host rid = none := by
  simp only [evaluateForDispatch, Option.or_eq_none_iff]

/-- The budget gate passes iff every budget with a limit that lists the host is below it. -/
theorem disruptionBudgetCheck_eq_none {fs : FleetState} {rid : RolloutId} {host : HostId}
    {tick : TickDispatched} :
    disruptionBudgetCheck fs rid host tick = none ↔
      ∀ summary, fs.rollouts.lookup rid = some summary → ∀ b ∈ summary.budgets,
        host ∈ b.hosts → ∀ max, b.maxInFlight = some max →
          inFlightCount fs b.selector + tick b.selector < max := by
  unfold disruptionBudgetCheck
  cases hr : fs.rollouts.lookup rid with
  | none => simp
  | some summary =>
      simp only [Option.some.injEq, forall_eq', List.findSome?_eq_none_iff]
      refine forall_congr' fun b => imp_congr_right fun _ => ?_
      have hmem : b.hosts.any (· == host) = true ↔ host ∈ b.hosts := by simp
      by_cases hh : host ∈ b.hosts
      · cases hm : b.maxInFlight with
        | none => simp
        | some max => simp [hmem.mpr hh, hh]
      · have hany : b.hosts.any (· == host) = false := by
          rw [← Bool.not_eq_true, hmem]
          exact hh
        simp [hany, hh]

/-- A gate that passes at some counter passes at every smaller one. -/
theorem evaluateForDispatch_mono {fs : FleetState} {m : SignedManifestSet} {q : QuarantineSet}
    {rid : RolloutId} {host : HostId} {c : ClosureHash} {ch : ChannelId}
    {tick tick' : TickDispatched} (hle : ∀ s, tick' s ≤ tick s)
    (h : evaluateForDispatch fs m q rid host c ch tick = none) :
    evaluateForDispatch fs m q rid host c ch tick' = none := by
  rw [evaluateForDispatch_eq_none] at h ⊢
  obtain ⟨h1, h2, h3, h4, h5, h6⟩ := h
  refine ⟨h1, h2, h3, h4, ?_, h6⟩
  rw [disruptionBudgetCheck_eq_none] at h5 ⊢
  intro summary hs b hb hh max hm
  have hlt := h5 summary hs b hb hh max hm
  have := hle b.selector
  omega

/-- The counter matters only to a host that a budget with a limit lists. -/
theorem evaluateForDispatch_congr {fs : FleetState} {m : SignedManifestSet} {q : QuarantineSet}
    {rid : RolloutId} {host : HostId} {c : ClosureHash} {ch : ChannelId}
    {tick tick' : TickDispatched}
    (hfree : ∀ summary, fs.rollouts.lookup rid = some summary → ∀ b ∈ summary.budgets,
      b.maxInFlight.isSome → host ∉ b.hosts)
    (h : evaluateForDispatch fs m q rid host c ch tick = none) :
    evaluateForDispatch fs m q rid host c ch tick' = none := by
  rw [evaluateForDispatch_eq_none] at h ⊢
  obtain ⟨h1, h2, h3, h4, -, h6⟩ := h
  refine ⟨h1, h2, h3, h4, ?_, h6⟩
  rw [disruptionBudgetCheck_eq_none]
  intro summary hs b hb hh max hm
  exact absurd hh (hfree summary hs b hb (by simp [hm]))

/-! ## Candidates -/

theorem mem_candidates {order : MapOrders} {fs : FleetState} {c : Candidate} :
    c ∈ candidates order fs ↔
      fs.rollouts.lookup c.rolloutId = some c.summary ∧ c.summary.terminalAt = none ∧
      fs.hostStates.lookup (c.rolloutId, c.host) = some c.record ∧
      c.record.awaitsDispatch = true := by
  simp only [candidates, List.mem_flatMap, List.mem_filter, mem_iterBy, List.mem_map,
    Prod.exists, Table.mem_rows, Bool.and_eq_true, decide_eq_true_eq,
    Option.isNone_iff_eq_none]
  constructor
  · rintro ⟨rid, summary, ⟨hr, ht⟩, rid', host, s, ⟨hs, hrid, hw⟩, rfl⟩
    exact ⟨hr, ht, hrid ▸ hs, hw⟩
  · rintro ⟨hr, ht, hs, hw⟩
    exact ⟨c.rolloutId, c.summary, ⟨hr, ht⟩, c.rolloutId, c.host, c.record, ⟨hs, rfl, hw⟩, rfl⟩

theorem awaitsDispatch_iff {s : HostRolloutState} :
    s.awaitsDispatch = true ↔ s.state = .pending ∧ s.dispatchAckedAt = none := by
  simp [HostRolloutState.awaitsDispatch]

/-! ## Actions -/

theorem queueDispatch_not_mem_openActions {order : MapOrders} {m : SignedManifestSet}
    {fs : FleetState} {host : HostId} {rid : RolloutId} {c : ClosureHash} {due : Time} :
    .queueDispatch host rid c due ∉ openActions order m fs := by
  simp only [openActions, List.mem_filterMap, not_exists, not_and]
  intro e _
  split <;> simp

theorem openRollout_not_mem_dispatchActions {m : SignedManifestSet} {fs : FleetState}
    {q : QuarantineSet} {now : Time} {tick : TickDispatched} {cs : List Candidate}
    {rid : RolloutId} {channel : ChannelId} {targetRef : ChannelRef} :
    .openRollout rid channel targetRef ∉ dispatchActions m fs q now tick cs := by
  induction cs generalizing tick with
  | nil => simp [dispatchActions]
  | cons c rest ih =>
      simp only [dispatchActions]
      split <;> simp [ih]

/-- **What the planner opens.** The rollouts of the manifests that it sees no row of. -/
theorem openRollout_mem_planNext {order : MapOrders} {m : SignedManifestSet} {fs : FleetState}
    {q : QuarantineSet} {now : Time} {rid : RolloutId} {channel : ChannelId}
    {targetRef : ChannelRef} :
    .openRollout rid channel targetRef ∈ planNext order m fs q now ↔
      ∃ manifest, m.rollouts.lookup channel = some manifest ∧
        rid = .new channel manifest.channelRef ∧ targetRef = manifest.channelRef ∧
        fs.rollouts.lookup rid = none := by
  rw [planNext, List.mem_append, or_iff_left openRollout_not_mem_dispatchActions]
  simp only [openActions, List.mem_filterMap, Prod.exists, mem_iterBy, Table.mem_rows]
  constructor
  · rintro ⟨channel', manifest, hlook, hif⟩
    split at hif
    · cases hif
    · rename_i hnone
      cases hif
      exact ⟨manifest, hlook, rfl, rfl, by simpa using hnone⟩
  · rintro ⟨manifest, hlook, rfl, rfl, hnone⟩
    exact ⟨channel, manifest, hlook, by simp [hnone]⟩

/-- A dispatch comes from a candidate that the gates let pass at its turn. -/
theorem exists_of_queueDispatch_mem_dispatchActions {m : SignedManifestSet} {fs : FleetState}
    {q : QuarantineSet} {now : Time} {tick : TickDispatched} {cs : List Candidate}
    {host : HostId} {rid : RolloutId} {closure : ClosureHash} {due : Time}
    (h : .queueDispatch host rid closure due ∈ dispatchActions m fs q now tick cs) :
    ∃ c ∈ cs, c.rolloutId = rid ∧ c.host = host ∧ closure = c.record.targetClosure ∧
      due = c.record.soakDueAt.getD now ∧ c.evaluate m fs q (fun _ => 0) = none := by
  induction cs generalizing tick with
  | nil => simp [dispatchActions] at h
  | cons c rest ih =>
      simp only [dispatchActions] at h
      split at h
      · have h' := (List.mem_cons.mp h).resolve_left (by simp)
        obtain ⟨c', hmem, hrest⟩ := ih h'
        exact ⟨c', List.mem_cons_of_mem _ hmem, hrest⟩
      · rename_i heval
        rcases List.mem_cons.mp h with heq | h'
        · simp only [PlanAction.queueDispatch.injEq] at heq
          obtain ⟨rfl, rfl, rfl, rfl⟩ := heq
          exact ⟨c, List.mem_cons_self, rfl, rfl, rfl, rfl,
            evaluateForDispatch_mono (fun _ => Nat.zero_le _) heval⟩
        · obtain ⟨c', hmem, hrest⟩ := ih h'
          exact ⟨c', List.mem_cons_of_mem _ hmem, hrest⟩

/-- **What a queued dispatch says about the planner's input.** -/
theorem exists_candidate_of_queueDispatch {order : MapOrders} {m : SignedManifestSet}
    {fs : FleetState} {q : QuarantineSet} {now : Time} {host : HostId} {rid : RolloutId}
    {closure : ClosureHash} {due : Time}
    (h : .queueDispatch host rid closure due ∈ planNext order m fs q now) :
    ∃ c ∈ candidates order fs, c.rolloutId = rid ∧ c.host = host ∧
      closure = c.record.targetClosure ∧ due = c.record.soakDueAt.getD now ∧
      c.evaluate m fs q (fun _ => 0) = none := by
  rw [planNext, List.mem_append] at h
  exact exists_of_queueDispatch_mem_dispatchActions
    (h.resolve_left queueDispatch_not_mem_openActions)

/-! ## The counter of a tick -/

/-- The budgets with the selector that list the host. -/
def listings (budgets : List RolloutBudget) (host : HostId) (selector : Selector) : Nat :=
  budgets.countP fun b => b.selector = selector ∧ host ∈ b.hosts

/-- **What one dispatch adds to the counter.** One for every budget that lists the host. -/
theorem countDispatch_apply (budgets : List RolloutBudget) (host : HostId)
    (tick : TickDispatched) (selector : Selector) :
    countDispatch budgets host tick selector = tick selector + listings budgets host selector := by
  unfold countDispatch listings
  induction budgets generalizing tick with
  | nil => rfl
  | cons b rest ih =>
      rw [List.foldl_cons, ih, List.countP_cons]
      by_cases hhost : host ∈ b.hosts
      · have hany : b.hosts.any (· == host) = true := by simpa using hhost
        rw [if_pos hany]
        by_cases hsel : b.selector = selector
        · simp [hsel, hhost]
          omega
        · simp [hsel, Ne.symm hsel]
      · have hany : b.hosts.any (· == host) = true ↔ host ∈ b.hosts := by simp
        rw [if_neg (hany.not.mpr hhost)]
        simp [hhost]

theorem listings_pos {budgets : List RolloutBudget} {host : HostId} {b : RolloutBudget}
    (hb : b ∈ budgets) (hhost : host ∈ b.hosts) : 0 < listings budgets host b.selector :=
  List.countP_pos_iff.mpr ⟨b, hb, by simpa using hhost⟩

/-- Counting a dispatch leaves a selector alone that no budget of the host has. -/
theorem countDispatch_of_ne {budgets : List RolloutBudget} {host : HostId} {selector : Selector}
    (h : ∀ b ∈ budgets, host ∈ b.hosts → b.selector ≠ selector) (tick : TickDispatched) :
    countDispatch budgets host tick selector = tick selector := by
  have hzero : listings budgets host selector = 0 := by
    refine List.countP_eq_zero.mpr fun b hb hp => ?_
    obtain ⟨hsel, hhost⟩ := of_decide_eq_true hp
    exact h b hb hhost hsel
  rw [countDispatch_apply, hzero, Nat.add_zero]

/-! ## Progress -/

/-- The candidates are listed by budgets with one selector. -/
def Candidate.SharesBudget (c' c : Candidate) : Prop :=
  ∃ b ∈ c.summary.budgets, c.host ∈ b.hosts ∧
    ∃ b' ∈ c'.summary.budgets, c'.host ∈ b'.hosts ∧ b'.selector = b.selector

/-- A dispatch of a host that shares no budget does not change the gates' answer. -/
theorem evaluate_countDispatch {m : SignedManifestSet} {fs : FleetState} {q : QuarantineSet}
    {tick : TickDispatched} {c d : Candidate}
    (hc : fs.rollouts.lookup c.rolloutId = some c.summary) (hshare : ¬ d.SharesBudget c)
    (h : c.evaluate m fs q tick = none) :
    c.evaluate m fs q (countDispatch d.summary.budgets d.host tick) = none := by
  unfold Candidate.evaluate at h ⊢
  rw [evaluateForDispatch_eq_none] at h ⊢
  obtain ⟨h1, h2, h3, h4, h5, h6⟩ := h
  refine ⟨h1, h2, h3, h4, ?_, h6⟩
  rw [disruptionBudgetCheck_eq_none] at h5 ⊢
  intro summary hs b hb hhost max hmax
  have hsame : countDispatch d.summary.budgets d.host tick b.selector = tick b.selector := by
    refine countDispatch_of_ne ?_ tick
    intro b' hb' hhost' hsel
    rw [hc] at hs
    cases hs
    exact hshare ⟨b, hb, hhost, b', hb', hhost', hsel⟩
  rw [hsame]
  exact h5 summary hs b hb hhost max hmax

/-- **Some candidate is dispatched.** If the gates let a candidate pass at the counter the
loop starts with, the loop dispatches it, or another one that shares a budget with it. -/
theorem exists_dispatch_of_evaluate {m : SignedManifestSet} {fs : FleetState}
    {q : QuarantineSet} {now : Time} {cs : List Candidate} {c : Candidate} (hmem : c ∈ cs)
    (hc : fs.rollouts.lookup c.rolloutId = some c.summary) {tick : TickDispatched}
    (h : c.evaluate m fs q tick = none) :
    ∃ c' ∈ cs, .queueDispatch c'.host c'.rolloutId c'.record.targetClosure
        (c'.record.soakDueAt.getD now) ∈ dispatchActions m fs q now tick cs ∧
      (c' = c ∨ c'.SharesBudget c) := by
  induction cs generalizing tick with
  | nil => cases hmem
  | cons d rest ih =>
      simp only [dispatchActions]
      cases hd : d.evaluate m fs q tick with
      | some block =>
          -- the head is held back, so it is not the candidate
          have hrest : c ∈ rest := by
            rcases List.mem_cons.mp hmem with rfl | hrest
            · rw [h] at hd
              cases hd
            · exact hrest
          obtain ⟨c', hc', hq, hwhich⟩ := ih hrest h
          exact ⟨c', List.mem_cons_of_mem _ hc', List.mem_cons_of_mem _ hq, hwhich⟩
      | none =>
          rcases List.mem_cons.mp hmem with rfl | hrest
          · exact ⟨c, List.mem_cons_self, List.mem_cons_self, .inl rfl⟩
          · by_cases hshare : d.SharesBudget c
            · exact ⟨d, List.mem_cons_self, List.mem_cons_self, .inr hshare⟩
            · have hnext := evaluate_countDispatch hc hshare h
              obtain ⟨c', hc', hq, hwhich⟩ := ih hrest hnext
              exact ⟨c', List.mem_cons_of_mem _ hc', List.mem_cons_of_mem _ hq, hwhich⟩

end Nixfleet
