import Nixfleet.Reconciler.Gates

set_option autoImplicit false

/-!
# When a gate lets a host pass

One lemma per gate, as an equivalence where the gate has an exact condition. The budget gate is
treated with the planner's counter.
-/

namespace Nixfleet

/-! ## Waves -/

/-- A host of a wave is first listed in that wave or an earlier one. -/
theorem waveOf_le_of_mem {waves : List Wave} {host : HostId} {n : Nat} {wave : Wave}
    (hwave : waves[n]? = some wave) (hmem : host ∈ wave.hosts) :
    ∃ k, waveOf waves host = some k ∧ k ≤ n := by
  have hex : ∃ w ∈ waves, (w.hosts.any (· == host)) = true :=
    ⟨wave, List.mem_of_getElem? hwave, by simpa using hmem⟩
  refine ⟨_, List.findIdx?_eq_some_of_exists hex, ?_⟩
  by_contra hlt
  have hn : n < waves.findIdx fun w => w.hosts.any (· == host) := Nat.lt_of_not_le hlt
  have hnot := List.not_of_lt_findIdx hn
  obtain ⟨hlen, rfl⟩ := List.getElem?_eq_some_iff.mp hwave
  have hany : (waves[n].hosts.any (· == host)) = true := by simpa using hmem
  exact Bool.false_ne_true (hnot.symm.trans hany)

theorem waveOf_lt_length {waves : List Wave} {host : HostId} {k : Nat}
    (h : waveOf waves host = some k) : k < waves.length :=
  (List.findIdx?_eq_some_iff_getElem.mp h).1

section Gates

variable {fs : FleetState} {m : SignedManifestSet} {host : HostId} {rid : RolloutId} {h : Host}

/-- The wave gate passes iff the channel has no waves, or the host's wave is reached. -/
theorem wavePromotionCheck_eq_none (hh : m.fleet.hosts.lookup host = some h)
    {summary : RolloutSummary} (hs : fs.rollouts.lookup rid = some summary) :
    wavePromotionCheck fs m host rid = none ↔
      (m.fleet.waves.lookup h.channel).getD [] = [] ∨
        ∃ k, waveOf ((m.fleet.waves.lookup h.channel).getD []) host = some k ∧
          k ≤ summary.currentWave := by
  unfold wavePromotionCheck
  simp only [hh]
  cases hw : m.fleet.waves.lookup h.channel with
  | none => simp
  | some waves =>
      cases waves with
      | nil => simp
      | cons wave waves =>
          cases hk : waveOf (wave :: waves) host with
          | none => simp [hk]
          | some k => simp [hk, hs]

/-- The edge gate passes iff every gating host on the host's channel is done with the
rollout. -/
theorem hostEdgesCheck_eq_none (hh : m.fleet.hosts.lookup host = some h) :
    hostEdgesCheck fs m host rid = none ↔
      ∀ e ∈ m.fleet.edges, e.gated = host → ∀ g, m.fleet.hosts.lookup e.gates = some g →
        g.channel = h.channel →
          ∃ s, fs.hostStates.lookup (rid, e.gates) = some s ∧ s.state.orderingEligible = true := by
  simp only [hostEdgesCheck, hh, Option.map_eq_none_iff, List.find?_eq_none, List.mem_filter,
    decide_eq_true_eq, Bool.and_eq_true, Bool.not_eq_true', not_and, and_imp]
  refine forall_congr' fun e => imp_congr_right fun _ => imp_congr_right fun _ => ?_
  cases m.fleet.hosts.lookup e.gates with
  | none => simp
  | some g =>
      cases fs.hostStates.lookup (rid, e.gates) with
      | none => simp
      | some s => simp

/-- The channel gate passes iff no predecessor of the channel is active. -/
theorem channelEdgesCheck_eq_none {channel : ChannelId} :
    channelEdgesCheck fs m channel = none ↔
      ∀ e ∈ m.fleet.channelEdges, e.gated = channel → predecessorActive fs m e.gates = false := by
  simp only [channelEdgesCheck, Option.map_eq_none_iff, List.find?_eq_none, List.mem_filter,
    decide_eq_true_eq, Bool.not_eq_true, and_imp]

/-- A predecessor is active iff it has a manifest whose rollout is missing or not finished. -/
theorem predecessorActive_eq_false {channel : ChannelId} :
    predecessorActive fs m channel = false ↔
      ∀ manifest, m.rollouts.lookup channel = some manifest →
        ∃ summary, fs.rollouts.lookup (.new channel manifest.channelRef) = some summary ∧
          summary.terminalAt.isSome = true := by
  unfold predecessorActive
  cases m.rollouts.lookup channel with
  | none => simp
  | some manifest =>
      cases hs : fs.rollouts.lookup (.new channel manifest.channelRef) with
      | none => simp [hs]
      | some summary => cases ht : summary.terminalAt <;> simp [hs, ht]

theorem complianceWaveCheck_eq_none
    (hnone : fs.outstandingFailingEnforceProbes.lookup rid = none) :
    complianceWaveCheck fs m host rid = none := by
  unfold complianceWaveCheck
  split
  · rfl
  · dsimp only
    split
    · rfl
    · rfl
    · rw [hnone]

@[simp] theorem quarantineCheck_new (channel : ChannelId) (closure : ClosureHash) :
    quarantineCheck QuarantineSet.new channel closure = none := rfl

end Gates

end Nixfleet
