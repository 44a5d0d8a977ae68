import Nixfleet.Reconciler.GateFacts
import Nixfleet.Reconciler.Manifest
import Nixfleet.ControlPlane.Projection

set_option autoImplicit false

/-!
# The order of channels

A channel edge makes a channel wait for another one. The gate looks the other channel up in the
manifests of the poll: a channel without one counts as one without work, and a rollout with an
end time as one that is done. A manifest that failed to fetch, and a row that ended and was
superseded afterwards, so look like completion. Where neither is the case the edge holds its
channel (`channelsInOrder_iff`).
-/

namespace Nixfleet

/-- The rollout that the fleet declares for a channel. -/
def FleetResolved.declaredRollout (fleet : FleetResolved) (channel : ChannelId) : RolloutId :=
  .new channel (fleet.fleetMeta.ciCommit.getD "")

/-- Some host of the channel has a declared closure. -/
def FleetResolved.DeclaresClosures (fleet : FleetResolved) (channel : ChannelId) : Prop :=
  ∃ host h, fleet.hosts.lookup host = some h ∧ h.channel = channel ∧ h.closureHash.isSome = true

/-- The rollout has a row in state `Terminal`. -/
def Db.TerminalRow (db : Db) (rid : RolloutId) : Prop :=
  ∃ row, db.rollouts.lookup rid = some row ∧ row.state = .terminal

/-- One of the actions dispatches a host for a rollout of the channel. -/
def DispatchesOn (fs : FleetState) (channel : ChannelId) (actions : List PlanAction) : Prop :=
  ∃ host rid closure due summary, .queueDispatch host rid closure due ∈ actions ∧
    fs.rollouts.lookup rid = some summary ∧ summary.channel = channel

/-- No tick dispatches on a channel that waits for a channel with declared closures, unless the
rollout that the fleet declares for that one is `Terminal`. -/
def ChannelsInOrder (cp : Cp) (i : CpInput) : Prop :=
  ∀ m, cp.manifestsAt i = some m → ∀ e ∈ m.fleet.channelEdges,
    m.fleet.DeclaresClosures e.gates →
      ∀ fs host rid closure due summary,
        .planned fs (.queueDispatch host rid closure due) ∈ (cpStep cp i).2 →
          fs.rollouts.lookup rid = some summary → summary.channel = e.gated →
            cp.db.TerminalRow (m.fleet.declaredRollout e.gates)

/-- The manifests name a rollout of the channel, and no end of it is read. -/
def SeenActive (faults : Faults) (db : Db) (m : SignedManifestSet) (channel : ChannelId) : Prop :=
  ∃ manifest, m.rollouts.lookup channel = some manifest ∧
    (faults (.rolloutSummary (.new channel manifest.channelRef)) = true ∨
      ∀ row, db.rollouts.lookup (.new channel manifest.channelRef) = some row →
        row.terminalAt = none)

/-- The manifests, with an edge left out of their fleet. -/
def SignedManifestSet.withoutEdge (m : SignedManifestSet) (e : ChannelEdge) : SignedManifestSet :=
  { m with fleet := { m.fleet with channelEdges := m.fleet.channelEdges.filter (· ≠ e) } }

/-- At every tick each edge from a channel with declared closures is released, or seen to be
active, or has nothing to hold back: the plan without it dispatches nothing on its channel. -/
def EdgesSeen (cp : Cp) (i : CpInput) : Prop :=
  ∀ m plan, cp.manifestsAt i = some m → cp.plan i = some plan → ∀ e ∈ m.fleet.channelEdges,
    m.fleet.DeclaresClosures e.gates →
      cp.db.TerminalRow (m.fleet.declaredRollout e.gates) ∨
      SeenActive i.faults cp.db m e.gates ∨
      ¬ DispatchesOn plan.fleetState e.gated
        (planNext i.order (m.withoutEdge e) plan.fleetState cp.rs.quarantines i.now)

section Gate

variable {fs : FleetState} {m : SignedManifestSet} {e : ChannelEdge}

/-- An edge from an inactive channel changes no answer of the gate. -/
theorem channelEdgesCheck_withoutEdge (h : predecessorActive fs m e.gates = false)
    (channel : ChannelId) :
    channelEdgesCheck fs (m.withoutEdge e) channel = channelEdgesCheck fs m channel := by
  have hfind : ((m.fleet.channelEdges.filter (· ≠ e)).filter (·.gated = channel)).find?
        (fun e' => predecessorActive fs m e'.gates) =
      (m.fleet.channelEdges.filter (·.gated = channel)).find?
        (fun e' => predecessorActive fs m e'.gates) := by
    simp only [List.find?_filter]
    congr 1
    funext e'
    by_cases heq : e' = e
    · simp [heq, h]
    · simp [heq]
  exact congrArg (Option.map fun e' : ChannelEdge => GateBlock.channelEdges e'.gates) hfind

/-- Nor does it change the plan. -/
theorem planNext_withoutEdge (h : predecessorActive fs m e.gates = false) (order : MapOrders)
    (q : QuarantineSet) (now : Time) :
    planNext order (m.withoutEdge e) fs q now = planNext order m fs q now := by
  have heval : ∀ c : Candidate, ∀ tick,
      c.evaluate (m.withoutEdge e) fs q tick = c.evaluate m fs q tick := by
    intro c tick
    unfold Candidate.evaluate evaluateForDispatch
    rw [channelEdgesCheck_withoutEdge h]
    rfl
  have hdispatch : ∀ (cs : List Candidate) (tick : TickDispatched),
      dispatchActions (m.withoutEdge e) fs q now tick cs = dispatchActions m fs q now tick cs := by
    intro cs
    induction cs with
    | nil => exact fun _ => rfl
    | cons c cs ih =>
        intro tick
        simp only [dispatchActions, heval, ih]
  unfold planNext
  rw [hdispatch]
  rfl

/-- An edge from an active channel holds its channel back. -/
theorem not_dispatchesOn_of_active (h : predecessorActive fs m e.gates = true)
    (he : e ∈ m.fleet.channelEdges) {order : MapOrders} {q : QuarantineSet} {now : Time} :
    ¬ DispatchesOn fs e.gated (planNext order m fs q now) := by
  rintro ⟨host, rid, closure, due, summary, hmem, hlook, hchannel⟩
  obtain ⟨c, hc, rfl, -, -, -, heval⟩ := exists_candidate_of_queueDispatch hmem
  have hsame : c.summary = summary := by
    rw [(mem_candidates.mp hc).1] at hlook
    exact Option.some.inj hlook
  have hgate : channelEdgesCheck fs m e.gated = none := by
    rw [← hchannel, ← hsame]
    exact (evaluateForDispatch_eq_none.mp heval).2.1
  have hinactive := channelEdgesCheck_eq_none.mp hgate e he rfl
  rw [h] at hinactive
  cases hinactive

end Gate

section Plan

variable {rs : ReducerState} {order : MapOrders} {now : Time} {faults : Faults} {db : Db}
  {plan : Plan} {m : SignedManifestSet}

/-- What the gate takes for active. -/
theorem predecessorActive_iff (h : planOf rs order now faults db = some plan)
    (hm : rs.manifests = some m) (channel : ChannelId) :
    predecessorActive plan.fleetState m channel = true ↔ SeenActive faults db m channel := by
  rw [← Bool.not_eq_false, predecessorActive_eq_false]
  constructor
  · intro hactive
    simp only [not_forall] at hactive
    obtain ⟨manifest, hlook, hopen⟩ := hactive
    refine ⟨manifest, hlook, ?_⟩
    by_cases hread : faults (.rolloutSummary (.new channel manifest.channelRef)) = true
    · exact .inl hread
    · right
      intro row hrow
      -- a row that is read has a summary, with its end
      obtain ⟨summary, hs⟩ := exists_summary h hm ⟨channel, manifest, hlook, rfl⟩
        (Bool.not_eq_true _ ▸ hread) (by rw [hrow]; rfl)
      obtain ⟨-, row', hrow', hend⟩ := terminalAt_of_summary h hs
      have hsame : row' = row := Option.some.inj (hrow'.symm.trans hrow)
      have hnone : summary.terminalAt = none := by
        by_contra hsome
        exact hopen ⟨summary, hs, Option.isSome_iff_ne_none.mpr hsome⟩
      rw [← hsame, ← hend]
      exact hnone
  · rintro ⟨manifest, hlook, hseen⟩ hinactive
    obtain ⟨summary, hs, hended⟩ := hinactive manifest hlook
    obtain ⟨hread, row, hrow, hend⟩ := terminalAt_of_summary h hs
    rcases hseen with hfault | hopen
    · rw [hread] at hfault
      cases hfault
    · rw [hend, hopen row hrow] at hended
      cases hended

end Plan

/-- **Channels are in order iff every edge is seen.** -/
theorem channelsInOrder_iff (cp : Cp) (i : CpInput) : ChannelsInOrder cp i ↔ EdgesSeen cp i := by
  constructor
  · intro h m plan hm hplan e he hdeclares
    obtain ⟨rs, hq, hm', hpl⟩ := Cp.plan_eq_some hplan
    rw [hm] at hm'
    by_cases hseen : SeenActive i.faults cp.db m e.gates
    · exact .inr (.inl hseen)
    by_cases hheld : DispatchesOn plan.fleetState e.gated
        (planNext i.order (m.withoutEdge e) plan.fleetState cp.rs.quarantines i.now)
    · -- the gate does not see the edge, so the plan is the one without it
      left
      have hinactive : predecessorActive plan.fleetState m e.gates = false := by
        rw [← Bool.not_eq_true, predecessorActive_iff hpl hm']
        exact hseen
      obtain ⟨m', -, hm'', -, -, -, hactions⟩ := planOf_eq_some hpl
      rw [hm', Option.some.injEq] at hm''
      rw [planNext_withoutEdge hinactive, ← hq, hm'', ← hactions] at hheld
      obtain ⟨host, rid, closure, due, summary, hmem, hlook, hchannel⟩ := hheld
      exact h m hm e he hdeclares plan.fleetState host rid closure due summary
        (planned_mem_of_plan hplan hmem) hlook hchannel
    · exact .inr (.inr hheld)
  · intro h m hm e he hdeclares fs host rid closure due summary hout hlook hchannel
    obtain ⟨plan, hplan, rfl, hmem⟩ := exists_plan_of_planned_mem hout
    obtain ⟨rs, hq, hm', hpl⟩ := Cp.plan_eq_some hplan
    rw [hm] at hm'
    obtain ⟨m', -, hm'', -, -, -, hactions⟩ := planOf_eq_some hpl
    rw [hm', Option.some.injEq] at hm''
    have hdispatches : DispatchesOn plan.fleetState e.gated
        (planNext i.order m plan.fleetState cp.rs.quarantines i.now) := by
      rw [hm'', ← hq, ← hactions]
      exact ⟨host, rid, closure, due, summary, hmem, hlook, hchannel⟩
    -- the plan dispatches on the channel, so the edge does not hold it
    have hinactive : predecessorActive plan.fleetState m e.gates = false := by
      by_contra hactive
      exact not_dispatchesOn_of_active (Bool.not_eq_false _ ▸ hactive) he hdispatches
    rcases h m plan hm hplan e he hdeclares with hterminal | hseen | hnothing
    · exact hterminal
    · rw [← predecessorActive_iff hpl hm', hinactive] at hseen
      cases hseen
    · rw [planNext_withoutEdge hinactive] at hnothing
      exact absurd hdispatches hnothing

/-- The channel `stable` waits for the channel `edge`, whose host has a declared closure. Of the
two manifests the poll has fetched the one of `stable`. -/
def partialSet : SignedManifestSet :=
  let fleet := stableFleet "r1" [("a", "new")] ⟨"all-at-once", [], .halt⟩ [] [] []
  stableManifests
    { fleet with
      hosts := fleet.hosts.insert "b" ⟨"x86_64-linux", [], "edge", some "new", none⟩
      channels := fleet.channels.insert "edge" ⟨"policy", 5, 60, 60⟩
      channelEdges := [⟨"edge", "stable", none⟩] }

set_option maxRecDepth 4000 in
/-- The tick after the rollout of `stable` was opened dispatches its host. -/
theorem partialSet_not_in_order :
    ¬ ChannelsInOrder
      (cpMachine.run Cp.initial [.plain (.manifestSetUpdated partialSet) 0])
      (.plain .planTick 1) := by
  intro h
  have hplan : ((cpMachine.run Cp.initial [.plain (.manifestSetUpdated partialSet) 0]).plan
      (.plain .planTick 1)).any (fun plan =>
        .queueDispatch "a" (.new "stable" "r1") "new" (minutes 60) ∈ plan.actions &&
        (plan.fleetState.rollouts.lookup (.new "stable" "r1")).any (·.channel = "stable")) =
      true := by decide
  obtain ⟨fs, summary, hout, hlook, hchannel⟩ := exists_planned_of_check hplan
  have hdeclares : partialSet.fleet.DeclaresClosures "edge" :=
    ⟨"b", ⟨"x86_64-linux", [], "edge", some "new", none⟩, by decide, rfl, rfl⟩
  obtain ⟨row, hrow, -⟩ := h partialSet rfl ⟨"edge", "stable", none⟩ (by decide) hdeclares fs "a" _
    _ _ summary hout hlook hchannel
  -- the rollout of `edge` has never been opened
  have hnone : ((cpMachine.run Cp.initial
      [.plain (.manifestSetUpdated partialSet) 0]).db.rollouts.lookup
        (partialSet.fleet.declaredRollout "edge")).isNone = true := by decide
  rw [hrow] at hnone
  cases hnone

end Nixfleet
