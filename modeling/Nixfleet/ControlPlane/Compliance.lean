import Mathlib.Data.List.Dedup
import Nixfleet.ControlPlane.Projection
import Nixfleet.ControlPlane.Server

set_option autoImplicit false

/-!
# What the compliance gate counts

The gate holds later waves back while hosts of earlier ones have outstanding failures. It reads
the table `probe_failures`, a view of the event log (`failures_derived`) with one row for each
failure that was ever reported in mode `enforce`. No row is ever deleted, so the count is that of
the latest results exactly as long as nothing that has failed recovers (`failingCount_iff`).
-/

namespace Nixfleet

/-! ## Reported results -/

/-- A result that a host reports, of a probe or, where the probe has controls, of one of them. -/
structure ReportedResult where
  name : String
  mode : ProbeMode
  status : ProbeStatus
deriving DecidableEq, Repr

/-- The results of an event: one for each control, or one for a probe without controls. -/
def OutboundAgentEvent.results : OutboundAgentEvent → List ReportedResult
  | .probeResult name mode status _ _ subResults _ =>
      match subResults with
      | some (sr :: srs) => (sr :: srs).map fun r => ⟨r.controlId, r.effectiveMode, r.status⟩
      | _ => [⟨name, mode, status⟩]
  | _ => []

/-- The results of a host in a rollout that were accepted, oldest first. -/
def Db.reportedResults (db : Db) (rid : RolloutId) (host : HostId) : List ReportedResult :=
  (db.appliedEvents host rid).flatMap OutboundAgentEvent.results

/-- A failure that gates. -/
def ReportedResult.failsEnforced (r : ReportedResult) : Bool :=
  r.mode = .enforce && r.status = .fail

/-- The most recent result of a probe or control. -/
def latestResult (results : List ReportedResult) (name : String) : Option ReportedResult :=
  (results.filter (·.name = name)).getLast?

/-- The most recent result is a failure in mode `enforce`. -/
def FailingNow (results : List ReportedResult) (name : String) : Bool :=
  (latestResult results name).any (·.failsEnforced)

/-- The number of probes and controls that are failing. -/
def currentFailures (results : List ReportedResult) : Nat :=
  ((results.map (·.name)).dedup.filter (FailingNow results)).length

/-- The probes and controls that have ever failed, one entry for each failure. -/
def everFailed (results : List ReportedResult) : List String :=
  (results.filter (·.failsEnforced)).map (·.name)

section Count

variable {results : List ReportedResult} {name : String}

theorem mem_everFailed :
    name ∈ everFailed results ↔ ∃ r ∈ results, r.failsEnforced = true ∧ r.name = name := by
  simp only [everFailed, List.mem_map, List.mem_filter, and_assoc]

/-- What fails now has failed. -/
theorem mem_everFailed_of_failingNow (h : FailingNow results name = true) :
    name ∈ everFailed results := by
  obtain ⟨r, hlatest, hfails⟩ := (Option.any_eq_true _ _).mp h
  have hmem : r ∈ results.filter (·.name = name) := List.mem_of_getLast? hlatest
  obtain ⟨hr, hname⟩ := List.mem_filter.mp hmem
  exact mem_everFailed.mpr ⟨r, hr, hfails, of_decide_eq_true hname⟩

/-- **As many have ever failed as are failing iff whatever has failed is failing.** -/
theorem length_everFailed_eq_iff :
    (everFailed results).dedup.length = currentFailures results ↔
      ∀ r ∈ results, r.failsEnforced = true → FailingNow results r.name = true := by
  have hnodup : ((results.map (·.name)).dedup.filter (FailingNow results)).Nodup :=
    (List.nodup_dedup _).filter _
  have hsub : (results.map (·.name)).dedup.filter (FailingNow results) ⊆
      (everFailed results).dedup := by
    intro name hname
    exact List.mem_dedup.mpr (mem_everFailed_of_failingNow (List.mem_filter.mp hname).2)
  constructor
  · intro hlen r hr hfails
    have hperm : ((results.map (·.name)).dedup.filter (FailingNow results)).Perm
        (everFailed results).dedup :=
      (List.subperm_of_subset hnodup hsub).perm_of_length_le hlen.le
    have hmem : r.name ∈ (everFailed results).dedup :=
      List.mem_dedup.mpr (mem_everFailed.mpr ⟨r, hr, hfails, rfl⟩)
    exact (List.mem_filter.mp (hperm.mem_iff.mpr hmem)).2
  · intro hall
    refine List.Perm.length_eq ((List.perm_ext_iff_of_nodup (List.nodup_dedup _) hnodup).mpr ?_)
    intro name
    constructor
    · intro hname
      obtain ⟨r, hr, hfails, rfl⟩ := mem_everFailed.mp (List.mem_dedup.mp hname)
      exact List.mem_filter.mpr
        ⟨List.mem_dedup.mpr (List.mem_map_of_mem hr), hall r hr hfails⟩
    · exact fun hname => hsub hname

end Count

/-! ## The table -/

/-- What a row is counted under: its control, or its probe. -/
def ProbeFailure.counted (p : ProbeFailure) : String := p.controlId.getD p.probeName

/-- The rows of a host in a rollout. -/
def Db.failuresOf (db : Db) (rid : RolloutId) (host : HostId) : List ProbeFailure :=
  db.probeFailures.filter fun p => p.rolloutId = rid ∧ p.hostId = host

/-- The table is the view of the log that it is meant to be. -/
def Db.FailuresDerived (db : Db) : Prop :=
  ∀ rid host, db.failuresOf rid host =
    (db.appliedEvents host rid).flatMap (probeFailureRows host rid)

section Rows

variable {host : HostId} {rid : RolloutId} {payload : OutboundAgentEvent}

/-- An event has a row for each result that is a failure in mode `enforce`. -/
theorem counted_probeFailureRows :
    (probeFailureRows host rid payload).map ProbeFailure.counted = everFailed payload.results := by
  cases payload with
  | probeResult name mode status observedAt reason subResults seq =>
      have hone : (if mode = .enforce ∧ status = .fail then
          [(⟨rid, host, name, none, none, observedAt⟩ : ProbeFailure)] else []).map
            ProbeFailure.counted = everFailed [⟨name, mode, status⟩] := by
        by_cases hfail : mode = .enforce ∧ status = .fail
        · rw [if_pos hfail]
          simp [everFailed, ReportedResult.failsEnforced, hfail.1, hfail.2, ProbeFailure.counted]
        · rw [if_neg hfail]
          have hpass : ReportedResult.failsEnforced ⟨name, mode, status⟩ = false := by
            simpa [ReportedResult.failsEnforced] using hfail
          simp [everFailed, hpass]
      cases subResults with
      | none => exact hone
      | some srs =>
          cases srs with
          | nil => exact hone
          | cons sr srs =>
              simp only [probeFailureRows, OutboundAgentEvent.results, everFailed, List.filter_map,
                List.map_map]
              congr 1
              refine List.filter_congr fun r _ => ?_
              simp [ReportedResult.failsEnforced, and_comm]
  | _ => rfl

theorem mem_probeFailureRows {p : ProbeFailure} (h : p ∈ probeFailureRows host rid payload) :
    p.rolloutId = rid ∧ p.hostId = host := by
  cases payload with
  | probeResult name mode status observedAt reason subResults seq =>
      simp only [probeFailureRows] at h
      split at h
      · obtain ⟨r, -, rfl⟩ := List.mem_map.mp h
        exact ⟨rfl, rfl⟩
      · split at h
        · rw [List.mem_singleton.mp h]
          exact ⟨rfl, rfl⟩
        · cases h
  | _ => cases h

/-- The rows of a derived table are counted under what has ever failed. -/
theorem counted_failuresOf {db : Db} (h : db.FailuresDerived) :
    (db.failuresOf rid host).map ProbeFailure.counted =
      everFailed (db.reportedResults rid host) := by
  rw [h rid host, List.map_flatMap]
  simp only [counted_probeFailureRows]
  rw [everFailed, Db.reportedResults, List.filter_flatMap, List.map_flatMap]
  rfl

end Rows

/-! ## The count -/

/-- The count of outstanding failures that the gate reads for a host. -/
def FleetState.failingCount (fs : FleetState) (rid : RolloutId) (host : HostId) : Nat :=
  ((fs.outstandingFailingEnforceProbes.lookup rid).bind (·.lookup host)).getD 0

/-- A table of tables that is filled pair by pair holds, for each pair, what the pair alone
decides. -/
theorem lookup_foldl_insert_pair {κ κ' : Type} [DecidableEq κ] [DecidableEq κ'] {β : Type}
    (value : κ × κ' → β) (l : List (κ × κ')) (t : Table κ (Table κ' β)) (k : κ) (k' : κ') :
    ((l.foldl (fun out g =>
        out.insert g.1 (((out.lookup g.1).getD ∅).insert g.2 (value g))) t).lookup k).bind
          (·.lookup k') =
      if (k, k') ∈ l then some (value (k, k')) else (t.lookup k).bind (·.lookup k') := by
  induction l generalizing t with
  | nil => simp
  | cons g l ih =>
      rw [List.foldl_cons, ih]
      by_cases hrest : (k, k') ∈ l
      · simp [hrest]
      · rw [if_neg hrest, Table.lookup_insert_eq]
        obtain ⟨g₁, g₂⟩ := g
        by_cases hk : k = g₁
        · subst hk
          rw [if_pos rfl, Option.bind_some, Table.lookup_insert_eq]
          by_cases hk' : k' = g₂
          · subst hk'
            simp
          · have hne : (k, k') ∉ (k, g₂) :: l := by simp [hk', hrest]
            rw [if_neg hk', if_neg hne]
            cases t.lookup k <;> rfl
        · have hne : (k, k') ∉ (g₁, g₂) :: l := by simp [hk, hrest]
          rw [if_neg hk, if_neg hne]

/-- **The query.** The distinct names under which the rows of the host are counted. -/
theorem outstanding_count (db : Db) (rid : RolloutId) (host : HostId) :
    ((db.outstandingFailingEnforceProbes.lookup rid).bind (·.lookup host)).getD 0 =
      ((db.failuresOf rid host).map ProbeFailure.counted).dedup.length := by
  have hlook := lookup_foldl_insert_pair (fun g : RolloutId × HostId =>
    ((db.failuresOf g.1 g.2).map ProbeFailure.counted).dedup.length)
    (db.probeFailures.map fun p => (p.rolloutId, p.hostId)).dedup ∅ rid host
  have hfold : ((db.outstandingFailingEnforceProbes.lookup rid).bind (·.lookup host)) =
      if (rid, host) ∈ (db.probeFailures.map fun p => (p.rolloutId, p.hostId)).dedup then
        some ((db.failuresOf rid host).map ProbeFailure.counted).dedup.length else none := hlook
  rw [hfold]
  split
  · rfl
  · -- a host without rows counts nothing
    rename_i hnot
    have hnone : db.failuresOf rid host = [] := by
      refine List.filter_eq_nil_iff.mpr fun p hp hkey => hnot ?_
      obtain ⟨rfl, rfl⟩ := of_decide_eq_true hkey
      exact List.mem_dedup.mpr (List.mem_map_of_mem hp)
    rw [hnone]
    rfl

/-! ## Runs -/

/-- No insert into `probe_failures` fails. -/
def InsertsFailures (faults : Faults) : Prop :=
  ∀ rid host, faults (.insertProbeFailures rid host) = false

section Steps

variable {db : Db} {ctx : ApplierCtx}

theorem Db.FailuresDerived.of_same {db' : Db} (h : db.FailuresDerived)
    (hrows : db'.probeFailures = db.probeFailures)
    (hlog : ∀ rid host, db'.appliedEvents host rid = db.appliedEvents host rid) :
    db'.FailuresDerived := by
  intro rid host
  rw [hlog, ← h rid host]
  unfold Db.failuresOf
  rw [hrows]

theorem applyRolloutEffect_probeFailures (e : RolloutEffect) :
    (applyRolloutEffect ctx db e).probeFailures = db.probeFailures := by
  cases e <;> simp only [applyRolloutEffect] <;> split <;> rfl

theorem processRolloutEvent_probeFailures (ctx : ApplierCtx) (db : Db) (e : RolloutEvent) :
    (processRolloutEvent ctx db e).probeFailures = db.probeFailures :=
  processRolloutEvent_proj ctx db (f := Db.probeFailures) (fun _ _ _ _ _ _ _ => rfl)
    (fun _ e => applyRolloutEffect_probeFailures e) e

theorem recordRolloutOpened_probeFailures (rid : RolloutId) (ch : ChannelId) (ref : ChannelRef)
    (at' : Time) : (db.recordRolloutOpened rid ch ref at').probeFailures = db.probeFailures := by
  unfold Db.recordRolloutOpened
  split <;> rfl

theorem openHost_probeFailures (rid : RolloutId) (ch : ChannelId) (hw : HostWave) :
    (openHost ctx rid ch db hw).probeFailures = db.probeFailures := by
  unfold openHost
  split
  · rfl
  · rw [processRolloutEvent_probeFailures]
    rfl

theorem applyPlanAction_probeFailures (a : PlanAction) :
    (applyPlanAction ctx db a).probeFailures = db.probeFailures := by
  cases a with
  | openRollout rid channel targetRef =>
      exact openRollout_proj ctx db (f := Db.probeFailures) (fun _ _ _ _ _ _ _ => rfl)
        (fun _ rid ch ref t => recordRolloutOpened_probeFailures rid ch ref t)
        (processRolloutEvent_probeFailures ctx)
        (fun rid ch db hw => openHost_probeFailures rid ch hw) rid channel targetRef
  | queueDispatch host rid closure due =>
      simp only [applyPlanAction, queueDispatch]
      split <;> rfl
  | deferDispatch => rfl

theorem runPlan_probeFailures (rs : ReducerState) (order : MapOrders) (now : Time)
    (faults : Faults) (db : Db) :
    (runPlan rs order now faults db).probeFailures = db.probeFailures := by
  refine runPlan_rule (P := fun db' => db'.probeFailures = db.probeFailures) rfl ?_ ?_
  · intro manifests plan _ hplan
    obtain ⟨_, _, _, _, hdb, _, _⟩ := planOf_eq_some hplan
    rw [hdb]
    exact advanceCurrentWaves_proj _ _ _ _ _ (f := Db.probeFailures) fun _ _ _ => rfl
  · intro manifests plan _ _ db' hdb' a _
    rw [applyPlanAction_probeFailures, hdb']

/-- The one effect that logs an agent event adds its rows too. -/
theorem Db.FailuresDerived.effect (h : db.FailuresDerived) (hstored : InsertsFailures ctx.faults)
    (e : Effect) : (applyEffect ctx db e).FailuresDerived := by
  cases e with
  | remoteAppendEventLog host' rid' payload =>
      intro rid host
      rw [applyEffect_appliedEvents, List.flatMap_append, ← h rid host]
      have hrows : (applyEffect ctx db (.remoteAppendEventLog host' rid' payload)).probeFailures =
          db.probeFailures ++ probeFailureRows host' rid' payload := by
        simp only [applyEffect, hstored rid' host', Bool.false_eq_true, if_false]
        rfl
      unfold Db.failuresOf
      rw [hrows, List.filter_append]
      congr 1
      by_cases hkey : host' = host ∧ rid' = rid
      · obtain ⟨rfl, rfl⟩ := hkey
        have hall : (probeFailureRows host' rid' payload).filter
            (fun p => p.rolloutId = rid' ∧ p.hostId = host') =
            probeFailureRows host' rid' payload :=
          List.filter_eq_self.mpr fun p hp => by simpa using mem_probeFailureRows hp
        rw [hall]
        simp [Effect.agentEventOf]
      · have hnone : (probeFailureRows host' rid' payload).filter
            (fun p => p.rolloutId = rid ∧ p.hostId = host) = [] := by
          refine List.filter_eq_nil_iff.mpr fun p hp hp' => hkey ?_
          obtain ⟨hrid, hhost⟩ := mem_probeFailureRows hp
          obtain ⟨hrid', hhost'⟩ := of_decide_eq_true hp'
          exact ⟨hhost.symm.trans hhost', hrid.symm.trans hrid'⟩
        rw [hnone]
        simp [Effect.agentEventOf, hkey]
  | remoteInsertQuarantine channel closure =>
      refine h.of_same ?_ fun rid host => by
        rw [applyEffect_appliedEvents]
        simp [Effect.agentEventOf]
      simp only [applyEffect, Db.insertQuarantine]
      split
      · rfl
      · split <;> rfl
  | recordTransition | localFireSwitch | localFireRollbackTo | localResetProbeCache
  | localEmitEvent =>
      refine h.of_same rfl fun rid host => by
        rw [applyEffect_appliedEvents]
        simp [Effect.agentEventOf]

theorem handleHostEvent_failuresDerived {rs : ReducerState} {now : Time} {faults : Faults}
    (hstored : InsertsFailures faults) (h : db.FailuresDerived) (host : HostId) (rid : RolloutId)
    (event : Event) : (handleHostEvent rs now faults db host rid event).FailuresDerived := by
  refine handleHostEvent_rule h fun manifests prior next effects _ => ?_
  refine hostStateChanged_rule (P := Db.FailuresDerived) ?_ ?_
  · intro db' e _ _ hdb'
    exact hdb'.of_same (processRolloutEvent_probeFailures _ db' e)
      fun rid host => logReading_appliedEvents.rolloutEvent _ db' e
  · refine List.foldlRecOn (motive := Db.FailuresDerived) _ _ ?_ ?_
    · exact h.of_same rfl fun _ _ => rfl
    · exact fun db' hdb' e _ => hdb'.effect hstored e

end Steps

/-- The step's inserts into `probe_failures` succeed. -/
def FailuresStored (_ : Cp) (i : CpInput) : Prop := InsertsFailures i.faults

theorem cpStep_failuresDerived (cp : Cp) (i : CpInput) (h : cp.db.FailuresDerived)
    (hstored : FailuresStored cp i) : (cpStep cp i).1.db.FailuresDerived := by
  refine cpStep_rule (P := Db.FailuresDerived) h ?_ ?_ ?_ ?_
  · exact fun _ _ host rid event _ hdb =>
      handleHostEvent_failuresDerived hstored hdb host rid event
  · intro rs m _ _
    exact h.of_same (runPlan_probeFailures ..) fun rid host => runPlan_appliedEvents ..
  · exact fun _ => h.of_same rfl fun _ _ => rfl
  · intro host
    exact h.of_same (takeForHost_proj cp.db (f := Db.probeFailures) (fun _ _ => rfl) _ host)
      fun rid host' => takeForHost_proj cp.db (f := fun db => db.appliedEvents host' rid)
        (fun _ _ => rfl) _ host

/-- **`probe_failures` is a view of the event log.** -/
theorem failures_derived {is : List CpInput}
    (hstored : cpMachine.Meets FailuresStored Cp.initial is) :
    (cpMachine.run Cp.initial is).db.FailuresDerived :=
  cpMachine.run_invariant (P := fun cp => cp.db.FailuresDerived) cpStep_failuresDerived
    (fun _ _ => rfl) hstored

/-- **What the gate counts.** In every run whose failures are stored, the count that the gate
reads for a host is the number of its probes and controls that are failing iff whatever has
failed is failing still. -/
theorem failingCount_iff {is : List CpInput}
    (hstored : cpMachine.Meets FailuresStored Cp.initial is) {order : MapOrders} {faults : Faults}
    {m : SignedManifestSet} {fs : FleetState}
    (hfs : buildFleetState order faults (cpMachine.run Cp.initial is).db m = some fs)
    (hread : faults .outstandingFailures = false) (rid : RolloutId) (host : HostId) :
    let results := (cpMachine.run Cp.initial is).db.reportedResults rid host
    fs.failingCount rid host = currentFailures results ↔
      ∀ r ∈ results, r.failsEnforced = true → FailingNow results r.name = true := by
  intro results
  have htable : fs.outstandingFailingEnforceProbes =
      (cpMachine.run Cp.initial is).db.outstandingFailingEnforceProbes :=
    buildFleetState_outstanding hfs hread
  have hcount : fs.failingCount rid host = (everFailed results).dedup.length := by
    calc fs.failingCount rid host
        = (((cpMachine.run Cp.initial is).db.failuresOf rid host).map
            ProbeFailure.counted).dedup.length := by
          rw [← outstanding_count, FleetState.failingCount, htable]
      _ = (everFailed results).dedup.length := by
          rw [counted_failuresOf (failures_derived hstored)]
  rw [hcount]
  exact length_everFailed_eq_iff

/-- The manifests of one host under one policy. -/
def probedSet : SignedManifestSet :=
  stableManifests (stableFleet "r1" [("a", "new")] ⟨"all-at-once", [], .halt⟩ [] [] [])

/-- The host switches, and reports results of its probe `http`, in this order. -/
def probedRun (statuses : List ProbeStatus) : List CpInput :=
  let event (e : Event) := CpInput.plain (.hostEvent "a" (.new "stable" "r1") e) 1
  [.plain (.manifestSetUpdated probedSet) 0, event (.remoteDispatchAck "old" 1 1),
   event (.remoteActivationCompleted "new" 0 1 2)] ++
    statuses.zipIdx.map fun s =>
      event (.remoteProbeResult "http" .enforce s.1 1 none none (3 + s.2))

set_option maxRecDepth 4000 in
/-- A probe that fails twice is counted once, as it should be. -/
theorem failingProbe_counted :
    ∃ fs, buildFleetState .stored noFaults (cpMachine.run Cp.initial (probedRun [.fail, .fail])).db
        probedSet = some fs ∧
      fs.failingCount (.new "stable" "r1") "a" = currentFailures
        ((cpMachine.run Cp.initial (probedRun [.fail, .fail])).db.reportedResults
          (.new "stable" "r1") "a") := by
  obtain ⟨fs, hfs⟩ := Option.isSome_iff_exists.mp (buildFleetState_isSome .stored
    (cpMachine.run Cp.initial (probedRun [.fail, .fail])).db probedSet)
  refine ⟨fs, hfs, (failingCount_iff ?_ hfs rfl _ _).mpr (by decide)⟩
  exact ⟨fun _ _ => rfl, fun _ _ => rfl, fun _ _ => rfl, fun _ _ => rfl, fun _ _ => rfl, trivial⟩

set_option maxRecDepth 4000 in
/-- A probe that has failed and passes now is counted too. -/
theorem recoveredProbe_counted :
    ∃ fs, buildFleetState .stored noFaults (cpMachine.run Cp.initial (probedRun [.fail, .pass])).db
        probedSet = some fs ∧
      fs.failingCount (.new "stable" "r1") "a" ≠ currentFailures
        ((cpMachine.run Cp.initial (probedRun [.fail, .pass])).db.reportedResults
          (.new "stable" "r1") "a") := by
  have hcounts : (buildFleetState .stored noFaults
      (cpMachine.run Cp.initial (probedRun [.fail, .pass])).db probedSet).any (fun fs =>
        fs.failingCount (.new "stable" "r1") "a" ≠ currentFailures
          ((cpMachine.run Cp.initial (probedRun [.fail, .pass])).db.reportedResults
            (.new "stable" "r1") "a")) = true := by decide
  obtain ⟨fs, hfs, hne⟩ := (Option.any_eq_true _ _).mp hcounts
  exact ⟨fs, hfs, of_decide_eq_true hne⟩

end Nixfleet
