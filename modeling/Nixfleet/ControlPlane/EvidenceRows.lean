import Nixfleet.Agent.Evidence
import Nixfleet.Host.Mirror
import Nixfleet.ControlPlane.Applier

set_option autoImplicit false

/-!
# Evidence results and stored failures

A probe result goes from the ticker through the agent's record, over the wire and through the
mirror of the record to the applier, which stores a row for each result that failed in mode
`enforce`. So a file with results fails the probe iff rows are stored for it, and their controls are
those that fail in mode `enforce` (`evidence_rows`). A control that fails in mode `observe` has no
row.
-/

namespace Nixfleet

/-! ## The way of a result -/

/-- The event in which a ticker reports an outcome. -/
def ProbeTicker.resultEvent (t : ProbeTicker) (outcome : RunnerOutcome) : Event :=
  .localProbeResult t.name t.mode outcome.status outcome.observedAt outcome.failureReason
    outcome.subResults 0

/-- The agent's record accepts the outcome of a ticker, its mirror accepts what the agent then
sends, and has these effects. -/
def ResultArrives (t : ProbeTicker) (outcome : RunnerOutcome) (mirror : HostRolloutState)
    (effects : List Effect) : Prop :=
  ∃ seq s next policy out payload mirrorNext mirrorPolicy,
    .hostEvent t.rolloutId (t.resultEvent outcome) ∈ (t.tick outcome).2 ∧
    hostStep s (withSeq (t.resultEvent outcome) seq) policy = .ok (next, out) ∧
    (s.rolloutId, payload) ∈ out.filterMap Effect.emitted? ∧
    hostStep mirror payload.remote mirrorPolicy = .ok (mirrorNext, effects)

theorem resultEvent_mem_tick (t : ProbeTicker) (outcome : RunnerOutcome) :
    .hostEvent t.rolloutId (t.resultEvent outcome) ∈ (t.tick outcome).2 := by
  simp [ProbeTicker.tick, ProbeTicker.resultEvent]

/-- The mirror of a record logs a probe result, and does nothing else. -/
theorem hostStep_remoteProbeResult {s next : HostRolloutState} {policy : RolloutPolicy}
    {effects : List Effect} {name : String} {mode : ProbeMode} {status : ProbeStatus}
    {observedAt : Time} {reason : Option String} {subResults : Option (List ProbeSubResult)}
    {seq : Nat}
    (h : hostStep s (.remoteProbeResult name mode status observedAt reason subResults seq) policy =
      .ok (next, effects)) :
    effects = [s.appendEventLog
      (.probeResult name mode status observedAt reason subResults seq)] := by
  unfold hostStep at h
  split at h
  · cases h
  · cases hs : s.state <;>
      simp only [hs, pendingHandle, activatingHandle, deferredHandle, soakingHandle, failedHandle,
        reduceCtorEq, Except.ok.injEq, Prod.mk.injEq] at h
    exact h.2.symm

/-- The wire keeps the result. -/
theorem remote_probeResult (name : String) (mode : ProbeMode) (status : ProbeStatus)
    (observedAt : Time) (reason : Option String) (subResults : Option (List ProbeSubResult))
    (seq : Nat) :
    (OutboundAgentEvent.probeResult name mode status observedAt reason subResults seq).remote =
      .remoteProbeResult name mode status observedAt reason subResults seq := by
  have hresult : ∀ r : ProbeSubResult, ProbeSubResult.ofWire r.toWire = r := by
    intro r
    simp [ProbeSubResult.ofWire, ProbeSubResult.toWire]
  have hlist : ∀ l : List ProbeSubResult, (l.map (·.toWire)).map ProbeSubResult.ofWire = l := by
    intro l
    rw [List.map_map]
    exact (List.map_congr_left fun r _ => hresult r).trans (List.map_id l)
  cases subResults <;>
    simp [OutboundAgentEvent.remote, OutboundAgentEvent.toAgentEvent, AgentEvent.toEvent, hlist]

/-- **A result arrives as it was sent.** -/
theorem effects_of_resultArrives {t : ProbeTicker} {outcome : RunnerOutcome}
    {mirror : HostRolloutState} {effects : List Effect}
    (h : ResultArrives t outcome mirror effects) :
    ∃ seq, effects = [mirror.appendEventLog (.probeResult t.name t.mode outcome.status
      outcome.observedAt outcome.failureReason outcome.subResults seq)] := by
  obtain ⟨seq, s, next, policy, out, payload, mirrorNext, mirrorPolicy, -, hagent, hsent,
    hmirror⟩ := h
  rw [hostStep_emitted hagent] at hsent
  obtain ⟨-, rfl⟩ := Prod.mk.inj (List.mem_singleton.mp hsent)
  rw [remote_probeResult] at hmirror
  exact ⟨seq, hostStep_remoteProbeResult hmirror⟩

/-! ## The rows of a file -/

/-- The row of a failed result. -/
def ProbeSubResult.failureRow (mirror : HostRolloutState) (probe : String) (observedAt : Time)
    (r : ProbeSubResult) : ProbeFailure :=
  ⟨mirror.rolloutId, mirror.hostname, probe, some r.controlId, some r.framework, observedAt⟩

/-- For an outcome with results the applier stores a row for each that failed in mode `enforce`. -/
theorem probeFailures_of_resultArrives {t : ProbeTicker} {outcome : RunnerOutcome}
    {mirror : HostRolloutState} {effects : List Effect} {ctx : ApplierCtx} (db : Db)
    {subResults : List ProbeSubResult} (h : ResultArrives t outcome mirror effects)
    (hresults : outcome.subResults = some subResults) (hne : subResults ≠ [])
    (hstores : ctx.faults (.insertProbeFailures mirror.rolloutId mirror.hostname) = false) :
    (effects.foldl (applyEffect ctx) db).probeFailures = db.probeFailures ++
      (subResults.filter fun r => r.status = .fail ∧ r.effectiveMode = .enforce).map
        (ProbeSubResult.failureRow mirror t.name outcome.observedAt) := by
  obtain ⟨seq, rfl⟩ := effects_of_resultArrives h
  rw [List.foldl_cons, List.foldl_nil, hresults]
  simp only [applyEffect, HostRolloutState.appendEventLog, hstores, Bool.false_eq_true, if_false]
  cases subResults with
  | nil => exact absurd rfl hne
  | cons r rest => rfl

/-- **Results and rows agree.** A file with results fails the probe iff the applier stores rows for
it, and the controls of these rows are those that fail in mode `enforce`. -/
theorem evidence_rows {hooks : EvidenceHooks} {env : EvidenceEnv} {decl : EvidenceDecl}
    {file : EvidenceFile} {subResults : List ProbeSubResult} {t : ProbeTicker}
    {mirror : HostRolloutState} {effects : List Effect} {ctx : ApplierCtx} (db : Db)
    (hfile : verifiedEvidence hooks env decl = .ok file)
    (hresults : (evidenceRun hooks env decl).subResults = some subResults)
    (hne : subResults ≠ [])
    (harrives : ResultArrives t (evidenceRun hooks env decl) mirror effects)
    (hstores : ctx.faults (.insertProbeFailures mirror.rolloutId mirror.hostname) = false) :
    ∃ rows, (effects.foldl (applyEffect ctx) db).probeFailures = db.probeFailures ++ rows ∧
      ((evidenceRun hooks env decl).status = .fail ↔ rows ≠ []) ∧
      (∀ row ∈ rows, row.rolloutId = mirror.rolloutId ∧ row.hostId = mirror.hostname ∧
        row.probeName = t.name) ∧
      ∀ control, control ∈ rows.map (·.controlId) ↔
        ∃ entry ∈ file.controls, control = some entry.controlId ∧ entry.passed = false ∧
          decl.Selects .enforce entry := by
  have hrun : evidenceRun hooks env decl = evidenceOutcome env decl file := by
    rw [evidenceRun, hfile]
  rw [hrun] at hresults harrives ⊢
  have hsome : evidenceSubResults env decl file ≠ [] := by
    intro hnil
    rw [evidenceOutcome, if_pos hnil] at hresults
    cases hresults
  obtain rfl : evidenceSubResults env decl file = subResults := by
    rw [evidenceOutcome, if_neg hsome] at hresults
    exact Option.some.inj hresults
  refine ⟨_, probeFailures_of_resultArrives db harrives hresults hne hstores, ?_, ?_, ?_⟩
  · rw [evidenceOutcome_status hsome, Ne, List.map_eq_nil_iff, List.filter_eq_nil_iff]
    simp
  · intro row hrow
    obtain ⟨r, -, rfl⟩ := List.mem_map.mp hrow
    exact ⟨rfl, rfl, rfl⟩
  · intro control
    have hfailed : ∀ entry : EvidenceControlEntry, entry.status = .fail ↔ entry.passed = false := by
      intro entry
      unfold EvidenceControlEntry.status
      cases entry.passed <;> simp
    rw [List.map_map]
    constructor
    · intro h
      obtain ⟨r, hr, rfl⟩ := List.mem_map.mp h
      obtain ⟨hmem, hfails⟩ := List.mem_filter.mp hr
      obtain ⟨hstatus, hmode⟩ := of_decide_eq_true hfails
      obtain ⟨entry, hentry, hid, hst, hsel⟩ :=
        (mem_evidenceSubResults_iff (by decide)).mp ⟨r, hmem, rfl, hstatus, hmode⟩
      exact ⟨entry, hentry, congrArg some hid.symm, (hfailed entry).mp hst, hsel⟩
    · rintro ⟨entry, hentry, rfl, hpassed, hsel⟩
      obtain ⟨r, hmem, hid, hstatus, hmode⟩ := (mem_evidenceSubResults_iff (by decide)).mpr
        ⟨entry, hentry, rfl, (hfailed entry).mpr hpassed, hsel⟩
      exact List.mem_map.mpr
        ⟨r, List.mem_filter.mpr ⟨hmem, decide_eq_true ⟨hstatus, hmode⟩⟩, congrArg some hid⟩

/-! ## A control that fails -/

/-- The ticker of the probe. -/
def nis2Ticker (mode : ProbeMode) : ProbeTicker :=
  ⟨.new "stable" "r1", "evidence-nis2", mode, false, false, none⟩

/-- The record of a host that soaks. -/
def webSoaking : HostRolloutState :=
  { HostRolloutState.newPending (.new "stable" "r1") "web" "stable" "new" 0 5 with
    state := .soaking }

/-- What the mirror does when the soaking host reports an outcome. -/
def webSoakingEffects (t : ProbeTicker) (outcome : RunnerOutcome) : List Effect :=
  [webSoaking.appendEventLog (.probeResult t.name t.mode outcome.status outcome.observedAt
    outcome.failureReason outcome.subResults 1)]

theorem resultArrives_webSoaking (t : ProbeTicker) (outcome : RunnerOutcome) :
    ResultArrives t outcome webSoaking (webSoakingEffects t outcome) := by
  obtain ⟨mirrorNext, hmirror⟩ : ∃ mirrorNext,
      hostStep webSoaking (OutboundAgentEvent.probeResult t.name t.mode outcome.status
        outcome.observedAt outcome.failureReason outcome.subResults 1).remote (plainPolicy .halt) =
          .ok (mirrorNext, webSoakingEffects t outcome) := by
    rw [remote_probeResult]
    exact ⟨_, rfl⟩
  exact ⟨1, webSoaking, _, plainPolicy .halt, _, _, mirrorNext, plainPolicy .halt,
    resultEvent_mem_tick t outcome, rfl, List.mem_singleton_self _, hmirror⟩

/-- The call of the applier. -/
def webCtx : ApplierCtx :=
  ⟨stableManifests (stableFleet "r1" [("web", "new")] ⟨"all-at-once", [], .halt⟩ [] [] []), 2,
    noFaults⟩

/-- The one result of the file. -/
def webResult (mode : ProbeMode) : ProbeSubResult :=
  ⟨"access-control", .fail, "nis2", some "21.i", mode, none⟩

theorem evidenceSubResults_webFile (mode : String) (hmode : modeOrEnforce mode ≠ .disabled) :
    evidenceSubResults (webEnv knownFieldsText knownFieldsSigB64) (nis2Decl mode) webFile =
      [webResult (modeOrEnforce mode)] := if_neg hmode

/-- The outcome of a tick that finds the file. -/
def webOutcome (mode : String) : RunnerOutcome :=
  evidenceRun webHooks (webEnv knownFieldsText knownFieldsSigB64) (nis2Decl mode)

theorem webOutcome_eq (mode : String) :
    webOutcome mode =
      evidenceOutcome (webEnv knownFieldsText knownFieldsSigB64) (nis2Decl mode) webFile := by
  rw [webOutcome, evidenceRun, verifiedEvidence_knownFields]

theorem webOutcome_subResults (mode : String) (hmode : modeOrEnforce mode ≠ .disabled) :
    (webOutcome mode).subResults = some [webResult (modeOrEnforce mode)] := by
  rw [webOutcome_eq]
  simp [evidenceOutcome, evidenceSubResults_webFile mode hmode]

/-- In mode `enforce` the probe fails and a row names the control. -/
theorem evidence_rows_enforce :
    let effects := webSoakingEffects (nis2Ticker .enforce) (webOutcome "enforce")
    ∃ rows, (effects.foldl (applyEffect webCtx) Db.empty).probeFailures =
        Db.empty.probeFailures ++ rows ∧
      ((webOutcome "enforce").status = .fail ↔ rows ≠ []) ∧
      (∀ row ∈ rows, row.rolloutId = webSoaking.rolloutId ∧ row.hostId = webSoaking.hostname ∧
        row.probeName = (nis2Ticker .enforce).name) ∧
      ∀ control, control ∈ rows.map (·.controlId) ↔
        ∃ entry ∈ webFile.controls, control = some entry.controlId ∧ entry.passed = false ∧
          (nis2Decl "enforce").Selects .enforce entry :=
  evidence_rows Db.empty (verifiedEvidence_knownFields "enforce")
    (webOutcome_subResults "enforce" (by decide)) (by simp)
    (resultArrives_webSoaking (nis2Ticker .enforce) (webOutcome "enforce")) rfl

/-- In mode `observe` the control fails, the probe passes and nothing is stored. -/
theorem evidence_rows_observe :
    let effects := webSoakingEffects (nis2Ticker .observe) (webOutcome "observe")
    ResultArrives (nis2Ticker .observe) (webOutcome "observe") webSoaking effects ∧
      (webOutcome "observe").status = .pass ∧
      (∃ r, (webOutcome "observe").subResults = some [r] ∧ r.controlId = "access-control" ∧
        r.status = .fail) ∧
      (effects.foldl (applyEffect webCtx) Db.empty).probeFailures = [] := by
  have hresults := webOutcome_subResults "observe" (by decide)
  refine ⟨resultArrives_webSoaking _ _, ?_, ⟨_, hresults, rfl, rfl⟩, ?_⟩
  · rw [webOutcome_eq]
    decide +kernel
  · rw [probeFailures_of_resultArrives Db.empty (resultArrives_webSoaking _ _) hresults
      (by simp) rfl]
    rfl

end Nixfleet
