import Nixfleet.Host.Run

set_option autoImplicit false

/-!
# Declared probes and the convergence check

A topology event declares the probes of a host, and each result reports one of them. The
record keeps the results only, and the convergence check reads the record. A ledger of the
accepted events keeps both (`ProbeLedger`). Whenever convergence is accepted, every declared
enforce probe passes iff each of them has reported, and none last failed under another mode
(`run_failClosed_iff`).
-/

namespace Nixfleet

/-- What the accepted events tell of the probes: the latest topology, and the latest mode and
status of each probe since the activation completed. -/
structure ProbeLedger where
  topology : List ProbeTopologyEntry
  results : Table String (ProbeMode × ProbeStatus)

def ProbeLedger.empty : ProbeLedger := ⟨[], ∅⟩

def ProbeLedger.record (l : ProbeLedger) : Event → ProbeLedger
  | .localActivationCompleted .. | .remoteActivationCompleted .. => { l with results := ∅ }
  | .localProbeTopologyDeclared probes _ _ | .remoteProbeTopologyDeclared probes _ _ =>
      { l with topology := probes }
  | .localProbeResult name mode status _ _ _ _ | .remoteProbeResult name mode status _ _ _ _ =>
      { l with results := l.results.insert name (mode, status) }
  | _ => l

/-- The ledger of the accepted events, oldest first. -/
def ledgerOf (history : List AcceptedEvent) : ProbeLedger :=
  history.foldl (fun l a => l.record a.event) .empty

/-- Every declared enforce probe has reported, and passed last. -/
def ProbeLedger.FailClosed (l : ProbeLedger) : Prop :=
  ∀ entry ∈ l.topology, entry.mode = .enforce →
    ∃ mode, l.results.lookup entry.probeName = some (mode, .pass)

/-- Every declared enforce probe has reported, and did not last fail under another mode. -/
def ProbeLedger.Reported (l : ProbeLedger) : Prop :=
  ∀ entry ∈ l.topology, entry.mode = .enforce →
    ∃ mode status, l.results.lookup entry.probeName = some (mode, status) ∧
      (status = .fail → mode = .enforce)

/-! ## The probes of a record -/

/-- What an event makes of the probes. -/
def Event.probesAfter (e : Event) (probes : Table String ProbeRecord) :
    Table String ProbeRecord :=
  match e with
  | .localActivationCompleted .. | .remoteActivationCompleted .. => ∅
  | .localProbeResult name mode status observedAt reason _ _
  | .remoteProbeResult name mode status observedAt reason _ _ =>
      updateProbe probes name mode status observedAt reason
  | _ => probes

theorem hostStep_probes {s next : HostRolloutState} {e : Event} {p : RolloutPolicy}
    {effects : List Effect} (h : hostStep s e p = .ok (next, effects)) :
    next.probes = e.probesAfter s.probes := by
  unfold hostStep at h
  split at h
  · cases h
  · cases e with
    | localConvergedReached t c n | remoteConverged t c n =>
        cases hs : s.state <;>
          simp only [hs, pendingHandle, activatingHandle, deferredHandle, soakingHandle,
            failedHandle, reduceCtorEq, Except.bind_eq_ok, Except.ok.injEq, Prod.mk.injEq] at h
        obtain ⟨_, -, rfl, -⟩ := h
        rfl
    | _ =>
        cases hs : s.state <;>
          simp only [hs, pendingHandle, activatingHandle, deferredHandle, soakingHandle,
            failedHandle, reduceCtorEq, Except.ok.injEq, Prod.mk.injEq] at h
        all_goals
          obtain ⟨rfl, -⟩ := h
          rfl

/-- The mode and the status of a probe record. -/
def ProbeRecord.result (p : ProbeRecord) : ProbeMode × ProbeStatus := (p.mode, p.status)

theorem lookup_updateProbe (probes : Table String ProbeRecord) (name n : String)
    (mode : ProbeMode) (status : ProbeStatus) (observedAt : Time) (reason : Option String) :
    ((updateProbe probes name mode status observedAt reason).lookup n).map ProbeRecord.result =
      if n = name then some (mode, status) else (probes.lookup n).map ProbeRecord.result := by
  unfold updateProbe
  rw [Table.lookup_insert_eq]
  by_cases hn : n = name
  · rw [if_pos hn, if_pos hn]
    rfl
  · rw [if_neg hn, if_neg hn]

/-- The record holds the results of the ledger. -/
def Agrees (s : HostRolloutState) (l : ProbeLedger) : Prop :=
  ∀ name, (s.probes.lookup name).map ProbeRecord.result = l.results.lookup name

theorem agrees_record {s next : HostRolloutState} {l : ProbeLedger} {e : Event}
    {p : RolloutPolicy} {effects : List Effect} (hl : Agrees s l)
    (h : hostStep s e p = .ok (next, effects)) : Agrees next (l.record e) := by
  intro name
  rw [hostStep_probes h]
  cases e with
  | localActivationCompleted | remoteActivationCompleted => rfl
  | localProbeResult n mode status | remoteProbeResult n mode status =>
      simp only [Event.probesAfter, ProbeLedger.record]
      rw [lookup_updateProbe, Table.lookup_insert_eq, hl name]
  | _ => exact hl name

section Runs

variable (rid : RolloutId) (host : HostId) (channel : ChannelId) (target : ClosureHash)
  (dispatchedAt soakDueAt : Time)

theorem run_agrees (is : List HostInput) :
    Agrees (hostMachine.run (.newPending rid host channel target dispatchedAt soakDueAt) is)
      (ledgerOf (hostMachine.trace
        (.newPending rid host channel target dispatchedAt soakDueAt) is)) := by
  refine hostMachine.monitor_invariant (R := Agrees) ?_ (fun name => rfl)
    (hostMachine.meets_of_forall (P := fun _ => True) (fun _ _ => trivial) _)
  intro s i l hl _
  show Agrees (hostRunStep s i).1 ((hostRunStep s i).2.foldl _ l)
  cases h : hostStep s i.event i.policy with
  | error err =>
      rw [hostRunStep_of_error h]
      exact hl
  | ok out =>
      rw [hostRunStep_of_ok h]
      exact agrees_record hl h

/-- **When the soak gate is fail-closed.** A convergence that is accepted at any point of a run
finds every declared enforce probe passing iff each has reported since the activation
completed, and its latest report is no failure under another mode. -/
theorem run_failClosed_iff (is : List HostInput) {i : HostInput} {next : HostRolloutState}
    {effects : List Effect}
    (h : hostStep (hostMachine.run
      (.newPending rid host channel target dispatchedAt soakDueAt) is) i.event i.policy =
        .ok (next, effects))
    (hc : next.state = .converged) :
    let ledger := ledgerOf (hostMachine.trace
      (.newPending rid host channel target dispatchedAt soakDueAt) is)
    ledger.FailClosed ↔ ledger.Reported := by
  intro ledger
  have hagrees : Agrees _ ledger := run_agrees rid host channel target dispatchedAt soakDueAt is
  -- the check has read the results of the ledger
  have hpass : ∀ name status, ledger.results.lookup name = some (.enforce, status) →
      status = .pass := by
    intro name status hlook
    have hprobes := hostStep_probes h
    -- a convergence leaves the probe records as they were
    obtain ⟨-, t, c, n, he, -⟩ := (hostStep_spec h).due hc
    have hsame : i.event.probesAfter (hostMachine.run
        (.newPending rid host channel target dispatchedAt soakDueAt) is).probes =
          (hostMachine.run (.newPending rid host channel target dispatchedAt soakDueAt)
            is).probes := by
      rcases he with he | he <;> rw [he] <;> rfl
    rw [← hagrees name, ← hsame, ← hprobes] at hlook
    obtain ⟨record, hrecord, hresult⟩ := Option.map_eq_some_iff.mp hlook
    simp only [ProbeRecord.result, Prod.mk.injEq] at hresult
    obtain ⟨hmode, rfl⟩ := hresult
    exact (hostStep_converged h hc).passing name record hrecord hmode
  constructor
  · intro hclosed entry hentry henforce
    obtain ⟨mode, hlook⟩ := hclosed entry hentry henforce
    exact ⟨mode, .pass, hlook, nofun⟩
  · intro hreported entry hentry henforce
    obtain ⟨mode, status, hlook, hmode⟩ := hreported entry hentry henforce
    cases status with
    | pass => exact ⟨mode, hlook⟩
    | fail =>
        -- a failure under enforce would have been refused
        rw [hmode rfl] at hlook
        exact absurd (hpass _ _ hlook) (by decide)

end Runs

/-- An activation that declares an enforce probe, which does not report before the deadline. -/
def silentProbeEvents : List Event :=
  [.localActivate "old" "new" 1 5 1, .localActivationCompleted "new" 0 2 2,
   .localProbeTopologyDeclared [⟨"http", "http", .enforce⟩] 2 3]

/-- The convergence of the agent at the deadline. -/
def deadlineInput (seq : Nat) : HostInput := ⟨.localConvergedReached 5 "new" seq, plainPolicy .halt⟩

/-- Convergence is accepted although the declared probe has never reported. -/
theorem silentProbe_not_failClosed :
    let inputs := underPolicy (plainPolicy .halt) silentProbeEvents
    let i := deadlineInput 4
    (∃ next effects, hostStep (hostMachine.run freshRecord inputs) i.event i.policy =
        .ok (next, effects) ∧ next.state = .converged) ∧
      ¬ (ledgerOf (hostMachine.trace freshRecord inputs)).FailClosed := by
  intro inputs i
  refine ⟨⟨_, _, rfl, rfl⟩, ?_⟩
  intro hclosed
  have hdeclared : (ledgerOf (hostMachine.trace freshRecord inputs)).topology =
      [⟨"http", "http", .enforce⟩] := rfl
  obtain ⟨mode, hlook⟩ := hclosed _ (hdeclared ▸ List.mem_singleton_self _) rfl
  cases hlook

/-- The same activation, with a report that passes. -/
theorem passingProbe_failClosed_iff :
    let inputs := underPolicy (plainPolicy .halt)
      (silentProbeEvents ++ [.localProbeResult "http" .enforce .pass 3 none none 4])
    let ledger := ledgerOf (hostMachine.trace freshRecord inputs)
    ledger.FailClosed ↔ ledger.Reported := by
  intro inputs
  exact run_failClosed_iff (.new "stable" "r1") "host" "stable" "new" 0 5 inputs
    (i := deadlineInput 5) rfl rfl

end Nixfleet
